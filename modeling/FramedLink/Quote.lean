import FramedLink.Bytes
import FramedLink.Text.Graphic

namespace FramedLink.Quote

/-- The lowercase hex digit of a number below 16. -/
def hexDigit (n : Nat) : Char :=
  if n < 10 then Char.ofNat (48 + n) else Char.ofNat (87 + n)

/-- `n` as exactly `w` lowercase hex digits. -/
def hexWidth (w n : Nat) : List Char :=
  (List.range w).reverse.map fun i => hexDigit (n / Nat.pow 16 i % 16)

/-- `\xHH` for one byte. -/
def byteEscape (b : UInt8) : List Char := ['\\', 'x'] ++ hexWidth 2 b.toNat

/-- Quotes bytes (not necessarily UTF-8), writing every byte outside printable ASCII as
`\xHH`: the bytes of a character beyond ASCII are escaped one by one. -/
def bytesQuoted (bs : Bytes) : String :=
  let body := bs.flatMap fun b =>
    if b ≥ 0x80 || b < 0x20 then byteEscape b
    else if b = 34 || b = 92 then ['\\', Char.ofNat b.toNat]
    else [Char.ofNat b.toNat]
  String.ofList ('"' :: body ++ ['"'])

/-- Quotes a text with every byte of a character outside printable ASCII written as `\xHH`. -/
def hexQuoted (s : String) : String := bytesQuoted s.toUTF8.toList

/-- One character as it appears inside `escapedQuoted`. -/
def escapeChar (c : Char) : List Char :=
  let n := c.toNat
  if c = '"' || c = '\\' then ['\\', c]
  else if 0x20 ≤ n && n < 0x7F then [c]
  else if n == 7 then ['\\', 'a']
  else if n == 8 then ['\\', 'b']
  else if n == 12 then ['\\', 'f']
  else if n == 10 then ['\\', 'n']
  else if n == 13 then ['\\', 'r']
  else if n == 9 then ['\\', 't']
  else if n == 11 then ['\\', 'v']
  else if n < 0x80 then ['\\', 'x'] ++ hexWidth 2 n
  else if Text.isGraphic c then [c]
  else if n < 0x10000 then ['\\', 'u'] ++ hexWidth 4 n
  else ['\\', 'U'] ++ hexWidth 8 n

/-- Quotes with control and non-printing characters escaped. -/
def escapedQuoted (s : String) : String :=
  String.ofList ('"' :: s.toList.flatMap escapeChar ++ ['"'])

/-- One character between single quotes, escaped like `escapedQuoted` except that the single
quote is escaped and the double quote is not. -/
def charQuoted (c : Char) : String :=
  let body := if c = '\'' then ['\\', '\''] else if c = '"' then ['"'] else escapeChar c
  String.ofList ('\'' :: body ++ ['\''])

end FramedLink.Quote
