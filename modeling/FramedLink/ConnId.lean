import FramedLink.Bytes

namespace FramedLink

/-- A connection id: sixteen bytes. -/
structure ConnId where
  bytes : Bytes
deriving DecidableEq, Repr

namespace ConnId

/-- The id made of zero bytes, which names no connection. -/
def nil : ConnId := ⟨List.replicate 16 0⟩

/-- The lowercase hex digit of a number below 16. -/
def hexDigit (n : Nat) : Char :=
  if n < 10 then Char.ofNat (48 + n) else Char.ofNat (87 + n)

/-- The value of a hex digit of either case. -/
def digitValue? (c : Char) : Option Nat :=
  if '0' ≤ c && c ≤ '9' then some (c.toNat - 48)
  else if 'a' ≤ c && c ≤ 'f' then some (c.toNat - 87)
  else if 'A' ≤ c && c ≤ 'F' then some (c.toNat - 55)
  else none

/-- Two hex digits per byte. -/
def hexOf (bs : Bytes) : List Char :=
  bs.flatMap fun b => [hexDigit (b.toNat / 16), hexDigit (b.toNat % 16)]

/-- The bytes that pairs of hex digits spell. -/
def bytesOfHex? : List Char → Option Bytes
  | [] => some []
  | hi :: lo :: rest => do
    let h ← digitValue? hi
    let l ← digitValue? lo
    let tail ← bytesOfHex? rest
    pure ((h * 16 + l).toUInt8 :: tail)
  | [_] => none

/-- The written form: 8-4-4-4-12 lowercase hex digits. -/
def text (u : ConnId) : String :=
  let h := hexOf u.bytes
  String.ofList (h.take 8 ++ '-' :: (h.drop 8).take 4 ++ '-' :: (h.drop 12).take 4 ++ '-' ::
    (h.drop 16).take 4 ++ '-' :: h.drop 20)

/-- Reads 32 digits, or the grouped form with dashes after digits 8, 12, 16 and 20. -/
def plain? (cs : List Char) : Option ConnId :=
  if cs.length = 32 then (bytesOfHex? cs).map ConnId.mk
  else if cs.length = 36 then
    if cs[8]? = some '-' && cs[13]? = some '-' && cs[18]? = some '-' && cs[23]? = some '-' then
      (bytesOfHex? (cs.take 8 ++ (cs.drop 9).take 4 ++ (cs.drop 14).take 4 ++
        (cs.drop 19).take 4 ++ cs.drop 24)).map ConnId.mk
    else none
  else none

/-- Reads a connection id in any of its accepted forms. -/
def parse? (s : String) : Option ConnId :=
  let cs := s.toList
  if cs.length = 32 || cs.length = 36 then plain? cs
  else if cs.length = 38 then
    if cs.head? = some '{' && cs.getLast? = some '}' then plain? ((cs.drop 1).take 36) else none
  else if cs.length = 41 || cs.length = 45 then
    if cs.take 9 = "urn:uuid:".toList then plain? (cs.drop 9) else none
  else none

/-- Byte order on ids. -/
def le (a b : ConnId) : Bool := decide (a.text ≤ b.text)

end ConnId
end FramedLink
