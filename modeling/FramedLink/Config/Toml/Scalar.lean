import FramedLink.Quote

namespace FramedLink.Config.Toml

def isDigit (c : Char) : Bool := '0' ≤ c && c ≤ '9'

def isHex (c : Char) : Bool := isDigit c || ('a' ≤ c && c ≤ 'f') || ('A' ≤ c && c ≤ 'F')

/-- What a number-like token turned out to be. -/
inductive NumberKind where
  | integer
  | float
  | datetime
deriving DecidableEq, Repr

def isFloatChar (c : Char) : Bool :=
  isDigit c || c = '_' || c = '.' || c = '-' || c = '+' || c = 'e' || c = 'E'

def isDateChar (c : Char) : Bool :=
  isDigit c || c = '-' || c = ':' || c = 'T' || c = 't' || c = ' ' || c = '.' || c = 'Z' ||
    c = 'z' || c = '+'

abbrev Cut := NumberKind × List Char × List Char

def cutFloat (tok rest : List Char) : Cut :=
  (.float, tok ++ rest.takeWhile isFloatChar, rest.dropWhile isFloatChar)

/-- The rest of a decimal token with underscores: an integer, or a float at a dot or
exponent. -/
def cutDecimal (tok rest : List Char) : Cut :=
  let p := fun c => isDigit c || c = '_'
  let tok := tok ++ rest.takeWhile p
  match rest.dropWhile p with
  | c :: more => if c = '.' || c = 'e' || c = 'E' then cutFloat (tok ++ [c]) more else (.integer, tok, c :: more)
  | [] => (.integer, tok, [])

/-- The rest of a token that began with a nonzero digit: digits, then a date-time at `-` or
`:`, a decimal at `_`, a float at a dot or exponent, or else an integer. -/
def cutNumberOrDate (tok rest : List Char) : Cut :=
  let tok := tok ++ rest.takeWhile isDigit
  match rest.dropWhile isDigit with
  | c :: more =>
    if c = '-' || c = ':' then
      (.datetime, tok ++ c :: more.takeWhile isDateChar, more.dropWhile isDateChar)
    else if c = '_' then cutDecimal (tok ++ [c]) more
    else if c = '.' || c = 'e' || c = 'E' then cutFloat (tok ++ [c]) more
    else (.integer, tok, c :: more)
  | [] => (.integer, tok, [])

def cutBase (p : Char → Bool) (tok rest : List Char) : Cut :=
  let q := fun c => p c || c = '_'
  (.integer, tok ++ rest.takeWhile q, rest.dropWhile q)

/-- How a character after a base prefix is shown when it is not a digit of that base; the end
of the text shows as a NUL character. -/
def shownChar : Option Char → String
  | some c => String.singleton c
  | none => "\x00"

/-- Cuts a number-like token that begins with the digit `d`; a base prefix not followed by
a digit of its base is refused. -/
def cutNumber (d : Char) (rest : List Char) : Except String Cut :=
  if d ≠ '0' then .ok (cutNumberOrDate [d] rest)
  else
    match rest with
    | c :: more =>
      if isDigit c then .ok (cutNumberOrDate ['0', c] more)
      else if c = '_' then .ok (cutDecimal ['0', c] more)
      else if c = '.' || c = 'e' || c = 'E' then .ok (cutFloat ['0', c] more)
      else if c = 'b' then
        if more.head?.any fun x => x = '0' || x = '1' then .ok (cutBase (fun x => x = '0' || x = '1') ['0', c] more)
        else .error ("not a binary number: '0b" ++ shownChar more.head? ++ "'")
      else if c = 'o' then
        if more.head?.any fun x => '0' ≤ x && x ≤ '7' then .ok (cutBase (fun x => '0' ≤ x && x ≤ '7') ['0', c] more)
        else .error ("not an octal number: '0o" ++ shownChar more.head? ++ "'")
      else if c = 'x' then
        if more.head?.any isHex then .ok (cutBase isHex ['0', c] more)
        else .error ("not a hexadecimal number: '0x" ++ shownChar more.head? ++ "'")
      else .ok (.integer, ['0'], rest)
    | [] => .ok (.integer, ['0'], [])

/-- Whether every underscore stands right after a hex digit and the token ends in one (the
words `inf` and `nan` pass as they are). -/
def underscoresOkFrom (accept : Bool) : List Char → Bool
  | [] => accept
  | c :: cs => (c ≠ '_' || accept) && underscoresOkFrom (isHex c) cs

def underscoresOk (s : String) : Bool :=
  ["nan", "+nan", "-nan", "inf", "-inf", "+inf"].contains s || underscoresOkFrom false s.toList

def hasLeadingZero (s : List Char) : Bool :=
  match s with
  | '0' :: c :: _ => !(c = 'b' || c = 'o' || c = 'x')
  | sgn :: '0' :: _ :: _ => sgn = '-' || sgn = '+'
  | _ => false

def periodsOkFrom (period : Bool) : List Char → Bool
  | [] => !period
  | c :: cs => (!period || isDigit c) && periodsOkFrom (c = '.') cs

def digitValue (c : Char) : Nat :=
  if isDigit c then c.toNat - '0'.toNat
  else if 'a' ≤ c && c ≤ 'f' then c.toNat - 'a'.toNat + 10
  else if 'A' ≤ c && c ≤ 'F' then c.toNat - 'A'.toNat + 10
  else 16

def digitsValue? (base : Nat) (ds : List Char) : Option Nat :=
  if ds.isEmpty || ds.any (fun c => digitValue c ≥ base) then none
  else some (ds.foldl (fun n c => n * base + digitValue c) 0)

def magnitude? (s : List Char) : Option Nat :=
  let s := s.filter (· ≠ '_')
  match s with
  | '0' :: 'x' :: ds => digitsValue? 16 ds
  | '0' :: 'o' :: ds => digitsValue? 8 ds
  | '0' :: 'b' :: ds => digitsValue? 2 ds
  | ds => digitsValue? 10 ds

def quoted (s : String) : String := Quote.escapedQuoted s

def integerValue (tok : String) : Except String Int :=
  if !underscoresOk tok then
    .error ("Invalid integer " ++ quoted tok ++ ": underscores must be surrounded by digits")
  else if hasLeadingZero tok.toList then
    .error ("Invalid integer " ++ quoted tok ++ ": cannot have leading zeroes")
  else
    let (neg, body) := match tok.toList with
      | '-' :: cs => (true, cs)
      | '+' :: cs => (false, cs)
      | cs => (false, cs)
    match magnitude? body with
    | none => .error ("Expected integer value, but got '" ++ tok ++ "'.")
    | some m =>
      let v : Int := if neg then -(m : Int) else m
      if v < -9223372036854775808 || v ≥ 9223372036854775808 then .error (tok ++ " is out of range for int64")
      else .ok v

def fields (sep : Char → Bool) (s : List Char) : List (List Char) :=
  (s.splitBy fun a b => !sep a && !sep b).filter fun p => !p.isEmpty && !p.all sep

def spanDigits (s : List Char) : List Char × List Char := (s.takeWhile isDigit, s.dropWhile isDigit)

/-- The parts of a decimal float: mantissa digits, digits after the dot, and the exponent;
none when the text is not one. -/
def decimalParts? (s : List Char) : Option (List Char × List Char × Int) :=
  let (whole, rest) := spanDigits s
  if whole.isEmpty then none
  else
    let (frac, rest) := match rest with
      | '.' :: r => spanDigits r
      | r => ([], r)
    match rest with
    | [] => some (whole, frac, 0)
    | e :: r =>
      if e = 'e' || e = 'E' then
        let (neg, r) := match r with
          | '-' :: r => (true, r)
          | '+' :: r => (false, r)
          | r => (false, r)
        let (ds, tail) := spanDigits r
        if ds.isEmpty || !tail.isEmpty then none
        else
          let n : Int := (ds.foldl (fun n c => n * 10 + digitValue c) 0 : Nat)
          some (whole, frac, if neg then -n else n)
      else none

def overflows (m : Nat) (e : Int) : Bool :=
  let limit : Nat := Nat.pow 2 1024 - Nat.pow 2 970
  if m = 0 then false
  else
    let digits : Int := (toString m).length
    if digits - 1 + e ≥ 309 then true
    else if digits + e ≤ 308 then false
    else if e ≥ 0 then m * Nat.pow 10 e.toNat ≥ limit
    else m ≥ limit * Nat.pow 10 (-e).toNat

def floatCheck (tok : String) : Except String Unit :=
  let cs := tok.toList
  let parts := fields (fun c => c = '.' || c = 'e' || c = 'E') cs
  if parts.any fun p => !underscoresOk (String.ofList p) then
    .error ("Invalid float " ++ quoted tok ++ ": underscores must be surrounded by digits")
  else if parts.head?.any hasLeadingZero then
    .error ("Invalid float " ++ quoted tok ++ ": cannot have leading zeroes")
  else if !periodsOkFrom false cs then
    .error ("Invalid float " ++ quoted tok ++ ": '.' must be followed by one or more digits")
  else
    let v := cs.filter (· ≠ '_')
    let body := match v with
      | '-' :: r => r
      | '+' :: r => r
      | r => r
    if body = ['i', 'n', 'f'] || body = ['n', 'a', 'n'] then .ok ()
    else
      match decimalParts? body with
      | none => .error ("Invalid float value: " ++ quoted tok)
      | some (whole, frac, e) =>
        let m := (whole ++ frac).foldl (fun n c => n * 10 + digitValue c) 0
        if overflows m (e - frac.length) then .error (tok ++ " is out of range for float64")
        else .ok ()

def twoDigits? : List Char → Option (Nat × List Char)
  | a :: b :: rest => if isDigit a && isDigit b then some (digitValue a * 10 + digitValue b, rest) else none
  | _ => none

def isLeap (y : Nat) : Bool := y % 4 = 0 && (y % 100 ≠ 0 || y % 400 = 0)

def daysIn (month year : Nat) : Nat :=
  if month = 2 then (if isLeap year then 29 else 28)
  else if month = 4 || month = 6 || month = 9 || month = 11 then 30
  else 31

def date? (s : List Char) : Option (List Char) :=
  match s with
  | y1 :: y2 :: y3 :: y4 :: '-' :: rest =>
    if [y1, y2, y3, y4].all isDigit then
      let year := [y1, y2, y3, y4].foldl (fun n c => n * 10 + digitValue c) 0
      match twoDigits? rest with
      | some (month, '-' :: rest) =>
        match twoDigits? rest with
        | some (day, rest) =>
          if 1 ≤ month && month ≤ 12 && 1 ≤ day && day ≤ daysIn month year then some rest else none
        | none => none
      | _ => none
    else none
  | _ => none

def time? (s : List Char) : Option (List Char) :=
  match twoDigits? s with
  | some (h, ':' :: rest) =>
    match twoDigits? rest with
    | some (m, ':' :: rest) =>
      match twoDigits? rest with
      | some (sec, rest) =>
        if h < 24 && m < 60 && sec < 60 then
          match rest with
          | '.' :: d :: more => if isDigit d then some (more.dropWhile isDigit) else some rest
          | _ => some rest
        else none
      | none => none
    | _ => none
  | _ => none

def hourMinute? (s : List Char) : Option (List Char) :=
  match twoDigits? s with
  | some (h, ':' :: rest) =>
    match twoDigits? rest with
    | some (m, rest) => if h < 24 && m < 60 then some rest else none
    | none => none
  | _ => none

def offsetOk : List Char → Bool
  | ['Z'] => true
  | sgn :: rest =>
    (sgn = '+' || sgn = '-') &&
      match twoDigits? rest with
      | some (h, ':' :: rest) =>
        match twoDigits? rest with
        | some (m, []) => h ≤ 24 && m ≤ 60
        | _ => false
      | _ => false
  | [] => false

/-- The date-time forms TOML allows: offset or local date-time, local date, local time; the
seconds of a time may be left out, and then it has no fraction. A space or lowercase `t` may
stand for the `T`, and a lowercase `z` for `Z`. -/
def datetimeText (tok : String) : String :=
  String.ofList (tok.toList.map fun c => if c = ' ' || c = 't' then 'T' else if c = 'z' then 'Z' else c)

def datetimeOk (s : List Char) : Bool :=
  let zoned := fun (after : Option (List Char)) =>
    match after with
    | some [] => true
    | some zone => offsetOk zone
    | none => false
  match date? s with
  | some [] => true
  | some ('T' :: rest) => zoned (time? rest) || zoned (hourMinute? rest)
  | some _ => false
  | none => time? s == some [] || hourMinute? s == some []

def isScalar (n : Nat) : Bool := n < 0xD800 || (0xDFFF < n && n < 0x110000)

def isSpaceOrBreak (c : Char) : Bool := c = ' ' || c = '\t' || c = '\r' || c = '\n'

theorem length_dropWhile_le (p : Char → Bool) (l : List Char) : (l.dropWhile p).length ≤ l.length :=
  (List.dropWhile_suffix p).length_le

def hexScalar (ds : List Char) : Nat × Bool :=
  let v := ds.foldl (fun a c => a * 16 + digitValue c) 0
  (v, isScalar v)

/-- Decodes the escapes of a basic string; a `\u` or `\U` escape that names no character is
refused with its digits. A `\x` escape names the character of its two hex digits, always a
valid one. A backslash before a space or tab is refused: only a backslash that ends a line
(removed before decoding) may stand before whitespace. -/
def unescape : List Char → Except String (List Char)
  | [] => .ok []
  | '\\' :: c :: rest =>
    if c = 'u' || c = 'U' then
      let n := if c = 'u' then 4 else 8
      let (v, ok) := hexScalar (rest.take n)
      if ok then do
        let r ← unescape (rest.drop n)
        pure (Char.ofNat v :: r)
      else .error ("Escaped character '\\u" ++ String.ofList (rest.take n) ++ "' is not valid UTF-8.")
    else if c = 'x' then do
      let r ← unescape (rest.drop 2)
      pure (Char.ofNat ((rest.take 2).foldl (fun n d => n * 16 + digitValue d) 0) :: r)
    else if c = ' ' || c = '\t' then .error ("invalid escape: '\\" ++ String.singleton c ++ "'")
    else do
      let r ← unescape rest
      let x := match c with
        | 'b' => '\x08'
        | 't' => '\t'
        | 'n' => '\n'
        | 'f' => '\x0c'
        | 'r' => '\r'
        | 'e' => '\x1b'
        | c => c
      pure (x :: r)
  | c :: rest => do
    let r ← unescape rest
    pure (c :: r)
termination_by s => s.length
decreasing_by
  all_goals simp_wf
  all_goals omega

end FramedLink.Config.Toml
