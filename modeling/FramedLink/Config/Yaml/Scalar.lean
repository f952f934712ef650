import FramedLink.Binary64

namespace FramedLink.Config.Yaml

/-- What a scalar resolves to. -/
inductive Scalar where
  | null
  | bool (b : Bool)
  | int (n : Int)
  | uint (n : Nat)
  | float (f : Binary64)
  | str
  | timestamp
  | merge
deriving DecidableEq, Repr

def standardPrefix : String := "tag:yaml.org,2002:"

def shortTag (tag : String) : String :=
  if tag.startsWith standardPrefix then "!!" ++ (tag.drop standardPrefix.length).toString else tag

def digitsIn (base : Nat) (ds : List Char) : Option Nat :=
  let value := fun (c : Char) =>
    if c.isDigit then c.toNat - 48
    else if 'a' ≤ c && c ≤ 'z' then c.toNat - 87
    else if 'A' ≤ c && c ≤ 'Z' then c.toNat - 55
    else 99
  if ds.any (fun c => value c ≥ base) then none
  else some (ds.foldl (fun n c => n * base + value c) 0)

def unsignedValue? (s : List Char) : Option Nat :=
  match s with
  | [] => none
  | '0' :: b :: rest@(_ :: _) =>
    if b = 'b' || b = 'B' then digitsIn 2 rest
    else if b = 'o' || b = 'O' then digitsIn 8 rest
    else if b = 'x' || b = 'X' then digitsIn 16 rest
    else digitsIn 8 (b :: rest)
  | '0' :: rest => digitsIn 8 rest
  | ds => digitsIn 10 ds

def signedValue? (s : List Char) : Option Int :=
  let (neg, body) := match s with
    | '-' :: r => (true, r)
    | '+' :: r => (false, r)
    | r => (false, r)
  match unsignedValue? body with
  | some n =>
    if neg then (if n ≤ Nat.pow 2 63 then some (-(n : Int)) else none)
    else if n < Nat.pow 2 63 then some n else none
  | none => none

def unsigned64? (s : List Char) : Option Nat :=
  match unsignedValue? s with
  | some n => if n < Nat.pow 2 64 then some n else none
  | none => none

def digitRun (s : List Char) : List Char × List Char :=
  (s.takeWhile Char.isDigit, s.dropWhile Char.isDigit)

def decimalValue (ds : List Char) : Nat := ds.foldl (fun n c => n * 10 + (c.toNat - 48)) 0

/-- A decimal float `[sign] (digits [. digits*] | . digits) [e [sign] digits]`, as its sign,
its digits' value and the power of ten they are scaled by. -/
def decimalFloat? (s : List Char) : Option (Bool × Nat × Int) :=
  let (neg, body) := match s with
    | '-' :: r => (true, r)
    | '+' :: r => (false, r)
    | r => (false, r)
  let (whole, rest) := digitRun body
  let (frac, rest, dotted) := match rest with
    | '.' :: r => let (f, r) := digitRun r; (f, r, true)
    | r => ([], r, false)
  if whole.isEmpty && (frac.isEmpty || !dotted) then none
  else
    let expo : Option Int := match rest with
      | [] => some 0
      | e :: r =>
        if e = 'e' || e = 'E' then
          let (eneg, r) := match r with
            | '-' :: t => (true, t)
            | '+' :: t => (false, t)
            | t => (false, t)
          let (ds, tail) := digitRun r
          if ds.isEmpty || !tail.isEmpty then none
          else some (if eneg then -(decimalValue ds : Int) else decimalValue ds)
        else none
    expo.map fun x => (neg, decimalValue (whole ++ frac), x - frac.length)

def floatValue? (s : List Char) : Option Binary64 :=
  match decimalFloat? s with
  | some (neg, m, e) =>
    match Binary64.ofDecimal neg m e with
    | .inf _ => none
    | f => some f
  | none => none

/-- Whether the text is a float the way YAML writes one:
`[-+]? (\.[0-9]+ | [0-9]+ (\.[0-9]*)?) ([eE][-+]?[0-9]+)?`. -/
def yamlFloatForm (s : List Char) : Bool := (decimalFloat? s).isSome

def someDigits (lo hi : Nat) (s : List Char) : Option (Nat × List Char) :=
  let ds := (s.takeWhile Char.isDigit).take hi
  if ds.length < lo then none else some (decimalValue ds, s.drop ds.length)

def leapYear (y : Nat) : Bool := y % 4 = 0 && (y % 100 ≠ 0 || y % 400 = 0)

def monthDays (month year : Nat) : Nat :=
  if month = 2 then (if leapYear year then 29 else 28)
  else if month = 4 || month = 6 || month = 9 || month = 11 then 30
  else 31

def datePart? (s : List Char) : Option (List Char) := do
  let (y, r) ← someDigits 4 4 s
  let r ← match r with | '-' :: r => some r | _ => none
  let (m, r) ← someDigits 1 2 r
  let r ← match r with | '-' :: r => some r | _ => none
  let (d, r) ← someDigits 1 2 r
  if 1 ≤ m && m ≤ 12 && 1 ≤ d && d ≤ monthDays m y then some r else none

/-- A time `H:M:S` (one or two digits each) with an optional fraction after a point or a
comma, at the front. -/
def timePart? (s : List Char) : Option (List Char) := do
  let (h, r) ← someDigits 1 2 s
  let r ← match r with | ':' :: r => some r | _ => none
  let (m, r) ← someDigits 1 2 r
  let r ← match r with | ':' :: r => some r | _ => none
  let (sec, r) ← someDigits 1 2 r
  if h < 24 && m < 60 && sec < 60 then
    match r with
    | p :: d :: more => if (p = '.' || p = ',') && d.isDigit then some (more.dropWhile Char.isDigit) else some r
    | _ => some r
  else none

def zoneOk : List Char → Bool
  | ['Z'] => true
  | sgn :: a :: b :: ':' :: c :: d :: [] =>
    (sgn = '+' || sgn = '-') && [a, b, c, d].all Char.isDigit &&
      decimalValue [a, b] ≤ 24 && decimalValue [c, d] ≤ 60
  | _ => false

/-- Whether a text is a timestamp: a date, a date and time with a zone after `T` or `t`, or a
date and time without a zone after one or more spaces. -/
def isTimestamp (s : List Char) : Bool :=
  let year := s.takeWhile Char.isDigit
  if year.length ≠ 4 || (s.drop 4).head? ≠ some (Char.ofNat 45) then false
  else
    match datePart? s with
    | some [] => true
    | some (sep :: rest) =>
      if sep = 'T' || sep = 't' then
        match timePart? rest with
        | some zone => zoneOk zone
        | none => false
      else if sep = ' ' then timePart? (rest.dropWhile (· = ' ')) = some []
      else false
    | none => false

/-- The kind a character at the front of a scalar hints at: a sign, a digit, a word that may
be null or boolean, or a dot. -/
def hint (c : Char) : Option Char :=
  if c = '+' || c = '-' then some 'S'
  else if c.isDigit then some 'D'
  else if "yYnNtTfFoO~".contains c then some 'M'
  else if c = '.' then some '.'
  else none

def named (s : String) : Option (String × Scalar) :=
  if s = "true" || s = "True" || s = "TRUE" then some ("!!bool", .bool true)
  else if s = "false" || s = "False" || s = "FALSE" then some ("!!bool", .bool false)
  else if s = "" || s = "~" || s = "null" || s = "Null" || s = "NULL" then some ("!!null", .null)
  else if s = ".nan" || s = ".NaN" || s = ".NAN" then some ("!!float", .float .nan)
  else if s = ".inf" || s = ".Inf" || s = ".INF" || s = "+.inf" || s = "+.Inf" || s = "+.INF" then
    some ("!!float", .float (.inf false))
  else if s = "-.inf" || s = "-.Inf" || s = "-.INF" then some ("!!float", .float (.inf true))
  else if s = "<<" then some ("!!merge", .merge)
  else none

/-- Whether the underscores of a number stand only between digits, or between a base prefix
and a digit (after an optional sign). -/
def underscoresOk (s : List Char) : Bool :=
  let s := match s with
    | c :: r => if c = '-' || c = '+' then r else s
    | [] => []
  let (hex, s, saw) := match s with
    | '0' :: b :: r =>
      let b := b.toLower
      if b = 'b' || b = 'o' || b = 'x' then (b == 'x', r, '0') else (false, s, '^')
    | _ => (false, s, '^')
  let step := fun (saw : Option Char) (c : Char) =>
    match saw with
    | none => none
    | some saw =>
      if c.isDigit || (hex && 'a' ≤ c.toLower && c.toLower ≤ 'f') then some '0'
      else if c = '_' then (if saw = '0' then some '_' else none)
      else if saw = '_' then none
      else some '!'
  match s.foldl step (some saw) with
  | some last => last ≠ '_'
  | none => false

/-- A float written in decimal, read the way a general number reader does: underscores may
separate digits. -/
def decimalText? (s : List Char) : Option Binary64 :=
  if s.contains '_' && !underscoresOk s then none else floatValue? (s.filter (· ≠ '_'))

def numberLike (tag : String) (s : String) : Option (String × Scalar) :=
  if (tag = "" || tag = "!!timestamp") && isTimestamp s.toList then some ("!!timestamp", .timestamp)
  else
    let plain := s.toList.filter (· ≠ '_')
    match signedValue? plain with
    | some n => some ("!!int", .int n)
    | none =>
      match unsigned64? plain with
      | some n => if n ≥ Nat.pow 2 63 then some ("!!int", .uint n) else some ("!!int", .int n)
      | none =>
        match (if yamlFloatForm plain then floatValue? plain else none) with
        | some f => some ("!!float", .float f)
        | none =>
          let binary := match plain with
            | '0' :: 'b' :: ds => (digitsIn 2 ds).bind fun n =>
                if ds.isEmpty then none else if n < Nat.pow 2 63 then some (Scalar.int n) else if n < Nat.pow 2 64 then some (.uint n) else none
            | '-' :: '0' :: 'b' :: ds => (digitsIn 2 ds).bind fun n =>
                if ds.isEmpty || n > Nat.pow 2 63 then none else some (Scalar.int (-(n : Int)))
            | '0' :: 'o' :: ds => (digitsIn 8 ds).bind fun n =>
                if ds.isEmpty then none else if n < Nat.pow 2 63 then some (Scalar.int n) else if n < Nat.pow 2 64 then some (.uint n) else none
            | '-' :: '0' :: 'o' :: ds => (digitsIn 8 ds).bind fun n =>
                if ds.isEmpty || n > Nat.pow 2 63 then none else some (Scalar.int (-(n : Int)))
            | _ => none
          binary.map fun v => ("!!int", v)

def resolvable (tag : String) : Bool :=
  ["", "!!str", "!!bool", "!!int", "!!float", "!!timestamp", "!!null"].contains tag

def base64Digit? (c : Char) : Option Nat :=
  if 'A' ≤ c && c ≤ 'Z' then some (c.toNat - 65)
  else if 'a' ≤ c && c ≤ 'z' then some (c.toNat - 71)
  else if '0' ≤ c && c ≤ '9' then some (c.toNat + 4)
  else if c = '+' then some 62
  else if c = '/' then some 63
  else none

/-- The bytes of base64 text cut into groups of four digits, the last group padded with `=`
when it stands for fewer than three bytes; none for anything else. -/
def base64Groups : List Char → Option (List UInt8)
  | [] => some []
  | [a, b, '=', '='] => do
    let x ← base64Digit? a
    let y ← base64Digit? b
    pure [(x * 4 + y / 16).toUInt8]
  | [a, b, c, '='] => do
    let x ← base64Digit? a
    let y ← base64Digit? b
    let z ← base64Digit? c
    pure [(x * 4 + y / 16).toUInt8, ((y % 16) * 16 + z / 4).toUInt8]
  | a :: b :: c :: d :: rest => do
    let x ← base64Digit? a
    let y ← base64Digit? b
    let z ← base64Digit? c
    let w ← base64Digit? d
    let more ← base64Groups rest
    pure ((x * 4 + y / 16).toUInt8 :: ((y % 16) * 16 + z / 4).toUInt8 :: ((z % 4) * 64 + w).toUInt8 :: more)
  | _ => none

/-- The bytes a `!!binary` scalar holds: its text is padded base64, where line breaks do not
count. -/
def base64Bytes? (cs : List Char) : Option (List UInt8) :=
  base64Groups (cs.filter fun c => c ≠ '\r' && c ≠ '\n')

/-- Resolves a scalar under a tag: the tag it turns out to have and what it stands for; a text
that cannot have the asked-for kind is refused. -/
def resolve (tag : String) (s : String) : Except String (String × Scalar) :=
  let tag := shortTag tag
  if !resolvable tag then .ok (tag, .str)
  else
    let h := if s.isEmpty then some 'N' else hint (s.toList.headD ' ')
    let found : Option (String × Scalar) :=
      match h with
      | some k =>
        if tag = "!!str" || tag = "!!binary" then none
        else
          match named s with
          | some r => some r
          | none =>
            if k = '.' then (decimalText? s.toList).map fun f => ("!!float", .float f)
            else if k = 'D' || k = 'S' then numberLike tag s
            else none
      | none => none
    let (rtag, v) := found.getD ("!!str", .str)
    if tag = "" || tag = rtag || tag = "!!str" || tag = "!!binary" then .ok (rtag, v)
    else
      match tag, v with
      | "!!float", .int n => .ok ("!!float", .float (Binary64.ofInt n))
      | _, _ => .error ("cannot decode " ++ rtag ++ " `" ++ s ++ "` as a " ++ tag)

end FramedLink.Config.Yaml
