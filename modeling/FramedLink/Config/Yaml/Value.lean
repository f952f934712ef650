import FramedLink.Binary64.Shortest
import FramedLink.Config.Yaml.Scalar
import FramedLink.Quote
import FramedLink.Utf8

namespace FramedLink.Config.Yaml

/-- A value decoded without a type asked of it. -/
inductive Value where
  | null
  | bool (b : Bool)
  | int (i : Int)
  | uint (n : Nat)
  | float (f : Binary64)
  | text (b : Bytes)
  | list (items : List Value)
  | textMap (entries : List (Bytes × Value))
  | anyMap (entries : List (Value × Value))
deriving BEq, Repr, Inhabited

def Value.isCollection : Value → Bool
  | .list _ | .textMap _ | .anyMap _ => true
  | _ => false

/-- Whether two map keys are the same: of one kind and equal, floats as numbers (so the two
zeros are one key, and not a number is never the same as any key). Collections are never
keys. -/
def Value.same : Value → Value → Bool
  | .null, .null => true
  | .bool a, .bool b => a == b
  | .int a, .int b => a == b
  | .uint a, .uint b => a == b
  | .float a, .float b => a.same b
  | .text a, .text b => a == b
  | _, _ => false

def putEntry (same : κ → κ → Bool) (es : List (κ × Value)) (k : κ) (v : Value) : List (κ × Value) :=
  if es.any (same ·.1 k) then es.map fun e => if same e.1 k then (k, v) else e else es ++ [(k, v)]

/-- The characters of bytes between double quotes: printable characters as they are, the
usual escapes for the others, and `\xHH` for a byte that starts no well-formed character. -/
def quoteBody (bs : Bytes) : List Char :=
  match h : Utf8.scalar? bs with
  | some (c, rest) => Quote.escapeChar (Char.ofNat c) ++ quoteBody rest
  | none =>
    match bs with
    | [] => []
    | b :: rest => Quote.byteEscape b ++ quoteBody rest
termination_by bs.length
decreasing_by
  · exact Utf8.scalar?_shorter h
  · simp

def quoteBytes (bs : Bytes) : String := String.ofList ('"' :: quoteBody bs ++ ['"'])

/-- The shortest form of a float: the digits in plain notation when the decimal exponent is
from -4 to 5, else one digit, the rest after a point, and a signed exponent of at least two
digits. -/
def floatText : Binary64 → String
  | .nan => "NaN"
  | .inf neg => if neg then "-Inf" else "+Inf"
  | .finite neg m q =>
    let (m, e) := Binary64.shortest m q
    let sign := if neg then "-" else ""
    if m = 0 then sign ++ "0"
    else
      let ds := (toString m).toList
      let nd := ds.length
      let dp : Int := nd + e
      let x := dp - 1
      if x < -4 || x ≥ 6 then
        let mant := ds.take 1 ++ (if nd > 1 then '.' :: ds.drop 1 else [])
        let ex := x.natAbs
        sign ++ String.ofList mant ++ "e" ++ (if x < 0 then "-" else "+") ++
          (if ex < 10 then "0" else "") ++ toString ex
      else if dp ≤ 0 then sign ++ "0." ++ String.ofList (List.replicate (-dp).toNat '0' ++ ds)
      else if dp ≥ nd then sign ++ String.ofList (ds ++ List.replicate (dp - nd).toNat '0')
      else sign ++ String.ofList (ds.take dp.toNat ++ '.' :: ds.drop dp.toNat)

/-- The rank of a value's kind among map keys: null first, then unsigned integers, strings,
integers, floats and booleans. -/
def Value.kindRank : Value → Nat
  | .null => 0
  | .uint _ => 1
  | .text _ => 2
  | .int _ => 3
  | .float _ => 4
  | .bool _ => 5
  | _ => 6

def bytesLe : Bytes → Bytes → Bool
  | [], _ => true
  | _ :: _, [] => false
  | a :: as, b :: bs => if a = b then bytesLe as bs else a < b

def Value.le (a b : Value) : Bool :=
  if a.kindRank ≠ b.kindRank then a.kindRank < b.kindRank
  else
    match a, b with
    | .bool x, .bool y => !x || y
    | .int x, .int y => x ≤ y
    | .uint x, .uint y => x ≤ y
    | .float x, .float y => x.le y
    | .text x, .text y => bytesLe x y
    | _, _ => true

/-- A value written out in full, as an element of a collection (null being a typed nil);
`fuel` bounds the nesting. -/
def Value.render : Nat → Value → String
  | 0, _ => ""
  | _ + 1, .null => "interface \x7b\x7d(nil)"
  | _ + 1, .bool b => if b then "true" else "false"
  | _ + 1, .int i => toString i
  | _ + 1, .uint n => "0x" ++ String.ofList (Nat.toDigits 16 n)
  | _ + 1, .float f => floatText f
  | _ + 1, .text bs => quoteBytes bs
  | fuel + 1, .list items =>
    "[]interface \x7b\x7d\x7b" ++ ", ".intercalate (items.map (Value.render fuel)) ++ "\x7d"
  | fuel + 1, .textMap es =>
    let sorted := es.mergeSort fun a b => bytesLe a.1 b.1
    "map[string]interface \x7b\x7d\x7b" ++
      ", ".intercalate (sorted.map fun e => quoteBytes e.1 ++ ":" ++ Value.render fuel e.2) ++ "\x7d"
  | fuel + 1, .anyMap es =>
    let sorted := es.mergeSort fun a b => a.1.le b.1
    "map[interface \x7b\x7d]interface \x7b\x7d\x7b" ++
      ", ".intercalate (sorted.map fun e => Value.render fuel e.1 ++ ":" ++ Value.render fuel e.2) ++ "\x7d"

end FramedLink.Config.Yaml
