namespace FramedLink

/-- A binary64 value. A finite one is `(-1)^neg · m · 2^q`, kept canonical: `m < 2^53` and
`q ≥ -1074`, with `m ≥ 2^52` unless `q = -1074`; zero has `m = 0` and `q = -1074`. -/
inductive Binary64 where
  | finite (neg : Bool) (m : Nat) (q : Int)
  | inf (neg : Bool)
  | nan
deriving DecidableEq, Repr, Inhabited

namespace Binary64

/-- The exponent of the subnormals, the least there is. -/
def minExp : Int := -1074

/-- The exponent of the largest finite values. -/
def maxExp : Int := 971

/-- Zero with a sign. -/
def zero (neg : Bool) : Binary64 := .finite neg 0 minExp

/-- `num / den` rounded to the nearest integer, a half going to the even one. -/
def roundHalfEven (num den : Nat) : Nat :=
  let q := num / den
  let r := num % den
  if 2 * r > den || (2 * r = den && q % 2 = 1) then q + 1 else q

/-- `num / den` rounded up. -/
def ceilDiv (num den : Nat) : Nat := (num + den - 1) / den

/-- The fraction `num / (den · 2^k)` as a fraction of natural numbers. -/
def scaleDown (num den : Nat) (k : Int) : Nat × Nat :=
  if k ≥ 0 then (num, den * Nat.pow 2 k.toNat) else (num * Nat.pow 2 (-k).toNat, den)

/-- `⌊log₂ (num / den)⌋` for positive `num` and `den`: the bit lengths give it or one more. -/
def floorLog2 (num den : Nat) : Int :=
  let k : Int := (Nat.log2 num : Int) - Nat.log2 den
  let (a, b) := scaleDown num den k
  if a ≥ b then k else k - 1

/-- The value nearest to `num / den`, with a sign. -/
def ofFraction (neg : Bool) (num den : Nat) : Binary64 :=
  if num = 0 || den = 0 then zero neg
  else
    let q := max (floorLog2 num den - 52) minExp
    let (a, b) := scaleDown num den q
    let m := roundHalfEven a b
    let (m, q) := if m = Nat.pow 2 53 then (Nat.pow 2 52, q + 1) else (m, q)
    if q > maxExp then .inf neg else .finite neg m q

/-- The number of decimal digits of a positive number. -/
def decimalLength (n : Nat) : Nat := (Nat.toDigits 10 n).length

/-- The value nearest to `(-1)^neg · m · 10^e`. Past `10^310` it is an infinity and below
`10^-324` zero, which the bounds below tell before any large power is formed. -/
def ofDecimal (neg : Bool) (m : Nat) (e : Int) : Binary64 :=
  let digits : Int := decimalLength m
  if m = 0 || digits + e ≤ -324 then zero neg
  else if digits - 1 + e ≥ 310 then .inf neg
  else if e ≥ 0 then ofFraction neg (m * Nat.pow 10 e.toNat) 1
  else ofFraction neg m (Nat.pow 10 (-e).toNat)

/-- The value nearest to an integer. -/
def ofInt (n : Int) : Binary64 := ofFraction (n < 0) n.natAbs 1

/-- The magnitude of a finite value in units of the least subnormal. -/
def units (m : Nat) (q : Int) : Nat := m * Nat.pow 2 (q - minExp).toNat

/-- Whether two values are the same number. -/
def same : Binary64 → Binary64 → Bool
  | .finite a m q, .finite b n r => (m = 0 && n = 0) || (a == b && m == n && q == r)
  | .inf a, .inf b => a == b
  | _, _ => false

/-- The order of values: not a number first, then by value, the two zeros together. -/
def le : Binary64 → Binary64 → Bool
  | .nan, _ => true
  | _, .nan => false
  | .inf true, _ => true
  | _, .inf true => false
  | _, .inf false => true
  | .inf false, _ => false
  | .finite a m q, .finite b n r =>
    let x := units m q
    let y := units n r
    if x = 0 && y = 0 then true
    else
      match a, b with
      | true, false => true
      | false, true => false
      | false, false => x ≤ y
      | true, true => y ≤ x

/-- Whether a value is a number no greater than `2^63`, the largest 64-bit integer as a
binary64 value. -/
def atMostInt64Max : Binary64 → Bool
  | .nan => false
  | .inf neg => neg
  | .finite neg m q => neg || q < 0 || m * Nat.pow 2 q.toNat ≤ Nat.pow 2 63

/-- A value converted to a 64-bit integer the way the machine does it: truncated toward zero,
with anything out of range, the infinities and not a number included, becoming the least
integer. -/
def toInt64 : Binary64 → Int
  | .finite neg m q =>
    let t : Nat := if q ≥ 0 then m * Nat.pow 2 q.toNat else m / Nat.pow 2 (-q).toNat
    let v : Int := if neg then -(t : Int) else t
    if v ≥ 9223372036854775808 || v < -9223372036854775808 then -9223372036854775808 else v
  | _ => -9223372036854775808

end Binary64

end FramedLink
