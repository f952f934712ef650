import FramedLink.Binary64

namespace FramedLink.Binary64

/-- `⌊log₁₀ (num / den)⌋` for positive `num` and `den`: the digit counts give it or one less. -/
def floorLog10 (num den : Nat) : Int :=
  let k : Int := (decimalLength num : Int) - decimalLength den
  let (a, b) := if k ≥ 0 then (num, den * Nat.pow 10 k.toNat) else (num * Nat.pow 10 (-k).toNat, den)
  if a ≥ b then k else k - 1

/-- The grid points `d · 10^k` that read back as the positive value `m · 2^q`, as the least
and greatest `d`, with the `d` nearest to the value. The interval's ends and the value are
counted in quarters of `2^q`. -/
def gridAt (m : Nat) (q : Int) (k : Int) : Nat × Nat × Nat :=
  let closed := m % 2 = 0
  let low := if m = Nat.pow 2 52 && q > minExp then 4 * m - 1 else 4 * m - 2
  let high := 4 * m + 2
  let a := Nat.pow 2 (q - 2).toNat * Nat.pow 10 (-k).toNat
  let b := Nat.pow 2 (2 - q).toNat * Nat.pow 10 k.toNat
  let least := if closed then ceilDiv (low * a) b else low * a / b + 1
  let greatest := if closed then high * a / b else (high * a - 1) / b
  let nearest := roundHalfEven (4 * m * a) b
  (least, greatest, min (max nearest least) greatest)

/-- The shortest decimal `(d, k)` of the positive value `m · 2^q`. Seventeen significant
digits always suffice. -/
def shortestOf (m : Nat) (q : Int) : Nat × Int :=
  let (num, den) := if q ≥ 0 then (m * Nat.pow 2 q.toNat, 1) else (m, Nat.pow 2 (-q).toNat)
  let top := floorLog10 num den
  let found := (List.range 17).findSome? fun (n : Nat) =>
    let k := top - (n : Int)
    let (least, greatest, nearest) := gridAt m q k
    if least ≤ greatest then some (nearest, k) else none
  found.getD (roundHalfEven num den, 0)

/-- `d · 10^e` with the trailing zeros of `d` moved into the exponent, at most `fuel` of them. -/
def dropZeros : Nat → Nat → Int → Nat × Int
  | 0, d, e => (d, e)
  | fuel + 1, d, e => if d ≠ 0 && d % 10 = 0 then dropZeros fuel (d / 10) (e + 1) else (d, e)

/-- The shortest decimal of a finite value's magnitude, as digits without trailing zeros and
an exponent; zero is `(0, 0)`. -/
def shortest (m : Nat) (q : Int) : Nat × Int :=
  if m = 0 then (0, 0)
  else
    let (d, k) := shortestOf m q
    dropZeros (decimalLength d) d k

end FramedLink.Binary64
