import FramedLink.Quote

namespace FramedLink

/-- A span of time in nanoseconds. -/
structure Duration where
  nanos : Int
deriving DecidableEq, Repr

/-- Why a duration text could not be read; each carries the whole text, as bytes. -/
inductive DurationError where
  | invalid (orig : Bytes)
  | missingUnit (orig : Bytes)
  | unknownUnit (unit orig : Bytes)
deriving DecidableEq, Repr

/-- The text of a duration error. -/
def DurationError.message : DurationError → String
  | .invalid orig => "time: invalid duration " ++ Quote.bytesQuoted orig
  | .missingUnit orig => "time: missing unit in duration " ++ Quote.bytesQuoted orig
  | .unknownUnit unit orig =>
    "time: unknown unit " ++ Quote.bytesQuoted unit ++ " in duration " ++ Quote.bytesQuoted orig

namespace Duration

instance : OfNat Duration n := ⟨⟨n⟩⟩

/-- `2 ^ 63`, one past the largest duration. -/
def limit : Nat := 9223372036854775808

/-- A count of milliseconds, wrapped into 64 bits as a nanosecond count. -/
def ofMillis (ms : Int) : Duration :=
  ⟨(ms * 1000000 + limit) % (2 * limit : Nat) - limit⟩

/-- The digits of `v / 10 ^ prec` after the point, with trailing zeros and, when nothing is
left, the point itself dropped; and the whole part `v / 10 ^ prec`. -/
def fraction (v prec : Nat) : String × Nat :=
  let lowFirst := (List.range prec).map fun i => v / Nat.pow 10 i % 10
  let kept := lowFirst.dropWhile (· == 0)
  let digits := kept.reverse.map fun d => Char.ofNat (48 + d)
  ((if kept.isEmpty then "" else String.ofList ('.' :: digits)), v / Nat.pow 10 prec)

/-- The written form of a duration. -/
def text (d : Duration) : String :=
  let u := d.nanos.natAbs
  let sign := if d.nanos < 0 then "-" else ""
  if u = 0 then "0s"
  else if u < 1000 then sign ++ toString u ++ "ns"
  else if u < 1000000 then
    let (f, w) := fraction u 3
    sign ++ toString w ++ f ++ "µs"
  else if u < 1000000000 then
    let (f, w) := fraction u 6
    sign ++ toString w ++ f ++ "ms"
  else
    let (f, secs) := fraction u 9
    let s := toString (secs % 60) ++ f ++ "s"
    let mins := secs / 60
    if mins = 0 then sign ++ s
    else
      let m := toString (mins % 60) ++ "m" ++ s
      let hours := mins / 60
      if hours = 0 then sign ++ m else sign ++ toString hours ++ "h" ++ m

/-- The unit names and their lengths in nanoseconds. -/
def units : List (String × Nat) :=
  [("ns", 1), ("us", 1000), ("µs", 1000), ("μs", 1000), ("ms", 1000000), ("s", 1000000000),
    ("m", 60000000000), ("h", 3600000000000)]

/-- Nanoseconds per unit, for the bytes of a unit name. -/
def unitNanos? (u : Bytes) : Option Nat :=
  (units.find? fun e => e.1.toUTF8.toList == u).map (·.2)

/-- Whether a byte is an ASCII decimal digit. -/
def isDigit (b : UInt8) : Bool := 48 ≤ b && b ≤ 57

/-- The leading decimal digits of `cs` as a number, with the bytes after them; `none` when
the number passes `2 ^ 63`. -/
def leadingInt (cs : Bytes) (acc : Nat) : Option (Nat × Bytes) :=
  match cs with
  | c :: rest =>
    if isDigit c then
      if acc > limit / 10 then none
      else
        let acc := acc * 10 + (c.toNat - 48)
        if acc > limit then none else leadingInt rest acc
    else some (acc, cs)
  | [] => some (acc, [])

/-- The leading decimal digits of a fraction: the digits kept as a number, the power of ten
that scales them, and the bytes after the digits. Digits that would pass `2 ^ 63` are read
and dropped. -/
def leadingFraction (cs : Bytes) (acc scale : Nat) (full : Bool) : Nat × Nat × Bytes :=
  match cs with
  | c :: rest =>
    if isDigit c then
      if full || acc > (limit - 1) / 10 then leadingFraction rest acc scale true
      else
        let next := acc * 10 + (c.toNat - 48)
        if next > limit then leadingFraction rest acc scale true
        else leadingFraction rest next (scale + 1) false
    else (acc, scale, cs)
  | [] => (acc, scale, [])

/-- `f / 10 ^ scale` units of `unit` nanoseconds, computed in binary floating point the way
the reader is specified (each operand rounded to a double, the product truncated). -/
def fractionNanos (f unit scale : Nat) : Nat :=
  let tenPow := (List.range scale).foldl (fun x _ => x * 10) (1 : Float)
  (f.toUInt64.toFloat * (unit.toUInt64.toFloat / tenPow)).toUInt64.toNat

theorem leadingInt_length {cs rest : Bytes} {acc v : Nat}
    (h : leadingInt cs acc = some (v, rest)) : rest.length ≤ cs.length := by
  induction cs generalizing acc with
  | nil => simp [leadingInt] at h; simp [← h.2]
  | cons c r ih =>
    simp only [leadingInt] at h
    split at h
    · split at h
      · cases h
      · split at h
        · cases h
        · have := ih h; simp; omega
    · cases h; simp

theorem leadingFraction_length (cs : Bytes) (acc scale : Nat) (full : Bool) :
    (leadingFraction cs acc scale full).2.2.length ≤ cs.length := by
  induction cs generalizing acc scale full with
  | nil => simp [leadingFraction]
  | cons c r ih =>
    simp only [leadingFraction]
    split
    · split
      · have := ih acc scale true; simp; omega
      · split
        · have := ih acc scale true; simp; omega
        · have := ih (acc * 10 + (c.toNat - 48)) (scale + 1) false; simp; omega
    · simp

/-- Whether a byte ends a unit name: a digit or a point. -/
def endsUnit (b : UInt8) : Bool := b == 46 || isDigit b

/-- The unit name at the front of `cs` and the bytes after it. -/
def splitUnit (cs : Bytes) : Bytes × Bytes :=
  (cs.takeWhile (! endsUnit ·), cs.dropWhile (! endsUnit ·))

theorem splitUnit_length {cs : Bytes} (h : (splitUnit cs).1 ≠ []) :
    (splitUnit cs).2.length < cs.length := by
  cases cs with
  | nil => simp [splitUnit] at h
  | cons c r =>
    simp only [splitUnit] at h ⊢
    by_cases hc : endsUnit c
    · simp [hc] at h
    · simp only [List.dropWhile_cons, hc, Bool.not_false, if_true, List.length_cons]
      exact Nat.lt_succ_of_le (List.dropWhile_suffix _).length_le

/-- The number and the fraction at the front of a term, and the bytes after them; `none`
when neither a digit nor a fraction digit is there or the whole part overflows. -/
def number? (cs : Bytes) : Option (Nat × Nat × Nat × Bytes) :=
  match leadingInt cs 0 with
  | none => none
  | some (v, afterInt) =>
    let pre := afterInt.length ≠ cs.length
    match afterInt with
    | 46 :: r =>
      match leadingFraction r 0 0 false with
      | (f, scale, rest) =>
        if pre || rest.length ≠ r.length then some (v, f, scale, rest) else none
    | _ => if pre then some (v, 0, 0, afterInt) else none

theorem number?_length {cs rest : Bytes} {v f scale : Nat}
    (h : number? cs = some (v, f, scale, rest)) : rest.length ≤ cs.length := by
  simp only [number?] at h
  split at h
  · cases h
  · rename_i v' afterInt hlead
    have hl := leadingInt_length hlead
    split at h
    · rename_i r
      split at h
      · cases h
        have h1 := leadingFraction_length r 0 0 false
        have h2 : r.length ≤ cs.length := by simp at hl; omega
        exact Nat.le_trans h1 h2
      · cases h
    · split at h
      · cases h; exact hl
      · cases h

/-- One term at the front of `cs` in nanoseconds, and the bytes after it; `orig` is the
whole text, for errors. -/
def term (orig : Bytes) (cs : Bytes) :
    Except DurationError (Nat × { r : Bytes // r.length < cs.length }) :=
  match hn : number? cs with
  | none => .error (.invalid orig)
  | some (v, f, scale, afterNum) =>
    match hu : splitUnit afterNum with
    | ([], _) => .error (.missingUnit orig)
    | (u :: us, rest) =>
      match unitNanos? (u :: us) with
      | none => .error (.unknownUnit (u :: us) orig)
      | some n =>
        if v > limit / n then .error (.invalid orig)
        else
          let v := v * n + (if f > 0 then fractionNanos f n scale else 0)
          if v > limit then .error (.invalid orig)
          else
            have hshort : rest.length < cs.length := by
              have h1 := number?_length hn
              have h2 : (splitUnit afterNum).2.length < afterNum.length :=
                splitUnit_length (by rw [hu]; simp)
              rw [hu] at h2
              dsimp only at h2
              omega
            .ok (v, ⟨rest, hshort⟩)

/-- Adds the terms of `cs` to `acc` nanoseconds; `orig` is the whole text, for errors. -/
def terms (orig : Bytes) (cs : Bytes) (acc : Nat) : Except DurationError Nat :=
  match cs with
  | [] => .ok acc
  | c :: more =>
    if !endsUnit c then .error (.invalid orig)
    else
      match term orig (c :: more) with
      | .error e => .error e
      | .ok (v, ⟨rest, hr⟩) =>
        if acc + v > limit then .error (.invalid orig) else terms orig rest (acc + v)
termination_by cs.length
decreasing_by
  simp only [List.length_cons] at hr ⊢
  omega

/-- Reads a duration from its bytes, which need not spell valid UTF-8. -/
def read? (s : Bytes) : Except DurationError Duration :=
  let (neg, cs) := match s with
    | 45 :: r => (true, r)
    | 43 :: r => (false, r)
    | cs => (false, cs)
  if cs = [48] then .ok 0
  else if cs = [] then .error (.invalid s)
  else
    match terms s cs 0 with
    | .error e => .error e
    | .ok d =>
      if neg then .ok ⟨-(d : Int)⟩
      else if d > limit - 1 then .error (.invalid s)
      else .ok ⟨d⟩

/-- Reads a duration. -/
def parse? (s : String) : Except DurationError Duration := read? s.toUTF8.toList

end Duration
end FramedLink
