import FramedLink.Bytes
import FramedLink.Text.Blank

namespace FramedLink.Utf8

/-- A continuation byte, `10xxxxxx`. -/
def isTail (b : UInt8) : Bool := 0x80 ≤ b && b ≤ 0xBF

/-- The length of the sequence that a lead byte announces; 0 for a byte that leads none. -/
def width (b : UInt8) : Nat :=
  if b < 0x80 then 1
  else if 0xC2 ≤ b && b ≤ 0xDF then 2
  else if 0xE0 ≤ b && b ≤ 0xEF then 3
  else if 0xF0 ≤ b && b ≤ 0xF4 then 4
  else 0

/-- The bytes allowed second after lead byte `b`. The narrowed ranges rule out overlong
forms (after E0, F0), surrogate halves (after ED) and values past U+10FFFF (after F4). -/
def secondRange (b : UInt8) : UInt8 × UInt8 :=
  if b = 0xE0 then (0xA0, 0xBF)
  else if b = 0xED then (0x80, 0x9F)
  else if b = 0xF0 then (0x90, 0xBF)
  else if b = 0xF4 then (0x80, 0x8F)
  else (0x80, 0xBF)

/-- Whether a sequence of the announced width has the allowed bytes after its lead. -/
def wellFormed : Bytes → Bool
  | [] => false
  | [_] => true
  | b0 :: b1 :: more => (secondRange b0).1 ≤ b1 && b1 ≤ (secondRange b0).2 && more.all isTail

/-- The scalar value that a well-formed sequence spells. -/
def seqValue : Bytes → Nat
  | [b0] => b0.toNat
  | [b0, b1] => (b0.toNat % 32) * 64 + b1.toNat % 64
  | [b0, b1, b2] => (b0.toNat % 16) * 4096 + (b1.toNat % 64) * 64 + b2.toNat % 64
  | [b0, b1, b2, b3] =>
    (b0.toNat % 8) * 262144 + (b1.toNat % 64) * 4096 + (b2.toNat % 64) * 64 + b3.toNat % 64
  | _ => 0

/-- The scalar value at the front of `bs`, and the bytes after it; `none` when `bs` does not
start with a well-formed sequence. -/
def scalar? (bs : Bytes) : Option (Nat × Bytes) :=
  match bs with
  | [] => none
  | b0 :: _ =>
    let w := width b0
    let seq := bs.take w
    if 0 < w && seq.length == w && wellFormed seq then some (seqValue seq, bs.drop w) else none

theorem scalar?_shorter {bs rest : Bytes} {c : Nat} (h : scalar? bs = some (c, rest)) :
    rest.length < bs.length := by
  unfold scalar? at h
  split at h
  · cases h
  · dsimp only at h
    split at h
    · rename_i hw
      cases h
      simp only [Bool.and_eq_true, decide_eq_true_eq, beq_iff_eq] at hw
      simp only [List.length_drop, List.length_cons]
      omega
    · cases h

/-- The characters that `bs` spells, when all of it is well-formed. -/
def decode? (bs : Bytes) : Option (List Char) :=
  match h : scalar? bs with
  | some (c, rest) => (decode? rest).map (Char.ofNat c :: ·)
  | none => if bs.isEmpty then some [] else none
termination_by bs.length
decreasing_by exact scalar?_shorter h

/-- Whether `bs` is well-formed UTF-8 throughout. -/
def valid (bs : Bytes) : Bool := (decode? bs).isSome

/-- The characters of `bs`, with U+FFFD for each byte that starts no well-formed sequence. -/
def lossy (bs : Bytes) : List Char :=
  match h : scalar? bs with
  | some (c, rest) => Char.ofNat c :: lossy rest
  | none =>
    match bs with
    | [] => []
    | _ :: rest => '�' :: lossy rest
termination_by bs.length
decreasing_by
  · exact scalar?_shorter h
  · simp

/-- The text of `bs`, read leniently. -/
def text (bs : Bytes) : String := String.ofList (lossy bs)

/-- The UTF-8 bytes of a string. -/
def encode (s : String) : Bytes := s.toUTF8.toList

/-- Drops the blank characters at the front of `bs`; a byte that starts no well-formed
sequence is not blank. -/
def dropBlanks (bs : Bytes) : Bytes :=
  match h : scalar? bs with
  | some (c, rest) => if Text.isBlank (Char.ofNat c) then dropBlanks rest else bs
  | none => bs
termination_by bs.length
decreasing_by exact scalar?_shorter h

/-- The encodings of the blank characters. -/
def blankForms : List Bytes :=
  ([0x09, 0x0A, 0x0B, 0x0C, 0x0D, 0x20, 0x85, 0xA0, 0x1680, 0x2028, 0x2029, 0x202F, 0x205F,
    0x3000] ++ (List.range 11).map (0x2000 + ·)).map fun n => encode (String.singleton (Char.ofNat n))

/-- Drops the blank characters at the end of `bs`, at most `n` of them. The last character of
`bs` is blank exactly when `bs` ends in the encoding of a blank: the bytes before the lead
byte of that encoding cannot join it. -/
def dropBlanksEnd : Nat → Bytes → Bytes
  | 0, bs => bs
  | n + 1, bs =>
    match blankForms.find? (·.isSuffixOf bs) with
    | some f => dropBlanksEnd n (bs.take (bs.length - f.length))
    | none => bs

/-- `bs` without blank characters at either end. -/
def trimBlank (bs : Bytes) : Bytes := dropBlanksEnd bs.length (dropBlanks bs)

end FramedLink.Utf8
