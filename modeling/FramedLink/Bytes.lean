namespace FramedLink

/-- A byte string. -/
abbrev Bytes := List UInt8

namespace Bytes

/-- The `w` low bytes of `n`, least significant first. -/
def encodeLE : Nat → Nat → Bytes
  | 0, _ => []
  | w + 1, n => (n % 256).toUInt8 :: encodeLE w (n / 256)

/-- The number whose least significant byte comes first. -/
def decodeLE : Bytes → Nat
  | [] => 0
  | b :: bs => b.toNat + 256 * decodeLE bs

/-- The `w`-byte little-endian number at the front of `bs`, and the bytes after it. -/
def readLE (w : Nat) (bs : Bytes) : Option (Nat × Bytes) :=
  if w ≤ bs.length then some (decodeLE (bs.take w), bs.drop w) else none

/-- A signed 32-bit number in four little-endian bytes, two's complement. -/
def ofInt32 (i : Int32) : Bytes := encodeLE 4 i.toUInt32.toNat

/-- The signed 32-bit number that four little-endian bytes hold. -/
def toInt32 (bs : Bytes) : Int32 := (UInt32.ofNat (decodeLE bs)).toInt32

@[simp] theorem length_encodeLE (w n : Nat) : (encodeLE w n).length = w := by
  induction w generalizing n with
  | zero => rfl
  | succ w ih => simp [encodeLE, ih]

theorem decodeLE_lt (bs : Bytes) : decodeLE bs < Nat.pow 256 bs.length := by
  rw [Nat.pow_eq]
  induction bs with
  | nil => simp [decodeLE]
  | cons b bs ih =>
    have hb : b.toNat < 256 := b.toNat_lt
    simp only [decodeLE, List.length_cons, Nat.pow_succ]
    omega

theorem decodeLE_encodeLE (w n : Nat) : decodeLE (encodeLE w n) = n % Nat.pow 256 w := by
  rw [Nat.pow_eq]
  induction w generalizing n with
  | zero => simp [encodeLE, decodeLE, Nat.mod_one]
  | succ w ih =>
    have hlow : ((n % 256).toUInt8).toNat = n % 256 := by
      simp [Nat.toUInt8]
    simp only [encodeLE, decodeLE, hlow, ih, Nat.pow_succ]
    rw [Nat.mul_comm (256 ^ w) 256, Nat.mod_mul, Nat.add_comm]

theorem readLE_encodeLE_append (w n : Nat) (rest : Bytes) :
    readLE w (encodeLE w n ++ rest) = some (n % Nat.pow 256 w, rest) := by
  simp [readLE, decodeLE_encodeLE]

end Bytes
end FramedLink
