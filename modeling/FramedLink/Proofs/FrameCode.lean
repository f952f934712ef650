import FramedLink.Proofs.Wire
import Mathlib.Data.List.Forall2

namespace FramedLink.Frame

def Frames (ps fs : List Bytes) : Prop := List.Forall₂ (fun p f => encode p = .ok f) ps fs

theorem encodeLE_two_header (lo hi : UInt8) :
    Bytes.encodeLE 2 (lo.toNat + 256 * hi.toNat) = [lo, hi] := by
  have hlo := lo.toNat_lt
  have hhi := hi.toNat_lt
  simp only [Bytes.encodeLE, List.cons.injEq, and_true]
  constructor
  · apply UInt8.toNat_inj.mp
    simp [Nat.toUInt8]
  · apply UInt8.toNat_inj.mp
    simp [Nat.toUInt8]
    omega

theorem encode_take_of_decode? {b p : Bytes} {n : Nat} (h : decode? b = some (p, n)) :
    encode p = .ok (b.take n) := by
  match b, h with
  | lo :: hi :: rest, h =>
    simp only [decode?] at h
    split at h
    · rename_i hle
      cases h
      have hlo := lo.toNat_lt
      have hhi := hi.toNat_lt
      have hlen : (rest.take (lo.toNat + 256 * hi.toNat)).length = lo.toNat + 256 * hi.toNat := by
        simp only [List.length_take]
        omega
      rw [encode_eq_ok, hlen, encodeLE_two_header]
      exact ⟨by simp only [maxPayload]; omega, by simp⟩
    · cases h

theorem decode?_eq_some_iff {b p : Bytes} {n : Nat} :
    decode? b = some (p, n) ↔ ∃ f s, encode p = .ok f ∧ b = f ++ s ∧ n = p.length + 2 := by
  constructor
  · intro h
    exact ⟨b.take n, b.drop n, encode_take_of_decode? h, (List.take_append_drop n b).symm,
      (decode?_length h).1⟩
  · rintro ⟨f, s, hf, rfl, rfl⟩
    exact decode?_encode hf

theorem encode_padded {lo hi : UInt8} {rest : Bytes} (h : rest.length ≤ lo.toNat + 256 * hi.toNat) :
    encode (rest ++ List.replicate (lo.toNat + 256 * hi.toNat - rest.length) 0) =
      .ok (lo :: hi :: rest ++ List.replicate (lo.toNat + 256 * hi.toNat - rest.length) 0) := by
  have hlo := lo.toNat_lt
  have hhi := hi.toNat_lt
  have hlen : (rest ++ List.replicate (lo.toNat + 256 * hi.toNat - rest.length) (0 : UInt8)).length
      = lo.toNat + 256 * hi.toNat := by
    simp only [List.length_append, List.length_replicate]
    omega
  rw [encode_eq_ok, hlen, encodeLE_two_header]
  exact ⟨by simp only [maxPayload]; omega, rfl⟩

theorem decode?_eq_none_iff {b : Bytes} :
    decode? b = none ↔ ∃ p f, encode p = .ok f ∧ b <+: f ∧ b.length < f.length := by
  constructor
  · intro h
    match b, h with
    | [], _ => exact ⟨[], [0, 0], rfl, List.nil_prefix, by simp⟩
    | [lo], _ =>
      -- the missing high byte is taken as zero
      exact ⟨_, _, @encode_padded lo 0 [] (Nat.zero_le _), ⟨_, rfl⟩, by simp⟩
    | lo :: hi :: rest, h =>
      simp only [decode?] at h
      split at h
      · cases h
      · rename_i hgt
        refine ⟨_, _, encode_padded (Nat.le_of_not_le hgt),
          ⟨List.replicate (lo.toNat + 256 * hi.toNat - rest.length) 0, by simp⟩, ?_⟩
        simp only [List.length_cons, List.cons_append, List.length_append, List.length_replicate]
        omega
  · rintro ⟨p, f, hf, ⟨s, rfl⟩, hlt⟩
    -- a frame read off `b` would be read off the whole frame `b ++ s` too, which it fills
    cases hd : decode? b with
    | none => rfl
    | some x =>
      obtain ⟨q, n⟩ := x
      have hb := decode?_length hd
      have hall : decode? (b ++ s) = some (q, n) := decode?_append hd
      rw [← List.append_nil (b ++ s), decode?_encode hf] at hall
      have hflen := (encode_eq_ok.mp hf).2
      have hfl : (b ++ s).length = p.length + 2 := by
        rw [hflen]
        simp [Nat.add_comm]
      simp only [Option.some.injEq, Prod.mk.injEq] at hall
      omega

theorem split_frames_append {ps fs : List Bytes} {t : Bytes} (h : Frames ps fs)
    (ht : decode? t = none) : split (fs.flatten ++ t) = (ps, t) := by
  induction h with
  | nil => exact split_of_decode?_none ht
  | cons hpf _ ih =>
    rw [List.flatten_cons, List.append_assoc, split_append_of_rest_nil _ (by rw [split_encode hpf]),
      ih, split_encode hpf]
    rfl

theorem split_frames (b : Bytes) :
    ∃ fs, Frames (split b).1 fs ∧ b = fs.flatten ++ (split b).2 ∧ decode? (split b).2 = none := by
  induction b using split.induct with
  | case1 b p n hd ih =>
    obtain ⟨fs, hfs, hb, hrest⟩ := ih
    rw [split_of_decode? hd]
    refine ⟨b.take n :: fs, .cons (encode_take_of_decode? hd) hfs, ?_, hrest⟩
    rw [List.flatten_cons, List.append_assoc, ← hb, List.take_append_drop]
  | case2 b hd =>
    rw [split_of_decode?_none hd]
    exact ⟨[], .nil, rfl, hd⟩

theorem split_eq_iff {b t : Bytes} {ps : List Bytes} :
    split b = (ps, t) ↔ ∃ fs, Frames ps fs ∧ b = fs.flatten ++ t ∧ decode? t = none := by
  constructor
  · intro h
    obtain ⟨fs, hfs, hb, hrest⟩ := split_frames b
    rw [h] at hfs hb hrest
    exact ⟨fs, hfs, hb, hrest⟩
  · rintro ⟨fs, hfs, rfl, ht⟩
    exact split_frames_append hfs ht

/-- The frame format is a prefix code that reading inverts exactly. A buffer yields a payload
and a length exactly when it starts with that payload's frame, the length being the frame's and
the frame being the bytes read; it yields nothing exactly when it is a proper prefix of a frame.
Cutting frames off whole frames followed by an unfinished rest gives back their payloads and
that rest, and every buffer is read so in exactly one way. -/
theorem frame_prefix_code :
    (∀ b p n, decode? b = some (p, n) ↔
      ∃ f s, encode p = .ok f ∧ b = f ++ s ∧ n = p.length + 2) ∧
    (∀ b p n, decode? b = some (p, n) → encode p = .ok (b.take n)) ∧
    (∀ b, decode? b = none ↔ ∃ p f, encode p = .ok f ∧ b <+: f ∧ b.length < f.length) ∧
    (∀ ps fs t, Frames ps fs → decode? t = none → split (fs.flatten ++ t) = (ps, t)) ∧
    (∀ b ps t, split b = (ps, t) ↔ ∃ fs, Frames ps fs ∧ b = fs.flatten ++ t ∧ decode? t = none) :=
  ⟨fun _ _ _ => decode?_eq_some_iff, fun _ _ _ => encode_take_of_decode?,
    fun _ => decode?_eq_none_iff, fun _ _ _ => split_frames_append, fun _ _ _ => split_eq_iff⟩

theorem encode_of_le {p : Bytes} (h : p.length ≤ maxPayload) :
    ∃ lo hi, encode p = .ok (lo :: hi :: p) ∧ lo.toNat = p.length % 256 ∧
      hi.toNat = p.length / 256 := by
  have hhigh : p.length / 256 < 256 := by
    simp only [maxPayload] at h
    omega
  refine ⟨(p.length % 256).toUInt8, (p.length / 256 % 256).toUInt8, ?_, ?_, ?_⟩
  · simp [encode_eq_ok, h, Bytes.encodeLE]
  · simp [Nat.toUInt8]
  · simp [Nat.toUInt8, Nat.mod_eq_of_lt hhigh]

/-- Both writers of frames are exact at the bound. A payload of at most 65535 bytes is written
as its length in two bytes, low byte first, each holding its share of the length exactly, and
then the payload; appending puts that frame after what is there. A longer payload is refused as
too large by both, and appending then gives back what was there. -/
theorem writers_exact (dst p : Bytes) :
    (p.length ≤ maxPayload → ∃ lo hi, encode p = .ok (lo :: hi :: p) ∧
      append dst p = .ok (dst ++ lo :: hi :: p) ∧
      lo.toNat = p.length % 256 ∧ hi.toNat = p.length / 256) ∧
    (maxPayload < p.length → encode p = .error (.payloadTooLarge p.length) ∧
      append dst p = .error (.payloadTooLarge p.length, dst)) := by
  constructor
  · intro h
    obtain ⟨lo, hi, henc, hlo, hhi⟩ := encode_of_le h
    exact ⟨lo, hi, henc, by simp [append, henc], hlo, hhi⟩
  · intro h
    have henc : encode p = .error (.payloadTooLarge p.length) := by
      simp [encode, Nat.not_le_of_lt h]
    exact ⟨henc, by simp [append, henc]⟩

end FramedLink.Frame
