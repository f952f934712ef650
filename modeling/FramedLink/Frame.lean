import FramedLink.Error

namespace FramedLink.Frame

/-- Bytes of the length prefix. -/
def headerSize : Nat := 2

/-- The largest payload a frame carries. -/
def maxPayload : Nat := 65535

/-- Room for one whole frame of the largest payload. -/
def bufferSize : Nat := headerSize + maxPayload

/-- The frame of a payload, or `payloadTooLarge` past 65535 bytes. -/
def encode (payload : Bytes) : Except Error Bytes :=
  if payload.length ≤ maxPayload then .ok (Bytes.encodeLE 2 payload.length ++ payload)
  else .error (.payloadTooLarge payload.length)

/-- `dst` followed by the frame of `payload`; on failure `dst` is left as it was. -/
def append (dst payload : Bytes) : Except (Error × Bytes) Bytes :=
  match encode payload with
  | .ok frame => .ok (dst ++ frame)
  | .error e => .error (e, dst)

/-- The payload of the frame at the front of `buf` and the frame's whole length; `none` while
`buf` holds only part of a frame. -/
def decode? (buf : Bytes) : Option (Bytes × Nat) :=
  match buf with
  | lo :: hi :: rest =>
    let size := lo.toNat + 256 * hi.toNat
    if size ≤ rest.length then some (rest.take size, size + 2) else none
  | _ => none

theorem decode?_length {buf payload : Bytes} {n : Nat} (h : decode? buf = some (payload, n)) :
    n = payload.length + 2 ∧ n ≤ buf.length := by
  unfold decode? at h
  split at h
  · dsimp only at h
    split at h
    · cases h
      simp only [List.length_take, List.length_cons]
      omega
    · cases h
  · cases h

/-- Every complete frame at the front of `buf`, in order, and the bytes after them. -/
def split (buf : Bytes) : List Bytes × Bytes :=
  match h : decode? buf with
  | some (payload, n) =>
    let after := split (buf.drop n)
    (payload :: after.1, after.2)
  | none => ([], buf)
termination_by buf.length
decreasing_by
  have := decode?_length h
  simp only [List.length_drop]
  omega

theorem decode?_none_length {buf : Bytes} (h : decode? buf = none) :
    buf.length < bufferSize := by
  unfold decode? at h
  split at h
  · rename_i lo hi rest
    dsimp only at h
    split at h
    · cases h
    · have hlo := lo.toNat_lt
      have hhi := hi.toNat_lt
      simp only [List.length_cons, bufferSize, headerSize, maxPayload]
      omega
  · rename_i hnot
    match buf, hnot with
    | [], _ => simp [bufferSize, headerSize, maxPayload]
    | [_], _ => simp [bufferSize, headerSize, maxPayload]
    | _ :: _ :: _, hn => exact absurd rfl (hn _ _ _)

theorem split_rest_lt (buf : Bytes) : (split buf).2.length < bufferSize := by
  rw [split]
  split
  · next payload n h => exact split_rest_lt (buf.drop n)
  · next h => exact decode?_none_length h
termination_by buf.length
decreasing_by
  rename_i hd
  have := decode?_length hd
  simp only [List.length_drop]
  omega

theorem decode?_encode {payload rest frame : Bytes} (h : encode payload = .ok frame) :
    decode? (frame ++ rest) = some (payload, payload.length + 2) := by
  unfold encode at h
  split at h
  · rename_i hle
    cases h
    simp only [Bytes.encodeLE, decode?, List.cons_append, List.nil_append]
    have hlen : (payload.length % 256).toUInt8.toNat + 256 * (payload.length / 256 % 256).toUInt8.toNat
        = payload.length := by
      simp only [maxPayload] at hle
      simp [Nat.toUInt8]
      omega
    rw [hlen]
    simp
  · cases h

end FramedLink.Frame
