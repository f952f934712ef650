import FramedLink.Proofs.Wire

namespace FramedLink

theorem Bytes.encodeLE_decodeLE (bs : Bytes) : encodeLE bs.length (decodeLE bs) = bs := by
  induction bs with
  | nil => rfl
  | cons b bs ih =>
    have hb : b.toNat < 256 := b.toNat_lt
    have hlow : (b.toNat + 256 * decodeLE bs) % 256 = b.toNat := by omega
    have hhigh : (b.toNat + 256 * decodeLE bs) / 256 = decodeLE bs := by omega
    simp only [List.length_cons, encodeLE, decodeLE, hlow, hhigh, ih, List.cons.injEq, and_true]
    simp [Nat.toUInt8]

theorem Bytes.encodeLE_decodeLE_of_length {bs : Bytes} {w : Nat} (h : bs.length = w) :
    encodeLE w (decodeLE bs) = bs := by
  rw [← h, encodeLE_decodeLE]

theorem Bytes.decodeLE_lt_of_length {bs : Bytes} (hlen : bs.length = 4) :
    decodeLE bs < 4294967296 := by
  have h := decodeLE_lt bs
  rw [hlen] at h
  exact h

theorem Bytes.ofInt32_toInt32 {bs : Bytes} (hlen : bs.length = 4) : ofInt32 (toInt32 bs) = bs := by
  have hlt := decodeLE_lt_of_length hlen
  have hval : (toInt32 bs).toUInt32.toNat = decodeLE bs := by
    simp only [toInt32, UInt32.toUInt32_toInt32, UInt32.toNat_ofNat']
    exact Nat.mod_eq_of_lt hlt
  rw [ofInt32, hval, encodeLE_decodeLE_of_length hlen]

theorem Bytes.toInt_toInt32 {bs : Bytes} (hlen : bs.length = 4) (h : ¬ toInt32 bs < 0) :
    (toInt32 bs).toInt = decodeLE bs := by
  have hlt := decodeLE_lt_of_length hlen
  rw [Int32.lt_iff_toInt_lt] at h
  simp only [toInt32, UInt32.toInt32_ofNat', Int32.toInt_ofNat'] at h ⊢
  simp only [Int32.toInt_zero, Int32.size, Int.bmod] at h ⊢
  omega

namespace TextCodec

theorem decode_eq_ok {c : TextCodec} {body : Bytes} {m : Message} :
    c.decode body = .ok m ↔ ∃ text, text.length < 2147483648 ∧ Utf8.valid text ∧
      body = Bytes.encodeLE 4 text.length ++ text ∧ m = .text c.id text := by
  constructor
  · intro h
    unfold decode at h
    split at h
    · cases h
    · rename_i hlong
      simp only at h
      split at h
      · cases h
      · rename_i hneg
        split at h
        · cases h
        · rename_i hshort
          split at h
          · cases h
          · rename_i htrail
            split at h
            · cases h
            · rename_i hvalid
              cases h
              -- the length field is the text's length, so it is the field written for it
              have hhead : (body.take 4).length = 4 := by simp; omega
              have hsize := Bytes.toInt_toInt32 hhead hneg
              have hlen : Bytes.decodeLE (body.take 4) = (body.drop 4).length := by omega
              have hbound : (body.drop 4).length < 2147483648 := by
                have := (Bytes.toInt32 (body.take 4)).toInt_lt
                omega
              have hfield : Bytes.encodeLE 4 (body.drop 4).length = body.take 4 := by
                rw [← hlen, Bytes.encodeLE_decodeLE_of_length hhead]
              refine ⟨body.drop 4, hbound, by simpa using hvalid, ?_, rfl⟩
              rw [hfield, List.take_append_drop]
  · rintro ⟨text, hlen, hvalid, rfl, rfl⟩
    rw [decode_encodeLE c text hlen, if_pos hvalid]

theorem codec_noSignal (c : TextCodec) : c.codec.NoSignal := by
  intro body s h
  obtain ⟨text, -, -, -, h⟩ := decode_eq_ok.mp h
  cases h

end TextCodec

namespace Registry

theorem TextOnly.noSignal {r : Registry} (ht : r.TextOnly) : r.NoSignal := by
  intro c hc
  rw [ht c hc]
  exact TextCodec.codec_noSignal _

theorem encoded_of_unmarshal {r : Registry} (ht : r.TextOnly) {p : Bytes} {m : Message}
    (h : r.unmarshal p = .ok m) :
    ∃ text, (r.find? (Bytes.toInt32 (p.take 4))).isSome ∧ text.length < 2147483648 ∧
      Utf8.valid text ∧
      p = Bytes.ofInt32 (Bytes.toInt32 (p.take 4)) ++ (Bytes.encodeLE 4 text.length ++ text) ∧
      m = .text (Bytes.toInt32 (p.take 4)) text := by
  unfold unmarshal at h
  split at h
  · cases h
  · rename_i hlong
    simp only at h
    split at h
    · cases h
    · split at h
      · cases h
      · rename_i c hc
        split at h
        · cases h
        · rename_i m' hd
          cases h
          rw [find?_text ht hc, TextCodec.codec_decode] at hd
          obtain ⟨text, hlen, hvalid, hbody, rfl⟩ := TextCodec.decode_eq_ok.mp hd
          have hhead : (p.take 4).length = 4 := by simp; omega
          refine ⟨text, by rw [hc]; rfl, hlen, hvalid, ?_, rfl⟩
          rw [Bytes.ofInt32_toInt32 hhead, ← hbody, List.take_append_drop]

/-- A registry of text codecs reads back every payload it writes and writes back every payload
it reads, for type ids of either sign; what it reads is never a control signal. -/
theorem payload_inverse {cs : List TextCodec} {r : Registry}
    (hr : build (cs.map TextCodec.codec) = .ok r) :
    (∀ p m, r.unmarshal p = .ok m →
      ∃ body, m = .text (Bytes.toInt32 (p.take 4)) body ∧
        (r.find? (Bytes.toInt32 (p.take 4))).isSome ∧ r.marshal (some m) = .ok p) ∧
    (∀ id body, (r.find? id).isSome → Utf8.valid body → body.length < 2147483648 →
      ∃ p, r.marshal (some (.text id body)) = .ok p ∧ r.unmarshal p = .ok (.text id body)) ∧
    (∀ p s, r.unmarshal p ≠ .ok (.signal s)) := by
  have ht := build_textOnly hr
  have hread : ∀ p m, r.unmarshal p = .ok m →
      ∃ body, m = .text (Bytes.toInt32 (p.take 4)) body ∧
        (r.find? (Bytes.toInt32 (p.take 4))).isSome ∧ r.marshal (some m) = .ok p := by
    intro p m h
    obtain ⟨text, hc, -, -, hp, rfl⟩ := encoded_of_unmarshal ht h
    exact ⟨text, rfl, hc, (marshal_eq_ok ht).mpr ⟨_, text, rfl, hc, hp⟩⟩
  refine ⟨hread, ?_, ?_⟩
  · intro id body hreg hvalid hlen
    refine ⟨_, (marshal_eq_ok ht).mpr ⟨id, body, rfl, hreg, rfl⟩, ?_⟩
    rw [unmarshal_marshalled (build_unreserved hr) ht hreg body hlen, if_pos hvalid]
  · intro p s h
    obtain ⟨body, hm, -⟩ := hread p _ h
    cases hm

/-- The laws for a registry of one codec with a negative type id. -/
theorem payload_inverse_negative_id :
    build (([⟨-5⟩] : List TextCodec).map TextCodec.codec) = .ok (ofText [⟨-5⟩]) ∧
    (∀ p m, (ofText [⟨-5⟩]).unmarshal p = .ok m →
      ∃ body, m = .text (Bytes.toInt32 (p.take 4)) body ∧
        ((ofText [⟨-5⟩]).find? (Bytes.toInt32 (p.take 4))).isSome ∧
        (ofText [⟨-5⟩]).marshal (some m) = .ok p) ∧
    (∀ id body, ((ofText [⟨-5⟩]).find? id).isSome → Utf8.valid body →
      body.length < 2147483648 →
      ∃ p, (ofText [⟨-5⟩]).marshal (some (.text id body)) = .ok p ∧
        (ofText [⟨-5⟩]).unmarshal p = .ok (.text id body)) ∧
    (∀ p s, (ofText [⟨-5⟩]).unmarshal p ≠ .ok (.signal s)) :=
  have hr : build (([⟨-5⟩] : List TextCodec).map TextCodec.codec) = .ok (ofText [⟨-5⟩]) := rfl
  ⟨hr, payload_inverse hr⟩

end Registry
end FramedLink
