import FramedLink.Text.Codec

namespace FramedLink

theorem Bytes.toInt32_ofInt32 (i : Int32) : Bytes.toInt32 (Bytes.ofInt32 i) = i := by
  have hlt : i.toUInt32.toNat < Nat.pow 256 4 := i.toUInt32.toNat_lt
  simp only [Bytes.toInt32, Bytes.ofInt32, Bytes.decodeLE_encodeLE, Nat.mod_eq_of_lt hlt,
    UInt32.ofNat_toNat, Int32.toInt32_toUInt32]

@[simp] theorem Bytes.length_ofInt32 (i : Int32) : (Bytes.ofInt32 i).length = 4 := by
  simp [Bytes.ofInt32]

theorem Bytes.toInt32_encodeLE {n : Nat} (h : n < 2147483648) :
    Bytes.toInt32 (Bytes.encodeLE 4 n) = Int32.ofNat n := by
  have hlt : n < Nat.pow 256 4 := by simp only [Nat.pow_eq]; omega
  simp only [Bytes.toInt32, Bytes.decodeLE_encodeLE, Nat.mod_eq_of_lt hlt, UInt32.toInt32_ofNat']

namespace Frame

theorem encode_eq_ok {payload f : Bytes} :
    encode payload = .ok f ↔
      payload.length ≤ maxPayload ∧ f = Bytes.encodeLE 2 payload.length ++ payload := by
  unfold encode
  split
  · rename_i h
    simp [h, eq_comm]
  · rename_i h
    simp [h]

theorem decode?_append {buf t payload : Bytes} {n : Nat} (h : decode? buf = some (payload, n)) :
    decode? (buf ++ t) = some (payload, n) := by
  match buf, h with
  | lo :: hi :: rest, h =>
    simp only [decode?] at h ⊢
    split at h
    · rename_i hle
      cases h
      simp only [List.cons_append, List.length_append]
      rw [if_pos (by omega), List.take_append_of_le_length hle]
    · cases h

theorem decode?_take {buf payload : Bytes} {n : Nat} (h : decode? buf = some (payload, n)) :
    decode? (buf.take n) = some (payload, n) := by
  match buf, h with
  | lo :: hi :: rest, h =>
    simp only [decode?] at h
    split at h
    · rename_i hle
      cases h
      simp only [List.take_succ_cons, decode?, List.length_take]
      rw [if_pos (by omega), List.take_take]
      simp
    · cases h

theorem split_of_decode? {buf payload : Bytes} {n : Nat} (h : decode? buf = some (payload, n)) :
    split buf = (payload :: (split (buf.drop n)).1, (split (buf.drop n)).2) := by
  rw [split]
  split
  · next p k hd =>
    rw [h] at hd
    cases hd
    rfl
  · next hd => rw [h] at hd; cases hd

theorem split_of_decode?_none {buf : Bytes} (h : decode? buf = none) : split buf = ([], buf) := by
  rw [split]
  split
  · next p k hd => rw [h] at hd; cases hd
  · rfl

theorem split_nil : split [] = ([], []) := split_of_decode?_none rfl

theorem split_take_of_decode? {buf payload : Bytes} {n : Nat} (h : decode? buf = some (payload, n)) :
    split (buf.take n) = ([payload], []) := by
  rw [split_of_decode? (decode?_take h), List.drop_take_self, split_nil]

theorem split_append_of_rest_nil {a : Bytes} (b : Bytes) (h : (split a).2 = []) :
    split (a ++ b) = ((split a).1 ++ (split b).1, (split b).2) := by
  induction a using split.induct with
  | case1 a payload n hd ih =>
    rw [split_of_decode? hd] at h
    have hlen := decode?_length hd
    rw [split_of_decode? (decode?_append hd), List.drop_append_of_le_length hlen.2, ih h,
      split_of_decode? hd]
    simp
  | case2 a hd =>
    rw [split_of_decode?_none hd] at h
    subst h
    simp [split_nil]

theorem split_encode {payload f : Bytes} (h : encode payload = .ok f) : split f = ([payload], []) := by
  have hdec : decode? f = some (payload, f.length) := by
    have : decode? (f ++ []) = some (payload, payload.length + 2) := decode?_encode h
    obtain ⟨-, rfl⟩ := encode_eq_ok.mp h
    simpa [Nat.add_comm] using this
  rw [split_of_decode? hdec, List.drop_length, split_nil]

theorem split_prefix {a b : Bytes} (h : a <+: b) : (split a).1 <+: (split b).1 := by
  induction a using split.induct generalizing b with
  | case1 a payload n hd ih =>
    obtain ⟨t, rfl⟩ := h
    have hlen := decode?_length hd
    rw [split_of_decode? hd, split_of_decode? (decode?_append hd),
      List.drop_append_of_le_length hlen.2]
    exact List.cons_prefix_cons.mpr ⟨rfl, ih (List.prefix_append _ _)⟩
  | case2 a hd =>
    rw [split_of_decode?_none hd]
    exact List.nil_prefix

end Frame

namespace TextCodec

theorem encode_eq_ok {c : TextCodec} {m : Option Message} {b : Bytes} :
    c.encode m = .ok b ↔ ∃ body, m = some (.text c.id body) ∧ b = Bytes.encodeLE 4 body.length ++ body := by
  match m with
  | some (.text id body) =>
    simp only [encode]
    split
    · rename_i h
      subst h
      simp [eq_comm]
    · rename_i h
      simp only [reduceCtorEq, false_iff, not_exists, not_and, Option.some.injEq, Message.text.injEq]
      intro _ h' _
      exact h h'.1
  | some (.signal _) | some (.foreign _) | none => simp [encode]

theorem decode_encodeLE (c : TextCodec) (body : Bytes) (h : body.length < 2147483648) :
    c.decode (Bytes.encodeLE 4 body.length ++ body) =
      if Utf8.valid body then .ok (.text c.id body) else .error .invalidUtf8 := by
  have hsize : Bytes.toInt32 ((Bytes.encodeLE 4 body.length ++ body).take 4) = Int32.ofNat body.length := by
    rw [List.take_left' (Bytes.length_encodeLE 4 _), Bytes.toInt32_encodeLE h]
  have hrest : (Bytes.encodeLE 4 body.length ++ body).drop 4 = body :=
    List.drop_left' (Bytes.length_encodeLE 4 _)
  have hint : (Int32.ofNat body.length).toInt = body.length := Int32.toInt_ofNat_of_lt h
  have hnn : ¬ Int32.ofNat body.length < 0 := by
    rw [Int32.lt_iff_toInt_lt, hint]
    simp
  have hlong : ¬ (Bytes.encodeLE 4 body.length ++ body).length < 4 := by simp
  simp only [decode, if_neg hlong, hsize, hrest, if_neg hnn, hint, Int.lt_irrefl, if_false]
  cases Utf8.valid body <;> rfl

end TextCodec

namespace Registry

theorem find?_id {r : Registry} {id : Int32} {c : Codec} (h : r.find? id = some c) : c.id = id := by
  simpa using List.find?_some h

theorem mem_of_find? {r : Registry} {id : Int32} {c : Codec} (h : r.find? id = some c) : c ∈ r.codecs :=
  List.mem_of_find?_eq_some h

def TextOnly (r : Registry) : Prop := ∀ c ∈ r.codecs, c = TextCodec.codec ⟨c.id⟩

theorem textOnly_ofText (cs : List TextCodec) : (ofText cs).TextOnly := by
  intro c hc
  obtain ⟨t, -, rfl⟩ := List.mem_map.mp hc
  rfl

theorem find?_text {r : Registry} (ht : r.TextOnly) {id : Int32} {c : Codec}
    (h : r.find? id = some c) : c = TextCodec.codec ⟨id⟩ := by
  rw [ht c (mem_of_find? h), find?_id h]

def Unreserved (r : Registry) : Prop := ∀ c ∈ r.codecs, reserved c.id = false

theorem addAll_unreserved {r r' : Registry} {cs : List Codec} (hr : r.Unreserved)
    (h : r.addAll cs = .ok r') : r'.Unreserved ∧ r'.codecs = r.codecs ++ cs := by
  induction cs generalizing r with
  | nil =>
    simp only [addAll, Except.ok.injEq] at h
    exact h ▸ ⟨hr, by simp⟩
  | cons c cs ih =>
    simp only [addAll] at h
    split at h
    · cases h
    · split at h
      · cases h
      · rename_i hres _
        have hr' : Unreserved ⟨r.codecs ++ [c]⟩ := by
          intro d hd
          rcases List.mem_append.mp hd with hd | hd
          · exact hr d hd
          · simp only [List.mem_singleton] at hd
            subst hd
            simpa using hres
        obtain ⟨hu, hcs⟩ := ih hr' h
        exact ⟨hu, by simp [hcs]⟩

theorem build_unreserved {cs : List Codec} {r : Registry} (h : build cs = .ok r) : r.Unreserved :=
  (addAll_unreserved (by simp [Unreserved, empty]) h).1

theorem build_ofText {cs : List TextCodec} {r : Registry}
    (h : build (cs.map TextCodec.codec) = .ok r) : r = ofText cs := by
  have hcs := (addAll_unreserved (by simp [Unreserved, empty]) h).2
  cases r
  simpa [ofText, empty] using hcs

theorem build_textOnly {cs : List TextCodec} {r : Registry}
    (h : build (cs.map TextCodec.codec) = .ok r) : r.TextOnly :=
  build_ofText h ▸ textOnly_ofText cs

theorem unmarshalAll_append_of_ok {r : Registry} {ps : List Bytes} {D : List Message}
    (h : r.unmarshalAll ps = (D, none)) (qs : List Bytes) :
    r.unmarshalAll (ps ++ qs) = (D ++ (r.unmarshalAll qs).1, (r.unmarshalAll qs).2) := by
  induction ps generalizing D with
  | nil =>
    simp only [unmarshalAll, Prod.mk.injEq] at h
    obtain ⟨rfl, -⟩ := h
    rfl
  | cons p ps ih =>
    simp only [List.cons_append, unmarshalAll] at h ⊢
    cases hp : r.unmarshal p with
    | error e => simp [hp] at h
    | ok m =>
      simp only [hp, Prod.mk.injEq] at h ⊢
      obtain ⟨rfl, hnone⟩ := h
      have hrest : r.unmarshalAll ps = ((r.unmarshalAll ps).1, none) := Prod.ext rfl hnone
      rw [ih hrest]
      simp

theorem unmarshalAll_prefix (r : Registry) (ps qs : List Bytes) :
    (r.unmarshalAll ps).1 <+: (r.unmarshalAll (ps ++ qs)).1 := by
  induction ps with
  | nil => exact List.nil_prefix
  | cons p ps ih =>
    simp only [List.cons_append, unmarshalAll]
    cases r.unmarshal p with
    | error e => exact List.prefix_refl _
    | ok m => exact List.cons_prefix_cons.mpr ⟨rfl, ih⟩

theorem marshal_eq_ok {r : Registry} (ht : r.TextOnly) {m : Option Message} {p : Bytes} :
    r.marshal m = .ok p ↔ ∃ id body, m = some (.text id body) ∧ (r.find? id).isSome ∧
      p = Bytes.ofInt32 id ++ (Bytes.encodeLE 4 body.length ++ body) := by
  constructor
  · intro h
    match m with
    | none => simp [marshal] at h
    | some (.signal s) => simp [marshal] at h
    | some (.foreign id) =>
      simp only [marshal] at h
      split at h
      · cases h
      · rename_i c hc
        obtain rfl := find?_text ht hc
        simp [TextCodec.encode] at h
    | some (.text id body) =>
      simp only [marshal] at h
      split at h
      · cases h
      · rename_i c hc
        obtain rfl := find?_text ht hc
        split at h
        · cases h
        · rename_i b hb
          rw [TextCodec.codec_encode] at hb
          obtain ⟨body', hm, rfl⟩ := TextCodec.encode_eq_ok.mp hb
          simp only [Option.some.injEq, Message.text.injEq] at hm
          obtain ⟨-, rfl⟩ := hm
          cases h
          simp only [Message.typeId] at hc
          exact ⟨id, body, rfl, by rw [hc]; rfl, rfl⟩
  · rintro ⟨id, body, rfl, hc, rfl⟩
    obtain ⟨c, hc⟩ := Option.isSome_iff_exists.mp hc
    obtain rfl := find?_text ht hc
    simp [marshal, Message.typeId, hc, TextCodec.encode]

theorem unmarshal_marshalled {r : Registry} (hr : r.Unreserved) (ht : r.TextOnly) {id : Int32}
    (hc : (r.find? id).isSome) (body : Bytes) (hlen : body.length < 2147483648) :
    r.unmarshal (Bytes.ofInt32 id ++ (Bytes.encodeLE 4 body.length ++ body)) =
      if Utf8.valid body then .ok (.text id body) else .error (.decodeFailed id .invalidUtf8) := by
  obtain ⟨c, hc⟩ := Option.isSome_iff_exists.mp hc
  have hid : Bytes.toInt32 ((Bytes.ofInt32 id ++ (Bytes.encodeLE 4 body.length ++ body)).take 4) = id := by
    rw [List.take_left' (Bytes.length_ofInt32 _), Bytes.toInt32_ofInt32]
  have hbody : (Bytes.ofInt32 id ++ (Bytes.encodeLE 4 body.length ++ body)).drop 4 =
      Bytes.encodeLE 4 body.length ++ body :=
    List.drop_left' (Bytes.length_ofInt32 _)
  have hnull : id ≠ nullTypeId := by
    have := hr c (mem_of_find? hc)
    simp only [reserved, Bool.or_eq_false_iff, beq_eq_false_iff_ne, find?_id hc] at this
    exact this.1
  have hlong : ¬ (Bytes.ofInt32 id ++ (Bytes.encodeLE 4 body.length ++ body)).length < 4 := by simp
  obtain rfl := find?_text ht hc
  simp only [unmarshal, if_neg hlong, hid, if_neg hnull, hc, hbody, TextCodec.codec_decode,
    TextCodec.decode_encodeLE _ body hlen]
  cases Utf8.valid body <;> rfl

theorem encodeFrame_eq_ok {r : Registry} {m : Option Message} {f : Bytes} :
    r.encodeFrame m = .ok f ↔ ∃ p, r.marshal m = .ok p ∧ Frame.encode p = .ok f := by
  simp only [encodeFrame]
  cases r.marshal m with
  | error e => simp [bind, Except.bind]
  | ok p => simp [bind, Except.bind]

end Registry

theorem Registry.frame_of_encodeFrame {cs : List TextCodec} {r : Registry} {m : Option Message}
    {f : Bytes} (hr : Registry.build (cs.map TextCodec.codec) = .ok r) (hf : r.encodeFrame m = .ok f) :
    ∃ id body p, m = some (.text id body) ∧ Frame.decode? f = some (p, f.length) ∧
      Frame.split f = ([p], []) ∧
      r.unmarshal p =
        if Utf8.valid body then .ok (.text id body) else .error (.decodeFailed id .invalidUtf8) := by
  have ht := Registry.build_textOnly hr
  obtain ⟨p, hp, hframe⟩ := Registry.encodeFrame_eq_ok.mp hf
  obtain ⟨id, body, rfl, hc, rfl⟩ := (Registry.marshal_eq_ok ht).mp hp
  have hsplit := Frame.split_encode hframe
  obtain ⟨hsize, rfl⟩ := Frame.encode_eq_ok.mp hframe
  have hlen : body.length < 2147483648 := by
    simp only [List.length_append, Bytes.length_ofInt32, Bytes.length_encodeLE,
      Frame.maxPayload] at hsize
    omega
  refine ⟨id, body, _, rfl, ?_, hsplit,
    Registry.unmarshal_marshalled (Registry.build_unreserved hr) ht hc body hlen⟩
  have hdec : Frame.decode? (_ ++ []) = _ := Frame.decode?_encode hframe
  simpa [List.length_append, Bytes.length_encodeLE, Nat.add_comm] using hdec

/-- The frame of every message a sender accepts is one whole frame, and its payload reads back
as the message exactly when the body is well-formed UTF-8; otherwise the receiver refuses it as
`invalidUtf8`, which ends the receiving connection. -/
theorem sent_frame_decodes {cs : List TextCodec} {r : Registry} {m : Option Message} {f : Bytes}
    (hr : Registry.build (cs.map TextCodec.codec) = .ok r) (hf : r.encodeFrame m = .ok f) :
    ∃ id body p, m = some (.text id body) ∧ Frame.decode? f = some (p, f.length) ∧
      r.unmarshal p =
        if Utf8.valid body then .ok (.text id body) else .error (.decodeFailed id .invalidUtf8) := by
  obtain ⟨id, body, p, hm, hd, -, hu⟩ := Registry.frame_of_encodeFrame hr hf
  exact ⟨id, body, p, hm, hd, hu⟩

theorem sent_frame_decodes_text :
    Registry.build (([⟨7⟩] : List TextCodec).map TextCodec.codec) = .ok (Registry.ofText [⟨7⟩]) ∧
      (Registry.ofText [⟨7⟩]).encodeFrame (some (.text 7 [104, 105])) =
        .ok [10, 0, 7, 0, 0, 0, 2, 0, 0, 0, 104, 105] ∧
      ∃ id body p, some (Message.text 7 [104, 105]) = some (.text id body) ∧
        Frame.decode? [10, 0, 7, 0, 0, 0, 2, 0, 0, 0, 104, 105] = some (p, 12) ∧
        (Registry.ofText [⟨7⟩]).unmarshal p =
          if Utf8.valid body then .ok (.text id body) else .error (.decodeFailed id .invalidUtf8) :=
  have hr : Registry.build (([⟨7⟩] : List TextCodec).map TextCodec.codec) =
      .ok (Registry.ofText [⟨7⟩]) := rfl
  have hf : (Registry.ofText [⟨7⟩]).encodeFrame (some (.text 7 [104, 105])) =
      .ok [10, 0, 7, 0, 0, 0, 2, 0, 0, 0, 104, 105] := rfl
  ⟨hr, hf, sent_frame_decodes hr hf⟩

/-- A body that is not UTF-8 is sent, and the receiver refuses its frame. -/
theorem invalid_utf8_frame_refused :
    Registry.build (([⟨7⟩] : List TextCodec).map TextCodec.codec) = .ok (Registry.ofText [⟨7⟩]) ∧
      (Registry.ofText [⟨7⟩]).encodeFrame (some (.text 7 [255])) =
        .ok [9, 0, 7, 0, 0, 0, 1, 0, 0, 0, 255] ∧
      Frame.decode? [9, 0, 7, 0, 0, 0, 1, 0, 0, 0, 255] = some ([7, 0, 0, 0, 1, 0, 0, 0, 255], 11) ∧
      (Registry.ofText [⟨7⟩]).unmarshal [7, 0, 0, 0, 1, 0, 0, 0, 255] =
        .error (.decodeFailed 7 .invalidUtf8) := by
  have hr : Registry.build (([⟨7⟩] : List TextCodec).map TextCodec.codec) =
      .ok (Registry.ofText [⟨7⟩]) := rfl
  have hv : Utf8.valid [255] = false := by
    rw [Utf8.valid, Utf8.decode?]
    rfl
  have hu := Registry.unmarshal_marshalled (Registry.build_unreserved hr)
    (Registry.textOnly_ofText _) (rfl : ((Registry.ofText [⟨7⟩]).find? 7).isSome = true) [255]
    (by decide)
  rw [hv] at hu
  exact ⟨hr, rfl, rfl, hu⟩

end FramedLink
