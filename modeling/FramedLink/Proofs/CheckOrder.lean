import FramedLink.Proofs.Wire
import Mathlib.Data.List.Forall2

namespace FramedLink

def firstFailure {ε : Type} (checks : List (Option ε)) : Option ε := checks.findSome? id

section FirstFailure

variable {ε ε' : Type}

@[simp] theorem firstFailure_nil : firstFailure ([] : List (Option ε)) = none := rfl

@[simp] theorem firstFailure_cons_some (e : ε) (cs : List (Option ε)) :
    firstFailure (some e :: cs) = some e := rfl

@[simp] theorem firstFailure_cons_none (cs : List (Option ε)) :
    firstFailure (none :: cs) = firstFailure cs := rfl

theorem firstFailure_map (f : ε → ε') (cs : List (Option ε)) :
    firstFailure (cs.map (Option.map f)) = (firstFailure cs).map f := by
  induction cs with
  | nil => rfl
  | cons c cs ih => cases c <;> simp [ih]

end FirstFailure

namespace TextCodec

/-- The checks the codec makes on a body, in order: room for the length, a length that is not
negative as a signed number, no more bytes asked for than follow, no bytes after the text, and
well-formed UTF-8 text. -/
def bodyChecks (body : Bytes) : List (Option BodyError) :=
  let size := Bytes.toInt32 (body.take 4)
  let text := body.drop 4
  [if body.length < 4 then some .short else none,
   if size < 0 then some (.negativeLength size) else none,
   if size.toInt > text.length then some (.truncated size.toNatClampNeg text.length) else none,
   if size.toInt < text.length then some (.trailing (text.length - size.toNatClampNeg)) else none,
   if !Utf8.valid text then some .invalidUtf8 else none]

theorem decode_eq_firstFailure (c : TextCodec) (body : Bytes) :
    c.decode body = match firstFailure (bodyChecks body) with
      | some e => .error e
      | none => .ok (.text c.id (body.drop 4)) := by
  unfold decode bodyChecks
  dsimp only
  -- both sides test the same conditions in the same order
  split_ifs <;> rfl

end TextCodec

namespace Registry

/-- The checks that reading a payload makes, in order: room for the type id, not the null id, a
registered id, and then the codec's checks of the body after the id, each failure of the body
naming the id. -/
def payloadChecks (r : Registry) (p : Bytes) : List (Option Error) :=
  let id := Bytes.toInt32 (p.take 4)
  [if p.length < 4 then some (.truncatedPayload p.length) else none,
   if id = nullTypeId then some .nullMessage else none,
   if r.find? id = none then some (.unknownType id) else none] ++
  (TextCodec.bodyChecks (p.drop 4)).map (Option.map (.decodeFailed id))

def payloadFaults : List Fault :=
  [.truncatedPayload, .nullMessage, .unknownType, .shortBody, .negativeLength, .shortBody,
    .trailingBytes, .invalidUtf8]

/-- The checks that writing a message makes, in order: a message at all, not a control signal, a
registered type id, and then the codec's, which writes text only and names the type id when it
refuses. -/
def messageChecks (r : Registry) (m : Option Message) : List (Option Error) :=
  [if m = none then some .nilMessage else none,
   match m with
   | some (.signal s) => some (.signalNotSendable s)
   | _ => none,
   match m with
   | some m => if r.find? m.typeId = none then some (.unknownType m.typeId) else none
   | none => none,
   match m with
   | some (.foreign id) => some (.encodeFailed id (.notText id m))
   | _ => none]

theorem unmarshal_eq_firstFailure {r : Registry} (ht : r.TextOnly) (p : Bytes) :
    r.unmarshal p = match firstFailure (r.payloadChecks p) with
      | some e => .error e
      | none => .ok (.text (Bytes.toInt32 (p.take 4)) (p.drop 8)) := by
  unfold unmarshal payloadChecks
  by_cases hshort : p.length < 4
  · simp [hshort]
  by_cases hnull : Bytes.toInt32 (p.take 4) = nullTypeId
  · simp [hshort, hnull]
  cases hc : r.find? (Bytes.toInt32 (p.take 4)) with
  | none => simp [hshort, hnull, hc]
  | some c =>
    -- the codec found is the one of the payload's id, and its body is what follows the id
    obtain rfl := find?_text ht hc
    have htext : (p.drop 4).drop 4 = p.drop 8 := by simp
    simp only [hshort, hnull, hc, if_false, reduceCtorEq, List.cons_append, List.nil_append,
      firstFailure_cons_none, firstFailure_map, TextCodec.codec_decode,
      TextCodec.decode_eq_firstFailure, htext]
    cases firstFailure (TextCodec.bodyChecks (p.drop 4)) <;> rfl

example : (ofText [⟨7⟩]).unmarshal [7, 0, 0, 0, 255, 255, 255, 255, 255] =
    .error (.decodeFailed 7 (.negativeLength (-1))) := by rfl

theorem payloadChecks_faults (r : Registry) (p : Bytes) :
    List.Forall₂ (fun c f => ∀ e ∈ c, e.fault? = some f) (r.payloadChecks p) payloadFaults := by
  simp only [payloadChecks, TextCodec.bodyChecks, payloadFaults, List.cons_append,
    List.nil_append, List.map_cons, List.map_nil, List.forall₂_cons, List.Forall₂.nil, and_true]
  refine ⟨?_, ?_, ?_, ?_, ?_, ?_, ?_, ?_⟩ <;> intro e he <;> split at he <;>
    simp only [Option.mem_def, Option.map_some, Option.map_none, Option.some.injEq, reduceCtorEq]
      at he <;> subst he <;> rfl

theorem marshal_eq_error_iff {r : Registry} (ht : r.TextOnly) (m : Option Message) (e : Error) :
    r.marshal m = .error e ↔ firstFailure (r.messageChecks m) = some e := by
  match m with
  | none => simp [marshal, messageChecks]
  | some (.signal s) => simp [marshal, messageChecks]
  | some (.text id _) | some (.foreign id) =>
    cases hc : r.find? id with
    | none => simp [marshal, messageChecks, Message.typeId, hc]
    | some c =>
      -- the codec is looked up by the message's own id, so it never sees a foreign id
      obtain rfl := find?_text ht hc
      simp [marshal, messageChecks, Message.typeId, hc, TextCodec.encode]

theorem marshal_eq_encodeFailed_iff {r : Registry} (ht : r.TextOnly) (m : Option Message)
    (id : Int32) (e : BodyError) :
    r.marshal m = .error (.encodeFailed id e) ↔
      m = some (.foreign id) ∧ (r.find? id).isSome ∧ e = .notText id m := by
  rw [marshal_eq_error_iff ht]
  match m with
  | none => simp [messageChecks]
  | some (.signal s) => simp [messageChecks]
  | some (.text i body) => cases hc : r.find? i <;> simp [messageChecks, Message.typeId, hc]
  | some (.foreign i) =>
    cases hc : r.find? i with
    | none =>
      -- the lookup fails first, so no refusal of the codec can come
      simp only [messageChecks, Message.typeId, hc]
      simp only [reduceCtorEq, if_false, if_true, firstFailure_cons_none, firstFailure_cons_some,
        Option.some.injEq, Message.foreign.injEq, false_iff, not_and]
      rintro rfl
      simp [hc]
    | some c =>
      simp [messageChecks, Message.typeId, hc]
      rintro rfl
      simp [hc, eq_comm]

theorem marshal_text {r : Registry} (ht : r.TextOnly) {id : Int32} (hid : (r.find? id).isSome)
    (body : Bytes) :
    r.marshal (some (.text id body)) = .ok (Bytes.ofInt32 id ++ (Bytes.encodeLE 4 body.length ++ body)) :=
  (marshal_eq_ok ht).mpr ⟨id, body, rfl, hid, rfl⟩

/-- For a registry of text codecs, reading and writing fail with their first failing check, in
the orders `payloadChecks` and `messageChecks` list; the codec's refusal shows only for a message
that is not text, and every text message of a registered id is written. -/
theorem checks_in_order (cs : List TextCodec) :
    let r := ofText cs
    (∀ p, r.unmarshal p = match firstFailure (r.payloadChecks p) with
      | some e => .error e
      | none => .ok (.text (Bytes.toInt32 (p.take 4)) (p.drop 8))) ∧
    (∀ p, List.Forall₂ (fun c f => ∀ e ∈ c, e.fault? = some f) (r.payloadChecks p)
      payloadFaults) ∧
    (∀ m e, r.marshal m = .error e ↔ firstFailure (r.messageChecks m) = some e) ∧
    (∀ m id e, r.marshal m = .error (.encodeFailed id e) ↔
      m = some (.foreign id) ∧ (r.find? id).isSome ∧ e = .notText id m) ∧
    (∀ id body, (r.find? id).isSome →
      r.marshal (some (.text id body)) =
        .ok (Bytes.ofInt32 id ++ (Bytes.encodeLE 4 body.length ++ body))) :=
  have ht := textOnly_ofText cs
  ⟨unmarshal_eq_firstFailure ht, payloadChecks_faults _, marshal_eq_error_iff ht,
    marshal_eq_encodeFailed_iff ht, fun _ _ hid => marshal_text ht hid _⟩

end Registry
end FramedLink
