import FramedLink.Proofs.Registry
import FramedLink.Server

namespace FramedLink

namespace Registry

/-- Why a registry refuses to frame a message, if it does; the checks in their order: an absent
message, a control signal, a type id with no codec, a message the codec of its id cannot write,
and a payload longer than a frame holds. -/
def refusal (r : Registry) : Option Message → Option Error
  | none => some .nilMessage
  | some (.signal s) => some (.signalNotSendable s)
  | some (.foreign id) =>
    if (r.find? id).isSome then some (.encodeFailed id (.notText id (some (.foreign id))))
    else some (.unknownType id)
  | some (.text id body) =>
    if (r.find? id).isSome then
      if 8 + body.length ≤ Frame.maxPayload then none else some (.payloadTooLarge (8 + body.length))
    else some (.unknownType id)

theorem encodeFrame_eq_ok_iff {r : Registry} (ht : r.TextOnly) {m : Option Message} {f : Bytes} :
    r.encodeFrame m = .ok f ↔ ∃ id body, m = some (.text id body) ∧ (r.find? id).isSome ∧
      8 + body.length ≤ Frame.maxPayload ∧
      f = Bytes.encodeLE 2 (8 + body.length) ++
        (Bytes.ofInt32 id ++ (Bytes.encodeLE 4 body.length ++ body)) := by
  have hlen : ∀ (id : Int32) (body : Bytes),
      (Bytes.ofInt32 id ++ (Bytes.encodeLE 4 body.length ++ body)).length = 8 + body.length := by
    intro id body
    simp only [List.length_append, Bytes.length_ofInt32, Bytes.length_encodeLE]
    omega
  rw [encodeFrame_eq_ok]
  constructor
  · rintro ⟨p, hp, hf⟩
    obtain ⟨id, body, rfl, hc, rfl⟩ := (marshal_eq_ok ht).mp hp
    obtain ⟨hle, rfl⟩ := Frame.encode_eq_ok.mp hf
    exact ⟨id, body, rfl, hc, by rwa [hlen] at hle, by rw [hlen]⟩
  · rintro ⟨id, body, rfl, hreg, hle, rfl⟩
    exact ⟨_, (marshal_eq_ok ht).mpr ⟨id, body, rfl, hreg, rfl⟩,
      Frame.encode_eq_ok.mpr ⟨by rwa [hlen], by rw [hlen]⟩⟩

theorem encodeFrame_eq_error_iff {r : Registry} (ht : r.TextOnly) {m : Option Message} {e : Error} :
    r.encodeFrame m = .error e ↔ r.refusal m = some e := by
  match m with
  | none | some (.signal _) => simp [encodeFrame, marshal, refusal, bind, Except.bind]
  | some (.foreign id) =>
    cases hc : r.find? id with
    | none => simp [encodeFrame, marshal, refusal, bind, Except.bind, Message.typeId, hc]
    | some c =>
      obtain rfl := find?_text ht hc
      simp [encodeFrame, marshal, refusal, bind, Except.bind, Message.typeId, hc, TextCodec.encode]
  | some (.text id body) =>
    cases hc : r.find? id with
    | none => simp [encodeFrame, marshal, refusal, bind, Except.bind, Message.typeId, hc]
    | some c =>
      obtain rfl := find?_text ht hc
      -- the payload is four bytes of type id, four of length, and the body
      have h8 : 4 + (4 + body.length) = 8 + body.length := by omega
      by_cases hle : 8 + body.length ≤ Frame.maxPayload
      · simp [encodeFrame, marshal, refusal, bind, Except.bind, Message.typeId, hc,
          TextCodec.encode, Frame.encode, h8, hle]
      · simp [encodeFrame, marshal, refusal, bind, Except.bind, Message.typeId, hc,
          TextCodec.encode, Frame.encode, h8, hle]

end Registry

namespace Channel

theorem send_eq_ok {c : Channel} {m : Option Message} {c' : Channel} :
    c.send m = .ok c' ↔ c.closed = false ∧ ∃ f, c.registry.encodeFrame m = .ok f ∧
      c' = { c with outbound := c.outbound ++ [f] } := by
  unfold send pushFrame
  cases hc : c.closed <;> cases hf : c.registry.encodeFrame m <;> simp [eq_comm]

theorem send_of_closed {c : Channel} (hc : c.closed = true) (m : Option Message) :
    c.send m = .error .connectionClosed := by
  simp [send, hc]

theorem send_eq_error {c : Channel} (ht : c.registry.TextOnly) {m : Option Message} {e : Error} :
    c.send m = .error e ↔ (c.closed = true ∧ e = .connectionClosed) ∨
      (c.closed = false ∧ c.registry.refusal m = some e) := by
  unfold send pushFrame
  cases hc : c.closed
  · cases hf : c.registry.encodeFrame m with
    | error e' => simp [← Registry.encodeFrame_eq_error_iff ht, hf]
    | ok f =>
      have hr : c.registry.refusal m ≠ some e := fun h => by
        rw [← Registry.encodeFrame_eq_error_iff ht, hf] at h
        cases h
      simp [hr]
  · simp [eq_comm]

end Channel

namespace Server

theorem live_congr {s s' : Server}
    (h : s'.conns.map (fun c => (c.id, c.channel.closed)) =
      s.conns.map (fun c => (c.id, c.channel.closed)))
    (u : ConnId) : s'.live u = s.live u := by
  have hview : ∀ t : Server, t.live u =
      (t.conns.map fun c => (c.id, c.channel.closed)).findIdx? fun x => x.1 == u && !x.2 := by
    intro t
    simp [live, List.findIdx?_map, Function.comp_def]
  rw [hview, hview, h]

theorem live_eq_some {s : Server} {u : ConnId} {k : Nat} (h : s.live u = some k) :
    ∃ conn, s.conns[k]? = some conn ∧ conn.id = u ∧ conn.channel.closed = false := by
  obtain ⟨hk, hp, -⟩ := List.findIdx?_eq_some_iff_getElem.mp h
  simp only [Bool.and_eq_true, beq_iff_eq, Bool.not_eq_eq_eq_not, Bool.not_true] at hp
  exact ⟨_, List.getElem?_eq_getElem hk, hp⟩

/-- The server with `n k` more copies of the frame `f` queued on the connection at position
`k`. -/
def withQueued (s : Server) (f : Bytes) (n : Nat → Nat) : Server :=
  { s with conns := s.conns.mapIdx fun k conn =>
      { conn with channel :=
        { conn.channel with outbound := conn.channel.outbound ++ List.replicate (n k) f } } }

theorem live_withQueued (s : Server) (f : Bytes) (n : Nat → Nat) (u : ConnId) :
    (s.withQueued f n).live u = s.live u := by
  apply live_congr
  apply List.ext_getElem (by simp [withQueued])
  intro k h₁ h₂
  simp [withQueued]

theorem withQueued_zero (s : Server) (f : Bytes) : s.withQueued f (fun _ => 0) = s := by
  cases s
  simp only [withQueued, List.replicate_zero, List.append_nil, Server.mk.injEq, and_true,
    true_and]
  apply List.ext_getElem (by simp)
  intro k h₁ h₂
  simp

theorem withQueued_withQueued (s : Server) (f : Bytes) (n n' : Nat → Nat) :
    (s.withQueued f n).withQueued f n' = s.withQueued f (fun k => n k + n' k) := by
  simp only [withQueued, Server.mk.injEq, and_true, true_and]
  apply List.ext_getElem (by simp)
  intro k h₁ h₂
  simp [← List.replicate_append_replicate]

theorem set_queued {s : Server} {k : Nat} {conn : Connection} (hk : s.conns[k]? = some conn)
    (f : Bytes) :
    { s with conns := (s.conns.set k
        { conn with channel := { conn.channel with outbound := conn.channel.outbound ++ [f] } }) } =
      s.withQueued f (fun j => if j = k then 1 else 0) := by
  obtain ⟨hlt, rfl⟩ := List.getElem?_eq_some_iff.mp hk
  simp only [withQueued, Server.mk.injEq, and_true, true_and]
  apply List.ext_getElem (by simp)
  intro j h₁ h₂
  by_cases hj : j = k
  · subst hj
    simp
  · simp [Ne.symm hj, hj]

/-- Queueing a frame on the connection the table holds under each id of a list, when the table
holds every one of them: each connection gets the frame once per id listed that names it. The
table is the same after each step, since queueing closes no channel. -/
theorem foldl_queue {step : Server × List Error → ConnId → Server × List Error} {f : Bytes}
    (hstep : ∀ t errs u k, t.live u = some k →
      step (t, errs) u = (t.withQueued f (fun j => if j = k then 1 else 0), errs))
    (s : Server) (errs : List Error) (ids : List ConnId) (hlive : ∀ u ∈ ids, (s.live u).isSome)
    (n : Nat → Nat) :
    ids.foldl step (s.withQueued f n, errs) =
      (s.withQueued f (fun k => n k + ids.countP fun u => s.live u = some k), errs) := by
  induction ids generalizing n with
  | nil => simp
  | cons u ids ih =>
    obtain ⟨k, hk⟩ := Option.isSome_iff_exists.mp (hlive u List.mem_cons_self)
    have hk' : (s.withQueued f n).live u = some k := by rw [live_withQueued, hk]
    rw [List.foldl_cons, hstep _ _ _ _ hk', withQueued_withQueued,
      ih (fun v hv => hlive v (List.mem_cons_of_mem _ hv))]
    congr 2
    funext j
    simp only [List.countP_cons, hk]
    by_cases hj : j = k
    · subst hj
      simp only [if_true, decide_true]
      omega
    · simp [hj, Ne.symm hj]

/-- A server's send is all or nothing. A message that does not frame is refused as framing
refuses it. Otherwise, if the table lacks one of the ids, the send fails naming the first such id
in the order listed. Otherwise the one frame is queued on the connection under each id, once per
listing, and the send succeeds: a connection found open when the ids are checked is still open
when its frame is queued. Failing, the send leaves the server as it was. -/
theorem send_outcome (s : Server) (m : Option Message) (ids : List ConnId) :
    (∀ e, s.registry.encodeFrame m = .error e → s.send m ids = .error e) ∧
    (∀ f pre u post, s.registry.encodeFrame m = .ok f → ids = pre ++ u :: post →
      (∀ v ∈ pre, (s.live v).isSome) → s.live u = none →
      s.send m ids = .error (.unknownConnection u)) ∧
    (∀ f, s.registry.encodeFrame m = .ok f → (∀ u ∈ ids, (s.live u).isSome) →
      s.send m ids =
        .ok (s.withQueued f (fun k => ids.countP fun u => s.live u = some k), none)) := by
  refine ⟨fun e he => by simp [send, he], fun f pre u post hf hids hpre hu => ?_,
    fun f hf hlive => ?_⟩
  · have hfind : ids.find? (fun v => (s.live v).isNone) = some u := by
      rw [List.find?_eq_some_iff_append]
      refine ⟨by simp [hu], pre, post, hids, fun v hv => ?_⟩
      simpa using hpre v hv
    simp [send, hf, hfind]
  · have hfind : ids.find? (fun v => (s.live v).isNone) = none := by
      rw [List.find?_eq_none]
      intro v hv
      simpa using Option.isSome_iff_ne_none.mp (hlive v hv)
    simp only [send, hf, hfind]
    rw [show ((s, []) : Server × List Error) = (s.withQueued f (fun _ => 0), []) by
      rw [withQueued_zero], foldl_queue ?_ s [] ids hlive]
    · simp [Error.gather]
    · intro t errs u k hk
      obtain ⟨conn, hconn, -, hclosed⟩ := live_eq_some hk
      simp only [hk, hconn]
      rw [Channel.pushFrame, if_neg (by simp [hclosed])]
      exact congrArg (·, errs) (set_queued hconn f)

end Server
end FramedLink
