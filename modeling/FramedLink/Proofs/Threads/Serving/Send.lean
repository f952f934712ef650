import FramedLink.Proofs.Threads.Serving.Callers

namespace FramedLink.Threads.World

variable {w : World} {j : Nat}

theorem hooks_push {m : Option Message} {f : Bytes} (h : w.callers j = .pushing m f) :
    hooks (w.callerStep j).log = hooks w.log := by
  simp only [callerStep, h]
  split <;> simp [Event.hook?]

theorem queueClosed_push {m : Option Message} {f : Bytes} (h : w.callers j = .pushing m f) :
    (w.callerStep j).queueClosed = w.queueClosed := by
  simp only [callerStep, h]
  split <;> rfl

end FramedLink.Threads.World

namespace FramedLink.Threads.Serving

theorem Conn.advance_push {c : Conn} {j : Nat} {m : Option Message} {f : Bytes}
    (h : c.chan.callers j = .pushing m f) :
    (c.advance (.run (.caller j))).chan = c.chan.callerStep j := by
  have hm : hookMoves c.chan (c.chan.step (.run (.caller j))) = [] := by
    simp [hookMoves, Threads.World.step, Threads.World.hooks_push h]
  simp [Conn.advance, hm]
  rfl

namespace World

def pushCalls (m : Option Message) (f : Bytes) (ks : List Nat) : List (Nat × CallerAt) :=
  ks.map fun k => (k, .pushing m f)

@[simp] theorem pushCalls_nil (m : Option Message) (f : Bytes) : pushCalls m f [] = [] := rfl

@[simp] theorem pushCalls_cons (m : Option Message) (f : Bytes) (k : Nat) (ks : List Nat) :
    pushCalls m f (k :: ks) = (k, .pushing m f) :: pushCalls m f ks := rfl

theorem exists_conn {x : World} {k : Nat} (h : (x.chanAt k).isSome) :
    ∃ c, x.conns[k]? = some c ∧ x.chanAt k = some c.chan := by
  obtain ⟨ch, hch⟩ := Option.isSome_iff_exists.mp h
  obtain ⟨c, hc, rfl⟩ := Option.map_eq_some_iff.mp hch
  exact ⟨c, hc, hch⟩

theorem idAt_step (x : World) (a : Act) {k : Nat} {u : ConnId} (h : x.idAt k = some u) :
    (x.step a).idAt k = some u := by
  cases hop : a.opBy with
  | some i =>
    rcases step_op hop with hs | ⟨-, ho⟩
    · rwa [hs]
    · exact ho.ids k u h
  | none =>
    cases a with
    | run i => rwa [step, idAt_runCaller]
    | chan k' b => rwa [step, idAt_chanStep]
    | hook k' => rwa [step, idAt_hookStep]
    | receive => rwa [step, (receive_idAt_resultsOf x 0).1]
    | add | send | disconnect | disconnectAll | close | dispose => cases hop

theorem isSome_chanAt_of_idAt {x : World} {k : Nat} {u : ConnId} (h : x.idAt k = some u) :
    (x.chanAt k).isSome := by
  obtain ⟨c, hc, -⟩ := Option.map_eq_some_iff.mp h
  simp [chanAt, hc]

/-- Of the returns `rs` of calls on the connections `ks`, in order, those of the calls on
connection `k`. -/
def onChannel {α : Type} (k : Nat) (ks : List Nat) (rs : List α) : List α :=
  (ks.zip rs).filterMap fun p => if p.1 = k then some p.2 else none

/-- The failures among the returns `rs` of a `send`'s calls for the ids `us`, in order, each
wrapped with the id it was for. -/
def sendFailures (us : List ConnId) (rs : List (Except Error Bytes)) : List Error :=
  (us.zip rs).filterMap fun p => (CallReturn.send p.2).failure p.1

theorem zip_concat {α β : Type} {l : List α} {rs : List β} {a : α} (h : l[rs.length]? = some a)
    (r : β) : l.zip (rs ++ [r]) = l.zip rs ++ [(a, r)] := by
  induction rs generalizing l with
  | nil =>
    obtain ⟨l', rfl⟩ : ∃ l', l = a :: l' := by
      cases l with
      | nil => cases h
      | cons b l' => exact ⟨l', by simpa using h⟩
    simp
  | cons r' rs ih =>
    cases l with
    | nil => cases h
    | cons b l' =>
      simp only [List.length_cons, List.getElem?_cons_succ] at h
      simp [ih h]

theorem onChannel_concat {α : Type} {ks : List Nat} {rs : List α} {k' : Nat}
    (h : ks[rs.length]? = some k') (r : α) (k : Nat) :
    onChannel k ks (rs ++ [r]) = onChannel k ks rs ++ if k' = k then [r] else [] := by
  rw [onChannel, zip_concat h, List.filterMap_append]
  split <;> simp [*, onChannel]

theorem sendFailures_concat {us : List ConnId} {rs : List (Except Error Bytes)} {u : ConnId}
    (h : us[rs.length]? = some u) (r : Except Error Bytes) :
    sendFailures us (rs ++ [r]) = sendFailures us rs ++ ((CallReturn.send r).failure u).toList := by
  rw [sendFailures, zip_concat h, List.filterMap_append]
  cases hf : (CallReturn.send r).failure u <;> simp [hf, sendFailures]

theorem mem_zip_getElem? {α β : Type} {l : List α} {l' : List β} {n : Nat} {a : α} {b : β}
    (ha : l[n]? = some a) (hb : l'[n]? = some b) : (a, b) ∈ l.zip l' := by
  rw [List.mem_iff_getElem?]
  exact ⟨n, by simp [List.getElem?_zip_eq_some, ha, hb]⟩

/-- Where caller `j` is in a `send` of frame `f` of `m` to the connections `ks`, listed under the
ids `us`, whose calls have returned `rs`. -/
inductive Phase (j : Nat) (m : Option Message) (f : Bytes) (ks : List Nat) (us : List ConnId)
    (x : World) : List (Except Error Bytes) → Prop
  | calls {rs : List (Except Error Bytes)} :
      x.callers j = .calls (pushCalls m f (ks.drop rs.length)) false (sendFailures us rs) →
      Phase j m f ks us x rs
  | pushing {rs : List (Except Error Bytes)} {k : Nat} : ks[rs.length]? = some k →
      x.callers j = .await k (pushCalls m f (ks.drop (rs.length + 1))) false (sendFailures us rs) →
      x.callerAt j k = .pushing m f → Phase j m f ks us x rs
  | returned {rs : List (Except Error Bytes)} {k : Nat} {r : Except Error Bytes} :
      ks[rs.length]? = some k →
      x.callers j = .await k (pushCalls m f (ks.drop (rs.length + 1))) false (sendFailures us rs) →
      x.callerAt j k = .idle → (x.returnsAt j k).getLast? = some (.send r) →
      Phase j m f ks us x (rs ++ [r])
  | idle {rs : List (Except Error Bytes)} : ks.length ≤ rs.length → x.callers j = .idle →
      Phase j m f ks us x rs

theorem Phase.congr {j : Nat} {m : Option Message} {f : Bytes} {ks : List Nat} {us : List ConnId}
    {x x' : World} {rs : List (Except Error Bytes)} (h : Phase j m f ks us x rs)
    (hs : SameFor j x x') : Phase j m f ks us x' rs := by
  cases h with
  | calls hw => exact .calls (hs.callers ▸ hw)
  | pushing hn hw hk => exact .pushing hn (hs.callers ▸ hw) (hs.callerAt _ ▸ hk)
  | returned hn hw hk hr =>
    exact .returned hn (hs.callers ▸ hw) (hs.callerAt _ ▸ hk) (hs.returnsAt _ ▸ hr)
  | idle hl hw => exact .idle hl (hs.callers ▸ hw)

/-- Caller `j` is in a `send`, begun in `w`, of frame `f` of `m` to the connections `ks` listed
under the ids `us`; its calls have returned `rs`, in order. Each channel records, of `j`'s
sends since `w`, the returns of the calls on it; a call queued the frame on a queue open in `w`,
or found the queue closed; and the `send` has returned, with its failures gathered, exactly
when `j` is idle again. -/
structure SendAt (j : Nat) (m : Option Message) (f : Bytes) (ks : List Nat) (us : List ConnId)
    (w : World) (rs : List (Except Error Bytes)) (x : World) : Prop where
  ids : ∀ p ∈ ks.zip us, x.idAt p.1 = some p.2
  length_eq : ks.length = us.length
  length_le : rs.length ≤ ks.length
  phase : Phase j m f ks us x rs
  sends : ∀ k, x.sendsAt j k = w.sendsAt j k ++ onChannel k ks rs
  returns : ∀ p ∈ ks.zip rs, (p.2 = .ok f ∧ w.closedAt p.1 = false) ∨
    (p.2 = .error .connectionClosed ∧ x.closedAt p.1 = true)
  shut_closed : ∀ k, w.closedAt k = true → x.closedAt k = true
  busy : x.callers j ≠ .idle → resultsOf j x.log = resultsOf j w.log
  done : x.callers j = .idle → resultsOf j x.log = resultsOf j w.log ++ [Error.gather (sendFailures us rs)]

namespace SendAt

variable {j : Nat} {m : Option Message} {f : Bytes} {ks : List Nat} {us : List ConnId} {w : World}
  {rs : List (Except Error Bytes)} {x : World}

theorem of_sameFor (h : SendAt j m f ks us w rs x) {x' : World} (hs : SameFor j x x')
    (hid : ∀ k u, x.idAt k = some u → x'.idAt k = some u) : SendAt j m f ks us w rs x' where
  ids p hp := hid _ _ (h.ids p hp)
  length_eq := h.length_eq
  length_le := h.length_le
  phase := h.phase.congr hs
  sends k := by rw [hs.sendsAt, h.sends]
  returns p hp := (h.returns p hp).imp_right fun hr => ⟨hr.1, hs.closed _ hr.2⟩
  shut_closed k hk := hs.closed k (h.shut_closed k hk)
  busy hb := by rw [hs.results, h.busy (hs.callers ▸ hb)]
  done hd := by rw [hs.results, h.done (hs.callers ▸ hd)]

theorem target (h : SendAt j m f ks us w rs x) {n : Nat} {k : Nat} (hk : ks[n]? = some k) :
    ∃ c u, x.conns[k]? = some c ∧ us[n]? = some u ∧ c.id = u := by
  have hn : n < us.length := h.length_eq ▸ (List.getElem?_eq_some_iff.mp hk).1
  obtain ⟨c, hc, hid⟩ :=
    Option.map_eq_some_iff.mp (h.ids _ (mem_zip_getElem? hk (List.getElem?_eq_getElem hn)))
  exact ⟨c, us[n], hc, List.getElem?_eq_getElem hn, hid⟩

theorem moved (h : SendAt j m f ks us w rs x) {x' : World} (hid : x'.idAt = x.idAt)
    (hs : ∀ k, x'.sendsAt j k = x.sendsAt j k) (hq : x'.closedAt = x.closedAt) (hl : x'.log = x.log)
    (hidle : x.callers j ≠ .idle) (hidle' : x'.callers j ≠ .idle)
    (hp : Phase j m f ks us x' rs) : SendAt j m f ks us w rs x' where
  ids p hp := by rw [hid]; exact h.ids p hp
  length_eq := h.length_eq
  length_le := h.length_le
  phase := hp
  sends k := by rw [hs, h.sends]
  returns p hp := by rw [hq]; exact h.returns p hp
  shut_closed k hk := by rw [hq]; exact h.shut_closed k hk
  busy _ := by rw [hl, h.busy hidle]
  done hd := absurd hd hidle'

theorem callerAt_cases (h : SendAt j m f ks us w rs x) (hc : CallsIdle x) (k : Nat) :
    x.callerAt j k = .idle ∨
      x.callerAt j k = .pushing m f ∧ ks[rs.length]? = some k ∧
        x.callers j = .await k (pushCalls m f (ks.drop (rs.length + 1))) false (sendFailures us rs) := by
  by_cases hk : x.callerAt j k = .idle
  · exact .inl hk
  right
  obtain ⟨todo, d, failed, hw⟩ := hc j k hk
  cases h.phase with
  | calls hw' => rw [hw] at hw'; cases hw'
  | pushing hn hw' hk' =>
    obtain ⟨rfl, -⟩ := Doing.await.inj (hw.symm.trans hw')
    exact ⟨hk', hn, hw'⟩
  | returned hn hw' hk' =>
    obtain ⟨rfl, -⟩ := Doing.await.inj (hw.symm.trans hw')
    exact absurd hk' hk
  | idle hl hw' => rw [hw] at hw'; cases hw'

theorem drop_of_getElem? {k : Nat} {n : Nat} (hk : ks[n]? = some k) :
    ks.drop n = k :: ks.drop (n + 1) := by
  obtain ⟨hn, rfl⟩ := List.getElem?_eq_some_iff.mp hk
  exact List.drop_eq_getElem_cons hn

theorem runCaller_self (h : SendAt j m f ks us w rs x) (hc : CallsIdle x) :
    SendAt j m f ks us w rs (x.runCaller j) := by
  cases hp : h.phase with
  | calls hw =>
    cases hrest : ks.drop rs.length with
    | nil =>
      -- the last call has been taken in: the `send` returns its failures
      rw [hrest] at hw
      rw [runCaller_calls_nil hw, if_neg (by simp)]
      exact { h with
        ids := fun p hp => by rw [idAt_setDoing, idAt_note]; exact h.ids p hp
        phase := .idle (List.drop_eq_nil_iff.mp hrest) (by simp)
        busy := fun hb => absurd (by simp) hb
        done := fun _ => by simp [h.busy (by simp [hw]), Note.resultOf] }
    | cons k rest =>
      -- the next call: the caller is outside that channel, as on every other
      have hn : ks[rs.length]? = some k := by
        rw [← List.head?_drop, hrest]
        rfl
      rw [drop_of_getElem? hn, pushCalls_cons] at hw
      obtain ⟨c, -, hc', -, -⟩ := h.target hn
      have hch := chanAt_of_conn hc'
      have hidle : c.chan.callers j = .idle := by
        rw [← callerAt_of hch]
        exact hc.idle_of_not_await (by simp [hw]) k
      rw [runCaller_call hw hc', Threads.World.call_of_idle hidle]
      refine h.moved (by rw [idAt_setDoing]; exact idAt_setConn x hc' rfl) (fun k' => ?_)
        (by rw [closedAt_setDoing]; exact closedAt_setConn_eq x hc' rfl) rfl (by simp [hw])
        (by simp) (.pushing hn (by simp) (by simp [callerAt, chanAt_setConn x hc']))
      rw [sendsAt_setDoing, sendsAt_setConn x hc']
      split
      · next hk => rw [hk, Threads.World.setCaller_log, ← sendsAt_of hch]
      · rfl
  | pushing hn hw hk =>
    obtain ⟨c, -, hc', -, -⟩ := h.target hn
    rw [runCaller_await_busy hw hc' (by rw [← callerAt_of (chanAt_of_conn hc'), hk]; simp)]
    exact h
  | @returned rs' k r hn hw hk hr =>
    -- the caller takes in what its call returned, wrapped with the id it was for
    obtain ⟨c, u, hc', hu, hid⟩ := h.target hn
    have hch := chanAt_of_conn hc'
    have hi : c.chan.callers j = .idle := by rw [← callerAt_of hch]; exact hk
    have hfail : (c.failureOf j).toList = ((CallReturn.send r).failure u).toList := by
      rw [Conn.failureOf, ← returnsAt_of hch, hr, hid]
      rfl
    rw [runCaller_await_idle hw hc' hi, hfail, ← sendFailures_concat hu]
    refine h.moved rfl (fun _ => rfl) rfl rfl (by simp [hw]) (by simp) (.calls ?_)
    simp [List.length_append]
  | idle hl hw =>
    rw [runCaller_idle hw]
    exact h

/-- A push fails exactly when the queue is closed; a queue closed in `w` is still closed, so one
that was pushed to was open then. -/
theorem pushReturn_cases {wc xc qc : Bool} (hx : xc = qc) (hw : wc = true → xc = true) :
    ((if qc then .error .connectionClosed else .ok f : Except Error Bytes) = .ok f ∧ wc = false) ∨
      ((if qc then .error .connectionClosed else .ok f : Except Error Bytes) =
        .error .connectionClosed ∧ xc = true) := by
  cases qc with
  | false => exact .inl ⟨rfl, Bool.eq_false_iff.mpr fun hc => by simpa [hx] using hw hc⟩
  | true => exact .inr ⟨rfl, hx⟩

theorem chanStep (h : SendAt j m f ks us w rs x) (hc : CallsIdle x) (k : Nat) (b : Threads.Act) :
    ∃ rs', SendAt j m f ks us w rs' (x.chanStep k b) := by
  have hid : ∀ k' u, x.idAt k' = some u → (x.chanStep k b).idAt k' = some u := by
    rw [idAt_chanStep]
    exact fun _ _ => id
  rcases h.callerAt_cases hc k with hidle | ⟨hpush, hn, hw⟩
  · exact ⟨rs, h.of_sameFor (sameFor_chanStep (by rw [hidle]; rfl) fun _ => hidle) hid⟩
  by_cases hb : b ≠ .run (.caller j)
  · exact ⟨rs, h.of_sameFor (sameFor_chanStep (by rw [hpush]; rfl) fun hb' => absurd hb' hb) hid⟩
  obtain rfl : b = .run (.caller j) := Classical.byContradiction hb
  rcases chanStep_cases x k (.run (.caller j)) with he | ⟨-, -, c, hc', he⟩
  · rw [he]
    exact ⟨rs, h⟩
  -- the push returns
  have hch := chanAt_of_conn hc'
  have hcp : c.chan.callers j = .pushing m f := by rw [← callerAt_of hch]; exact hpush
  obtain ⟨hidle', hsends⟩ := c.chan.push_callerStep j hcp
  have hadv := Conn.advance_push hcp
  have hq : (x.setConn k (c.advance (.run (.caller j)))).closedAt = x.closedAt :=
    closedAt_setConn_eq x hc' (by rw [hadv, Threads.World.queueClosed_push hcp])
  have hlen : rs.length < ks.length := (List.getElem?_eq_some_iff.mp hn).1
  rw [he]
  refine ⟨rs ++ [if c.chan.queueClosed then .error .connectionClosed else .ok f],
    { ids := fun p hp => by rw [idAt_setConn x hc' (c.id_advance _)]; exact h.ids p hp
      length_eq := h.length_eq
      length_le := by simp; omega
      phase := .returned hn (by simpa using hw) ?_ ?_
      sends := fun k' => ?_
      returns := fun p hp => ?_
      shut_closed := fun k' hk => by rw [hq]; exact h.shut_closed k' hk
      busy := fun _ => by simpa using h.busy (by simp [hw])
      done := fun hd => by simp [hw] at hd }⟩
  · simp [callerAt_setConn x hc', hadv, hidle']
  · rw [returnsAt_setConn x hc', if_pos rfl, hadv, c.chan.returnsOf_push j hcp]
    simp
  · rw [sendsAt_setConn x hc', h.sends, onChannel_concat hn]
    split
    · next hk =>
      subst hk
      rw [hadv, hsends, ← sendsAt_of hch, h.sends, if_pos rfl, List.append_assoc]
    · next hk => rw [if_neg (Ne.symm hk), List.append_nil]
  · rw [zip_concat hn] at hp
    rcases List.mem_append.mp hp with hp | hp
    · rw [hq]
      exact h.returns p hp
    · obtain rfl := List.mem_singleton.mp hp
      rw [hq]
      exact pushReturn_cases (closedAt_of hch) (h.shut_closed k)

theorem step (h : SendAt j m f ks us w rs x) (hc : CallsIdle x) {a : Act}
    (ha : a.opBy ≠ some j) : ∃ rs', SendAt j m f ks us w rs' (x.step a) := by
  have hid : ∀ k u, x.idAt k = some u → (x.step a).idAt k = some u := fun _ _ => idAt_step x a
  cases hop : a.opBy with
  | some i =>
    have hij : i ≠ j := fun hij => ha (hij ▸ hop)
    rcases step_op hop with hs | ⟨-, ho⟩
    · rw [hs]
      exact ⟨rs, h⟩
    · exact ⟨rs, h.of_sameFor (ho.sameFor hij) hid⟩
  | none =>
    cases a with
    | run i =>
      by_cases hij : i = j
      · subst hij
        exact ⟨rs, h.runCaller_self hc⟩
      · exact ⟨rs, h.of_sameFor (sameFor_runCaller hij) hid⟩
    | chan k b => exact h.chanStep hc k b
    | hook k => exact ⟨rs, h.of_sameFor (sameFor_hookStep k) hid⟩
    | receive => exact ⟨rs, h.of_sameFor sameFor_receive hid⟩
    | add | send | disconnect | disconnectAll | close | dispose => cases hop

theorem run (h : SendAt j m f ks us w rs x) (hc : CallsIdle x) {acts : List Act}
    (ha : ∀ a ∈ acts, a.opBy ≠ some j) : ∃ rs', SendAt j m f ks us w rs' (x.run acts) := by
  induction acts generalizing x rs with
  | nil => exact ⟨rs, h⟩
  | cons a acts ih =>
    obtain ⟨rs', h'⟩ := h.step hc (ha a List.mem_cons_self)
    exact ih h' (hc.step a) fun b hb => ha b (List.mem_cons_of_mem a hb)

theorem length_of_idle (h : SendAt j m f ks us w rs x) (hi : x.callers j = .idle) :
    rs.length = ks.length := by
  have hl : ks.length ≤ rs.length := by
    cases h.phase with
    | calls hw => rw [hi] at hw; cases hw
    | pushing _ hw => rw [hi] at hw; cases hw
    | returned _ hw => rw [hi] at hw; cases hw
    | idle hl => exact hl
  exact Nat.le_antisymm h.length_le hl

end SendAt

section Start

variable {w : World} {j : Nat} {m : Option Message} {ids : List ConnId}

theorem step_send_error {e : Error} (hj : w.callers j = .idle)
    (he : w.registry.encodeFrame m = .error e) : w.step (.send j m ids) = w.note (.failed j e) := by
  simp [step, ifIdle_of_idle hj, send, he]

theorem step_send_unknown {f : Bytes} {u : ConnId} (hj : w.callers j = .idle)
    (hf : w.registry.encodeFrame m = .ok f) (hu : ids.find? (fun u => (w.lookup u).isNone) = some u) :
    w.step (.send j m ids) = w.note (.failed j (.unknownConnection u)) := by
  simp [step, ifIdle_of_idle hj, send, hf, hu]

theorem step_send_calls {f : Bytes} (hj : w.callers j = .idle)
    (hf : w.registry.encodeFrame m = .ok f) (hall : ∀ u ∈ ids, (w.lookup u).isSome) :
    w.step (.send j m ids) =
      w.setDoing j (.calls (pushCalls m f (ids.filterMap w.lookup)) false []) := by
  have hu : ids.find? (fun u => (w.lookup u).isNone) = none := by
    rw [List.find?_eq_none]
    intro u hu
    simpa [Option.isSome_iff_ne_none] using hall u hu
  simp [step, ifIdle_of_idle hj, send, hf, hu, pushCalls]

theorem map_lookup (hall : ∀ u ∈ ids, (w.lookup u).isSome) :
    ids.map w.lookup = (ids.filterMap w.lookup).map some := by
  rw [List.map_filterMap_some_eq_filter_map_isSome, List.filter_eq_self.mpr]
  simpa using hall

theorem idAt_of_map_lookup {ks : List Nat} (h : ids.map w.lookup = ks.map some) :
    ∀ p ∈ ks.zip ids, w.idAt p.1 = some p.2 := by
  induction ids generalizing ks with
  | nil => simp
  | cons u ids ih =>
    cases ks with
    | nil => cases h
    | cons k ks =>
      simp only [List.map_cons, List.cons.injEq] at h
      intro p hp
      rcases List.mem_cons.mp hp with rfl | hp
      · obtain ⟨c, hc, -, hid⟩ := lookup_eq_some h.1
        simp [idAt, hc, hid]
      · exact ih h.2 p hp

theorem sendAt_start {f : Bytes} (hj : w.callers j = .idle) (hf : w.registry.encodeFrame m = .ok f)
    (hall : ∀ u ∈ ids, (w.lookup u).isSome) :
    SendAt j m f (ids.filterMap w.lookup) ids w [] (w.step (.send j m ids)) := by
  have hmap := map_lookup hall
  rw [step_send_calls hj hf hall]
  exact
    { ids := fun p hp => by rw [idAt_setDoing]; exact idAt_of_map_lookup hmap p hp
      length_eq := by simpa using (congrArg List.length hmap).symm
      length_le := by simp
      phase := .calls (by simp [sendFailures])
      sends := fun k => by simp [onChannel]
      returns := by simp
      shut_closed := fun k hk => by simpa using hk
      busy := fun _ => by simp
      done := fun hd => by simp at hd }

end Start

/-- A server's `send` run as threads: the framing and the lookups are one step that either
records the failure and does nothing else, or starts the calls on the targets' channels in order;
each call returns once, and the `send` returns with the failed calls gathered under their ids. -/
theorem send_steps (r : Registry) (acts : List Act) (j : Nat) (m : Option Message)
    (ids : List ConnId) (hidle : ((World.fresh r).run acts).callers j = .idle) :
    let w := (World.fresh r).run acts
    (∀ e, w.registry.encodeFrame m = .error e → w.step (.send j m ids) = w.note (.failed j e)) ∧
    (∀ f u, w.registry.encodeFrame m = .ok f → ids.find? (fun u => (w.lookup u).isNone) = some u →
      w.step (.send j m ids) = w.note (.failed j (.unknownConnection u))) ∧
    (∀ f, w.registry.encodeFrame m = .ok f → (∀ u ∈ ids, (w.lookup u).isSome) →
      ∃ ks, ids.map w.lookup = ks.map some ∧
        ∀ acts', (∀ a ∈ acts', a.opBy ≠ some j) →
          let x := (w.step (.send j m ids)).run acts'
          ∃ rs, rs.length ≤ ks.length ∧ (x.callers j = .idle → rs.length = ks.length) ∧
            (∀ k, x.sendsAt j k = w.sendsAt j k ++ onChannel k ks rs) ∧
            (∀ p ∈ ks.zip rs, (p.2 = .ok f ∧ w.closedAt p.1 = false) ∨
              (p.2 = .error .connectionClosed ∧ x.closedAt p.1 = true)) ∧
            (x.callers j ≠ .idle → resultsOf j x.log = resultsOf j w.log) ∧
            (x.callers j = .idle →
              resultsOf j x.log = resultsOf j w.log ++ [Error.gather (sendFailures ids rs)])) := by
  intro w
  have hc : CallsIdle w := (CallsIdle.fresh r).run acts
  refine ⟨fun e he => step_send_error hidle he, fun f u hf hu => step_send_unknown hidle hf hu,
    fun f hf hall => ⟨_, map_lookup hall, fun acts' ha => ?_⟩⟩
  obtain ⟨rs, hs⟩ := (sendAt_start hidle hf hall).run (hc.step _) ha
  exact ⟨rs, hs.length_le, hs.length_of_idle, hs.sends, hs.returns, hs.busy, hs.done⟩

end World

/-- A server's send is all or nothing: framing or lookup failures change nothing; otherwise the
frame is queued on each listed connection, once per listing, and run as threads the send returns
the failures of the calls that found a queue closed, in order, each under its id. -/
theorem send_all_or_nothing :
    (∀ (s : Server) (m : Option Message) (ids : List ConnId),
      (∀ e, s.registry.encodeFrame m = .error e → s.send m ids = .error e) ∧
      (∀ f pre u post, s.registry.encodeFrame m = .ok f → ids = pre ++ u :: post →
        (∀ v ∈ pre, (s.live v).isSome) → s.live u = none →
        s.send m ids = .error (.unknownConnection u)) ∧
      (∀ f, s.registry.encodeFrame m = .ok f → (∀ u ∈ ids, (s.live u).isSome) →
        s.send m ids =
          .ok (s.withQueued f (fun k => ids.countP fun u => s.live u = some k), none))) ∧
    (∀ (r : Registry) (acts : List Act) (j : Nat) (m : Option Message) (ids : List ConnId),
      ((World.fresh r).run acts).callers j = .idle →
      let w := (World.fresh r).run acts
      (∀ e, w.registry.encodeFrame m = .error e → w.step (.send j m ids) = w.note (.failed j e)) ∧
      (∀ f u, w.registry.encodeFrame m = .ok f →
        ids.find? (fun u => (w.lookup u).isNone) = some u →
        w.step (.send j m ids) = w.note (.failed j (.unknownConnection u))) ∧
      (∀ f, w.registry.encodeFrame m = .ok f → (∀ u ∈ ids, (w.lookup u).isSome) →
        ∃ ks, ids.map w.lookup = ks.map some ∧
          ∀ acts', (∀ a ∈ acts', a.opBy ≠ some j) →
            let x := (w.step (.send j m ids)).run acts'
            ∃ rs, rs.length ≤ ks.length ∧ (x.callers j = .idle → rs.length = ks.length) ∧
              (∀ k, x.sendsAt j k = w.sendsAt j k ++ World.onChannel k ks rs) ∧
              (∀ p ∈ ks.zip rs, (p.2 = .ok f ∧ w.closedAt p.1 = false) ∨
                (p.2 = .error .connectionClosed ∧ x.closedAt p.1 = true)) ∧
              (x.callers j ≠ .idle → resultsOf j x.log = resultsOf j w.log) ∧
              (x.callers j = .idle → resultsOf j x.log =
                resultsOf j w.log ++ [Error.gather (World.sendFailures ids rs)]))) :=
  ⟨Server.send_outcome, World.send_steps⟩

end FramedLink.Threads.Serving
