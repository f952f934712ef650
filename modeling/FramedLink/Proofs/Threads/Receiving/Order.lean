import FramedLink.Proofs.Threads.Receiving.Reachable

namespace FramedLink.Threads.Receiving

theorem once_and_last_in_concat {α : Type} {xs ds : List α} {x : α} (hp : xs <+: ds ++ [x])
    (hx : x ∉ ds) {l₁ l₂ : List α} (hxs : xs = l₁ ++ x :: l₂) : x ∉ l₁ ∧ l₂ = [] := by
  obtain ⟨t, ht⟩ := hp
  rw [hxs, List.append_assoc, List.cons_append] at ht
  rcases List.append_eq_append_iff.mp ht with ⟨a, hds, ha⟩ | ⟨c, hl₁, hc⟩
  · cases a with
    | nil =>
      simp only [List.nil_append, List.cons.injEq, List.append_eq_nil_iff, true_and] at ha
      rw [List.append_nil] at hds
      exact ⟨hds ▸ hx, ha.1⟩
    | cons y a =>
      -- `x` would stand in `ds` right after `l₁`
      simp only [List.cons_append, List.cons.injEq] at ha
      rw [hds, ← ha.1] at hx
      simp at hx
  · have hc' : c = [] := by
      cases c with
      | nil => rfl
      | cons y c => simp at hc
    subst hc'
    simp only [List.nil_append, List.cons.injEq, true_and] at hc
    rw [List.append_nil] at hl₁
    exact ⟨hl₁ ▸ hx, (List.append_eq_nil_iff.mp hc.symm).1⟩

namespace World

theorem free_eq_true {w : World} {j : Nat} :
    w.free j = true ↔
      w.callers j = .idle ∧ w.chan.callers j = .idle ∧ w.inbox.callers (j + 1) = .idle := by
  unfold free
  split <;> simp_all

theorem advance_callers_inbox (w : World) (a : Threads.Act) :
    (w.advance a).callers = w.callers ∧ (w.advance a).inbox = w.inbox := by
  dsimp only [advance]
  split
  · exact ⟨rfl, rfl⟩
  · exact ⟨rfl, rfl⟩
  · split <;> exact ⟨rfl, rfl⟩
  · exact ⟨rfl, rfl⟩

/-- What a step of a client does to its callers and its inbox: besides steps that leave both
alone, a step of a `pop` or of a `len`, the hook's push and the push's hand-over of the token
leave the callers alone; `dispose` starts; or a `dispose` whose close of the channel returned
closes the inbox. -/
theorem moves (w : World) (a : Act) :
    ((w.step a).callers = w.callers ∧
      ((w.step a).inbox = w.inbox ∨
        (∃ qa : Queue.Act Message, qa.reads = true ∧ (w.step a).inbox = w.inbox.step qa) ∨
        (∃ m, (w.step a).inbox = w.inbox.push 0 m) ∨
        (w.step a).inbox = w.inbox.signal 0)) ∨
    (∃ j, a = .dispose j ∧ (w.step a).inbox = w.inbox) ∨
    (∃ j, w.callers j = .disposing ∧ (w.step a).callers = Function.update w.callers j .idle ∧
      (w.step a).inbox = w.inbox.close (j + 1)) := by
  cases a with
  | send j m | close j =>
    simp only [step, ifFree]
    split <;> exact .inl ⟨rfl, .inl rfl⟩
  | dispose j =>
    refine .inr (.inl ⟨j, rfl, ?_⟩)
    simp only [step, ifFree]
    split <;> rfl
  | receive j =>
    simp only [step, ifFree]
    split
    · exact .inl ⟨rfl, .inr (.inl ⟨.call (j + 1) .pop, rfl, rfl⟩)⟩
    · exact .inl ⟨rfl, .inl rfl⟩
  | hasData j =>
    simp only [step, ifFree]
    split
    · exact .inl ⟨rfl, .inr (.inl ⟨.call (j + 1) .len, rfl, rfl⟩)⟩
    · exact .inl ⟨rfl, .inl rfl⟩
  | run j =>
    simp only [step, runCaller]
    split
    · next hj _ => exact .inr (.inr ⟨j, hj, rfl, rfl⟩)
    · exact .inl ⟨rfl, .inl rfl⟩
  | popStep j => exact .inl ⟨rfl, .inr (.inl ⟨.run (j + 1), rfl, rfl⟩)⟩
  | wake j how => exact .inl ⟨rfl, .inr (.inl ⟨.wake (j + 1) how, rfl, rfl⟩)⟩
  | chan a =>
    simp only [step]
    split
    · exact .inl ⟨rfl, .inl rfl⟩
    · exact .inl ⟨rfl, .inl rfl⟩
    · exact .inl ⟨(w.advance_callers_inbox a).1, .inl (w.advance_callers_inbox a).2⟩
  | hook =>
    simp only [step, hookStep]
    split
    · split
      · exact .inl ⟨rfl, .inr (.inr (.inl ⟨_, rfl⟩))⟩
      · exact .inl ⟨rfl, .inr (.inr (.inl ⟨_, rfl⟩))⟩
    · exact .inl ⟨rfl, .inr (.inr (.inr rfl))⟩
    · exact .inl ⟨rfl, .inl rfl⟩
    · exact .inl ⟨rfl, .inl rfl⟩
    · exact .inl ⟨rfl, .inl rfl⟩

theorem open_step {w : World} (hidle : ∀ j, w.callers j = .idle)
    (hopen : Queue.closedIn w.inbox.log = false) {a : Act} (ha : ∀ j, a ≠ .dispose j) :
    (∀ j, (w.step a).callers j = .idle) ∧ Queue.closedIn (w.step a).inbox.log = false := by
  rcases w.moves a with ⟨hc, hq | ⟨qa, hqa, hq⟩ | ⟨m, hq⟩ | hq⟩ | ⟨j, rfl, -⟩ | ⟨j, hj, -, -⟩
  · exact ⟨by rw [hc]; exact hidle, by rw [hq]; exact hopen⟩
  · exact ⟨by rw [hc]; exact hidle, by rw [hq, (w.inbox.reads_step hqa).2]; exact hopen⟩
  · refine ⟨by rw [hc]; exact hidle, ?_⟩
    rw [hq]
    rcases w.inbox.push_log 0 m with ⟨_, _, hl⟩ | ⟨_, hl⟩ <;>
      simp [hl, hopen, Queue.Event.isClose]
  · exact ⟨by rw [hc]; exact hidle, by rw [hq]; exact hopen⟩
  · exact absurd rfl (ha j)
  · rw [hidle j] at hj
    cases hj

theorem open_run {w : World} (hidle : ∀ j, w.callers j = .idle)
    (hopen : Queue.closedIn w.inbox.log = false) (acts : List Act)
    (hacts : ∀ j, Act.dispose j ∉ acts) : Queue.closedIn (w.run acts).inbox.log = false := by
  induction acts generalizing w with
  | nil => exact hopen
  | cons a acts ih =>
    have ha : ∀ j, a ≠ .dispose j := fun j h => hacts j (h ▸ List.mem_cons_self)
    obtain ⟨hidle', hopen'⟩ := open_step hidle hopen ha
    exact ih hidle' hopen' fun j hj => hacts j (List.mem_cons_of_mem a hj)

theorem closed_step {w : World} {j : Nat} (hd : w.inbox.inbox.disposed = true)
    (hi : w.inbox.callers (j + 1) ≠ .waiting) (a : Act) :
    (w.step a).inbox.inbox.disposed = true ∧ (w.step a).inbox.callers (j + 1) ≠ .waiting ∧
      ∃ es, (w.step a).inbox.log = w.inbox.log ++ es ∧
        ∀ e ∈ es, ∀ x, e.popped? (j + 1) = some x → x = .error .endpointDisposed := by
  have same : ∀ q : Queue.World Message, q = w.inbox →
      q.inbox.disposed = true ∧ q.callers (j + 1) ≠ .waiting ∧ ∃ es, q.log = w.inbox.log ++ es ∧
        ∀ e ∈ es, ∀ x, e.popped? (j + 1) = some x → x = .error .endpointDisposed := by
    rintro q rfl
    exact ⟨hd, hi, [], by simp, by simp⟩
  rcases w.moves a with ⟨-, hq | ⟨qa, -, hq⟩ | ⟨m, hq⟩ | hq⟩ | ⟨k, -, hq⟩ | ⟨k, -, -, hq⟩
  · exact same _ hq
  · rw [hq]
    exact Queue.World.step_of_closed hd hi qa
  · rw [hq, Queue.World.push_of_closed hd]
    exact ⟨hd, hi, [_], rfl, by simp [Queue.Event.popped?]⟩
  · -- the hand-over of the token is the hook's, caller `0`
    rw [hq]
    exact ⟨hd, by simpa [Queue.World.signal] using hi, [], by simp [Queue.World.signal], by simp⟩
  · exact same _ hq
  · rw [hq, Queue.World.close_of_closed hd]
    exact same _ rfl

theorem closed_run {w : World} {j : Nat} (hd : w.inbox.inbox.disposed = true)
    (hi : w.inbox.callers (j + 1) ≠ .waiting) (acts : List Act) :
    ∃ es, (w.run acts).inbox.log = w.inbox.log ++ es ∧
      ∀ e ∈ es, ∀ x, e.popped? (j + 1) = some x → x = .error .endpointDisposed := by
  induction acts generalizing w with
  | nil => exact ⟨[], by simp, by simp⟩
  | cons a acts ih =>
    obtain ⟨hd', hi', es₁, hl₁, he₁⟩ := closed_step hd hi a
    obtain ⟨es₂, hl₂, he₂⟩ := ih hd' hi'
    refine ⟨es₁ ++ es₂, by rw [run_cons, hl₂, hl₁, List.append_assoc], ?_⟩
    intro e he
    rcases List.mem_append.mp he with he | he
    · exact he₁ e he
    · exact he₂ e he

theorem drain {w : World} {j : Nat} (hj : w.free j = true) (hd : w.inbox.inbox.disposed = false) :
    ∃ acts, Queue.taken (w.run acts).inbox.log = Queue.taken w.inbox.log ++ w.inbox.inbox.items := by
  generalize hitems : w.inbox.inbox.items = items
  induction items generalizing w with
  | nil => exact ⟨[], by simp⟩
  | cons x rest ih =>
    obtain ⟨hc, hch, hq⟩ := free_eq_true.mp hj
    obtain ⟨hinbox, hlog, hcallers⟩ := Queue.World.pop_head hq hd hitems
    -- the receive's call, its look, and its hand-over of the token when more are left
    have hrun : w.run [.receive j, .popStep j, .popStep j] =
        w.setInbox (w.inbox.run [.call (j + 1) .pop, .run (j + 1), .run (j + 1)]) := by
      simp [step, ifFree, hj, Queue.World.run]
      rfl
    generalize w.inbox.run [.call (j + 1) .pop, .run (j + 1), .run (j + 1)] = q
      at hinbox hlog hcallers hrun
    have hj' : (w.setInbox q).free j = true := free_eq_true.mpr ⟨hc, hch, by simp [hcallers, hq]⟩
    obtain ⟨acts, hacts⟩ := ih hj' (by simp [hinbox, hd]) (by simp [hinbox])
    refine ⟨[.receive j, .popStep j, .popStep j] ++ acts, ?_⟩
    rw [run_append, hrun, hacts]
    simp [hlog, Queue.Event.took?]

end World

/-- A client's receivers get, in the inbox's order, a prefix of what its channel delivered then
`serverLost`, with `serverLost` once and last when no codec reads a control signal; only
`dispose` closes the inbox, and after it every receive fails with `endpointDisposed`. -/
theorem receives_in_order (r : Registry) (acts : List Act) :
    let w := (World.fresh r).run acts
    let D := delivered w.chan.log
    Queue.taken w.inbox.log <+: D ++ [.signal .serverLost] ∧
    D <+: (r.readAll (received w.chan.log)).1 ∧
    (r.NoSignal → ∀ l₁ l₂, Queue.taken w.inbox.log = l₁ ++ .signal .serverLost :: l₂ →
      Message.signal .serverLost ∉ l₁ ∧ l₂ = []) ∧
    ((∀ j, Act.dispose j ∉ acts) → w.inbox.inbox.disposed = false) ∧
    (w.inbox.inbox.disposed = false → wins w.chan.log ≠ [] →
      Queue.taken w.inbox.log ++ w.inbox.inbox.items = D ++ [.signal .serverLost] ∧
      ∀ j, w.free j = true →
        ∃ acts', Queue.taken (w.run acts').inbox.log = D ++ [.signal .serverLost]) ∧
    (∀ j, w.inbox.inbox.disposed = true → w.inbox.callers (j + 1) = .idle → ∀ acts',
      ∀ e ∈ (w.run acts').inbox.log.drop w.inbox.log.length, ∀ x,
        e.popped? (j + 1) = some x → x = .error .endpointDisposed) := by
  intro w D
  have h : Good r w := good_run r acts
  have hacc := h.queue.accounts
  have htaken : Queue.taken w.inbox.log <+: Queue.pushed w.inbox.log := by
    rw [hacc, List.append_assoc]
    exact List.prefix_append _ _
  have horder := htaken.trans (h.pushed_le.trans (w.tried_le_given.trans (given_le_delivered h.inv)))
  refine ⟨horder, h.registry ▸ h.reading.delivered_le, fun hr l₁ l₂ hx =>
    -- the channel delivers no control signal, so `serverLost` only last
    once_and_last_in_concat horder (delivered_noSignal h.reading (h.registry ▸ hr) _) hx,
    fun hacts => ?_, fun hd hw => ?_, ?_⟩
  · rw [h.queue.closed_eq]
    exact World.open_run (fun _ => rfl) rfl acts hacts
  · have hopen : Queue.closedIn w.inbox.log = false := h.queue.closed_eq ▸ hd
    have hfree : w.body = .free := h.free_iff.mpr (won_entered h.inv hw).1
    have hall : Queue.taken w.inbox.log ++ w.inbox.inbox.items = D ++ [.signal .serverLost] := by
      have hgiven : w.tried = given w.chan.log := by simp [World.tried, hfree]
      rw [← given_of_won h.inv hw, ← hgiven, ← h.pushed_eq hopen, hacc,
        Queue.dropped_of_open hopen, List.append_nil]
    refine ⟨hall, fun j hj => ?_⟩
    obtain ⟨acts', h'⟩ := World.drain hj hd
    exact ⟨acts', h'.trans hall⟩
  · intro j hd hi acts'
    obtain ⟨es, hes, hpop⟩ := World.closed_run hd (by rw [hi]; simp) acts'
    rw [hes, List.drop_left]
    exact hpop

end FramedLink.Threads.Receiving
