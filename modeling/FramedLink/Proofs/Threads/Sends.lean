import FramedLink.Proofs.Send
import FramedLink.Proofs.Threads.Writer

namespace FramedLink.Threads

def Event.sentBy (j : Nat) : Event → Option (Except Error Bytes)
  | .pushed i _ f => if i = j then some (.ok f) else none
  | .sendFailed i e => if i = j then some (.error e) else none
  | _ => none

def sendsOf (j : Nat) (l : List Event) : List (Except Error Bytes) := l.filterMap (Event.sentBy j)

@[simp] theorem sendsOf_nil (j : Nat) : sendsOf j [] = [] := rfl

@[simp] theorem sendsOf_append (j : Nat) (l l' : List Event) :
    sendsOf j (l ++ l') = sendsOf j l ++ sendsOf j l' := by
  simp [sendsOf]

@[simp] theorem sendsOf_cons (j : Nat) (e : Event) (l : List Event) :
    sendsOf j (e :: l) = (e.sentBy j).toList ++ sendsOf j l := by
  cases h : e.sentBy j <;> simp [sendsOf, h]

namespace World

section Returns

variable (w : World) (j : Nat)

theorem sendsOf_stopStep (t : Tid) (s : Stop) :
    sendsOf j (w.stopStep t s).log = sendsOf j w.log := by
  cases s with
  | claim c =>
    simp only [stopStep]
    split <;> simp [Event.sentBy]
  | awaitLock r =>
    simp only [stopStep]
    split <;> simp [Event.sentBy]
  | dropQueue | closeStream | deliverLost r => simp [stopStep, Event.sentBy]

theorem sendsOf_readerStep : sendsOf j w.readerStep.log = sendsOf j w.log := by
  unfold readerStep
  split
  · split
    · simp
    · split <;> simp
  · split <;> simp
  · split <;> simp [Event.sentBy]
  · simp [Event.sentBy]
  · split <;> simp
  · exact w.sendsOf_stopStep j _ _
  all_goals rfl

theorem sendsOf_writerStep : sendsOf j w.writerStep.log = sendsOf j w.log := by
  unfold writerStep
  split
  · split
    · simp
    · split <;> simp [Event.sentBy]
  · exact w.sendsOf_stopStep j _ _
  all_goals rfl

theorem sendsOf_callerStep {i : Nat} (hij : i ≠ j) :
    sendsOf j (w.callerStep i).log = sendsOf j w.log := by
  unfold callerStep
  split
  · split
    · simp [Event.sentBy, hij]
    · split
      · simp [Event.sentBy, hij]
      · simp
  · split <;> simp [Event.sentBy, hij]
  · exact w.sendsOf_stopStep j _ _
  · rfl

theorem sendsOf_readerRead (bytes : Bytes) (last : ReadEnd) :
    sendsOf j (w.readerRead bytes last).log = sendsOf j w.log := by
  unfold readerRead
  split
  · split
    · split <;> simp [Event.sentBy]
    · rfl
  · rfl

theorem sendsOf_writerWrite (ans : WriteEnd) :
    sendsOf j (w.writerWrite ans).log = sendsOf j w.log := by
  unfold writerWrite
  split
  · split <;> simp [Event.sentBy]
  · rfl

theorem sendsOf_streamClose (t : Tid) (r : Option Error) :
    sendsOf j (w.streamClose t r).log = sendsOf j w.log := by
  unfold streamClose
  split <;> simp [Event.sentBy]

theorem sendsOf_call (i : Nat) (c : CallerAt) : sendsOf j (w.call i c).log = sendsOf j w.log := by
  unfold call
  split <;> simp

theorem sendsOf_step (a : Act) :
    sendsOf j (w.step a).log = sendsOf j w.log ∨ a = .run (.caller j) := by
  cases a with
  | run t =>
    cases t with
    | reader => exact .inl (w.sendsOf_readerStep j)
    | writer => exact .inl (w.sendsOf_writerStep j)
    | caller i =>
      by_cases hij : i = j
      · exact .inr (by rw [hij])
      · exact .inl (w.sendsOf_callerStep j hij)
  | read bytes last => exact .inl (w.sendsOf_readerRead j bytes last)
  | write ans => exact .inl (w.sendsOf_writerWrite j ans)
  | closeStream t r => exact .inl (w.sendsOf_streamClose j t r)
  | callClose i => exact .inl (w.sendsOf_call j i _)
  | callSend i m => exact .inl (w.sendsOf_call j i _)

theorem push_callerStep {m : Option Message} {f : Bytes} (h : w.callers j = .pushing m f) :
    (w.callerStep j).callers j = .idle ∧
      sendsOf j (w.callerStep j).log =
        sendsOf j w.log ++ [if w.queueClosed then .error .connectionClosed else .ok f] := by
  simp only [callerStep, h]
  cases w.queueClosed <;> simp [Event.sentBy]

theorem callerStep_idle (h : w.callers j = .idle) : w.callerStep j = w := by
  simp [callerStep, h]

end Returns

section Callers

variable (w : World) (j : Nat)

theorem callers_setStage_ne {t : Tid} (ht : t ≠ .caller j) (s : Stop) :
    (w.setStage s t).callers j = w.callers j := by
  cases t with
  | reader | writer => rfl
  | caller i =>
    have hij : j ≠ i := fun h => ht (h ▸ rfl)
    simp [setStage, Function.update_of_ne hij]

theorem callers_finish_ne {t : Tid} (ht : t ≠ .caller j) (won : Bool) (r : Option Error) :
    (w.finish t won r).callers j = w.callers j := by
  cases t with
  | reader | writer => rfl
  | caller i =>
    have hij : j ≠ i := fun h => ht (h ▸ rfl)
    simp [finish, Function.update_of_ne hij]

theorem callers_stopStep_ne {t : Tid} (ht : t ≠ .caller j) (s : Stop) :
    (w.stopStep t s).callers j = w.callers j := by
  cases s with
  | claim c =>
    simp only [stopStep]
    split
    · exact w.callers_finish_ne j ht _ _
    · simp [callers_setStage_ne _ _ ht]
  | awaitLock r =>
    simp only [stopStep]
    split
    · simp [callers_setStage_ne _ _ ht]
    · rfl
  | dropQueue => simp [stopStep, callers_setStage_ne _ _ ht]
  | closeStream => rfl
  | deliverLost r =>
    simp only [stopStep]
    rw [callers_finish_ne _ _ ht]
    rfl

theorem callers_readerStep : w.readerStep.callers j = w.callers j := by
  unfold readerStep
  split
  · split
    · rfl
    · split <;> rfl
  · split <;> rfl
  · split <;> rfl
  · rfl
  · split <;> rfl
  · exact w.callers_stopStep_ne j (by simp) _
  all_goals rfl

theorem callers_writerStep : w.writerStep.callers j = w.callers j := by
  unfold writerStep
  split
  · split
    · rfl
    · split <;> rfl
  · exact w.callers_stopStep_ne j (by simp) _
  all_goals rfl

theorem callers_callerStep_ne {i : Nat} (hij : i ≠ j) :
    (w.callerStep i).callers j = w.callers j := by
  have ht : Tid.caller i ≠ .caller j := fun h => hij (Tid.caller.inj h)
  unfold callerStep
  split
  · split
    · simp [Function.update_of_ne (Ne.symm hij)]
    · split <;> simp [Function.update_of_ne (Ne.symm hij)]
  · split <;> simp [Function.update_of_ne (Ne.symm hij)]
  · exact w.callers_stopStep_ne j ht _
  · rfl

theorem callers_readerRead (bytes : Bytes) (last : ReadEnd) :
    (w.readerRead bytes last).callers j = w.callers j := by
  unfold readerRead
  split
  · split
    · split <;> rfl
    · rfl
  · rfl

theorem callers_writerWrite (ans : WriteEnd) : (w.writerWrite ans).callers j = w.callers j := by
  unfold writerWrite
  split
  · split <;> rfl
  · rfl

theorem callers_step_other {a : Act} (hs : (w.callers j).stage = none)
    (hrun : a ≠ .run (.caller j)) (hclose : a ≠ .callClose j) (hsend : ∀ m, a ≠ .callSend j m) :
    (w.step a).callers j = w.callers j := by
  cases a with
  | run t =>
    cases t with
    | reader => exact w.callers_readerStep j
    | writer => exact w.callers_writerStep j
    | caller i => exact w.callers_callerStep_ne j (fun h => hrun (h ▸ rfl))
  | read bytes last => exact w.callers_readerRead j bytes last
  | write ans => exact w.callers_writerWrite j ans
  | closeStream t r =>
    show (w.streamClose t r).callers j = _
    unfold streamClose
    split
    · next hst =>
      -- only a caller in a shutdown closes the stream
      have ht : t ≠ .caller j := by
        rintro rfl
        simp [stage, hs] at hst
      simp [callers_setStage_ne _ _ ht]
    · rfl
  | callClose i =>
    have hij : j ≠ i := fun h => hclose (h ▸ rfl)
    show (w.call i _).callers j = _
    unfold call
    split <;> simp [Function.update_of_ne hij]
  | callSend i m =>
    have hij : j ≠ i := fun h => hsend m (h ▸ rfl)
    show (w.call i _).callers j = _
    unfold call
    split <;> simp [Function.update_of_ne hij]

end Callers

variable {w : World}

theorem pushing_of_step {a : Act} {i : Nat} {m : Option Message} {f : Bytes}
    (h : (w.step a).callers i = .pushing m f) :
    w.callers i = .pushing m f ∨
      (a = .run (.caller i) ∧ w.callers i = .sending m ∧ w.closed = false) := by
  cases a with
  | run t =>
    cases t with
    | reader => exact .inl ((w.callers_readerStep i).symm.trans h)
    | writer => exact .inl ((w.callers_writerStep i).symm.trans h)
    | caller j =>
      change (w.callerStep j).callers i = _ at h
      unfold callerStep at h
      split at h
      · next m' hj =>
        split at h
        · exact .inl (callers_setCaller_pushing (by simp) h)
        · next hc =>
          split at h
          · exact .inl (callers_setCaller_pushing (by simp) h)
          · -- the caller's own check passed: it is the one that moves to queueing
            by_cases hij : i = j
            · subst hij
              rw [setCaller_callers, Function.update_self, CallerAt.pushing.injEq] at h
              obtain ⟨rfl, -⟩ := h
              exact .inr ⟨rfl, hj, by simpa using hc⟩
            · rw [setCaller_callers, Function.update_of_ne hij] at h
              exact .inl h
      · split at h <;> exact .inl (callers_setCaller_pushing (by simp) h)
      · exact .inl ((w.keepsSending_stopStep (.caller j) _).callers i m f h)
      · exact .inl h
  | read bytes last => exact .inl ((w.callers_readerRead i bytes last).symm.trans h)
  | write ans => exact .inl ((w.callers_writerWrite i ans).symm.trans h)
  | closeStream t r => exact .inl ((w.keepsSending_streamClose t r).callers i m f h)
  | callClose j | callSend j _ =>
    refine .inl ?_
    simp only [step, call] at h
    split at h
    · exact callers_setCaller_pushing (by simp) h
    · exact h

theorem refused_run (hi : Inv w) (hc : w.closed = true) {i : Nat}
    (hp : ∀ m f, w.callers i ≠ .pushing m f) (acts : List Act) :
    Inv (w.run acts) ∧ (w.run acts).closed = true ∧ ∀ m f, (w.run acts).callers i ≠ .pushing m f := by
  refine World.keeps_run (P := fun v => Inv v ∧ v.closed = true ∧ ∀ m f, v.callers i ≠ .pushing m f)
    (fun v a ⟨hv, hvc, hvp⟩ => ?_) ⟨hi, hc, hp⟩ acts
  refine ⟨hv.step a, hv.closed_of_prefix (hv.step a) (grows_step v a).log_extends hvc,
    fun m f h => ?_⟩
  rcases pushing_of_step h with h' | ⟨-, -, hopen⟩
  · exact hvp m f h'
  · rw [hvc] at hopen
    cases hopen

end World

/-- A channel's `send`: with text codecs, on an open channel it queues one frame exactly for a
registered text message whose payload fits, and otherwise fails with the first failing check;
on a closed channel, and for every `send` started after closing, it fails with
`connectionClosed`. -/
theorem send_checks (c : Channel) (m : Option Message) :
    (c.registry.TextOnly → c.closed = false →
      ((∃ c', c.send m = .ok c') ↔ ∃ id body, m = some (.text id body) ∧
        (c.registry.find? id).isSome ∧ 8 + body.length ≤ 65535) ∧
      (∀ c', c.send m = .ok c' → ∃ p f, c.registry.marshal m = .ok p ∧ Frame.encode p = .ok f ∧
        c' = { c with outbound := c.outbound ++ [f] }) ∧
      (∀ e, c.send m = .error e ↔ c.registry.refusal m = some e)) ∧
    (c.closed = true → c.send m = .error .connectionClosed) ∧
    (∀ (r : Registry) (acts acts' : List Act) (i : Nat),
      ((World.fresh r).run acts).closed = true → ((World.fresh r).run acts).callers i = .idle →
      let v := ((World.fresh r).run acts).run acts'
      (∀ m' f, v.callers i ≠ .pushing m' f) ∧
      ∀ m', v.callers i = .sending m' →
        v.callerStep i = (v.emit (.sendFailed i .connectionClosed)).setCaller i .idle) := by
  refine ⟨fun ht hc => ⟨⟨fun ⟨c', h⟩ => ?_, fun ⟨id, body, hm, hreg, hle⟩ => ?_⟩,
    fun c' h => ?_, fun e => ?_⟩, fun hc => Channel.send_of_closed hc m,
    fun r acts acts' i hc hi => ?_⟩
  · obtain ⟨-, f, hf, -⟩ := Channel.send_eq_ok.mp h
    obtain ⟨id, body, hm, hreg, hle, -⟩ := (Registry.encodeFrame_eq_ok_iff ht).mp hf
    exact ⟨id, body, hm, hreg, hle⟩
  · obtain ⟨f, hf⟩ : ∃ f, c.registry.encodeFrame m = .ok f :=
      ⟨_, (Registry.encodeFrame_eq_ok_iff ht).mpr ⟨id, body, hm, hreg, hle, rfl⟩⟩
    exact ⟨_, Channel.send_eq_ok.mpr ⟨hc, f, hf, rfl⟩⟩
  · obtain ⟨-, f, hf, rfl⟩ := Channel.send_eq_ok.mp h
    obtain ⟨p, hp, hframe⟩ := Registry.encodeFrame_eq_ok.mp hf
    exact ⟨p, f, hp, hframe, rfl⟩
  · rw [Channel.send_eq_error ht]
    simp [hc]
  · obtain ⟨-, hclosed, hp⟩ := World.refused_run (inv_run r acts) hc
      (fun m f h => by rw [hi] at h; cases h) acts'
    refine ⟨hp, fun m' hs => ?_⟩
    simp [World.callerStep, hs, hclosed]

end FramedLink.Threads
