import FramedLink.Proofs.Threads.Receiving
import FramedLink.Proofs.Threads.Serving.Hooks

namespace FramedLink.Threads

/-- What a hook call hands a client, for a call's start: the channel's last delivery is
`serverLost`. -/
def Hook.received? : Hook → Option Message
  | .enter d => some (Client.received d)
  | .leave _ => none

namespace Receiving

def given (l : List Event) : List Message := (hooks l).filterMap Hook.received?

theorem given_calls (ms : List Message) : (calls ms).filterMap Hook.received? = ms :=
  filterMap_calls (fun _ => rfl) (fun _ => rfl) ms

theorem given_congr {l l' : List Event} (h : hooks l' = hooks l) : given l' = given l := by
  simp [given, h]

theorem given_enter {l l' : List Event} {d : Delivery} (hh : hooks l' = hooks l ++ [.enter d]) :
    given l' = given l ++ [Client.received d] := by
  simp [given, hh, Hook.received?]

theorem given_leave {l l' : List Event} {d : Delivery} (hh : hooks l' = hooks l ++ [.leave d]) :
    given l' = given l := by
  simp [given, hh, Hook.received?]

theorem given_of_inFlight {l : List Event} {d : Delivery} (hf : inFlight l = some d) :
    given l = (given l).dropLast ++ [Client.received d] :=
  filterMap_of_inFlight hf rfl

theorem given_le_delivered {w : Threads.World} (h : Inv w) :
    given w.log <+: delivered w.log ++ [.signal .serverLost] :=
  filterMap_hooks_le h (fun _ => rfl) (fun _ => rfl)

theorem given_of_won {w : Threads.World} (h : Inv w) (hw : wins w.log ≠ []) :
    given w.log = delivered w.log ++ [.signal .serverLost] := by
  obtain ⟨ms, hms⟩ := h.hooks_of_won hw
  simp [given, delivered, hms, given_calls, delivered_calls, List.filterMap_cons, Hook.received?,
    Client.received]

/-- The messages the hook has pushed or tried to push: those it was given, but for the call in
flight while its push is still to come. -/
def World.tried (w : World) : List Message :=
  match w.body with
  | .push _ => (given w.chan.log).dropLast
  | _ => given w.chan.log

theorem World.tried_le_given (w : World) : w.tried <+: given w.chan.log := by
  unfold tried
  split
  · exact List.dropLast_prefix _
  · exact List.prefix_refl _

@[simp] theorem World.tried_setInbox (w : World) (q : Queue.World Message) :
    (w.setInbox q).tried = w.tried := rfl

@[simp] theorem World.tried_setDoing (w : World) (j : Nat) (d : Doing) :
    (w.setDoing j d).tried = w.tried := rfl

/-- What holds of a client whose channel reads with registry `r`. -/
structure Good (r : Registry) (w : World) : Prop where
  inv : Inv w.chan
  reading : Reading w.chan
  registry : w.chan.registry = r
  queue : Queue.Inv w.inbox
  free_iff : w.body = .free ↔ inFlight w.chan.log = none
  push : ∀ m, w.body = .push m → ∃ d, inFlight w.chan.log = some d ∧ Client.received d = m
  pushed_le : Queue.pushed w.inbox.log <+: w.tried
  pushed_eq : Queue.closedIn w.inbox.log = false → Queue.pushed w.inbox.log = w.tried

namespace Good

variable {r : Registry} {w : World}

theorem fresh (r : Registry) : Good r (World.fresh r) where
  inv := Inv.fresh r
  reading := Reading.fresh r
  registry := rfl
  queue := Queue.Inv.fresh
  free_iff := iff_of_true rfl rfl
  push := by simp [World.fresh]
  pushed_le := List.nil_prefix
  pushed_eq _ := rfl

theorem setDoing (h : Good r w) (j : Nat) (d : Doing) : Good r (w.setDoing j d) :=
  ⟨h.inv, h.reading, h.registry, h.queue, h.free_iff, h.push, h.pushed_le, h.pushed_eq⟩

theorem ifFree (h : Good r w) {w' : World} (h' : Good r w') (j : Nat) : Good r (w.ifFree j w') := by
  unfold World.ifFree
  split
  · exact h'
  · exact h

theorem keep (h : Good r w) {w' : World} (hi : Inv w'.chan) (hrd : Reading w'.chan)
    (hreg : w'.chan.registry = r) (hq : Queue.Inv w'.inbox) (hlog : w'.inbox.log = w.inbox.log)
    (htried : w'.tried = w.tried) (hfree : w'.body = .free ↔ inFlight w'.chan.log = none)
    (hpush : ∀ m, w'.body = .push m → ∃ d, inFlight w'.chan.log = some d ∧ Client.received d = m) :
    Good r w' :=
  ⟨hi, hrd, hreg, hq, hfree, hpush, by rw [hlog, htried]; exact h.pushed_le,
    by rw [hlog, htried]; exact h.pushed_eq⟩

theorem withChan (h : Good r w) {ch : Threads.World} (hi : Inv ch) (hrd : Reading ch)
    (hreg : ch.registry = r) (hh : hooks ch.log = hooks w.chan.log) : Good r (w.setChan ch) := by
  have htried : (w.setChan ch).tried = w.tried := by
    simp only [World.tried, World.setChan_body, World.setChan_chan, given_congr hh]
  have hf := inFlight_congr hh
  refine h.keep hi hrd hreg h.queue rfl htried ?_ ?_
  · rw [World.setChan_chan, hf]
    exact h.free_iff
  · rw [World.setChan_chan, hf]
    exact h.push

theorem started (h : Good r w) {ch : Threads.World} (hi : Inv ch) (hrd : Reading ch)
    (hreg : ch.registry = r) {d : Delivery} (hh : hooks ch.log = hooks w.chan.log ++ [.enter d]) :
    Good r ((w.setChan ch).setBody (.push (Client.received d))) := by
  obtain ⟨hnone, -, -⟩ := enter_step hi hh
  obtain ⟨hflight, -⟩ := inFlight_enter hh
  have hfree : w.body = .free := h.free_iff.mpr hnone
  -- the call just started is the last one given, and its push is still to come
  have htried : ((w.setChan ch).setBody (.push (Client.received d))).tried = w.tried := by
    simp [World.tried, hfree, given_enter hh]
  refine h.keep hi hrd hreg h.queue rfl htried (by simp [hflight]) fun m hm => ?_
  simp only [World.setBody_body, Body.push.injEq] at hm
  exact ⟨d, hflight, hm⟩

theorem returned (h : Good r w) {ch : Threads.World} (hi : Inv ch) (hrd : Reading ch)
    (hreg : ch.registry = r) {d : Delivery} (hh : hooks ch.log = hooks w.chan.log ++ [.leave d])
    (hdone : w.body = .done) : Good r ((w.setChan ch).setBody .free) := by
  obtain ⟨hflight, -⟩ := leave_step hh
  have htried : ((w.setChan ch).setBody .free).tried = w.tried := by
    simp [World.tried, hdone, given_leave hh]
  exact h.keep hi hrd hreg h.queue rfl htried (by simp [hflight]) (by simp)

theorem advance (h : Good r w) (a : Threads.Act) : Good r (w.advance a) := by
  have hi : Inv (w.chan.step a) := h.inv.step a
  have hrd : Reading (w.chan.step a) := h.reading.step a
  have hreg : (w.chan.step a).registry = r :=
    (Threads.World.grows_step w.chan a).registry_eq.trans h.registry
  have hh := hooks_step w.chan a
  dsimp only [World.advance]
  -- the step starts a hook call, returns from one, or leaves the calls alone
  generalize Serving.hookMoves w.chan (w.chan.step a) = mv at hh ⊢
  match mv, hh with
  | [], hh =>
    rw [List.append_nil] at hh
    exact h.withChan hi hrd hreg hh
  | [.enter d], hh => exact h.started hi hrd hreg hh
  | [.leave d], hh =>
    by_cases hdone : w.body = .done
    · simpa [hdone] using h.returned hi hrd hreg hh hdone
    · simpa [hdone] using h
  | .enter _ :: _ :: _, _ | .leave _ :: _ :: _, _ => exact h

theorem call (h : Good r w) (j : Nat) {c : CallerAt} (hfree : c.holdsLock = false)
    (henter : c.stage.all (Tid.caller j).entersAt) : Good r (w.setChan (w.chan.call j c)) := by
  obtain ⟨hu, hrd⟩ := w.chan.untouched_call j c
  have hlog : (w.chan.call j c).log = w.chan.log := by
    unfold Threads.World.call
    split <;> rfl
  exact h.withChan (h.inv.call j hfree henter) (h.reading.untouched hu hrd)
    (hu.registry_eq.trans h.registry) (by rw [hlog])

theorem queueStep (h : Good r w) {a : Queue.Act Message} (ha : a.reads = true) :
    Good r (w.setInbox (w.inbox.step a)) := by
  obtain ⟨hpushed, hclosed⟩ := w.inbox.reads_step ha
  refine ⟨h.inv, h.reading, h.registry, h.queue.step a, h.free_iff, h.push, ?_, ?_⟩
  · simpa [hpushed] using h.pushed_le
  · simpa [hpushed, hclosed] using h.pushed_eq

theorem closeInbox (h : Good r w) (i : Nat) : Good r (w.setInbox (w.inbox.close i)) := by
  obtain ⟨hpushed, hopen⟩ := w.inbox.close_log i
  refine ⟨h.inv, h.reading, h.registry, h.queue.close i, h.free_iff, h.push, ?_, ?_⟩
  · simpa [hpushed] using h.pushed_le
  · intro hc
    simpa [hpushed] using h.pushed_eq (hopen hc)

theorem runCaller (h : Good r w) (j : Nat) : Good r (w.runCaller j) := by
  unfold World.runCaller
  split
  · exact (h.closeInbox (j + 1)).setDoing j .idle
  · exact h

theorem pushes (h : Good r w) {m : Message} (hb : w.body = .push m) :
    Good r w.hookStep := by
  obtain ⟨d, hd, hdm⟩ := h.push m hb
  have hdrop : w.tried = (given w.chan.log).dropLast := by simp [World.tried, hb]
  have hgiven : given w.chan.log = w.tried ++ [m] := by
    rw [hdrop, ← hdm]
    exact given_of_inFlight hd
  have hbusy : ∀ b : Body, b ≠ .free → (b = .free ↔ inFlight w.chan.log = none) := by
    intro b hne
    simp [hne, hd]
  rcases w.inbox.push_log 0 m with ⟨q, hq, hlog⟩ | ⟨hq, hlog⟩
  · -- the inbox was open, so it had taken all the hook tried before
    have hstep : w.hookStep = (w.setInbox (w.inbox.push 0 m)).setBody .signal := by
      simp [World.hookStep, hb, hq]
    have hopen : Queue.closedIn w.inbox.log = false := by
      rw [← h.queue.closed_eq]
      exact Inbox.disposed_of_push hq
    have hpushed : Queue.pushed (w.inbox.push 0 m).log = w.tried ++ [m] := by
      simp [hlog, Queue.Event.pushed?, h.pushed_eq hopen]
    have htried : ((w.setInbox (w.inbox.push 0 m)).setBody .signal).tried = w.tried ++ [m] := by
      rw [← hgiven]
      rfl
    rw [hstep]
    refine ⟨h.inv, h.reading, h.registry, h.queue.push 0 m, hbusy _ (by simp), by simp, ?_, ?_⟩
    · simp [htried, hpushed]
    · intro _
      simp [htried, hpushed]
  · have hstep : w.hookStep = (w.setInbox (w.inbox.push 0 m)).setBody .done := by
      simp [World.hookStep, hb, hq]
    have hpushed : Queue.pushed (w.inbox.push 0 m).log = Queue.pushed w.inbox.log := by
      simp [hlog, Queue.Event.pushed?]
    have hclosed : Queue.closedIn (w.inbox.push 0 m).log = Queue.closedIn w.inbox.log := by
      simp [hlog, Queue.Event.isClose]
    have htried : ((w.setInbox (w.inbox.push 0 m)).setBody .done).tried = w.tried ++ [m] := by
      rw [← hgiven]
      rfl
    rw [hstep]
    refine ⟨h.inv, h.reading, h.registry, h.queue.push 0 m, hbusy _ (by simp), by simp, ?_, ?_⟩
    · simpa [htried, hpushed] using h.pushed_le.trans (List.prefix_append _ _)
    · -- a refused push means the inbox is closed
      intro hc
      have hdisp : w.inbox.inbox.disposed = true := Inbox.push_eq_none_iff.mp hq
      simp only [World.setBody_inbox, World.setInbox_inbox, hclosed, ← h.queue.closed_eq,
        hdisp] at hc
      cases hc

theorem hookStep (h : Good r w) : Good r w.hookStep := by
  -- past its push the call is still in flight, and what the hook tried stays as it is
  have busy : w.body ≠ .free → inFlight w.chan.log ≠ none := fun hb hn => hb (h.free_iff.mpr hn)
  cases hb : w.body with
  | push m => exact h.pushes hb
  | signal =>
    have htried : ((w.setInbox (w.inbox.signal 0)).setBody .notify).tried = w.tried := by
      simp [World.tried, hb]
    simp only [World.hookStep, hb]
    exact h.keep h.inv h.reading h.registry (h.queue.signal 0) rfl htried
      (by simpa using busy (by simp [hb])) (by simp)
  | notify =>
    have htried : w.notifyDone.tried = w.tried := by
      simp [World.tried, hb]
    simp only [World.hookStep, hb]
    exact h.keep h.inv h.reading h.registry h.queue rfl htried
      (by simpa using busy (by simp [hb])) (by simp)
  | free | done => simpa [World.hookStep, hb] using h

theorem step (h : Good r w) (a : Act) : Good r (w.step a) := by
  cases a with
  | send j m => exact h.ifFree (h.call j rfl rfl) j
  | close j => exact h.ifFree (h.call j rfl rfl) j
  | dispose j => exact h.ifFree ((h.call j rfl rfl).setDoing j .disposing) j
  | receive j => exact h.ifFree (h.queueStep rfl) j
  | hasData j => exact h.ifFree (h.queueStep rfl) j
  | run j => exact h.runCaller j
  | popStep j => exact h.queueStep rfl
  | wake j how => exact h.queueStep rfl
  | chan a =>
    simp only [World.step]
    split
    · exact h
    · exact h
    · exact h.advance a
  | hook => exact h.hookStep

theorem run (h : Good r w) (acts : List Act) : Good r (w.run acts) := by
  induction acts generalizing w with
  | nil => exact h
  | cons a acts ih => exact ih (h.step a)

end Good

theorem good_run (r : Registry) (acts : List Act) : Good r ((World.fresh r).run acts) :=
  (Good.fresh r).run acts

end Receiving
end FramedLink.Threads
