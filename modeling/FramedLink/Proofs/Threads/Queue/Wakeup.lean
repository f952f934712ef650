import FramedLink.Proofs.Threads.Queue

namespace FramedLink.Inbox

variable {α : Type} {q : Inbox α}

theorem disposed_of_take_failed {e : Error} (h : q.take = .failed e) : q.disposed = true := by
  unfold take at h
  split at h
  · assumption
  · split at h <;> cases h

theorem items_of_take_waiting (h : q.take = .waiting) : q.items = [] := by
  unfold take at h
  split at h
  · cases h
  · split at h
    · cases h
    · assumption

end FramedLink.Inbox

namespace FramedLink.Threads.Queue

variable {α : Type}

namespace Event

/-- Whether the event is a turn of caller `i`'s `pop`: one of its looks, or the end of its
context. -/
def turnOf (i : Nat) : Event α → Bool
  | .took j _ | .sawClosed j | .sawEmpty j | .canceled j _ => j == i
  | _ => false

def foundEmpty : Event α → Bool
  | .sawEmpty _ => true
  | _ => false

def caller : Event α → Nat
  | .pushed i _ | .refused i _ | .took i _ | .sawClosed i | .sawEmpty i | .canceled i _
  | .counted i _ | .closed i _ => i

theorem caller_of_turnOf {e : Event α} {j : Nat} (h : e.turnOf j = true) : e.caller = j := by
  cases e <;> simp_all [turnOf, caller]

end Event

/-- Whether caller `i`'s last turn is a look that found the queue open and empty: its `pop` has
gone to wait since, and has not ended. -/
def waited (i : Nat) (l : List (Event α)) : Bool :=
  (l.filter (Event.turnOf i)).getLast?.any Event.foundEmpty

@[simp] theorem waited_nil (i : Nat) : waited i ([] : List (Event α)) = false := rfl

theorem waited_concat (i : Nat) (l : List (Event α)) (e : Event α) :
    waited i (l ++ [e]) = if e.turnOf i then e.foundEmpty else waited i l := by
  unfold waited
  by_cases h : e.turnOf i <;> simp [List.filter_append, h]

theorem waited_concat_of_not_turn {i : Nat} {e : Event α} (h : e.turnOf i = false)
    (l : List (Event α)) : waited i (l ++ [e]) = waited i l := by
  rw [waited_concat, h, if_neg (by simp)]

theorem waited_concat_of_ne {i j : Nat} {e : Event α} (he : e.caller = i) (hj : j ≠ i)
    (l : List (Event α)) : waited j (l ++ [e]) = waited j l := by
  apply waited_concat_of_not_turn
  cases ht : e.turnOf j with
  | false => rfl
  | true => exact absurd ((Event.caller_of_turnOf ht).symm.trans he) hj

def Act.caller : Act α → Nat
  | .call i _ | .run i | .wake i _ => i

namespace World

theorem step_other (w : World α) {a : Act α} {i : Nat} (hi : a.caller ≠ i) :
    (w.step a).callers i = w.callers i ∧ waited i (w.step a).log = waited i w.log := by
  have hne : ∀ j, a.caller = j → i ≠ j := fun j hj => hj ▸ Ne.symm hi
  cases a with
  | call j c =>
    have hj := hne j rfl
    simp only [step]
    split
    · cases c with
      | push x =>
        simp only [call, push]
        split <;> simp [hj, waited_concat, Event.turnOf]
      | pop => simp [call, hj]
      | len => simp [call, count, waited_concat, Event.turnOf]
      | close =>
        simp only [call, close]
        split <;> simp [waited_concat, Event.turnOf]
    · exact ⟨rfl, rfl⟩
  | run j =>
    have hj := hne j rfl
    simp only [step]
    split
    · simp [signal, hj]
    · simp [signal, hj]
    · simp only [look]
      split <;> simp [hj, waited_concat, Event.turnOf, Ne.symm hj]
    · exact ⟨rfl, rfl⟩
    · exact ⟨rfl, rfl⟩
  | wake j how =>
    have hj := hne j rfl
    simp only [step]
    split
    · cases how with
      | ready | done =>
        simp only [wake]
        split <;> simp [hj]
      | context e => simp [wake, hj, waited_concat, Event.turnOf, Ne.symm hj]
    · exact ⟨rfl, rfl⟩

theorem looking_of_call (w : World α) {i : Nat} (c : Call α)
    (hl : (w.step (.call i c)).callers i = .looking) :
    w.step (.call i c) = w ∨ (w.callers i = .idle ∧ (w.step (.call i c)).log = w.log) := by
  simp only [step] at hl ⊢
  split at hl
  · next hi =>
    cases c with
    | push x =>
      simp only [call, push] at hl
      split at hl <;> simp [hi] at hl
    | pop => exact .inr ⟨hi, rfl⟩
    | len => simp [call, count, hi] at hl
    | close =>
      simp only [call, close] at hl
      split at hl <;> simp [hi] at hl
  · exact .inl rfl

theorem looking_of_run (w : World α) {i : Nat} (hl : (w.step (.run i)).callers i = .looking) :
    w.step (.run i) = w := by
  simp only [step] at hl ⊢
  split at hl
  · simp [signal] at hl
  · simp [signal] at hl
  · simp only [look] at hl
    split at hl
    · simp only [setCaller_callers, Function.update_self] at hl
      split at hl <;> cases hl
    · simp at hl
    · simp at hl
  · rfl
  · rfl

theorem looking_of_wake (w : World α) {i : Nat} (how : Wake) :
    w.step (.wake i how) = w ∨ w.callers i = .waiting := by
  simp only [step]
  split
  · next hi => exact .inr hi
  · exact .inl rfl

/-- Someone is left to wake a waiting `pop`: the wake-up channel holds its token, a `pop` has
left its wait and not yet taken the lock to look again, or a `push` or a `pop` has let go of the
lock and not yet handed its token on. -/
def WakeupPending (w : World α) : Prop :=
  w.token = true ∨ (∃ i, w.callers i = .looking ∧ waited i w.log = true) ∨
    (∃ i, w.callers i = .signaling) ∨ ∃ i x, w.callers i = .handing x

def wakes (w : World α) (i : Nat) : Prop :=
  (w.callers i = .looking ∧ waited i w.log = true) ∨ w.callers i = .signaling ∨
    ∃ x, w.callers i = .handing x

theorem WakeupPending.keep {w w' : World α} {i : Nat} (h : w.WakeupPending) (hi : ¬ w.wakes i)
    (htoken : w.token = true → w'.token = true)
    (hcallers : ∀ j, j ≠ i → w'.callers j = w.callers j)
    (hlog : ∀ j, j ≠ i → waited j w'.log = waited j w.log) : w'.WakeupPending := by
  have other : ∀ j, w.wakes j → j ≠ i := fun j hj hji => hi (hji ▸ hj)
  rcases h with ht | ⟨j, hj, hw⟩ | ⟨j, hj⟩ | ⟨j, x, hj⟩
  · exact .inl (htoken ht)
  · have hji := other j (.inl ⟨hj, hw⟩)
    exact .inr (.inl ⟨j, (hcallers j hji).trans hj, (hlog j hji).trans hw⟩)
  · have hji := other j (.inr (.inl hj))
    exact .inr (.inr (.inl ⟨j, (hcallers j hji).trans hj⟩))
  · have hji := other j (.inr (.inr ⟨x, hj⟩))
    exact .inr (.inr (.inr ⟨j, x, (hcallers j hji).trans hj⟩))

end World

/-- The invariant: a waiting `pop` last found the queue empty, a caller outside `pop` or about to
hand a token on has not waited since its last turn, and while the queue is open and holds items
a wake-up is pending. -/
structure Awake (w : World α) : Prop where
  waited_of_waiting : ∀ i, w.callers i = .waiting → waited i w.log = true
  fresh : ∀ i, (w.callers i = .idle ∨ w.callers i = .signaling ∨
    ∃ x, w.callers i = .handing x) → waited i w.log = false
  pending : w.inbox.disposed = false → w.inbox.items ≠ [] → w.WakeupPending

namespace Awake

variable {w w' : World α}

theorem fresh_world : Awake (World.fresh : World α) where
  waited_of_waiting := by simp [World.fresh]
  fresh := by simp [World.fresh]
  pending := by simp [World.fresh, Inbox.empty]

theorem of_caller (h : Awake w) (i : Nat)
    (hcallers : ∀ j, j ≠ i → w'.callers j = w.callers j)
    (hlog : ∀ j, j ≠ i → waited j w'.log = waited j w.log)
    (hwaiting : w'.callers i = .waiting → waited i w'.log = true)
    (hfresh : (w'.callers i = .idle ∨ w'.callers i = .signaling ∨
      ∃ x, w'.callers i = .handing x) → waited i w'.log = false)
    (hpending : w'.inbox.disposed = false → w'.inbox.items ≠ [] → w'.WakeupPending) :
    Awake w' := by
  refine ⟨fun j hj => ?_, fun j hj => ?_, hpending⟩
  · by_cases hji : j = i
    · exact hji ▸ hwaiting (hji ▸ hj)
    · rw [hlog j hji]
      exact h.waited_of_waiting j (by rwa [← hcallers j hji])
  · by_cases hji : j = i
    · exact hji ▸ hfresh (hji ▸ hj)
    · rw [hlog j hji]
      exact h.fresh j (by simpa only [hcallers j hji] using hj)

theorem emit (h : Awake w) {e : Event α} (he : ∀ j, e.turnOf j = false) : Awake (w.emit e) where
  waited_of_waiting j hj := by
    simpa [waited_concat_of_not_turn (he j)] using h.waited_of_waiting j hj
  fresh j hj := by simpa [waited_concat_of_not_turn (he j)] using h.fresh j hj
  pending hd hq := by
    rcases h.pending hd hq with ht | ⟨j, hj, hw⟩ | hs | hh
    · exact .inl ht
    · exact .inr (.inl ⟨j, hj, by simpa [waited_concat_of_not_turn (he j)] using hw⟩)
    · exact .inr (.inr (.inl hs))
    · exact .inr (.inr (.inr hh))

theorem push (h : Awake w) {i : Nat} (hi : w.callers i = .idle) (x : α) :
    Awake (w.push i x) := by
  unfold World.push
  split
  · refine Awake.of_caller h i (fun j hj => by simp [hj])
      (fun j hj => by simp [waited_concat_of_not_turn (rfl : (Event.pushed i x).turnOf j = false)])
      (by simp) (fun _ => ?_) (fun _ _ => .inr (.inr (.inl ⟨i, by simp⟩)))
    -- the pusher was outside the queue, and its push is no turn
    simpa [waited_concat_of_not_turn (rfl : (Event.pushed i x).turnOf i = false)] using
      h.fresh i (.inl hi)
  · exact h.emit fun _ => rfl

theorem dispose (h : Awake w) : Awake (w.setInbox w.inbox.dispose) :=
  ⟨h.waited_of_waiting, h.fresh, fun hd => by simp [Inbox.dispose] at hd⟩

theorem look (h : Awake w) (i : Nat) : Awake (w.look i) := by
  unfold World.look
  split
  · next x q hq =>
    refine Awake.of_caller h i (fun j hj => by simp [hj])
      (fun j hj => by simp [waited_concat_of_ne (rfl : (Event.took i x).caller = i) hj])
      (fun hc => ?_) (fun _ => by simp [waited_concat, Event.turnOf, Event.foundEmpty])
      (fun _ hne => .inr (.inr (.inr ⟨i, x, ?_⟩)))
    · simp only [World.setCaller_callers, Function.update_self] at hc
      split at hc <;> cases hc
    · simpa [List.isEmpty_iff] using hne
  · next e hq =>
    -- the queue is closed: nothing is due
    refine Awake.of_caller h i (fun j hj => by simp [hj])
      (fun j hj => by simp [waited_concat_of_ne (rfl : (Event.sawClosed i).caller = i) hj])
      (by simp) (fun _ => by simp [waited_concat, Event.turnOf, Event.foundEmpty])
      (fun hd => ?_)
    simp [Inbox.disposed_of_take_failed hq] at hd
  · next hq =>
    -- the queue is empty: nothing is due
    refine Awake.of_caller h i (fun j hj => by simp [hj])
      (fun j hj => by simp [waited_concat_of_ne (rfl : (Event.sawEmpty i).caller = i) hj])
      (fun _ => by simp [waited_concat, Event.turnOf, Event.foundEmpty]) (by simp)
      (fun _ hne => ?_)
    simp [Inbox.items_of_take_waiting hq] at hne

theorem signal (h : Awake w) {i : Nat}
    (hi : w.callers i = .signaling ∨ ∃ x, w.callers i = .handing x) : Awake (w.signal i) :=
  Awake.of_caller h i (fun j hj => by simp [World.signal, hj]) (fun _ _ => rfl)
    (by simp [World.signal]) (fun _ => h.fresh i (.inr hi)) (fun _ _ => .inl rfl)

theorem wake (h : Awake w) {i : Nat} (hi : w.callers i = .waiting) (how : Wake) :
    Awake (w.wake i how) := by
  have notWakes : ¬ w.wakes i := by simp [World.wakes, hi]
  cases how with
  | ready =>
    simp only [World.wake]
    split
    · exact Awake.of_caller h i (fun j hj => by simp [hj]) (fun _ _ => rfl) (by simp) (by simp)
        (fun _ _ => .inr (.inl ⟨i, by simp, h.waited_of_waiting i hi⟩))
    · exact h
  | done =>
    simp only [World.wake]
    split
    · next hd =>
      exact Awake.of_caller h i (fun j hj => by simp [hj]) (fun _ _ => rfl) (by simp) (by simp)
        (fun hd' => by simp [hd] at hd')
    · exact h
  | context e =>
    -- the `pop` returns; nobody else moves, and its cancellation is a turn of its own
    have hcallers : ∀ j, j ≠ i → (w.wake i (.context e)).callers j = w.callers j :=
      fun j hj => by simp [World.wake, hj]
    have hlog : ∀ j, j ≠ i → waited j (w.wake i (.context e)).log = waited j w.log :=
      fun j hj => by
        simp [World.wake, waited_concat_of_ne (rfl : (Event.canceled i e).caller = i) hj]
    exact Awake.of_caller h i hcallers hlog (by simp [World.wake])
      (fun _ => by simp [World.wake, waited_concat, Event.turnOf, Event.foundEmpty])
      (fun hd hne => (h.pending hd hne).keep notWakes (by simp [World.wake]) hcallers hlog)

theorem call (h : Awake w) {i : Nat} (hi : w.callers i = .idle) (c : Call α) :
    Awake (w.call i c) := by
  have notWakes : ¬ w.wakes i := by simp [World.wakes, hi]
  cases c with
  | push x => exact h.push hi x
  | pop =>
    exact Awake.of_caller h i (fun j hj => by simp [World.call, hj]) (fun _ _ => rfl)
      (by simp [World.call]) (by simp [World.call])
      (fun hd hne => (h.pending hd hne).keep notWakes id (fun j hj => by simp [World.call, hj])
        (fun _ _ => rfl))
  | len => exact h.emit fun _ => rfl
  | close =>
    simp only [World.call, World.close]
    split
    · exact h
    · exact h.dispose.emit fun _ => rfl

theorem step (h : Awake w) (a : Act α) : Awake (w.step a) := by
  cases a with
  | call i c =>
    simp only [World.step]
    split
    · next hi => exact h.call hi c
    · exact h
  | run i =>
    simp only [World.step]
    split
    · next hi => exact h.signal (.inl hi)
    · next x hi => exact h.signal (.inr ⟨x, hi⟩)
    · exact h.look i
    · exact h
    · exact h
  | wake i how =>
    simp only [World.step]
    split
    · next hi => exact h.wake hi how
    · exact h

theorem looking_waited_step (h : Awake w) (a : Act α) {i : Nat}
    (hl : (w.step a).callers i = .looking) (hw : waited i (w.step a).log = true) :
    (w.callers i = .looking ∧ waited i w.log = true) ∨
      (w.callers i = .waiting ∧ ∃ how, a = .wake i how) := by
  -- a step that does nothing leaves the caller as it found it
  have same : w.step a = w → w.callers i = .looking ∧ waited i w.log = true := fun he => by
    rw [he] at hl hw
    exact ⟨hl, hw⟩
  by_cases hi : a.caller = i
  · cases a with
    | call j c =>
      obtain rfl : i = j := hi.symm
      rcases w.looking_of_call c hl with he | ⟨hidle, hlog⟩
      · exact .inl (same he)
      · -- a fresh `pop` has not waited
        rw [hlog, h.fresh i (.inl hidle)] at hw
        cases hw
    | run j =>
      obtain rfl : i = j := hi.symm
      exact .inl (same (w.looking_of_run hl))
    | wake j how =>
      obtain rfl : i = j := hi.symm
      rcases w.looking_of_wake (i := i) how with he | hwait
      · exact .inl (same he)
      · exact .inr ⟨hwait, how, rfl⟩
  · obtain ⟨hc, hlog⟩ := w.step_other hi
    exact .inl ⟨hc ▸ hl, hlog ▸ hw⟩

theorem run (h : Awake w) (acts : List (Act α)) : Awake (w.run acts) := by
  induction acts generalizing w with
  | nil => exact h
  | cons a acts ih => exact ih (h.step a)

end Awake

/-- No wake-up is lost: while the queue is open and holds items, a wake-up is pending
(`WakeupPending`), so no `pop` is left parked with items queued; a `pop` counts as woken only if
it got there by waking. -/
theorem wakeup_pending (acts : List (Act α)) :
    let w := (World.fresh : World α).run acts
    (w.inbox.disposed = false → w.inbox.items ≠ [] → w.WakeupPending) ∧
    ∀ a i, (w.step a).callers i = .looking → waited i (w.step a).log = true →
      (w.callers i = .looking ∧ waited i w.log = true) ∨
        (w.callers i = .waiting ∧ ∃ how, a = .wake i how) := by
  intro w
  have h : Awake w := Awake.fresh_world.run acts
  exact ⟨h.pending, fun a _ hl hw => h.looking_waited_step a hl hw⟩

end FramedLink.Threads.Queue
