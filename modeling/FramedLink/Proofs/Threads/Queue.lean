import FramedLink.Inbox
import Mathlib.Logic.Function.Basic
import Mathlib.Tactic.Simps.Basic

namespace FramedLink.Threads.Queue

/-- Where a caller of the queue stands. -/
inductive CallerAt (α : Type) where
  | idle
  | signaling
  | looking
  | waiting
  | handing (x : α)

/-- A call on the queue. -/
inductive Call (α : Type) where
  | push (x : α)
  | pop
  | len
  | close

/-- The case a waiting `pop` wakes on: the token, the close, or the end of its context, which
ends the call with the context's error. -/
inductive Wake where
  | ready
  | done
  | context (e : Error)

/-- What a step under the lock saw, and what the context ended with. -/
inductive Event (α : Type) where
  | pushed (i : Nat) (x : α)
  | refused (i : Nat) (x : α)
  | took (i : Nat) (x : α)
  | sawClosed (i : Nat)
  | sawEmpty (i : Nat)
  | canceled (i : Nat) (e : Error)
  | counted (i : Nat) (n : Nat)
  | closed (i : Nat) (dropped : List α)

/-- What can happen next: an idle caller calls, a caller takes its next step, or a waiting
caller wakes. -/
inductive Act (α : Type) where
  | call (i : Nat) (c : Call α)
  | run (i : Nat)
  | wake (i : Nat) (how : Wake)

/-- The queue while its callers run. -/
structure World (α : Type) where
  inbox : Inbox α
  token : Bool
  callers : Nat → CallerAt α
  log : List (Event α)

variable {α : Type}

namespace Event

def pushed? : Event α → Option α
  | .pushed _ x => some x
  | _ => none

def took? : Event α → Option α
  | .took _ x => some x
  | _ => none

def dropped : Event α → List α
  | .closed _ d => d
  | _ => []

def isClose : Event α → Bool
  | .closed _ _ => true
  | _ => false

def lookOf (i : Nat) : Event α → Bool
  | .took j _ | .sawClosed j | .sawEmpty j => j == i
  | _ => false

end Event

def pushed (l : List (Event α)) : List α := l.filterMap Event.pushed?

def taken (l : List (Event α)) : List α := l.filterMap Event.took?

def dropped (l : List (Event α)) : List α := l.flatMap Event.dropped

def closedIn (l : List (Event α)) : Bool := l.any Event.isClose

def lastLook (i : Nat) (l : List (Event α)) : Option (Event α) := (l.filter (Event.lookOf i)).getLast?

@[simp] theorem pushed_nil : pushed ([] : List (Event α)) = [] := rfl
@[simp] theorem taken_nil : taken ([] : List (Event α)) = [] := rfl
@[simp] theorem dropped_nil : dropped ([] : List (Event α)) = [] := rfl
@[simp] theorem closedIn_nil : closedIn ([] : List (Event α)) = false := rfl

@[simp] theorem pushed_concat (l : List (Event α)) (e : Event α) :
    pushed (l ++ [e]) = pushed l ++ e.pushed?.toList := by
  cases h : e.pushed? <;> simp [pushed, h]

@[simp] theorem taken_concat (l : List (Event α)) (e : Event α) :
    taken (l ++ [e]) = taken l ++ e.took?.toList := by
  cases h : e.took? <;> simp [taken, h]

@[simp] theorem dropped_concat (l : List (Event α)) (e : Event α) :
    dropped (l ++ [e]) = dropped l ++ e.dropped := by
  simp [dropped]

@[simp] theorem closedIn_concat (l : List (Event α)) (e : Event α) :
    closedIn (l ++ [e]) = (closedIn l || e.isClose) := by
  simp [closedIn]

@[simp] theorem lastLook_concat (i : Nat) (l : List (Event α)) (e : Event α) :
    lastLook i (l ++ [e]) = if e.lookOf i then some e else lastLook i l := by
  unfold lastLook
  split <;> simp_all [List.filter_append]

theorem dropped_of_open {l : List (Event α)} (h : closedIn l = false) : dropped l = [] := by
  simp only [closedIn, List.any_eq_false] at h
  simp only [dropped, List.flatMap_eq_nil_iff]
  intro e he
  have := h e he
  cases e <;> simp_all [Event.isClose, Event.dropped]

theorem closedIn_mono {l l' : List (Event α)} (hp : l <+: l') (h : closedIn l = true) :
    closedIn l' = true := by
  obtain ⟨t, rfl⟩ := hp
  simp [closedIn, List.any_append] at h ⊢
  exact .inl h

/-- What an event says of the log `l` before it, for a queue that answers as one sequential
queue having seen `l`. -/
def Fits (l : List (Event α)) : Event α → Prop
  | .pushed _ _ => closedIn l = false
  | .refused _ _ => closedIn l = true
  | .took _ x => closedIn l = false ∧ (pushed l)[(taken l).length]? = some x
  | .sawClosed _ => closedIn l = true
  | .sawEmpty _ => closedIn l = false ∧ (pushed l).length = (taken l).length
  | .canceled i _ => lastLook i l = some (.sawEmpty i)
  | .counted _ n => n = if closedIn l then 0 else (pushed l).length - (taken l).length
  | .closed _ d => closedIn l = false ∧ d = (pushed l).drop (taken l).length

def AllFit (l : List (Event α)) : Prop := ∀ l₁ e l₂, l = l₁ ++ e :: l₂ → Fits l₁ e

theorem AllFit.nil : AllFit ([] : List (Event α)) := by
  intro l₁ e l₂ h
  simp at h

theorem AllFit.concat {l : List (Event α)} {e : Event α} (h : AllFit l) (he : Fits l e) :
    AllFit (l ++ [e]) := by
  intro l₁ e' l₂ hl
  rcases List.eq_nil_or_concat l₂ with rfl | ⟨l₃, x, rfl⟩
  · obtain ⟨rfl, hx⟩ := List.append_inj' hl rfl
    cases hx
    exact he
  · have hl' : l ++ [e] = (l₁ ++ e' :: l₃) ++ [x] := by simpa using hl
    exact h l₁ e' l₃ (List.append_inj' hl' rfl).1

namespace World

def fresh : World α := ⟨Inbox.empty, false, fun _ => .idle, []⟩

@[simps] def emit (w : World α) (e : Event α) : World α := { w with log := w.log ++ [e] }

@[simps] def setCaller (w : World α) (i : Nat) (c : CallerAt α) : World α :=
  { w with callers := Function.update w.callers i c }

@[simps] def setInbox (w : World α) (q : Inbox α) : World α := { w with inbox := q }

@[simps] def setToken (w : World α) (b : Bool) : World α := { w with token := b }

def push (w : World α) (i : Nat) (x : α) : World α :=
  match w.inbox.push x with
  | some q => ((w.setInbox q).emit (.pushed i x)).setCaller i .signaling
  | none => w.emit (.refused i x)

def look (w : World α) (i : Nat) : World α :=
  match w.inbox.take with
  | .item x q => ((w.setInbox q).emit (.took i x)).setCaller i
      (if q.items.isEmpty then .idle else .handing x)
  | .failed _ => (w.emit (.sawClosed i)).setCaller i .idle
  | .waiting => (w.emit (.sawEmpty i)).setCaller i .waiting

def count (w : World α) (i : Nat) : World α := w.emit (.counted i w.inbox.items.length)

def close (w : World α) (i : Nat) : World α :=
  if w.inbox.disposed then w else (w.setInbox w.inbox.dispose).emit (.closed i w.inbox.items)

def signal (w : World α) (i : Nat) : World α := (w.setToken true).setCaller i .idle

/-- A waiting `pop` wakes on a ready case: the token, which it takes, or the close, after which
it looks again; or its context ends, and it returns the context's error. -/
def wake (w : World α) (i : Nat) : Wake → World α
  | .ready => if w.token then (w.setToken false).setCaller i .looking else w
  | .done => if w.inbox.disposed then w.setCaller i .looking else w
  | .context e => (w.emit (.canceled i e)).setCaller i .idle

def call (w : World α) (i : Nat) : Call α → World α
  | .push x => w.push i x
  | .pop => w.setCaller i .looking
  | .len => w.count i
  | .close => w.close i

def step (w : World α) : Act α → World α
  | .call i c =>
    match w.callers i with
    | .idle => w.call i c
    | _ => w
  | .run i =>
    match w.callers i with
    | .signaling | .handing _ => w.signal i
    | .looking => w.look i
    | .idle | .waiting => w
  | .wake i how =>
    match w.callers i with
    | .waiting => w.wake i how
    | _ => w

def run (w : World α) (acts : List (Act α)) : World α := acts.foldl step w

@[simp] theorem run_cons (w : World α) (a : Act α) (acts : List (Act α)) :
    w.run (a :: acts) = (w.step a).run acts := rfl

theorem run_append (w : World α) (acts acts' : List (Act α)) :
    w.run (acts ++ acts') = (w.run acts).run acts' := List.foldl_append

end World

/-- The queue's invariant: the closed flag is the log's, a closed queue is empty, every item
pushed is taken, dropped or still queued, in that order, a waiting `pop` last found the queue
empty, and every logged answer fits the log before it. -/
structure Inv (w : World α) : Prop where
  closed_eq : w.inbox.disposed = closedIn w.log
  empty_of_closed : w.inbox.disposed = true → w.inbox.items = []
  accounts : pushed w.log = taken w.log ++ dropped w.log ++ w.inbox.items
  waiting : ∀ i, w.callers i = .waiting → lastLook i w.log = some (.sawEmpty i)
  fits : AllFit w.log

namespace Inv

variable {w : World α}

theorem fresh : Inv (World.fresh : World α) where
  closed_eq := rfl
  empty_of_closed := by simp [World.fresh, Inbox.empty]
  accounts := rfl
  waiting := by simp [World.fresh]
  fits := AllFit.nil

theorem queued_eq (h : Inv w) (hc : closedIn w.log = false) :
    w.inbox.items = (pushed w.log).drop (taken w.log).length := by
  rw [h.accounts, dropped_of_open hc, List.append_nil, List.drop_left]

theorem setCaller (h : Inv w) (i : Nat) {c : CallerAt α}
    (hc : c = .waiting → lastLook i w.log = some (.sawEmpty i)) : Inv (w.setCaller i c) where
  closed_eq := h.closed_eq
  empty_of_closed := h.empty_of_closed
  accounts := h.accounts
  waiting := by
    intro j hj
    by_cases hji : j = i
    · subst hji
      simp only [World.setCaller_callers, Function.update_self] at hj
      exact hc hj
    · simp only [World.setCaller_callers, ne_eq, hji, not_false_eq_true,
        Function.update_of_ne] at hj
      exact h.waiting j hj
  fits := h.fits

theorem setToken (h : Inv w) (b : Bool) : Inv (w.setToken b) :=
  ⟨h.closed_eq, h.empty_of_closed, h.accounts, h.waiting, h.fits⟩

theorem waiting_emit (h : Inv w) {e : Event α} (he : ∀ i, w.callers i = .waiting → e.lookOf i = false)
    (i : Nat) (hi : w.callers i = .waiting) : lastLook i (w.log ++ [e]) = some (.sawEmpty i) := by
  rw [lastLook_concat, he i hi]
  exact h.waiting i hi

theorem lookOf_waiting {i : Nat} (hi : w.callers i = .looking) {e : Event α}
    (he : ∀ j, e.lookOf j = true → j = i) : ∀ j, w.callers j = .waiting → e.lookOf j = false := by
  intro j hj
  cases hl : e.lookOf j with
  | false => rfl
  | true =>
    rw [he j hl, hi] at hj
    cases hj

theorem push (h : Inv w) (i : Nat) (x : α) : Inv (w.push i x) := by
  cases hd : w.inbox.disposed with
  | false =>
    have hq : w.inbox.push x = some { w.inbox with items := w.inbox.items ++ [x] } := by
      simp [Inbox.push, hd]
    have hopen : closedIn w.log = false := by rw [← h.closed_eq, hd]
    simp only [World.push, hq]
    apply Inv.setCaller _ i (by simp)
    refine ⟨?_, ?_, ?_, h.waiting_emit (fun _ _ => rfl), h.fits.concat hopen⟩
    · simp [hd, hopen, Event.isClose]
    · simp [hd]
    · simp [h.accounts, Event.pushed?, Event.took?, Event.dropped]
  | true =>
    have hq : w.inbox.push x = none := by simp [Inbox.push, hd]
    have hclosed : closedIn w.log = true := by rw [← h.closed_eq, hd]
    simp only [World.push, hq]
    refine ⟨?_, h.empty_of_closed, ?_, h.waiting_emit (fun _ _ => rfl), h.fits.concat hclosed⟩
    · simp [h.closed_eq, Event.isClose]
    · simp [h.accounts, Event.pushed?, Event.took?, Event.dropped]

theorem look (h : Inv w) {i : Nat} (hi : w.callers i = .looking) : Inv (w.look i) := by
  have hother := fun e he => h.waiting_emit (lookOf_waiting hi (e := e) he)
  cases hd : w.inbox.disposed with
  | true =>
    have hclosed : closedIn w.log = true := by rw [← h.closed_eq, hd]
    simp only [World.look, Inbox.take, hd, if_true]
    apply Inv.setCaller _ i (by simp)
    refine ⟨?_, h.empty_of_closed, ?_, hother _ (by simp [Event.lookOf]), h.fits.concat hclosed⟩
    · simp [h.closed_eq, Event.isClose]
    · simp [h.accounts, Event.pushed?, Event.took?, Event.dropped]
  | false =>
    have hopen : closedIn w.log = false := by rw [← h.closed_eq, hd]
    have hacc := h.accounts
    rw [dropped_of_open hopen, List.append_nil] at hacc
    cases hq : w.inbox.items with
    | nil =>
      simp only [World.look, Inbox.take, hd, hq, Bool.false_eq_true, if_false]
      apply Inv.setCaller _ i (fun _ => by simp [Event.lookOf])
      refine ⟨?_, by simp [hd], ?_, hother _ (by simp [Event.lookOf]), h.fits.concat ⟨hopen, ?_⟩⟩
      · simp [hd, hopen, Event.isClose]
      · simp [h.accounts, hq, Event.pushed?, Event.took?, Event.dropped]
      · rw [hacc, hq, List.append_nil]
    | cons x rest =>
      simp only [World.look, Inbox.take, hd, hq, Bool.false_eq_true, if_false]
      apply Inv.setCaller _ i (by split <;> simp)
      refine ⟨?_, by simp, ?_, hother _ (by simp [Event.lookOf]), h.fits.concat ⟨hopen, ?_⟩⟩
      · simp [hopen, Event.isClose]
      · simp [h.accounts, hq, Event.pushed?, Event.took?, Event.dropped, dropped_of_open hopen]
      · rw [hacc, hq, List.getElem?_append_right (Nat.le_refl _), Nat.sub_self]
        rfl

theorem count (h : Inv w) (i : Nat) : Inv (w.count i) := by
  refine ⟨?_, h.empty_of_closed, ?_, h.waiting_emit (fun _ _ => rfl), h.fits.concat ?_⟩
  · simp [World.count, h.closed_eq, Event.isClose]
  · simp [World.count, h.accounts, Event.pushed?, Event.took?, Event.dropped]
  · show w.inbox.items.length = _
    split
    · next hc => rw [h.empty_of_closed (h.closed_eq.trans hc), List.length_nil]
    · next hc =>
      have hacc := h.accounts
      rw [dropped_of_open (by simpa using hc), List.append_nil] at hacc
      rw [hacc, List.length_append]
      omega

theorem close (h : Inv w) (i : Nat) : Inv (w.close i) := by
  unfold World.close
  split
  · exact h
  · next hd =>
    have hopen : closedIn w.log = false := by rw [← h.closed_eq]; simpa using hd
    refine ⟨?_, ?_, ?_, h.waiting_emit (fun _ _ => rfl), h.fits.concat ⟨hopen, h.queued_eq hopen⟩⟩
    · simp [Inbox.dispose, Event.isClose]
    · simp [Inbox.dispose]
    · simp [Inbox.dispose, h.accounts, Event.pushed?, Event.took?, Event.dropped,
        dropped_of_open hopen]

theorem signal (h : Inv w) (i : Nat) : Inv (w.signal i) :=
  (h.setToken true).setCaller i (by simp)

theorem wake (h : Inv w) {i : Nat} (hi : w.callers i = .waiting) (how : Wake) :
    Inv (w.wake i how) := by
  cases how with
  | ready =>
    simp only [World.wake]
    split
    · exact (h.setToken false).setCaller i (by simp)
    · exact h
  | done =>
    simp only [World.wake]
    split
    · exact h.setCaller i (by simp)
    · exact h
  | context e =>
    apply Inv.setCaller _ i (by simp)
    refine ⟨?_, h.empty_of_closed, ?_, h.waiting_emit (fun _ _ => rfl), h.fits.concat ?_⟩
    · simp [h.closed_eq, Event.isClose]
    · simp [h.accounts, Event.pushed?, Event.took?, Event.dropped]
    · exact h.waiting i hi

theorem call (h : Inv w) (i : Nat) (c : Call α) : Inv (w.call i c) := by
  cases c with
  | push x => exact h.push i x
  | pop => exact h.setCaller i (by simp)
  | len => exact h.count i
  | close => exact h.close i

theorem step (h : Inv w) (a : Act α) : Inv (w.step a) := by
  cases a with
  | call i c =>
    simp only [World.step]
    split
    · exact h.call i c
    · exact h
  | run i =>
    simp only [World.step]
    split
    · exact h.signal i
    · exact h.signal i
    · next hi => exact h.look hi
    · exact h
    · exact h
  | wake i how =>
    simp only [World.step]
    split
    · next hi => exact h.wake hi how
    · exact h

theorem run (h : Inv w) (acts : List (Act α)) : Inv (w.run acts) := by
  induction acts generalizing w with
  | nil => exact h
  | cons a acts ih => exact ih (h.step a)

end Inv

namespace World

theorem log_prefix_step (w : World α) (a : Act α) : w.log <+: (w.step a).log := by
  have emit_le : ∀ (v : World α) (e : Event α), v.log <+: (v.emit e).log :=
    fun v e => List.prefix_append _ _
  cases a with
  | call i c =>
    simp only [step]
    split
    · cases c with
      | push x =>
        simp only [call, push]
        split
        · exact emit_le _ _
        · exact emit_le _ _
      | pop => exact List.prefix_refl _
      | len => exact emit_le _ _
      | close =>
        simp only [call, close]
        split
        · exact List.prefix_refl _
        · exact emit_le _ _
    · exact List.prefix_refl _
  | run i =>
    simp only [step]
    split
    · exact List.prefix_refl _
    · exact List.prefix_refl _
    · simp only [look]
      split <;> exact emit_le _ _
    · exact List.prefix_refl _
    · exact List.prefix_refl _
  | wake i how =>
    simp only [step]
    split
    · cases how with
      | ready | done =>
        simp only [wake]
        split <;> exact List.prefix_refl _
      | context e => exact emit_le _ _
    · exact List.prefix_refl _

theorem log_prefix_run (w : World α) (acts : List (Act α)) : w.log <+: (w.run acts).log := by
  induction acts generalizing w with
  | nil => exact List.prefix_refl _
  | cons a acts ih => exact (w.log_prefix_step a).trans (ih _)

end World

def Act.reads : Act α → Bool
  | .call _ (.push _) | .call _ .close => false
  | _ => true

/-- What caller `i`'s `pop` returned, if the event ends one: the item it took, the failure of a
closed queue, or its context's error. -/
def Event.popped? (i : Nat) : Event α → Option (Except Error α)
  | .took j x => if j = i then some (.ok x) else none
  | .sawClosed j => if j = i then some (.error .endpointDisposed) else none
  | .canceled j e => if j = i then some (.error e) else none
  | _ => none

namespace World

theorem reads_step (w : World α) {a : Act α} (ha : a.reads = true) :
    pushed (w.step a).log = pushed w.log ∧ closedIn (w.step a).log = closedIn w.log := by
  cases a with
  | call i c =>
    cases c with
    | push x | close => cases ha
    | pop =>
      simp only [step]
      split <;> simp [call]
    | len =>
      simp only [step]
      split <;> simp [call, count, Event.pushed?, Event.isClose]
  | run i =>
    simp only [step]
    split
    · simp [signal]
    · simp [signal]
    · simp only [look]
      split <;> simp [Event.pushed?, Event.isClose]
    · simp
    · simp
  | wake i how =>
    simp only [step]
    split
    · cases how with
      | ready | done =>
        simp only [wake]
        split <;> simp
      | context e => simp [wake, Event.pushed?, Event.isClose]
    · simp

theorem push_log (w : World α) (i : Nat) (x : α) :
    (∃ q, w.inbox.push x = some q ∧ (w.push i x).log = w.log ++ [.pushed i x]) ∨
      (w.inbox.push x = none ∧ (w.push i x).log = w.log ++ [.refused i x]) := by
  unfold push
  split
  · next q hq => exact .inl ⟨q, hq, rfl⟩
  · next hq => exact .inr ⟨hq, rfl⟩

theorem close_log (w : World α) (i : Nat) :
    pushed (w.close i).log = pushed w.log ∧
      (closedIn (w.close i).log = false → closedIn w.log = false) := by
  unfold close
  split
  · exact ⟨rfl, id⟩
  · simp [Event.pushed?, Event.isClose]

theorem push_of_closed {w : World α} (hc : w.inbox.disposed = true) (i : Nat) (x : α) :
    w.push i x = w.emit (.refused i x) := by
  simp [push, Inbox.push, hc]

theorem close_of_closed {w : World α} (hc : w.inbox.disposed = true) (i : Nat) : w.close i = w := by
  simp [close, hc]

theorem callers_setCaller_ne_waiting (w : World α) {i k : Nat} {c : CallerAt α}
    (hc : c ≠ .waiting) (hi : w.callers i ≠ .waiting) : (w.setCaller k c).callers i ≠ .waiting := by
  by_cases hk : i = k
  · subst hk
    simpa using hc
  · simpa [hk] using hi

theorem step_of_closed {w : World α} (hc : w.inbox.disposed = true) {i : Nat}
    (hi : w.callers i ≠ .waiting) (a : Act α) :
    (w.step a).inbox.disposed = true ∧ (w.step a).callers i ≠ .waiting ∧
      ∃ es, (w.step a).log = w.log ++ es ∧
        ∀ e ∈ es, ∀ x, e.popped? i = some x → x = .error .endpointDisposed := by
  have quiet : ∀ v : World α, v.inbox.disposed = true → v.callers i ≠ .waiting → v.log = w.log →
      v.inbox.disposed = true ∧ v.callers i ≠ .waiting ∧ ∃ es, v.log = w.log ++ es ∧
        ∀ e ∈ es, ∀ x, e.popped? i = some x → x = .error .endpointDisposed :=
    fun v hv hvi hl => ⟨hv, hvi, [], by simp [hl], by simp⟩
  cases a with
  | call k c =>
    simp only [step]
    split
    · cases c with
      | push x =>
        refine ⟨by simp [call, push_of_closed hc, hc], by simpa [call, push_of_closed hc] using hi,
          [.refused k x], by simp [call, push_of_closed hc], by simp [Event.popped?]⟩
      | pop => exact quiet _ hc (w.callers_setCaller_ne_waiting (by simp) hi) rfl
      | len => exact ⟨hc, hi, [_], rfl, by simp [Event.popped?]⟩
      | close => simpa [call, close_of_closed hc] using quiet w hc hi rfl
    · exact quiet w hc hi rfl
  | run k =>
    simp only [step]
    split
    · exact quiet _ hc (w.callers_setCaller_ne_waiting (by simp) hi) rfl
    · exact quiet _ hc (w.callers_setCaller_ne_waiting (by simp) hi) rfl
    · -- the look finds the queue closed and fails
      have hlook : w.look k = (w.emit (.sawClosed k)).setCaller k .idle := by
        simp [look, Inbox.take, hc]
      rw [hlook]
      refine ⟨by simp [hc], (w.emit _).callers_setCaller_ne_waiting (by simp) hi, [.sawClosed k],
        by simp, ?_⟩
      simp only [List.mem_singleton, Event.popped?]
      rintro e rfl x hx
      split at hx <;> simp_all
    · exact quiet w hc hi rfl
    · exact quiet w hc hi rfl
  | wake k how =>
    simp only [step]
    split
    · next hk =>
      -- a waiting caller is not `i`
      have hki : k ≠ i := fun h => hi (h ▸ hk)
      cases how with
      | ready =>
        simp only [wake]
        split
        · exact quiet _ hc ((w.setToken false).callers_setCaller_ne_waiting (by simp) hi) rfl
        · exact quiet w hc hi rfl
      | done =>
        simp only [wake, hc, if_true]
        exact quiet _ hc (w.callers_setCaller_ne_waiting (by simp) hi) rfl
      | context e =>
        refine ⟨hc, (w.emit _).callers_setCaller_ne_waiting (by simp) hi, [.canceled k e],
          by simp [wake], ?_⟩
        simp [Event.popped?, hki]
    · exact quiet w hc hi rfl

theorem pop_head {w : World α} {i : Nat} (hi : w.callers i = .idle) (hd : w.inbox.disposed = false)
    {x : α} {rest : List α} (hq : w.inbox.items = x :: rest) :
    let w' := w.run [.call i .pop, .run i, .run i]
    w'.inbox = { w.inbox with items := rest } ∧ w'.log = w.log ++ [.took i x] ∧
      w'.callers = w.callers := by
  have hlook : (w.setCaller i .looking).look i =
      (((w.setCaller i .looking).setInbox { w.inbox with items := rest }).emit (.took i x)).setCaller i
        (if rest.isEmpty then .idle else .handing x) := by
    simp [look, Inbox.take, hd, hq]
  cases rest with
  | nil =>
    simp [run, step, hi, call, hlook]
    funext k
    by_cases hk : k = i <;> simp [hk, hi]
  | cons y ys =>
    simp [run, step, hi, call, hlook, signal]
    funext k
    by_cases hk : k = i <;> simp [hk, hi]

end World

/-- The queue is linearizable: once closed it stays closed and empty, the items taken are the
oldest pushed, each once, and every answer given under the lock fits the operations logged
before it (`Fits`). -/
theorem queue_linearizes (acts : List (Act α)) :
    let w := (World.fresh : World α).run acts
    (∀ acts', w.inbox.disposed = true →
      (w.run acts').inbox.disposed = true ∧ (w.run acts').inbox.items = []) ∧
    pushed w.log = taken w.log ++ dropped w.log ++ w.inbox.items ∧
    (∀ l₁ e l₂, w.log = l₁ ++ e :: l₂ → Fits l₁ e) := by
  intro w
  have h : Inv w := Inv.fresh.run acts
  refine ⟨fun acts' hc => ?_, h.accounts, h.fits⟩
  have h' : Inv (w.run acts') := h.run acts'
  have hc' : (w.run acts').inbox.disposed = true := by
    rw [h'.closed_eq]
    exact closedIn_mono (w.log_prefix_run acts') (h.closed_eq ▸ hc)
  exact ⟨hc', h'.empty_of_closed hc'⟩

end FramedLink.Threads.Queue
