import FramedLink.Proofs.Threads

namespace FramedLink.Threads

namespace Event

def claim? : Event → Option (Tid × Option Error)
  | .claimed t c => some (t, c)
  | _ => none

def hook? : Event → Option Hook
  | .hook h => some h
  | _ => none

def win? : Event → Option (Tid × Option Error)
  | .returned t true r => some (t, r)
  | _ => none

/-- Events that change neither who closed the channel nor what a shutdown returned: a shutdown
that returns without having closed the channel, and passes on no failure, is one of them. -/
def quiet : Event → Bool
  | .claimed _ _ => false
  | .returned _ true _ => false
  | .returned _ false (some _) => false
  | _ => true

end Event

def claims (l : List Event) : List (Tid × Option Error) := l.filterMap Event.claim?

def hooks (l : List Event) : List Hook := l.filterMap Event.hook?

def wins (l : List Event) : List (Tid × Option Error) := l.filterMap Event.win?

def calls (ms : List Message) : List Hook :=
  ms.flatMap fun m => [.enter (.message m), .leave (.message m)]

@[simp] theorem claims_nil : claims [] = [] := rfl
@[simp] theorem hooks_nil : hooks [] = [] := rfl
@[simp] theorem wins_nil : wins [] = [] := rfl

@[simp] theorem claims_append (l l' : List Event) : claims (l ++ l') = claims l ++ claims l' :=
  List.filterMap_append
@[simp] theorem hooks_append (l l' : List Event) : hooks (l ++ l') = hooks l ++ hooks l' :=
  List.filterMap_append
@[simp] theorem wins_append (l l' : List Event) : wins (l ++ l') = wins l ++ wins l' :=
  List.filterMap_append

@[simp] theorem claims_cons (e : Event) (l : List Event) :
    claims (e :: l) = e.claim?.toList ++ claims l := by
  cases h : e.claim? <;> simp [claims, h]
@[simp] theorem hooks_cons (e : Event) (l : List Event) :
    hooks (e :: l) = e.hook?.toList ++ hooks l := by
  cases h : e.hook? <;> simp [hooks, h]
@[simp] theorem wins_cons (e : Event) (l : List Event) :
    wins (e :: l) = e.win?.toList ++ wins l := by
  cases h : e.win? <;> simp [wins, h]

@[simp] theorem calls_nil : calls [] = [] := rfl

theorem calls_append_single (ms : List Message) (m : Message) :
    calls (ms ++ [m]) = calls ms ++ [.enter (.message m), .leave (.message m)] := by
  simp [calls]

theorem filterMap_calls {f : Hook → Option Message} (hf : ∀ m, f (.enter (.message m)) = some m)
    (hl : ∀ d, f (.leave d) = none) (ms : List Message) : (calls ms).filterMap f = ms := by
  induction ms with
  | nil => rfl
  | cons m ms ih => simp [calls, hf, hl] at ih ⊢; exact ih

def Stop.afterClaim : Stop → Bool
  | .claim _ => false
  | _ => true

def Stop.holdsLock : Stop → Bool
  | .deliverLost _ => true
  | _ => false

def Tid.entersAt : Tid → Stop → Bool
  | .caller _, .claim none => true
  | .caller _, _ => false
  | _, .claim _ => true
  | _, _ => false

def ReaderAt.holdsLock : ReaderAt → Bool
  | .checkOpen .. | .delivering .. => true
  | .stopping s => s.holdsLock
  | _ => false

def WriterAt.holdsLock : WriterAt → Bool
  | .stopping s => s.holdsLock
  | _ => false

def CallerAt.holdsLock : CallerAt → Bool
  | .stopping s => s.holdsLock
  | _ => false

def ReaderAt.inFlight : ReaderAt → List Hook
  | .delivering _ m _ => [.enter (.message m)]
  | _ => []

theorem ReaderAt.holdsLock_of_stage {r : ReaderAt} {s : Stop} (h : r.stage = some s) :
    r.holdsLock = s.holdsLock := by
  cases r <;> cases h
  rfl

theorem WriterAt.holdsLock_of_stage {x : WriterAt} {s : Stop} (h : x.stage = some s) :
    x.holdsLock = s.holdsLock := by
  cases x <;> cases h
  rfl

theorem CallerAt.holdsLock_of_stage {c : CallerAt} {s : Stop} (h : c.stage = some s) :
    c.holdsLock = s.holdsLock := by
  cases c <;> cases h
  rfl

theorem ReaderAt.inFlight_eq_nil {r : ReaderAt} (h : r.holdsLock = false) : r.inFlight = [] := by
  cases r <;> simp_all [holdsLock, inFlight]

namespace World

def holds (w : World) : Tid → Bool
  | .reader => w.reader.holdsLock
  | .writer => w.writer.holdsLock
  | .caller i => (w.callers i).holdsLock

def losing (w : World) : Bool :=
  match w.deliverer with
  | some t => match w.stage t with
    | some (.deliverLost _) => true
    | _ => false
  | none => false

def Won (w : World) (t : Tid) : Prop := (∃ c, claims w.log = [(t, c)]) ∧ wins w.log = []

def lostTail (w : World) : List Hook :=
  if (wins w.log).isEmpty then (if w.losing then [.enter .lost] else []) else [.enter .lost, .leave .lost]

section Views

variable (w : World)

theorem holds_of_stage {w : World} {t : Tid} {s : Stop} (h : w.stage t = some s) :
    w.holds t = s.holdsLock := by
  cases t with
  | reader => exact ReaderAt.holdsLock_of_stage h
  | writer => exact WriterAt.holdsLock_of_stage h
  | caller i => exact CallerAt.holdsLock_of_stage h

@[simp] theorem holds_emit (e : Event) (t : Tid) : (w.emit e).holds t = w.holds t := by
  cases t <;> rfl
@[simp] theorem holds_closeWith (c : Option Error) (t : Tid) :
    (w.closeWith c).holds t = w.holds t := by
  cases t <;> rfl
@[simp] theorem holds_lock (t' t : Tid) : (w.lock t').holds t = w.holds t := by
  cases t <;> rfl
@[simp] theorem holds_unlock (t : Tid) : w.unlock.holds t = w.holds t := by
  cases t <;> rfl

theorem holds_setReader (r : ReaderAt) (t : Tid) :
    (w.setReader r).holds t = if t = .reader then r.holdsLock else w.holds t := by
  cases t <;> rfl

theorem holds_setWriter (x : WriterAt) (t : Tid) :
    (w.setWriter x).holds t = if t = .writer then x.holdsLock else w.holds t := by
  cases t <;> rfl

theorem holds_setCaller (i : Nat) (c : CallerAt) (t : Tid) :
    (w.setCaller i c).holds t = if t = .caller i then c.holdsLock else w.holds t := by
  cases t with
  | reader | writer => rfl
  | caller j =>
    by_cases h : j = i
    · subst h
      simp [holds]
    · simp [holds, h]

theorem holds_setStage (s : Stop) (t t' : Tid) :
    (w.setStage s t).holds t' = if t' = t then s.holdsLock else w.holds t' := by
  cases t with
  | reader => rw [setStage, holds_setReader]; rfl
  | writer => rw [setStage, holds_setWriter]; rfl
  | caller i => rw [setStage, holds_setCaller]; rfl

theorem holds_finish (t : Tid) (won : Bool) (r : Option Error) (t' : Tid) :
    (w.finish t won r).holds t' = if t' = t then false else w.holds t' := by
  cases t with
  | reader => simp only [finish, holds_setReader, holds_emit]; rfl
  | writer => simp only [finish, holds_setWriter, holds_emit]; rfl
  | caller i => simp only [finish, holds_setCaller, holds_emit]; rfl

theorem stage_of_setReader {w : World} {r : ReaderAt} (hr : r.stage = none) {t : Tid} {s : Stop}
    (hs : (w.setReader r).stage t = some s) : w.stage t = some s := by
  rw [stage_setReader] at hs
  split at hs
  · rw [hr] at hs
    cases hs
  · exact hs

theorem inFlight_eq_nil {w : World} (h : w.holds .reader = false) : w.reader.inFlight = [] :=
  ReaderAt.inFlight_eq_nil h

theorem inFlight_setStage (s : Stop) (t : Tid) :
    (w.setStage s t).reader.inFlight = if t = .reader then [] else w.reader.inFlight := by
  rw [setStage_reader]
  split <;> rfl

theorem inFlight_finish (t : Tid) (won : Bool) (r : Option Error) :
    (w.finish t won r).reader.inFlight = if t = .reader then [] else w.reader.inFlight := by
  rw [finish_reader]
  split <;> rfl

theorem losing_congr {w w' : World} (hdel : w'.deliverer = w.deliverer)
    (hheld : ∀ t, w.deliverer = some t → w'.stage t = w.stage t) : w'.losing = w.losing := by
  unfold losing
  rw [hdel]
  cases hd : w.deliverer with
  | none => rfl
  | some t => simp only [hheld t hd]

theorem losing_of_free {w : World} {t : Tid} (hd : w.deliverer = some t) (h : w.stage t = none) :
    w.losing = false := by
  simp [losing, hd, h]

theorem lostTail_congr {w w' : World} (hwins : wins w'.log = wins w.log)
    (hlosing : w'.losing = w.losing) : w'.lostTail = w.lostTail := by
  unfold lostTail
  rw [hwins, hlosing]

end Views

end World

/-- How the close lock's flag and cause, the claims and the stages of shutdown agree. -/
structure Closing (w : World) : Prop where
  open_iff : w.closed = false ↔ claims w.log = []
  claims_eq : claims w.log = [] ∨ ∃ t, claims w.log = [(t, w.cause)]
  cause_open : w.closed = false → w.cause = none
  caller_cause : ∀ i c, (.caller i, c) ∈ claims w.log → c = none
  caller_claim : ∀ i c, w.stage (.caller i) = some (.claim c) → c = none
  after_claim : ∀ t s, w.stage t = some s → s.afterClaim → w.Won t
  stream_closed : ∀ t r, w.stage t = some (.awaitLock r) ∨ w.stage t = some (.deliverLost r) →
    .streamClosed t r ∈ w.log
  wins_le : (wins w.log).length ≤ 1
  wins_claimed : ∀ t r, (t, r) ∈ wins w.log →
    (∃ c, claims w.log = [(t, c)]) ∧ .streamClosed t r ∈ w.log
  losers_none : ∀ t r, .returned t false r ∈ w.log → r = none

/-- How the deliver lock and the calls of the hook agree. -/
structure Delivering (w : World) : Prop where
  lock : ∀ t, w.deliverer = some t ↔ w.holds t = true
  hooks_eq : ∃ ms, hooks w.log = calls ms ++ w.reader.inFlight ++ w.lostTail
  inFlight_open : w.reader.inFlight ≠ [] → wins w.log = [] ∧ w.losing = false

/-- What holds in every state a run of a channel reaches. -/
structure Inv (w : World) : Prop where
  closing : Closing w
  delivering : Delivering w

theorem Inv.fresh (r : Registry) : Inv (World.fresh r) where
  closing := {
    open_iff := by simp [World.fresh]
    claims_eq := by simp [World.fresh]
    cause_open := by simp [World.fresh]
    caller_cause := by simp [World.fresh]
    caller_claim := fun _ _ hc => by cases hc
    after_claim := by
      intro t s hs
      cases t <;> cases hs
    stream_closed := by
      intro t r hs
      cases t <;> rcases hs with hs | hs <;> cases hs
    wins_le := by simp [World.fresh]
    wins_claimed := by simp [World.fresh]
    losers_none := by simp [World.fresh] }
  delivering := {
    lock := by
      intro t
      cases t <;> simp [World.fresh, World.holds, ReaderAt.holdsLock, WriterAt.holdsLock,
        CallerAt.holdsLock]
    hooks_eq := ⟨[], by simp [World.fresh, ReaderAt.inFlight, World.lostTail, World.losing]⟩
    inFlight_open := by simp [World.fresh, ReaderAt.inFlight] }

def QuietAfter (l l' : List Event) : Prop := l' = l ∨ ∃ e, e.quiet ∧ l' = l ++ [e]

namespace QuietAfter

variable {l l' : List Event}

theorem claims (h : QuietAfter l l') : Threads.claims l' = Threads.claims l := by
  rcases h with rfl | ⟨e, he, rfl⟩
  · rfl
  · cases e <;> simp_all [Event.quiet, Event.claim?]

theorem wins (h : QuietAfter l l') : Threads.wins l' = Threads.wins l := by
  rcases h with rfl | ⟨e, he, rfl⟩
  · rfl
  · cases e with
    | returned t won r => cases won <;> simp_all [Event.quiet, Event.win?]
    | _ => simp_all [Event.quiet, Event.win?]

theorem subset (h : QuietAfter l l') : l ⊆ l' := by
  rcases h with rfl | ⟨e, -, rfl⟩
  · exact List.Subset.refl _
  · exact List.subset_append_left _ _

theorem losers (h : QuietAfter l l') (hl : ∀ t r, .returned t false r ∈ l → r = none) :
    ∀ t r, .returned t false r ∈ l' → r = none := by
  intro t r hr
  rcases h with rfl | ⟨e, he, rfl⟩
  · exact hl t r hr
  · rcases List.mem_append.mp hr with hr | hr
    · exact hl t r hr
    · simp only [List.mem_singleton] at hr
      subst hr
      cases r <;> simp_all [Event.quiet]

end QuietAfter

theorem Closing.frame {w w' : World} (h : Closing w) (hlog : QuietAfter w.log w'.log)
    (hclosed : w'.closed = w.closed) (hcause : w'.cause = w.cause)
    (hstage : ∀ t s, w'.stage t = some s → w.stage t = some s ∨ t.entersAt s ∨
      (w.Won t ∧ s.afterClaim ∧ ∀ r, s = .awaitLock r ∨ s = .deliverLost r →
        .streamClosed t r ∈ w'.log)) :
    Closing w' := by
  have hclaims := hlog.claims
  have hwins := hlog.wins
  have hwon : ∀ t, w.Won t → w'.Won t := fun t hw => by
    unfold World.Won
    rw [hclaims, hwins]
    exact hw
  refine ⟨?_, ?_, ?_, ?_, ?_, ?_, ?_, ?_, ?_, ?_⟩
  · rw [hclosed, hclaims]; exact h.open_iff
  · rw [hclaims, hcause]; exact h.claims_eq
  · intro hc
    rw [hcause]
    exact h.cause_open (hclosed ▸ hc)
  · intro i c hc
    exact h.caller_cause i c (hclaims ▸ hc)
  · intro i c hc
    rcases hstage _ _ hc with hc | hc | ⟨-, hc, -⟩
    · exact h.caller_claim i c hc
    · cases c <;> simp_all [Tid.entersAt]
    · cases hc
  · intro t s hs hafter
    rcases hstage t s hs with hs | hs | ⟨hw, -⟩
    · exact hwon t (h.after_claim t s hs hafter)
    · cases t <;> cases s <;> simp_all [Tid.entersAt, Stop.afterClaim]
    · exact hwon t hw
  · intro t r hs
    rcases hs with hs | hs
    · rcases hstage _ _ hs with hs | hs | ⟨-, -, hr⟩
      · exact hlog.subset (h.stream_closed t r (.inl hs))
      · cases t <;> simp_all [Tid.entersAt]
      · exact hr r (.inl rfl)
    · rcases hstage _ _ hs with hs | hs | ⟨-, -, hr⟩
      · exact hlog.subset (h.stream_closed t r (.inr hs))
      · cases t <;> simp_all [Tid.entersAt]
      · exact hr r (.inr rfl)
  · rw [hwins]; exact h.wins_le
  · intro t r hw
    obtain ⟨hc, hs⟩ := h.wins_claimed t r (hwins ▸ hw)
    exact ⟨hclaims ▸ hc, hlog.subset hs⟩
  · exact hlog.losers h.losers_none

theorem Delivering.frame {w w' : World} (h : Delivering w) (hhooks : hooks w'.log = hooks w.log)
    (hwins : wins w'.log = wins w.log) (hlock : ∀ t, w'.deliverer = some t ↔ w'.holds t = true)
    (hlosing : w'.losing = w.losing) (hflight : w'.reader.inFlight = w.reader.inFlight) :
    Delivering w' := by
  have htail := World.lostTail_congr hwins hlosing
  refine ⟨hlock, ?_, ?_⟩
  · obtain ⟨ms, hms⟩ := h.hooks_eq
    exact ⟨ms, by rw [hhooks, hflight, htail, hms]⟩
  · intro hne
    rw [hwins, hlosing]
    exact h.inFlight_open (hflight ▸ hne)

theorem Delivering.move {w w' : World} (h : Delivering w) (t : Tid)
    (hhooks : hooks w'.log = hooks w.log) (hwins : wins w'.log = wins w.log)
    (hdel : w'.deliverer = w.deliverer) (hfree : w.holds t = false) (hfree' : w'.holds t = false)
    (hother : ∀ t', t' ≠ t → w'.stage t' = w.stage t' ∧ w'.holds t' = w.holds t')
    (hflight : w'.reader.inFlight = w.reader.inFlight) : Delivering w' := by
  refine h.frame hhooks hwins ?_ ?_ hflight
  · intro t'
    rw [hdel]
    by_cases ht : t' = t
    · subst ht
      rw [hfree']
      simpa [hfree] using h.lock t'
    · rw [(hother t' ht).2]
      exact h.lock t'
  · apply World.losing_congr hdel
    intro t' hd
    refine (hother t' fun ht => ?_).1
    subst ht
    rw [(h.lock t').mp hd] at hfree
    cases hfree

namespace Inv

variable {w : World}

theorem claims_nil (h : Inv w) (hc : w.closed = false) : claims w.log = [] :=
  h.closing.open_iff.mp hc

theorem wins_nil (h : Inv w) (hc : w.closed = false) : wins w.log = [] := by
  cases hw : wins w.log with
  | nil => rfl
  | cons x xs =>
    obtain ⟨⟨c, hcl⟩, -⟩ := h.closing.wins_claimed x.1 x.2 (by simp [hw])
    rw [h.claims_nil hc] at hcl
    cases hcl

theorem holds_eq_false (h : Inv w) (hd : w.deliverer = none) (t : Tid) : w.holds t = false := by
  have := (h.delivering.lock t).not.mp (by simp [hd])
  simpa using this

theorem holds_eq_false_of_ne (h : Inv w) {t t' : Tid} (hd : w.deliverer = some t) (ht : t' ≠ t) :
    w.holds t' = false := by
  have := (h.delivering.lock t').not.mp (by simp [hd, Ne.symm ht])
  simpa using this

theorem congr (h : Inv w) {w' : World} (hclosed : w'.closed = w.closed)
    (hcause : w'.cause = w.cause) (hdel : w'.deliverer = w.deliverer)
    (hreader : w'.reader = w.reader) (hwriter : w'.writer = w.writer)
    (hcallers : w'.callers = w.callers) (hlog : w'.log = w.log) : Inv w' := by
  have hstage : ∀ t, w'.stage t = w.stage t := by
    intro t
    cases t <;> simp [World.stage, hreader, hwriter, hcallers]
  have hholds : ∀ t, w'.holds t = w.holds t := by
    intro t
    cases t <;> simp [World.holds, hreader, hwriter, hcallers]
  refine ⟨h.closing.frame (.inl hlog) hclosed hcause fun t s hs => .inl (hstage t ▸ hs), ?_⟩
  refine h.delivering.frame (by rw [hlog]) (by rw [hlog]) ?_
    (World.losing_congr hdel fun t _ => hstage t) (by rw [hreader])
  intro t
  rw [hdel, hholds]
  exact h.delivering.lock t

theorem setBuffer (h : Inv w) (b : Bytes) : Inv (w.setBuffer b) :=
  h.congr rfl rfl rfl rfl rfl rfl rfl

theorem enqueue (h : Inv w) (f : Bytes) : Inv (w.enqueue f) :=
  h.congr rfl rfl rfl rfl rfl rfl rfl

theorem dequeue (h : Inv w) : Inv w.dequeue :=
  h.congr rfl rfl rfl rfl rfl rfl rfl

theorem dropQueue (h : Inv w) : Inv w.dropQueue :=
  h.congr rfl rfl rfl rfl rfl rfl rfl

theorem emit (h : Inv w) {e : Event} (he : e.quiet) (hh : e.hook? = none) : Inv (w.emit e) := by
  have hlog : QuietAfter w.log (w.emit e).log := .inr ⟨e, he, rfl⟩
  refine ⟨h.closing.frame hlog rfl rfl fun t s hs => .inl (by simpa using hs), ?_⟩
  refine h.delivering.frame (by simp [hh]) hlog.wins (fun t => by simpa using h.delivering.lock t)
    (World.losing_congr rfl fun t _ => by simp) rfl

theorem move (h : Inv w) (t : Tid) {w' : World} (hlog : w'.log = w.log)
    (hclosed : w'.closed = w.closed) (hcause : w'.cause = w.cause)
    (hdel : w'.deliverer = w.deliverer) (hfree : w.holds t = false) (hfree' : w'.holds t = false)
    (henter : (w'.stage t).all t.entersAt)
    (hother : ∀ t', t' ≠ t → w'.stage t' = w.stage t' ∧ w'.holds t' = w.holds t')
    (hflight : w'.reader.inFlight = w.reader.inFlight) : Inv w' := by
  refine ⟨h.closing.frame (.inl hlog) hclosed hcause ?_,
    h.delivering.move t (by rw [hlog]) (by rw [hlog]) hdel hfree hfree' hother hflight⟩
  intro t' s hs
  by_cases ht : t' = t
  · subst ht
    right; left
    simpa [hs] using henter
  · left
    rw [← (hother t' ht).1]
    exact hs

theorem setReader (h : Inv w) {r : ReaderAt} (hfree : w.reader.holdsLock = false)
    (hfree' : r.holdsLock = false) (henter : r.stage.all Tid.reader.entersAt) :
    Inv (w.setReader r) := by
  refine h.move .reader rfl rfl rfl rfl hfree hfree' henter (fun t ht => ⟨?_, ?_⟩) ?_
  · rw [World.stage_setReader, if_neg ht]
  · rw [World.holds_setReader, if_neg ht]
  · rw [World.setReader_reader, ReaderAt.inFlight_eq_nil hfree', ReaderAt.inFlight_eq_nil hfree]

theorem setWriter (h : Inv w) {x : WriterAt} (hfree : w.writer.holdsLock = false)
    (hfree' : x.holdsLock = false) (henter : x.stage.all Tid.writer.entersAt) :
    Inv (w.setWriter x) := by
  refine h.move .writer rfl rfl rfl rfl hfree hfree' henter (fun t ht => ⟨?_, ?_⟩) rfl
  · rw [World.stage_setWriter, if_neg ht]
  · rw [World.holds_setWriter, if_neg ht]

theorem setCaller (h : Inv w) {i : Nat} {c : CallerAt} (hfree : (w.callers i).holdsLock = false)
    (hfree' : c.holdsLock = false) (henter : c.stage.all (Tid.caller i).entersAt) :
    Inv (w.setCaller i c) := by
  refine h.move (.caller i) rfl rfl rfl rfl hfree ?_ ?_ (fun t ht => ⟨?_, ?_⟩) rfl
  · simpa [World.holds] using hfree'
  · simpa [World.stage] using henter
  · rw [World.stage_setCaller, if_neg ht]
  · rw [World.holds_setCaller, if_neg ht]

theorem quit (h : Inv w) {t : Tid} {c : Option Error} (hs : w.stage t = some (.claim c)) :
    Inv (w.finish t false none) := by
  have he : Inv (w.emit (.returned t false none)) := h.emit rfl rfl
  cases t with
  | reader => exact he.setReader (ReaderAt.holdsLock_of_stage hs) rfl rfl
  | writer => exact he.setWriter (WriterAt.holdsLock_of_stage hs) rfl rfl
  | caller i => exact he.setCaller (CallerAt.holdsLock_of_stage hs) rfl rfl

theorem close (h : Inv w) {t : Tid} {c : Option Error} (hs : w.stage t = some (.claim c))
    (hc : w.closed = false) : Inv ((w.closeWith c).emit (.claimed t c)) := by
  have hcl := h.claims_nil hc
  have hwn := h.wins_nil hc
  have hclaims : claims ((w.closeWith c).emit (.claimed t c)).log = [(t, c)] := by
    simp [hcl, Event.claim?]
  have hwins : wins ((w.closeWith c).emit (.claimed t c)).log = wins w.log := by
    simp [Event.win?]
  refine ⟨⟨?_, ?_, ?_, ?_, ?_, ?_, ?_, ?_, ?_, ?_⟩, ?_⟩
  · rw [hclaims]
    simp
  · exact .inr ⟨t, hclaims⟩
  · simp
  · intro i c' hc'
    rw [hclaims, List.mem_singleton, Prod.mk.injEq] at hc'
    obtain ⟨rfl, rfl⟩ := hc'
    exact h.closing.caller_claim i c' hs
  · intro i c' hc'
    exact h.closing.caller_claim i c' (by simpa using hc')
  · -- only `t` has claimed, and `t` is still at its claim
    intro t' s hs' hafter
    obtain ⟨⟨_, hc'⟩, -⟩ := h.closing.after_claim t' s (by simpa using hs') hafter
    rw [hcl] at hc'
    cases hc'
  · intro t' r hs'
    exact List.mem_append_left _ (h.closing.stream_closed t' r (by simpa using hs'))
  · rw [hwins]
    exact h.closing.wins_le
  · intro t' r hr
    rw [hwins, hwn] at hr
    cases hr
  · intro t' r hr
    simp only [World.emit_log, World.closeWith_log, List.mem_append, List.mem_singleton,
      reduceCtorEq, or_false] at hr
    exact h.closing.losers_none t' r hr
  · exact h.delivering.frame (by simp [Event.hook?]) hwins
      (fun t' => by simpa using h.delivering.lock t') (World.losing_congr rfl fun _ _ => by simp) rfl

theorem advance (h : Inv w) {t : Tid} {s s' : Stop} (hs : w.stage t = some s) (hwon : w.Won t)
    (hfree : s.holdsLock = false) (hafter : s'.afterClaim) (hfree' : s'.holdsLock = false)
    (hclosed : ∀ r, s' = .awaitLock r → .streamClosed t r ∈ w.log) : Inv (w.setStage s' t) := by
  have hfree₀ : w.holds t = false := (World.holds_of_stage hs).trans hfree
  refine ⟨h.closing.frame (.inl (World.setStage_log _ _ _)) (World.setStage_closed _ _ _)
    (World.setStage_cause _ _ _) ?_, ?_⟩
  · intro t' s'' hs''
    rw [World.stage_setStage] at hs''
    split at hs''
    · next ht =>
      subst ht
      cases hs''
      refine .inr (.inr ⟨hwon, hafter, fun r hr => ?_⟩)
      rcases hr with rfl | rfl
      · rw [World.setStage_log]
        exact hclosed r rfl
      · cases hfree'
    · exact .inl hs''
  · refine h.delivering.move t (by rw [World.setStage_log]) (by rw [World.setStage_log])
      (World.setStage_deliverer _ _ _) hfree₀ (by rw [World.holds_setStage, if_pos rfl, hfree'])
      (fun t' ht => ⟨by rw [World.stage_setStage, if_neg ht],
        by rw [World.holds_setStage, if_neg ht]⟩) ?_
    rw [World.inFlight_setStage]
    split
    · next ht =>
      subst ht
      exact (World.inFlight_eq_nil hfree₀).symm
    · rfl

theorem claim (h : Inv w) {t : Tid} {c : Option Error} (hs : w.stage t = some (.claim c))
    (hc : w.closed = false) :
    Inv (((w.closeWith c).emit (.claimed t c)).setStage .dropQueue t) := by
  refine (h.close hs hc).advance (by simpa using hs) ⟨⟨c, ?_⟩, ?_⟩ rfl rfl rfl (fun _ h => by cases h)
  · simp [h.claims_nil hc, Event.claim?]
  · simp [h.wins_nil hc, Event.win?]

theorem readerLock (h : Inv w) {off : Nat} {m : Message} {last : ReadEnd}
    (hr : w.reader = .awaitLock off m last) (hd : w.deliverer = none) :
    Inv ((w.lock .reader).setReader (.checkOpen off m last)) := by
  refine ⟨h.closing.frame (.inl rfl) rfl rfl fun t s hs =>
    .inl (by simpa using World.stage_of_setReader rfl hs), ?_⟩
  · refine h.delivering.frame rfl rfl (fun t => ?_) ?_ (by simp [hr, ReaderAt.inFlight])
    · rw [World.holds_setReader]
      split
      · next ht => simp [ht, ReaderAt.holdsLock]
      · next ht => simp [Ne.symm ht, h.holds_eq_false hd t]
    · rw [World.losing_of_free (t := .reader) rfl rfl]
      simp [World.losing, hd]

theorem readerUnlock (h : Inv w) {off : Nat} {m : Message} {last : ReadEnd}
    (hr : w.reader = .checkOpen off m last) :
    Inv (w.unlock.setReader (.afterUnframe last)) := by
  have hd : w.deliverer = some .reader := (h.delivering.lock .reader).mpr (by simp [World.holds, hr, ReaderAt.holdsLock])
  refine ⟨h.closing.frame (.inl rfl) rfl rfl fun t s hs =>
    .inl (by simpa using World.stage_of_setReader rfl hs), ?_⟩
  · refine h.delivering.frame rfl rfl (fun t => ?_) ?_ (by simp [hr, ReaderAt.inFlight])
    · rw [World.holds_setReader]
      split
      · next ht => simp [ht, ReaderAt.holdsLock]
      · next ht => simp [h.holds_eq_false_of_ne hd ht]
    · rw [World.losing_of_free hd (by simp [World.stage, hr, ReaderAt.stage])]
      simp [World.losing]

theorem enterMessage (h : Inv w) {off : Nat} {m : Message} {last : ReadEnd}
    (hr : w.reader = .checkOpen off m last) (hc : w.closed = false) :
    Inv ((w.setReader (.delivering off m last)).emit (.hook (.enter (.message m)))) := by
  have hd : w.deliverer = some .reader :=
    (h.delivering.lock .reader).mpr (by simp [World.holds, hr, ReaderAt.holdsLock])
  have hstage : w.stage .reader = none := by simp [World.stage, hr, ReaderAt.stage]
  have hlosing : w.losing = false := World.losing_of_free hd hstage
  have hwins := h.wins_nil hc
  refine ⟨h.closing.frame (.inr ⟨_, rfl, rfl⟩) rfl rfl fun t s hs =>
    .inl (World.stage_of_setReader rfl (by simpa using hs)), ⟨?_, ?_, ?_⟩⟩
  · -- the reader still holds the lock, now in the hook
    intro t
    rw [World.holds_emit, World.holds_setReader]
    split
    · next ht => subst ht; simpa [ReaderAt.holdsLock] using hd
    · next ht => simpa using h.delivering.lock t
  · obtain ⟨ms, hms⟩ := h.delivering.hooks_eq
    refine ⟨ms, ?_⟩
    have htail : w.lostTail = [] := by simp [World.lostTail, hwins, hlosing]
    have htail' : ((w.setReader (.delivering off m last)).emit (.hook (.enter (.message m)))).lostTail
        = [] := by
      simp only [World.lostTail, World.emit_log, World.setReader_log, wins_append, hwins,
        wins_cons, Event.win?, Option.toList_none]
      rw [World.losing_of_free (t := .reader) (by simpa using hd) rfl]
      rfl
    rw [htail', World.emit_log, World.setReader_log, hooks_append, hms, htail]
    simp [hr, ReaderAt.inFlight, Event.hook?]
  · intro _
    refine ⟨by simpa [Event.win?] using hwins, World.losing_of_free (t := .reader) (by simpa using hd) rfl⟩

theorem leaveMessage (h : Inv w) {off : Nat} {m : Message} {last : ReadEnd}
    (hr : w.reader = .delivering off m last) :
    Inv ((w.unlock.setReader (.unframe off last)).emit (.hook (.leave (.message m)))) := by
  have hd : w.deliverer = some .reader :=
    (h.delivering.lock .reader).mpr (by simp [World.holds, hr, ReaderAt.holdsLock])
  have hflight : w.reader.inFlight = [.enter (.message m)] := by rw [hr]; rfl
  obtain ⟨hwins, hlosing⟩ := h.delivering.inFlight_open (by simp [hflight])
  refine ⟨h.closing.frame (.inr ⟨_, rfl, rfl⟩) rfl rfl fun t s hs =>
    .inl (by rw [World.stage_emit] at hs; simpa using World.stage_of_setReader rfl hs),
    ⟨?_, ?_, ?_⟩⟩
  · intro t
    rw [World.holds_emit, World.holds_setReader]
    split
    · next ht => simp [ht, ReaderAt.holdsLock]
    · next ht => simp [h.holds_eq_false_of_ne hd ht]
  · obtain ⟨ms, hms⟩ := h.delivering.hooks_eq
    refine ⟨ms ++ [m], ?_⟩
    have htail : w.lostTail = [] := by simp [World.lostTail, hwins, hlosing]
    have htail' : ((w.unlock.setReader (.unframe off last)).emit
        (.hook (.leave (.message m)))).lostTail = [] := by
      simp [World.lostTail, hwins, Event.win?, World.losing]
    rw [htail', World.emit_log, World.setReader_log, World.unlock_log, hooks_append, hms, htail,
      hflight, calls_append_single]
    simp [ReaderAt.inFlight, Event.hook?]
  · intro hne
    simp [ReaderAt.inFlight] at hne

theorem inFlight_of_holder (h : Inv w) {t : Tid} {s : Stop} (hd : w.deliverer = some t)
    (hs : w.stage t = some s) : w.reader.inFlight = [] := by
  by_cases ht : t = .reader
  · subst ht
    simp only [World.stage] at hs
    cases hr : w.reader <;> simp_all [ReaderAt.stage, ReaderAt.inFlight]
  · exact World.inFlight_eq_nil (h.holds_eq_false_of_ne hd (Ne.symm ht))

theorem takeLost (h : Inv w) {t : Tid} {r : Option Error} (hs : w.stage t = some (.awaitLock r))
    (hd : w.deliverer = none) :
    Inv (((w.lock t).emit (.hook (.enter .lost))).setStage (.deliverLost r) t) := by
  have hwon : w.Won t := h.closing.after_claim t _ hs rfl
  have hflight : w.reader.inFlight = [] := World.inFlight_eq_nil (h.holds_eq_false hd _)
  have hlog : (((w.lock t).emit (.hook (.enter .lost))).setStage (.deliverLost r) t).log =
      w.log ++ [.hook (.enter .lost)] := by simp
  have hwins : wins (((w.lock t).emit (.hook (.enter .lost))).setStage (.deliverLost r) t).log =
      wins w.log := by simp [Event.win?]
  have hflight' :
      (((w.lock t).emit (.hook (.enter .lost))).setStage (.deliverLost r) t).reader.inFlight = [] := by
    rw [World.inFlight_setStage]
    split
    · rfl
    · simpa using hflight
  refine ⟨h.closing.frame (.inr ⟨_, rfl, hlog⟩) (by simp) (by simp) ?_, ⟨?_, ?_, ?_⟩⟩
  · intro t' s' hs'
    rw [World.stage_setStage] at hs'
    split at hs'
    · next ht =>
      subst ht
      cases hs'
      refine .inr (.inr ⟨hwon, rfl, fun r' hr' => ?_⟩)
      rcases hr' with hr' | hr'
      · cases hr'
      · cases hr'
        rw [hlog]
        exact List.mem_append_left _ (h.closing.stream_closed t' r (.inl hs))
    · exact .inl (by simpa using hs')
  · -- `t` takes the lock that nobody held
    intro t'
    rw [World.holds_setStage, World.setStage_deliverer, World.emit_deliverer,
      World.lock_deliverer]
    split
    · next ht => simp [ht, Stop.holdsLock]
    · next ht => simp [Ne.symm ht, h.holds_eq_false hd t']
  · obtain ⟨ms, hms⟩ := h.delivering.hooks_eq
    refine ⟨ms, ?_⟩
    have htail : w.lostTail = [] := by simp [World.lostTail, hwon.2, World.losing, hd]
    have hlosing : (((w.lock t).emit (.hook (.enter .lost))).setStage (.deliverLost r) t).losing := by
      simp [World.losing, World.stage_setStage]
    have htail' : (((w.lock t).emit (.hook (.enter .lost))).setStage (.deliverLost r) t).lostTail =
        [.enter .lost] := by
      simp [World.lostTail, hwon.2, hlosing, Event.win?]
    rw [hflight', htail', hlog, hooks_append, hms, hflight, htail]
    simp [Event.hook?]
  · intro hne
    exact absurd hflight' hne

theorem leaveLost (h : Inv w) {t : Tid} {r : Option Error} (hs : w.stage t = some (.deliverLost r)) :
    Inv ((w.unlock.emit (.hook (.leave .lost))).finish t true r) := by
  obtain ⟨⟨c, hcl⟩, hwn⟩ : w.Won t := h.closing.after_claim t _ hs rfl
  have hd : w.deliverer = some t :=
    (h.delivering.lock t).mpr (by rw [World.holds_of_stage hs]; rfl)
  have hflight := h.inFlight_of_holder hd hs
  have hlog : ((w.unlock.emit (.hook (.leave .lost))).finish t true r).log =
      w.log ++ [.hook (.leave .lost), .returned t true r] := by simp
  have hclaims : claims ((w.unlock.emit (.hook (.leave .lost))).finish t true r).log =
      claims w.log := by simp [Event.claim?]
  have hwins : wins ((w.unlock.emit (.hook (.leave .lost))).finish t true r).log = [(t, r)] := by
    simp [hwn, Event.win?]
  have hstage : ∀ t', ((w.unlock.emit (.hook (.leave .lost))).finish t true r).stage t' =
      if t' = t then none else w.stage t' := by
    intro t'
    rw [World.stage_finish]
    simp
  have hflight' : ((w.unlock.emit (.hook (.leave .lost))).finish t true r).reader.inFlight = [] := by
    rw [World.inFlight_finish]
    split
    · rfl
    · simpa using hflight
  refine ⟨⟨?_, ?_, ?_, ?_, ?_, ?_, ?_, ?_, ?_, ?_⟩, ⟨?_, ?_, ?_⟩⟩
  · rw [hclaims]
    simpa using h.closing.open_iff
  · rw [hclaims]
    simpa using h.closing.claims_eq
  · simpa using h.closing.cause_open
  · intro i c' hc'
    exact h.closing.caller_cause i c' (hclaims ▸ hc')
  · intro i c' hc'
    rw [hstage] at hc'
    split at hc'
    · cases hc'
    · exact h.closing.caller_claim i c' hc'
  · -- the only claim is `t`'s, and `t` has left shutdown
    intro t' s hs' _
    rw [hstage] at hs'
    split at hs'
    · cases hs'
    · next ht =>
      obtain ⟨⟨c', hc'⟩, -⟩ := h.closing.after_claim t' s hs' (by assumption)
      rw [hcl, List.singleton_inj, Prod.mk.injEq] at hc'
      exact absurd hc'.1.symm ht
  · intro t' r' hs'
    by_cases ht : t' = t
    · subst ht
      simp [hstage] at hs'
    · rw [hstage, if_neg ht] at hs'
      rw [hlog]
      exact List.mem_append_left _ (h.closing.stream_closed t' r' hs')
  · rw [hwins]
    simp
  · intro t' r' hw
    rw [hwins, List.mem_singleton, Prod.mk.injEq] at hw
    obtain ⟨rfl, rfl⟩ := hw
    refine ⟨⟨c, hclaims ▸ hcl⟩, ?_⟩
    rw [hlog]
    exact List.mem_append_left _ (h.closing.stream_closed t' r' (.inr hs))
  · intro t' r' hr'
    rw [hlog] at hr'
    simp at hr'
    exact h.closing.losers_none t' r' hr'
  · -- the lock is free again
    intro t'
    rw [World.holds_finish, World.finish_deliverer, World.emit_deliverer, World.unlock_deliverer]
    split
    · simp
    · next ht => simp [h.holds_eq_false_of_ne hd ht]
  · obtain ⟨ms, hms⟩ := h.delivering.hooks_eq
    refine ⟨ms, ?_⟩
    have htail : w.lostTail = [.enter .lost] := by
      simp [World.lostTail, hwn, World.losing, hd, hs]
    have htail' : ((w.unlock.emit (.hook (.leave .lost))).finish t true r).lostTail =
        [.enter .lost, .leave .lost] := by
      rw [World.lostTail, hwins]
      simp
    rw [hflight', htail', hlog, hooks_append, hms, hflight, htail]
    simp [Event.hook?]
  · intro hne
    exact absurd hflight' hne

theorem stopStep (h : Inv w) {t : Tid} {s : Stop} (hs : w.stage t = some s) :
    Inv (w.stopStep t s) := by
  cases s with
  | claim c =>
    rw [World.stopStep]
    split
    · exact h.quit hs
    · next hc => exact h.claim hs (by simpa using hc)
  | dropQueue =>
    exact h.dropQueue.advance (by simpa using hs) (h.closing.after_claim t _ hs rfl) rfl rfl rfl
      (fun _ h => by cases h)
  | closeStream => exact h
  | awaitLock r =>
    rw [World.stopStep]
    split
    · next hd => exact h.takeLost hs hd
    · exact h
  | deliverLost r => exact h.leaveLost hs

theorem streamClose (h : Inv w) (t : Tid) (r : Option Error) : Inv (w.streamClose t r) := by
  unfold World.streamClose
  split
  · next hs =>
    have hwon : (w.emit (.streamClosed t r)).Won t := by
      simpa [World.Won, Event.claim?, Event.win?] using h.closing.after_claim t _ hs rfl
    exact (h.emit rfl rfl).advance (by simpa using hs) hwon rfl rfl rfl
      (fun r' hr' => by cases hr'; simp)
  · exact h

theorem readerStep (h : Inv w) : Inv w.readerStep := by
  unfold World.readerStep
  split
  · next off last hr =>
    split
    · exact (h.setBuffer _).setReader (by simp [hr, ReaderAt.holdsLock]) rfl rfl
    · split
      · exact h.setReader (by simp [hr, ReaderAt.holdsLock]) rfl rfl
      · exact h.setReader (by simp [hr, ReaderAt.holdsLock]) rfl rfl
  · next off m last hr =>
    split
    · next hd => exact h.readerLock hr hd
    · exact h
  · next off m last hr =>
    split
    · exact h.readerUnlock hr
    · next hc => exact h.enterMessage hr (by simpa using hc)
  · next off m last hr => exact h.leaveMessage hr
  · next last hr =>
    split
    · exact h.setReader (by simp [hr, ReaderAt.holdsLock]) rfl rfl
    · exact h.setReader (by simp [hr, ReaderAt.holdsLock]) rfl rfl
    · exact h.setReader (by simp [hr, ReaderAt.holdsLock]) (by split <;> rfl) (by split <;> rfl)
  · next s hr => exact h.stopStep (by simp [World.stage, hr, ReaderAt.stage])
  all_goals exact h

theorem readerRead (h : Inv w) (bytes : Bytes) (last : ReadEnd) :
    Inv (w.readerRead bytes last) := by
  unfold World.readerRead
  split
  · next hr =>
    split
    · have he : Inv (w.emit (.received bytes last)) := h.emit rfl rfl
      split
      · exact he.setReader (by simp [hr, ReaderAt.holdsLock]) rfl rfl
      · exact (he.setBuffer _).setReader (by simp [hr, ReaderAt.holdsLock]) rfl rfl
    · exact h
  · exact h

theorem writerStep (h : Inv w) : Inv w.writerStep := by
  unfold World.writerStep
  split
  · next hx =>
    split
    · exact h.setWriter (by simp [hx, WriterAt.holdsLock]) rfl rfl
    · split
      · exact h
      · exact (h.dequeue.setWriter (by simp [hx, WriterAt.holdsLock]) rfl rfl).emit rfl rfl
  · next s hx => exact h.stopStep (by simp [World.stage, hx, WriterAt.stage])
  all_goals exact h

theorem writerWrite (h : Inv w) (ans : WriteEnd) : Inv (w.writerWrite ans) := by
  unfold World.writerWrite
  split
  · next f hx =>
    split
    · exact (h.setWriter (by simp [hx, WriterAt.holdsLock]) rfl rfl).emit rfl rfl
    · exact (h.setWriter (by simp [hx, WriterAt.holdsLock]) rfl rfl).emit rfl rfl
  · exact h

theorem callerStep (h : Inv w) (i : Nat) : Inv (w.callerStep i) := by
  unfold World.callerStep
  split
  · next m hc =>
    split
    · exact (h.emit rfl rfl).setCaller (by simp [hc, CallerAt.holdsLock]) rfl rfl
    · split
      · exact (h.emit rfl rfl).setCaller (by simp [hc, CallerAt.holdsLock]) rfl rfl
      · exact h.setCaller (by simp [hc, CallerAt.holdsLock]) rfl rfl
  · next m f hc =>
    split
    · exact (h.emit rfl rfl).setCaller (by simp [hc, CallerAt.holdsLock]) rfl rfl
    · exact ((h.enqueue f).emit rfl rfl).setCaller (by simp [hc, CallerAt.holdsLock]) rfl rfl
  · next s hc => exact h.stopStep (by simp [World.stage, hc, CallerAt.stage])
  · exact h

theorem call (h : Inv w) (i : Nat) {c : CallerAt} (hfree : c.holdsLock = false)
    (henter : c.stage.all (Tid.caller i).entersAt) : Inv (w.call i c) := by
  unfold World.call
  split
  · next hc => exact h.setCaller (by simp [hc, CallerAt.holdsLock]) hfree henter
  · exact h

theorem step (h : Inv w) (a : Act) : Inv (w.step a) := by
  cases a with
  | run t =>
    cases t with
    | reader => exact h.readerStep
    | writer => exact h.writerStep
    | caller i => exact h.callerStep i
  | read bytes last => exact h.readerRead bytes last
  | write ans => exact h.writerWrite ans
  | closeStream t r => exact h.streamClose t r
  | callClose i => exact h.call i rfl rfl
  | callSend i m => exact h.call i rfl rfl

theorem run (h : Inv w) (acts : List Act) : Inv (w.run acts) := by
  induction acts generalizing w with
  | nil => exact h
  | cons a acts ih => exact ih (h.step a)

end Inv

theorem inv_run (r : Registry) (acts : List Act) : Inv ((World.fresh r).run acts) :=
  (Inv.fresh r).run acts

theorem lost_not_mem_calls (ms : List Message) : Hook.enter .lost ∉ calls ms := by
  simp [calls]

namespace Inv

variable {w : World}

theorem hooks_shape (h : Inv w) : ∃ ms tail, hooks w.log = calls ms ++ tail ∧
    (tail = [] ∨ (∃ m, tail = [.enter (.message m)]) ∨ tail = [.enter .lost] ∨
      tail = [.enter .lost, .leave .lost]) := by
  obtain ⟨ms, hms⟩ := h.delivering.hooks_eq
  refine ⟨ms, _, by rw [hms, List.append_assoc], ?_⟩
  cases hf : w.reader.inFlight with
  | nil =>
    -- nothing in flight: what follows is `lost` as far as the winner got
    unfold World.lostTail
    split
    · split <;> simp
    · simp
  | cons e es =>
    obtain ⟨hwins, hlosing⟩ := h.delivering.inFlight_open (by simp [hf])
    have htail : w.lostTail = [] := by simp [World.lostTail, hwins, hlosing]
    cases hr : w.reader <;> simp [hr, ReaderAt.inFlight] at hf
    next m _ =>
      obtain ⟨rfl, rfl⟩ := hf
      simp [htail]

theorem hooks_of_won (h : Inv w) (hw : wins w.log ≠ []) :
    ∃ ms, hooks w.log = calls ms ++ [.enter .lost, .leave .lost] := by
  obtain ⟨ms, hms⟩ := h.delivering.hooks_eq
  have hf : w.reader.inFlight = [] := by
    by_contra hne
    exact hw (h.delivering.inFlight_open hne).1
  have htail : w.lostTail = [.enter .lost, .leave .lost] := by
    cases hl : wins w.log with
    | nil => exact absurd hl hw
    | cons x xs => simp [World.lostTail, hl]
  exact ⟨ms, by rw [hms, hf, htail, List.append_nil]⟩

theorem lost_count_le (h : Inv w) : (hooks w.log).count (.enter .lost) ≤ 1 := by
  obtain ⟨ms, tail, hhooks, htail⟩ := h.hooks_shape
  rw [hhooks, List.count_append, List.count_eq_zero_of_not_mem (lost_not_mem_calls ms)]
  rcases htail with rfl | ⟨m, rfl⟩ | rfl | rfl <;> simp

theorem closed_of_prefix {w' : World} (h : Inv w) (h' : Inv w') (hp : w.log <+: w'.log)
    (hc : w.closed = true) : w'.closed = true := by
  have hne : claims w.log ≠ [] := fun hn => by
    rw [← h.closing.open_iff, hc] at hn
    cases hn
  cases hc' : w'.closed with
  | true => rfl
  | false =>
    have hnil := h'.closing.open_iff.mp hc'
    obtain ⟨l, hl⟩ := hp.filterMap Event.claim?
    exact absurd (List.append_eq_nil_iff.mp (hl.trans hnil)).1 hne

theorem claims_length_le (h : Inv w) : (claims w.log).length ≤ 1 := by
  rcases h.closing.claims_eq with hc | ⟨t, hc⟩ <;> simp [hc]

theorem claims_of_closed (h : Inv w) (hc : w.closed = true) :
    ∃ t, claims w.log = [(t, w.cause)] := by
  rcases h.closing.claims_eq with hn | hc'
  · rw [← h.closing.open_iff, hc] at hn
    cases hn
  · exact hc'

end Inv

/-- A channel closes once, whatever the threads and the stream do: exactly one shutdown claims
it, with its cause as the error, only that one passes on the stream's close failure, and the hook
gets `lost` at most once, after every message, and surely once the winner has returned. -/
theorem closes_once (r : Registry) (acts : List Act) :
    let w := (World.fresh r).run acts
    (∀ acts', w.closed = true → (w.run acts').closed = true) ∧
    (w.closed = false ↔ claims w.log = []) ∧ (claims w.log).length ≤ 1 ∧
    (w.closed = false → w.cause = none) ∧
    (w.closed = true → ∃ t, claims w.log = [(t, w.cause)]) ∧
    (∀ i c, (.caller i, c) ∈ claims w.log → c = none) ∧
    (wins w.log).length ≤ 1 ∧
    (∀ t r, (t, r) ∈ wins w.log → (∃ c, claims w.log = [(t, c)]) ∧ .streamClosed t r ∈ w.log) ∧
    (∀ t r, .returned t false r ∈ w.log → r = none) ∧
    (hooks w.log).count (.enter .lost) ≤ 1 ∧
    (∃ ms tail, hooks w.log = calls ms ++ tail ∧
      (tail = [] ∨ (∃ m, tail = [.enter (.message m)]) ∨ tail = [.enter .lost] ∨
        tail = [.enter .lost, .leave .lost])) ∧
    (wins w.log ≠ [] → ∃ ms, hooks w.log = calls ms ++ [.enter .lost, .leave .lost]) := by
  intro w
  have h : Inv w := inv_run r acts
  refine ⟨fun acts' hc => ?_, h.closing.open_iff, h.claims_length_le, h.closing.cause_open,
    h.claims_of_closed, h.closing.caller_cause, h.closing.wins_le, h.closing.wins_claimed,
    h.closing.losers_none, h.lost_count_le, h.hooks_shape, h.hooks_of_won⟩
  have h' : Inv (w.run acts') := by
    simpa only [w, ← World.run_append] using inv_run r (acts ++ acts')
  exact h.closed_of_prefix h' (World.grows_run w acts').log_extends hc

end FramedLink.Threads
