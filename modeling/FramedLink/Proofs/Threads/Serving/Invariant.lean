import FramedLink.Proofs.Threads.Serving.Hooks

namespace FramedLink.Threads.Serving

namespace Note

def isClosing : Note → Bool
  | .closing .. => true
  | _ => false

def isDisposed : Note → Bool
  | .disposed _ => true
  | _ => false

def forgets (k : Nat) : Note → Bool
  | .forgot k' => k' == k
  | _ => false

def sent (k : Nat) : Note → Option (Message × Bool)
  | .pushed e (some k') => if k' = k then some (e.message, true) else none
  | .dropped e (some k') => if k' = k then some (e.message, false) else none
  | _ => none

def registers (k : Nat) (u : ConnId) : Note → Bool
  | .add _ u' _ (.registered k') => k' == k && u' == u
  | _ => false

def about (k : Nat) : Note → Bool
  | .add _ _ _ (.registered k') | .forgot k' => k' == k
  | .pushed _ (some k') | .dropped _ (some k') => k' == k
  | _ => false

def envelope? : Note → Option Envelope
  | .pushed e _ => some e
  | _ => none

theorem forgets_of_about {k : Nat} {n : Note} (h : n.about k = false) : n.forgets k = false := by
  cases n <;> simp_all [about, forgets]

theorem sent_of_about {k : Nat} {n : Note} (h : n.about k = false) : n.sent k = none := by
  cases n with
  | pushed e k' => cases k' <;> simp_all [about, sent]
  | dropped e k' => cases k' <;> simp_all [about, sent]
  | _ => rfl

theorem registers_of_about {k : Nat} {n : Note} (h : n.about k = false) (u : ConnId) :
    n.registers k u = false := by
  cases n with
  | add j u' s r => cases r <;> simp_all [about, registers]
  | _ => rfl

end Note

def closedIn (l : List Note) : Bool := l.any Note.isClosing

def disposedIn (l : List Note) : Bool := l.any Note.isDisposed

def forgotIn (k : Nat) (l : List Note) : Bool := l.any (Note.forgets k)

def sentBy (k : Nat) (l : List Note) : List (Message × Bool) := l.filterMap (Note.sent k)

def lostSentIn (k : Nat) (l : List Note) : Bool :=
  (sentBy k l).any fun x => x.1 == .signal .clientLost

def registeredAs (k : Nat) (u : ConnId) (l : List Note) : Bool := l.any (Note.registers k u)

def envelopes (l : List Note) : List Envelope := l.filterMap Note.envelope?

section Concat

variable (l : List Note) (n : Note) (k : Nat)

@[simp] theorem closedIn_concat : closedIn (l ++ [n]) = (closedIn l || n.isClosing) := by
  simp [closedIn]
@[simp] theorem disposedIn_concat : disposedIn (l ++ [n]) = (disposedIn l || n.isDisposed) := by
  simp [disposedIn]
@[simp] theorem forgotIn_concat : forgotIn k (l ++ [n]) = (forgotIn k l || n.forgets k) := by
  simp [forgotIn]
@[simp] theorem sentBy_concat : sentBy k (l ++ [n]) = sentBy k l ++ (n.sent k).toList := by
  cases h : n.sent k <;> simp [sentBy, h]
@[simp] theorem registeredAs_concat (u : ConnId) :
    registeredAs k u (l ++ [n]) = (registeredAs k u l || n.registers k u) := by
  simp [registeredAs]
@[simp] theorem envelopes_concat : envelopes (l ++ [n]) = envelopes l ++ n.envelope?.toList := by
  cases h : n.envelope? <;> simp [envelopes, h]

end Concat

section Append

variable (l l' : List Note) (k : Nat)

theorem forgotIn_append : forgotIn k (l ++ l') = (forgotIn k l || forgotIn k l') := by
  simp [forgotIn]
theorem sentBy_append : sentBy k (l ++ l') = sentBy k l ++ sentBy k l' := by
  simp [sentBy]
theorem registeredAs_append (u : ConnId) :
    registeredAs k u (l ++ l') = (registeredAs k u l || registeredAs k u l') := by
  simp [registeredAs]

end Append

theorem quiet_notes {ns : List Note} {k : Nat} (hq : ∀ n ∈ ns, n.about k = false) :
    forgotIn k ns = false ∧ sentBy k ns = [] ∧ ∀ u, registeredAs k u ns = false := by
  refine ⟨?_, List.filterMap_eq_nil_iff.mpr fun n hn => Note.sent_of_about (hq n hn), fun u => ?_⟩
  · simp only [forgotIn, List.any_eq_false]
    intro n hn
    simp [Note.forgets_of_about (hq n hn)]
  · simp only [registeredAs, List.any_eq_false]
    intro n hn
    simp [Note.registers_of_about (hq n hn)]

theorem closedIn_of_mem {l : List Note} {j : Nat} {ks : List Nat} (h : Note.closing j ks ∈ l) :
    closedIn l = true :=
  List.any_eq_true.mpr ⟨_, h, rfl⟩

theorem forgotIn_of_mem {l : List Note} {k : Nat} (h : Note.forgot k ∈ l) : forgotIn k l = true :=
  List.any_eq_true.mpr ⟨_, h, by simp [Note.forgets]⟩

theorem registeredAs_of_mem {l : List Note} {j k : Nat} {u : ConnId} {s : Bool}
    (h : Note.add j u s (.registered k) ∈ l) : registeredAs k u l = true :=
  List.any_eq_true.mpr ⟨_, h, by simp [Note.registers]⟩

theorem exists_add_of_registeredAs {l : List Note} {k : Nat} {u : ConnId}
    (h : registeredAs k u l = true) :
    ∃ l₁ j s l₂, l = l₁ ++ .add j u s (.registered k) :: l₂ := by
  obtain ⟨n, hn, hr⟩ := List.any_eq_true.mp h
  cases n with
  | add j u' s result =>
    cases result with
    | registered k' =>
      simp only [Note.registers, Bool.and_eq_true, beq_iff_eq] at hr
      obtain ⟨rfl, rfl⟩ := hr
      obtain ⟨l₁, l₂, rfl⟩ := List.append_of_mem hn
      exact ⟨l₁, j, s, l₂, rfl⟩
    | refused e b => cases hr
  | _ => cases hr

theorem forgotIn_mono {l l' : List Note} {k : Nat} (hp : l <+: l') (h : forgotIn k l = true) :
    forgotIn k l' = true := by
  obtain ⟨t, rfl⟩ := hp
  simp only [forgotIn, List.any_append, Bool.or_eq_true] at h ⊢
  exact .inl h

theorem registeredAs_mono {l l' : List Note} {k : Nat} {u : ConnId} (hp : l <+: l')
    (h : registeredAs k u l = true) : registeredAs k u l' = true := by
  obtain ⟨t, rfl⟩ := hp
  simp only [registeredAs, List.any_append, Bool.or_eq_true] at h ⊢
  exact .inl h

theorem split_order {α : Type} {l a₁ a₂ b₁ b₂ : List α} {x y : α} (h₁ : l = a₁ ++ x :: a₂)
    (h₂ : l = b₁ ++ y :: b₂) :
    (a₁ = b₁ ∧ x = y ∧ a₂ = b₂) ∨ (∃ c, b₁ = a₁ ++ x :: c ∧ a₂ = c ++ y :: b₂) ∨
      (∃ c, a₁ = b₁ ++ y :: c ∧ b₂ = c ++ x :: a₂) := by
  rcases List.append_eq_append_iff.mp (h₁.symm.trans h₂) with ⟨as, hb, ha⟩ | ⟨bs, ha, hb⟩
  · cases as with
    | nil =>
      simp only [List.append_nil, List.nil_append, List.cons.injEq] at hb ha
      exact .inl ⟨hb.symm, ha⟩
    | cons z c =>
      simp only [List.cons_append, List.cons.injEq] at ha
      obtain ⟨rfl, rfl⟩ := ha
      exact .inr (.inl ⟨c, hb, rfl⟩)
  · cases bs with
    | nil =>
      simp only [List.append_nil, List.nil_append, List.cons.injEq] at ha hb
      exact .inl ⟨ha, hb.1.symm, hb.2.symm⟩
    | cons z c =>
      simp only [List.cons_append, List.cons.injEq] at hb
      obtain ⟨rfl, rfl⟩ := hb
      exact .inr (.inr ⟨c, ha, rfl⟩)

/-- What each note says of the log `l` before it: the checks `add` and `close` made, where
pushes came from and in what order, and that the inbox closes only after the flag. -/
def Fits (l : List Note) : Note → Prop
  | .add _ u s result =>
    (s = true → u ≠ ConnId.nil → closedIn l = true → result = .refused .serverClosed true) ∧
    (∀ k, result = .registered k → ∀ k', registeredAs k' u l = true → forgotIn k' l = true)
  | .closing _ ks => closedIn l = false ∧
    (∀ k, k ∈ ks ↔ (∃ u, registeredAs k u l = true) ∧ forgotIn k l = false) ∧
    ∀ k ∈ ks, lostSentIn k l = false
  | .pushed e none => e = ⟨ConnId.nil, .signal .shutdown⟩ ∧ ∃ j ks, l.getLast? = some (.closing j ks)
  | .pushed e (some k) => disposedIn l = false ∧ registeredAs k e.id l = true ∧
    (sentBy k l = [] → e.message = .signal .joined ∧ closedIn l = false) ∧
    (e.message = .signal .clientLost → forgotIn k l = true) ∧
    (forgotIn k l = true → .signal .clientLost ∈ (sentBy k l).map Prod.fst ++ [e.message])
  | .dropped _ _ => disposedIn l = true
  | .forgot k => forgotIn k l = false
  | .disposed _ => closedIn l = true
  | .failed _ _ | .received _ | .returned _ _ => True

def AllFit (l : List Note) : Prop := ∀ l₁ n l₂, l = l₁ ++ n :: l₂ → Fits l₁ n

theorem AllFit.nil : AllFit [] := by
  intro l₁ n l₂ h
  simp at h

theorem AllFit.concat {l : List Note} {n : Note} (h : AllFit l) (hn : Fits l n) :
    AllFit (l ++ [n]) := by
  intro l₁ n' l₂ hl
  rcases List.eq_nil_or_concat l₂ with rfl | ⟨l₃, x, rfl⟩
  · obtain ⟨rfl, hx⟩ := List.append_inj' hl rfl
    cases hx
    exact hn
  · have hl' : l ++ [n] = (l₁ ++ n' :: l₃) ++ [x] := by simpa using hl
    exact h l₁ n' l₃ (List.append_inj' hl' rfl).1

/-- The messages connection `c`'s hook has pushed or tried to push: those it was called with, but
for the call in flight while its push is still to come. -/
def Conn.tried (c : Conn) : List Message :=
  match c.body with
  | .forget | .push _ => (entered c.chan.log).dropLast
  | .free | .done => entered c.chan.log

/-- What holds of connection `k`, which is `c`, against the server's log `l`. -/
structure ConnOk (r : Registry) (l : List Note) (k : Nat) (c : Conn) : Prop where
  inv : Inv c.chan
  reading : Reading c.chan
  registry : c.chan.registry = r
  id_ne : c.id ≠ ConnId.nil
  registered : ∀ u, registeredAs k u l = true ↔ u = c.id
  listed : c.listed = !forgotIn k l
  free_iff : c.body = .free ↔ inFlight c.chan.log = none
  forget : c.body = .forget → ∃ d, inFlight c.chan.log = some d ∧ handed d = .signal .clientLost
  push : ∀ m, c.body = .push m → ∃ d, inFlight c.chan.log = some d ∧ handed d = m ∧
    (m = .signal .clientLost → forgotIn k l = true)
  forgot_lost : forgotIn k l = true → .signal .clientLost ∈ entered c.chan.log
  sent : (sentBy k l).map Prod.fst = .signal .joined :: c.tried
  lost_forgot : lostSentIn k l = true → forgotIn k l = true

def Startable (j : Nat) (s : CallerAt) : Prop :=
  s.holdsLock = false ∧ s.stage.all (Tid.caller j).entersAt

def DoingOk (closed : Bool) (j : Nat) : Doing → Prop
  | .idle => True
  | .calls todo d _ | .await _ todo d _ => (∀ x ∈ todo, Startable j x.2) ∧ (d = true → closed = true)
  | .disposing _ => closed = true

theorem DoingOk.mono {c c' : Bool} {j : Nat} {d : Doing} (h : DoingOk c j d)
    (hc : c = true → c' = true) : DoingOk c' j d := by
  cases d with
  | idle => trivial
  | calls todo dispose _ => exact ⟨h.1, fun hd => hc (h.2 hd)⟩
  | await k todo dispose _ => exact ⟨h.1, fun hd => hc (h.2 hd)⟩
  | disposing _ => exact hc h

/-- What the log alone keeps: every note fits the log before it, the note of the flag is
followed at once by the push of `shutdown`, and that push is the only envelope under the nil id. -/
structure LogOk (l : List Note) : Prop where
  fits : AllFit l
  shutdown_next : closedIn l = true → ∃ l₁ j ks l₂,
    l = l₁ ++ .closing j ks :: .pushed ⟨ConnId.nil, .signal .shutdown⟩ none :: l₂
  nil_env : (envelopes l).filter (fun e => e.id == ConnId.nil) =
    if closedIn l then [⟨ConnId.nil, .signal .shutdown⟩] else []

namespace LogOk

theorem nil : LogOk [] where
  fits := AllFit.nil
  shutdown_next h := by simp [closedIn] at h
  nil_env := by simp [envelopes, closedIn]

theorem concat {l : List Note} {n : Note} (h : LogOk l) (hfit : Fits l n)
    (hc : n.isClosing = false) (he : ∀ e, n.envelope? = some e → e.id ≠ ConnId.nil) :
    LogOk (l ++ [n]) := by
  have hcl : closedIn (l ++ [n]) = closedIn l := by rw [closedIn_concat, hc, Bool.or_false]
  refine ⟨h.fits.concat hfit, fun hc' => ?_, ?_⟩
  · obtain ⟨l₁, j, ks, l₂, hl⟩ := h.shutdown_next (hcl ▸ hc')
    exact ⟨l₁, j, ks, l₂ ++ [n], by rw [hl]; simp⟩
  · rw [hcl, envelopes_concat, List.filter_append, h.nil_env]
    cases hn : n.envelope? with
    | none => simp
    | some e => simp [he e hn]

theorem close {l : List Note} {j : Nat} {ks : List Nat} (h : LogOk l)
    (hfit : Fits l (.closing j ks)) :
    LogOk (l ++ [.closing j ks] ++ [.pushed ⟨ConnId.nil, .signal .shutdown⟩ none]) := by
  have hcl : closedIn l = false := hfit.1
  refine ⟨(h.fits.concat hfit).concat ⟨rfl, j, ks, by simp⟩, fun _ => ⟨l, j, ks, [], by simp⟩, ?_⟩
  rw [envelopes_concat, envelopes_concat, closedIn_concat, closedIn_concat, hcl, List.filter_append,
    List.filter_append, h.nil_env, hcl]
  simp [Note.envelope?, Note.isClosing]

end LogOk

/-- The server's invariant. -/
structure Good (w : World) : Prop where
  conns : ∀ k c, w.conns[k]? = some c → ConnOk w.registry w.log k c
  unused : ∀ k, w.conns.length ≤ k → ∀ n ∈ w.log, n.about k = false
  closed_eq : w.closed = closedIn w.log
  disposed_eq : w.inbox.disposed = disposedIn w.log
  disposed_closed : w.inbox.disposed = true → w.closed = true
  callers : ∀ j, DoingOk w.closed j (w.callers j)
  log : LogOk w.log

namespace ConnOk

variable {r : Registry} {l : List Note} {k : Nat} {c : Conn}

theorem tried_of_free (hb : c.body = .free) : c.tried = entered c.chan.log := by
  simp [Conn.tried, hb]

theorem quiet (h : ConnOk r l k c) {ns : List Note} (hq : ∀ n ∈ ns, n.about k = false) :
    ConnOk r (l ++ ns) k c := by
  obtain ⟨hf, hs, hr⟩ := quiet_notes hq
  have hf' : forgotIn k (l ++ ns) = forgotIn k l := by rw [forgotIn_append, hf, Bool.or_false]
  have hs' : sentBy k (l ++ ns) = sentBy k l := by rw [sentBy_append, hs, List.append_nil]
  have hl : lostSentIn k (l ++ ns) = lostSentIn k l := by simp only [lostSentIn, hs']
  refine ⟨h.inv, h.reading, h.registry, h.id_ne, fun u => ?_, ?_, h.free_iff, h.forget, ?_, ?_,
    ?_, ?_⟩
  · rw [registeredAs_append, hr, Bool.or_false]
    exact h.registered u
  · rw [hf']
    exact h.listed
  · rw [hf']
    exact h.push
  · rw [hf']
    exact h.forgot_lost
  · rw [hs']
    exact h.sent
  · rw [hl, hf']
    exact h.lost_forgot

theorem fresh {u : ConnId} (hu : u ≠ ConnId.nil) (hl : ∀ n ∈ l, n.about k = false) (j : Nat)
    {n : Note} {b : Bool} (hn : n.sent k = some (.signal .joined, b)) (hnf : n.forgets k = false)
    (hnr : ∀ u, n.registers k u = false) :
    ConnOk r ((l ++ [.add j u true (.registered k)]) ++ [n]) k
      ⟨u, Threads.World.fresh r, true, .free⟩ := by
  obtain ⟨hf, hs, hr⟩ := quiet_notes hl
  have hf' : forgotIn k ((l ++ [.add j u true (.registered k)]) ++ [n]) = false := by
    rw [forgotIn_concat, forgotIn_concat, hf, hnf]
    rfl
  have hs' : sentBy k ((l ++ [.add j u true (.registered k)]) ++ [n]) = [(.signal .joined, b)] := by
    rw [sentBy_concat, sentBy_concat, hs, hn]
    rfl
  have hnone : inFlight (Threads.World.fresh r).log = none := rfl
  refine ⟨Inv.fresh r, Reading.fresh r, rfl, hu, fun u' => ?_, by rw [hf']; rfl,
    iff_of_true rfl hnone, ?_, ?_, ?_, ?_, ?_⟩
  · rw [registeredAs_concat, registeredAs_concat, hr, hnr]
    simp only [Note.registers, beq_self_eq_true, Bool.true_and, Bool.false_or, Bool.or_false,
      beq_iff_eq]
    exact eq_comm
  · simp
  · simp
  · rw [hf']
    simp
  · rw [hs']
    rfl
  · intro hlost
    rw [lostSentIn, hs'] at hlost
    simp only [List.any_cons, List.any_nil, Bool.or_false, beq_iff_eq, Message.signal.injEq]
      at hlost
    cases hlost

theorem withChan (h : ConnOk r l k c) {ch : Threads.World} (hi : Inv ch) (hrd : Reading ch)
    (hreg : ch.registry = r) (hh : hooks ch.log = hooks c.chan.log) :
    ConnOk r l k { c with chan := ch } := by
  have he := entered_congr hh
  have hf := inFlight_congr hh
  refine ⟨hi, hrd, hreg, h.id_ne, h.registered, h.listed, ?_, ?_, ?_, ?_, ?_, h.lost_forgot⟩
  · rw [hf]
    exact h.free_iff
  · rw [hf]
    exact h.forget
  · rw [hf]
    exact h.push
  · rw [he]
    exact h.forgot_lost
  · have : ({ c with chan := ch } : Conn).tried = c.tried := by
      simp only [Conn.tried, he]
    rw [this]
    exact h.sent

theorem started (h : ConnOk r l k c) {ch : Threads.World} (hi : Inv ch) (hrd : Reading ch)
    (hreg : ch.registry = r) {d : Delivery} (hh : hooks ch.log = hooks c.chan.log ++ [.enter d]) :
    ConnOk r l k { c with chan := ch, body := Body.start d } := by
  obtain ⟨hnone, -, -⟩ := enter_step hi hh
  obtain ⟨hflight, hentered⟩ := inFlight_enter hh
  have hfree : c.body = .free := h.free_iff.mpr hnone
  have htried : (entered ch.log).dropLast = c.tried := by
    rw [hentered, List.dropLast_concat, tried_of_free hfree]
  have hsent : (sentBy k l).map Prod.fst = .signal .joined :: (entered ch.log).dropLast := by
    rw [htried]
    exact h.sent
  have hlost : forgotIn k l = true → .signal .clientLost ∈ entered ch.log := fun hfk => by
    rw [hentered]
    exact List.mem_append_left _ (h.forgot_lost hfk)
  -- given `clientLost`, the hook drops the connection first; given anything else, it pushes it
  by_cases hd : handed d = .signal .clientLost
  · have hstart : Body.start d = .forget := by simp [Body.start, hd]
    refine ⟨hi, hrd, hreg, h.id_ne, h.registered, h.listed, ?_, fun _ => ⟨d, hflight, hd⟩, ?_,
      hlost, ?_, h.lost_forgot⟩
    · simp [hstart, hflight]
    · simp [hstart]
    · simpa [Conn.tried, hstart] using hsent
  · have hstart : Body.start d = .push (handed d) := by simp [Body.start, hd]
    refine ⟨hi, hrd, hreg, h.id_ne, h.registered, h.listed, ?_, ?_, ?_, hlost, ?_, h.lost_forgot⟩
    · simp [hstart, hflight]
    · simp [hstart]
    · intro m hb
      rw [hstart, Body.push.injEq] at hb
      subst hb
      exact ⟨d, hflight, rfl, fun hm => absurd hm hd⟩
    · simpa [Conn.tried, hstart] using hsent

theorem returned (h : ConnOk r l k c) {ch : Threads.World} (hi : Inv ch) (hrd : Reading ch)
    (hreg : ch.registry = r) {d : Delivery} (hh : hooks ch.log = hooks c.chan.log ++ [.leave d])
    (hdone : c.body = .done) : ConnOk r l k { c with chan := ch, body := .free } := by
  obtain ⟨hflight, hentered⟩ := leave_step hh
  refine ⟨hi, hrd, hreg, h.id_ne, h.registered, h.listed, by simp [hflight], by simp, by simp,
    fun hfk => ?_, ?_, h.lost_forgot⟩
  · rw [hentered]
    exact h.forgot_lost hfk
  · rw [h.sent]
    simp [Conn.tried, hdone, hentered]

theorem advance (h : ConnOk r l k c) (a : Threads.Act) : ConnOk r l k (c.advance a) := by
  have hi : Inv (c.chan.step a) := h.inv.step a
  have hrd : Reading (c.chan.step a) := h.reading.step a
  have hreg : (c.chan.step a).registry = r :=
    (Threads.World.grows_step c.chan a).registry_eq.trans h.registry
  have hh := hooks_step c.chan a
  dsimp only [Conn.advance]
  -- the step starts a hook call, returns from one, or leaves the calls alone
  generalize hookMoves c.chan (c.chan.step a) = mv at hh ⊢
  match mv, hh with
  | [], hh =>
    rw [List.append_nil] at hh
    exact h.withChan hi hrd hreg hh
  | [.enter d], hh => exact h.started hi hrd hreg hh
  | [.leave d], hh =>
    by_cases hdone : c.body = .done
    · simpa [hdone] using h.returned hi hrd hreg hh hdone
    · simpa [hdone] using h
  | .enter _ :: _ :: _, _ | .leave _ :: _ :: _, _ => exact h

theorem call (h : ConnOk r l k c) (j : Nat) {s : CallerAt} (hs : Startable j s) :
    ConnOk r l k { c with chan := c.chan.call j s } := by
  obtain ⟨hu, -⟩ := c.chan.untouched_call j s
  have hlog : (c.chan.call j s).log = c.chan.log := by
    unfold Threads.World.call
    split <;> rfl
  exact h.withChan (h.inv.call j hs.1 hs.2) (h.reading.untouched hu (c.chan.untouched_call j s).2)
    (hu.registry_eq.trans h.registry) (by rw [hlog])

theorem tried_prefix_entered (c : Conn) : c.tried <+: entered c.chan.log := by
  unfold Conn.tried
  split
  · exact List.dropLast_prefix _
  · exact List.dropLast_prefix _
  · exact List.prefix_refl _
  · exact List.prefix_refl _

theorem sent_prefix_delivered (h : ConnOk r l k c) :
    (sentBy k l).map Prod.fst <+:
      .signal .joined :: (delivered c.chan.log ++ [.signal .clientLost]) := by
  rw [h.sent]
  exact (List.prefix_cons_inj _).mpr
    ((tried_prefix_entered c).trans (entered_prefix_delivered h.inv))

/-- Under codecs that read no control signal, a connection pushes `joined` only first and nothing
after `clientLost`: of pushes `P` and then `m`, `m` is `joined` only if `P` is empty, and `P`
holds no `clientLost`. -/
theorem pushes_of_noSignal (h : ConnOk r l k c) (hr : r.NoSignal) {P : List Message}
    {m : Message} (hp : P ++ [m] <+: (sentBy k l).map Prod.fst) :
    (m = .signal .joined → P = []) ∧ .signal .clientLost ∉ P := by
  have hD : ∀ s, .signal s ∉ delivered c.chan.log :=
    delivered_noSignal h.reading (h.registry ▸ hr)
  have hL := hp.trans h.sent_prefix_delivered
  refine ⟨fun hm => ?_, fun hl => ?_⟩
  · -- past the first push, each is a delivered message or the last `clientLost`
    cases P with
    | nil => rfl
    | cons x P =>
      rw [List.cons_append, List.cons_prefix_cons] at hL
      have hmem : m ∈ delivered c.chan.log ++ [.signal .clientLost] := hL.2.subset (by simp)
      subst hm
      rcases List.mem_append.mp hmem with hd | hd
      · exact absurd hd (hD _)
      · exact absurd (List.mem_singleton.mp hd) (by decide)
  · -- `clientLost` stands only last, after every push of `P`
    have hnot : .signal .clientLost ∉ .signal .joined :: delivered c.chan.log := by
      rw [List.mem_cons, not_or]
      exact ⟨by decide, hD _⟩
    rw [← List.cons_append] at hL
    rcases List.prefix_concat_iff.mp hL with he | he
    · obtain ⟨rfl, -⟩ := List.append_inj' he rfl
      exact hnot hl
    · exact hnot (((List.prefix_append P [m]).trans he).subset hl)

theorem forgotten (h : ConnOk r l k c) (hb : c.body = .forget) :
    ConnOk r (l ++ [.forgot k]) k
      { c with listed := false, body := .push (.signal .clientLost) } := by
  obtain ⟨d, hflight, hd⟩ := h.forget hb
  have hq : ∀ u, registeredAs k u (l ++ [.forgot k]) = registeredAs k u l := by
    simp [Note.registers]
  have hsent : sentBy k (l ++ [.forgot k]) = sentBy k l := by simp [Note.sent]
  have hfk : forgotIn k (l ++ [.forgot k]) = true := by simp [Note.forgets]
  refine ⟨h.inv, h.reading, h.registry, h.id_ne, fun u => by rw [hq]; exact h.registered u,
    by rw [hfk]; rfl, by simp [hflight], by simp, ?_, fun _ => ?_, ?_, fun _ => hfk⟩
  · intro m hm
    cases hm
    exact ⟨d, hflight, hd, fun _ => hfk⟩
  · rw [← hd]
    exact handed_mem_entered hflight
  · rw [hsent, h.sent]
    simp [Conn.tried, hb]

theorem forgotten_again (h : ConnOk r l k c) (hb : c.body = .forget) (hl : c.listed = false) :
    ConnOk r l k { c with body := .push (.signal .clientLost) } := by
  obtain ⟨d, hflight, hd⟩ := h.forget hb
  have hfk : forgotIn k l = true := by simpa [hl] using h.listed
  refine ⟨h.inv, h.reading, h.registry, h.id_ne, h.registered, h.listed, by simp [hflight],
    by simp, ?_, h.forgot_lost, ?_, h.lost_forgot⟩
  · intro m hm
    cases hm
    exact ⟨d, hflight, hd, fun _ => hfk⟩
  · rw [h.sent]
    simp [Conn.tried, hb]

/-- What the hook's push of `m` says of its connection's pushes so far: they begin with `joined`;
`m` is `clientLost` only once the connection has left the table; and once it has, `clientLost`
has been pushed already or is `m`. -/
theorem push_fits (h : ConnOk r l k c) {m : Message} (hb : c.body = .push m) :
    sentBy k l ≠ [] ∧ (m = .signal .clientLost → forgotIn k l = true) ∧
      (forgotIn k l = true → .signal .clientLost ∈ (sentBy k l).map Prod.fst ++ [m]) := by
  obtain ⟨d, hd, hdm, hlost⟩ := h.push m hb
  refine ⟨fun hs => by simpa [hs] using h.sent, hlost, fun hfk => ?_⟩
  -- the hook was called with `clientLost`, so it is among the pushes or the call in flight
  have hmem := h.forgot_lost hfk
  rw [entered_of_inFlight hd, hdm] at hmem
  rw [h.sent, List.cons_append]
  exact List.mem_cons_of_mem _ (by simpa [Conn.tried, hb] using hmem)

theorem pushes (h : ConnOk r l k c) {m : Message} (hb : c.body = .push m) {n : Note} {b : Bool}
    (hsent : n.sent k = some (m, b)) (hfree : n.forgets k = false)
    (hreg : ∀ u, n.registers k u = false) :
    ConnOk r (l ++ [n]) k { c with body := .done } := by
  have hf : forgotIn k (l ++ [n]) = forgotIn k l := by simp [hfree]
  obtain ⟨d, hd, hdm, hlost⟩ := h.push m hb
  refine ⟨h.inv, h.reading, h.registry, h.id_ne, fun u => by simp [hreg]; exact h.registered u,
    by rw [hf]; exact h.listed, by simp [hd], by simp, by simp, by rw [hf]; exact h.forgot_lost,
    ?_, ?_⟩
  · -- the push is the message of the call in flight, the last one the hook was called with
    rw [sentBy_concat, hsent, List.map_append, h.sent]
    simp only [Conn.tried, hb, Option.toList_some, List.map_cons, List.map_nil, List.cons_append]
    rw [entered_of_inFlight hd, hdm, List.dropLast_concat]
  · intro hl
    rw [hf]
    simp only [lostSentIn, sentBy_concat, hsent, Option.toList_some, List.any_append,
      List.any_cons, List.any_nil, Bool.or_false, Bool.or_eq_true, beq_iff_eq] at hl
    rcases hl with hl | hl
    · exact h.lost_forgot hl
    · exact hlost hl

end ConnOk

end FramedLink.Threads.Serving
