import FramedLink.Proofs.Threads.Sends
import FramedLink.Proofs.Threads.Serving

namespace FramedLink.Threads.World

variable {w : World} {i j : Nat}

theorem callers_call_ne (hij : i ≠ j) (s : CallerAt) : (w.call i s).callers j = w.callers j := by
  unfold call
  split
  · simp [Function.update_of_ne (Ne.symm hij)]
  · rfl

theorem call_of_idle (h : w.callers i = .idle) (s : CallerAt) : w.call i s = w.setCaller i s := by
  simp [call, h]

theorem queueClosed_call (s : CallerAt) : (w.call i s).queueClosed = w.queueClosed := by
  unfold call
  split <;> rfl

@[simp] theorem returnsOf_nil (j : Nat) : returnsOf j [] = [] := rfl

@[simp] theorem returnsOf_append (j : Nat) (l l' : List Event) :
    returnsOf j (l ++ l') = returnsOf j l ++ returnsOf j l' := by
  simp [returnsOf]

@[simp] theorem returnsOf_cons (j : Nat) (e : Event) (l : List Event) :
    returnsOf j (e :: l) = (e.returnOf j).toList ++ returnsOf j l := by
  cases h : e.returnOf j <;> simp [returnsOf, h]

section Returns

variable (w : World) (j : Nat)

theorem returnsOf_finish {t : Tid} (ht : t ≠ .caller j) (won : Bool) (r : Option Error) :
    returnsOf j (w.finish t won r).log = returnsOf j w.log := by
  cases t with
  | reader | writer => simp [Event.returnOf]
  | caller i =>
    have hij : i ≠ j := fun h => ht (h ▸ rfl)
    simp [Event.returnOf, hij]

theorem returnsOf_stopStep {t : Tid} (ht : t ≠ .caller j) (s : Stop) :
    returnsOf j (w.stopStep t s).log = returnsOf j w.log := by
  cases s with
  | claim c =>
    simp only [stopStep]
    split
    · exact w.returnsOf_finish j ht _ _
    · simp [Event.returnOf]
  | awaitLock r =>
    simp only [stopStep]
    split <;> simp [Event.returnOf]
  | dropQueue | closeStream => simp [stopStep]
  | deliverLost r =>
    simp only [stopStep]
    rw [returnsOf_finish _ _ ht]
    simp [Event.returnOf]

theorem returnsOf_readerStep : returnsOf j w.readerStep.log = returnsOf j w.log := by
  unfold readerStep
  split
  · split
    · simp
    · split <;> simp
  · split <;> simp
  · split <;> simp [Event.returnOf]
  · simp [Event.returnOf]
  · split <;> simp
  · exact w.returnsOf_stopStep j (by simp) _
  all_goals rfl

theorem returnsOf_writerStep : returnsOf j w.writerStep.log = returnsOf j w.log := by
  unfold writerStep
  split
  · split
    · simp
    · split <;> simp [Event.returnOf]
  · exact w.returnsOf_stopStep j (by simp) _
  all_goals rfl

theorem returnsOf_callerStep {i : Nat} (hij : i ≠ j) :
    returnsOf j (w.callerStep i).log = returnsOf j w.log := by
  unfold callerStep
  split
  · split
    · simp [Event.returnOf, hij]
    · split
      · simp [Event.returnOf, hij]
      · simp
  · split <;> simp [Event.returnOf, hij]
  · exact w.returnsOf_stopStep j (fun h => hij (Tid.caller.inj h)) _
  · rfl

theorem returnsOf_readerRead (bytes : Bytes) (last : ReadEnd) :
    returnsOf j (w.readerRead bytes last).log = returnsOf j w.log := by
  unfold readerRead
  split
  · split
    · split <;> simp [Event.returnOf]
    · rfl
  · rfl

theorem returnsOf_writerWrite (ans : WriteEnd) :
    returnsOf j (w.writerWrite ans).log = returnsOf j w.log := by
  unfold writerWrite
  split
  · split <;> simp [Event.returnOf]
  · rfl

theorem returnsOf_streamClose (t : Tid) (r : Option Error) :
    returnsOf j (w.streamClose t r).log = returnsOf j w.log := by
  unfold streamClose
  split <;> simp [Event.returnOf]

theorem returnsOf_call (i : Nat) (c : CallerAt) : returnsOf j (w.call i c).log = returnsOf j w.log := by
  unfold call
  split <;> simp

theorem returnsOf_step (a : Act) :
    returnsOf j (w.step a).log = returnsOf j w.log ∨ a = .run (.caller j) := by
  cases a with
  | run t =>
    cases t with
    | reader => exact .inl (w.returnsOf_readerStep j)
    | writer => exact .inl (w.returnsOf_writerStep j)
    | caller i =>
      by_cases hij : i = j
      · exact .inr (by rw [hij])
      · exact .inl (w.returnsOf_callerStep j hij)
  | read bytes last => exact .inl (w.returnsOf_readerRead j bytes last)
  | write ans => exact .inl (w.returnsOf_writerWrite j ans)
  | closeStream t r => exact .inl (w.returnsOf_streamClose j t r)
  | callClose i => exact .inl (w.returnsOf_call j i _)
  | callSend i m => exact .inl (w.returnsOf_call j i _)

theorem returnsOf_push {m : Option Message} {f : Bytes} (h : w.callers j = .pushing m f) :
    returnsOf j (w.callerStep j).log =
      returnsOf j w.log ++ [.send (if w.queueClosed then .error .connectionClosed else .ok f)] := by
  simp only [callerStep, h]
  cases w.queueClosed <;> simp [Event.returnOf]

end Returns

theorem step_keeps_caller {a : Act} (hs : (w.callers j).stage = none) (hcl : ∀ i, a ≠ .callClose i)
    (hse : ∀ i m, a ≠ .callSend i m) (hrun : a = .run (.caller j) → w.callers j = .idle) :
    (w.step a).callers j = w.callers j ∧ sendsOf j (w.step a).log = sendsOf j w.log ∧
      returnsOf j (w.step a).log = returnsOf j w.log ∧
      (w.queueClosed = true → (w.step a).queueClosed = true) := by
  by_cases ha : a = .run (.caller j)
  · subst ha
    rw [step, callerStep_idle w j (hrun rfl)]
    exact ⟨rfl, rfl, rfl, id⟩
  · exact ⟨callers_step_other w j hs ha (hcl j) (hse j), (sendsOf_step w j a).resolve_right ha,
      (returnsOf_step w j a).resolve_right ha, (w.writer_moves a).1⟩

end FramedLink.Threads.World

namespace FramedLink.Threads.Serving

theorem Conn.id_advance (c : Conn) (a : Threads.Act) : (c.advance a).id = c.id := by
  unfold Conn.advance
  dsimp only
  split
  · rfl
  · rfl
  · split <;> rfl
  · rfl

theorem Conn.advance_chan (c : Conn) (a : Threads.Act) :
    (c.advance a).chan = c.chan.step a ∨ (c.advance a).chan = c.chan := by
  unfold Conn.advance
  dsimp only
  split
  · exact .inl rfl
  · exact .inl rfl
  · split
    · exact .inl rfl
    · exact .inr rfl
  · exact .inr rfl

def Act.opBy : Act → Option Nat
  | .add j _ _ | .send j _ _ | .disconnect j _ | .disconnectAll j _ | .close j _ | .dispose j _ =>
    some j
  | _ => none

def Note.resultOf (j : Nat) : Note → Option (Option Error)
  | .returned i r => if i = j then some r else none
  | _ => none

def resultsOf (j : Nat) (l : List Note) : List (Option Error) := l.filterMap (Note.resultOf j)

@[simp] theorem resultsOf_concat (j : Nat) (l : List Note) (n : Note) :
    resultsOf j (l ++ [n]) = resultsOf j l ++ (n.resultOf j).toList := by
  cases h : n.resultOf j <;> simp [resultsOf, h]

namespace World

def chanAt (x : World) (k : Nat) : Option Threads.World := x.conns[k]?.map Conn.chan

def sendsAt (x : World) (j k : Nat) : List (Except Error Bytes) :=
  ((x.chanAt k).map fun c => sendsOf j c.log).getD []

def returnsAt (x : World) (j k : Nat) : List CallReturn :=
  ((x.chanAt k).map fun c => returnsOf j c.log).getD []

def idAt (x : World) (k : Nat) : Option ConnId := x.conns[k]?.map Conn.id

def callerAt (x : World) (j k : Nat) : CallerAt := ((x.chanAt k).map fun c => c.callers j).getD .idle

def closedAt (x : World) (k : Nat) : Bool := ((x.chanAt k).map fun c => c.queueClosed).getD false

theorem chanAt_of_conn {x : World} {k : Nat} {c : Conn} (hc : x.conns[k]? = some c) :
    x.chanAt k = some c.chan := by
  simp [chanAt, hc]

theorem sendsAt_of {x : World} {k : Nat} {c : Threads.World} (h : x.chanAt k = some c) (j : Nat) :
    x.sendsAt j k = sendsOf j c.log := by
  simp [sendsAt, h]

theorem returnsAt_of {x : World} {k : Nat} {c : Threads.World} (h : x.chanAt k = some c) (j : Nat) :
    x.returnsAt j k = returnsOf j c.log := by
  simp [returnsAt, h]

theorem callerAt_of {x : World} {k : Nat} {c : Threads.World} (h : x.chanAt k = some c) (j : Nat) :
    x.callerAt j k = c.callers j := by
  simp [callerAt, h]

theorem closedAt_of {x : World} {k : Nat} {c : Threads.World} (h : x.chanAt k = some c) :
    x.closedAt k = c.queueClosed := by
  simp [closedAt, h]

section Frame

variable (x : World)

@[simp] theorem chanAt_note (n : Note) : (x.note n).chanAt = x.chanAt := rfl
@[simp] theorem chanAt_setDoing (j : Nat) (d : Doing) : (x.setDoing j d).chanAt = x.chanAt := rfl
@[simp] theorem chanAt_setInbox (q : Inbox Envelope) : (x.setInbox q).chanAt = x.chanAt := rfl
@[simp] theorem sendsAt_setDoing (j : Nat) (d : Doing) : (x.setDoing j d).sendsAt = x.sendsAt := rfl
@[simp] theorem returnsAt_setDoing (j : Nat) (d : Doing) :
    (x.setDoing j d).returnsAt = x.returnsAt := rfl
@[simp] theorem idAt_note (n : Note) : (x.note n).idAt = x.idAt := rfl
@[simp] theorem idAt_setDoing (j : Nat) (d : Doing) : (x.setDoing j d).idAt = x.idAt := rfl
@[simp] theorem idAt_setInbox (q : Inbox Envelope) : (x.setInbox q).idAt = x.idAt := rfl
@[simp] theorem callerAt_setDoing (j : Nat) (d : Doing) :
    (x.setDoing j d).callerAt = x.callerAt := rfl
@[simp] theorem closedAt_setDoing (j : Nat) (d : Doing) :
    (x.setDoing j d).closedAt = x.closedAt := rfl

@[simp] theorem chanAt_enqueue (e : Envelope) (k : Option Nat) :
    (x.enqueue e k).chanAt = x.chanAt := by
  unfold enqueue
  split <;> rfl

@[simp] theorem callers_enqueue (e : Envelope) (k : Option Nat) :
    (x.enqueue e k).callers = x.callers := by
  unfold enqueue
  split <;> rfl

@[simp] theorem idAt_enqueue (e : Envelope) (k : Option Nat) : (x.enqueue e k).idAt = x.idAt := by
  unfold enqueue
  split <;> rfl

/-- A push into the inbox returns from no operation. -/
@[simp] theorem resultsOf_enqueue (j : Nat) (e : Envelope) (k : Option Nat) :
    resultsOf j (x.enqueue e k).log = resultsOf j x.log := by
  unfold enqueue
  split <;> simp [Note.resultOf]

theorem chanAt_setConn {k : Nat} {c c' : Conn} (hc : x.conns[k]? = some c) (k' : Nat) :
    (x.setConn k c').chanAt k' = if k' = k then some c'.chan else x.chanAt k' := by
  have hk := (List.getElem?_eq_some_iff.mp hc).1
  by_cases h : k' = k
  · subst h
    simp [chanAt, hk]
  · simp [chanAt, h, Ne.symm h]

theorem callerAt_setConn {k : Nat} {c c' : Conn} (hc : x.conns[k]? = some c) (j k' : Nat) :
    (x.setConn k c').callerAt j k' = if k' = k then c'.chan.callers j else x.callerAt j k' := by
  simp only [callerAt, chanAt_setConn x hc]
  split <;> rfl

theorem sendsAt_setConn {k : Nat} {c c' : Conn} (hc : x.conns[k]? = some c) (j k' : Nat) :
    (x.setConn k c').sendsAt j k' = if k' = k then sendsOf j c'.chan.log else x.sendsAt j k' := by
  simp only [sendsAt, chanAt_setConn x hc]
  split <;> rfl

theorem returnsAt_setConn {k : Nat} {c c' : Conn} (hc : x.conns[k]? = some c) (j k' : Nat) :
    (x.setConn k c').returnsAt j k' =
      if k' = k then returnsOf j c'.chan.log else x.returnsAt j k' := by
  simp only [returnsAt, chanAt_setConn x hc]
  split <;> rfl

theorem idAt_setConn {k : Nat} {c c' : Conn} (hc : x.conns[k]? = some c) (hid : c'.id = c.id) :
    (x.setConn k c').idAt = x.idAt := by
  funext k'
  have hk := (List.getElem?_eq_some_iff.mp hc).1
  by_cases h : k' = k
  · subst h
    rw [idAt, idAt, setConn_conns, List.getElem?_set_self hk, hc]
    simp [hid]
  · simp [idAt, List.getElem?_set_ne (Ne.symm h)]

theorem closedAt_setConn {k : Nat} {c c' : Conn} (hc : x.conns[k]? = some c) (k' : Nat) :
    (x.setConn k c').closedAt k' = if k' = k then c'.chan.queueClosed else x.closedAt k' := by
  simp only [closedAt, chanAt_setConn x hc]
  split <;> rfl

theorem closedAt_setConn_eq {k : Nat} {c c' : Conn} (hc : x.conns[k]? = some c)
    (hq : c'.chan.queueClosed = c.chan.queueClosed) : (x.setConn k c').closedAt = x.closedAt := by
  funext k'
  rw [closedAt_setConn x hc]
  split
  · next h => rw [h, hq, closedAt_of (chanAt_of_conn hc)]
  · rfl

theorem isSome_chanAt_setConn {k : Nat} {c c' : Conn} (hc : x.conns[k]? = some c) (k' : Nat) :
    ((x.setConn k c').chanAt k').isSome = (x.chanAt k').isSome := by
  rw [chanAt_setConn x hc]
  split
  · next h =>
    subst h
    simp [chanAt, hc]
  · rfl

theorem chanAt_setConn_chan {k : Nat} {c c' : Conn} (hc : x.conns[k]? = some c)
    (hchan : c'.chan = c.chan) : (x.setConn k c').chanAt = x.chanAt := by
  funext k'
  rw [chanAt_setConn x hc]
  split
  · next h =>
    subst h
    simp [chanAt, hc, hchan]
  · rfl

theorem chanAt_forget (k : Nat) : (x.forget k).chanAt = x.chanAt := by
  unfold forget
  split
  · next c hc =>
    split
    · rw [chanAt_note]
      exact chanAt_setConn_chan _ hc rfl
    · rfl
  · rfl

theorem chanAt_setBody (k : Nat) (b : Body) : (x.setBody k b).chanAt = x.chanAt := by
  unfold setBody
  split
  · next c hc => exact chanAt_setConn_chan _ hc rfl
  · rfl

theorem idAt_forget (k : Nat) : (x.forget k).idAt = x.idAt := by
  unfold forget
  split
  · next c hc =>
    split
    · rw [idAt_note]
      exact idAt_setConn _ hc rfl
    · rfl
  · rfl

theorem idAt_setBody (k : Nat) (b : Body) : (x.setBody k b).idAt = x.idAt := by
  unfold setBody
  split
  · next c hc => exact idAt_setConn _ hc rfl
  · rfl

theorem resultsOf_forget (j k : Nat) : resultsOf j (x.forget k).log = resultsOf j x.log := by
  unfold forget
  split
  · split <;> simp [Note.resultOf]
  · rfl

@[simp] theorem log_setBody (k : Nat) (b : Body) : (x.setBody k b).log = x.log := by
  unfold setBody
  split <;> rfl

theorem callers_forget (k : Nat) : (x.forget k).callers = x.callers := by
  unfold forget
  split
  · split <;> rfl
  · rfl

theorem callers_setBody (k : Nat) (b : Body) : (x.setBody k b).callers = x.callers := by
  unfold setBody
  split <;> rfl

theorem chanAt_hookStep (k : Nat) : (x.hookStep k).chanAt = x.chanAt := by
  unfold hookStep
  split
  · split
    · rw [chanAt_setBody, chanAt_forget]
    · rw [chanAt_enqueue, chanAt_setBody]
    all_goals rfl
  · rfl

theorem callers_hookStep (k : Nat) : (x.hookStep k).callers = x.callers := by
  unfold hookStep
  split
  · split
    · rw [callers_setBody, callers_forget]
    · rw [callers_enqueue, callers_setBody]
    all_goals rfl
  · rfl

theorem idAt_hookStep (k : Nat) : (x.hookStep k).idAt = x.idAt := by
  unfold hookStep
  split
  · split
    · rw [idAt_setBody, idAt_forget]
    · rw [idAt_enqueue, idAt_setBody]
    all_goals rfl
  · rfl

theorem resultsOf_hookStep (j k : Nat) : resultsOf j (x.hookStep k).log = resultsOf j x.log := by
  unfold hookStep
  split
  · split
    · rw [log_setBody, resultsOf_forget]
    · rw [resultsOf_enqueue, log_setBody]
    all_goals rfl
  · rfl

theorem receive_chanAt_callers : x.receive.chanAt = x.chanAt ∧ x.receive.callers = x.callers := by
  unfold receive
  split <;> exact ⟨rfl, rfl⟩

theorem receive_idAt_resultsOf (j : Nat) :
    x.receive.idAt = x.idAt ∧ resultsOf j x.receive.log = resultsOf j x.log := by
  unfold receive
  split
  · simp [Note.resultOf]
  · exact ⟨rfl, rfl⟩

end Frame

/-- The channels of `x'` are those of `x`, and perhaps fresh ones after them. -/
structure KeepsChans (x x' : World) : Prop where
  kept : ∀ k c, x.chanAt k = some c → x'.chanAt k = some c
  added : ∀ k c, x'.chanAt k = some c → x.chanAt k = none → c = Threads.World.fresh x.registry

namespace KeepsChans

variable {x x' : World}

theorem of_eq (h : x'.chanAt = x.chanAt) : KeepsChans x x' :=
  ⟨fun k c hc => h ▸ hc, fun k c hc hn => by rw [h, hn] at hc; cases hc⟩

theorem getD_map (h : KeepsChans x x') {α : Type} {g : Threads.World → α} {d : α}
    (hg : g (Threads.World.fresh x.registry) = d) (k : Nat) :
    ((x'.chanAt k).map g).getD d = ((x.chanAt k).map g).getD d := by
  cases hc : x.chanAt k with
  | some c => rw [h.kept k c hc]
  | none =>
    cases hc' : x'.chanAt k with
    | none => rfl
    | some c' =>
      obtain rfl := h.added k c' hc' hc
      exact hg

theorem sendsAt (h : KeepsChans x x') (j k : Nat) : x'.sendsAt j k = x.sendsAt j k :=
  h.getD_map rfl k

theorem returnsAt (h : KeepsChans x x') (j k : Nat) : x'.returnsAt j k = x.returnsAt j k :=
  h.getD_map rfl k

theorem callerAt (h : KeepsChans x x') (j k : Nat) : x'.callerAt j k = x.callerAt j k :=
  h.getD_map rfl k

theorem closedAt (h : KeepsChans x x') (k : Nat) : x'.closedAt k = x.closedAt k :=
  h.getD_map rfl k

end KeepsChans

theorem keepsChans_append (x : World) {c : Conn} (hc : c.chan = Threads.World.fresh x.registry) :
    KeepsChans x { x with conns := x.conns ++ [c] } := by
  constructor
  · intro k c' hk
    have hlt := (List.getElem?_eq_some_iff.mp (Option.map_eq_some_iff.mp hk).choose_spec.1).1
    simpa [chanAt, List.getElem?_append_left hlt] using hk
  · intro k c' hk hn
    have hge : x.conns.length ≤ k := by simpa [chanAt] using hn
    simp only [chanAt, List.getElem?_append_right hge, Option.map_eq_some_iff] at hk
    obtain ⟨c'', hc'', rfl⟩ := hk
    obtain ⟨-, rfl⟩ := List.getElem?_eq_some_iff.mp hc''
    simpa using hc

/-- An operation of caller `j`, started while `j` is idle, keeps the channels, adding at most a
fresh one, and the ids of the connections; it leaves the other callers, and what their
operations returned, and does not set `j` waiting on a channel. -/
structure OpStep (j : Nat) (x x' : World) : Prop where
  chans : KeepsChans x x'
  ids : ∀ k u, x.idAt k = some u → x'.idAt k = some u
  others : ∀ i, i ≠ j → x'.callers i = x.callers i
  results : ∀ i, i ≠ j → resultsOf i x'.log = resultsOf i x.log
  not_await : ∀ k todo d failed, x'.callers j ≠ .await k todo d failed

section Ops

variable {x : World} {j : Nat}

theorem resultsOf_note_other {n : Note} (hn : ∀ i, i ≠ j → n.resultOf i = none) (l : List Note) :
    ∀ i, i ≠ j → resultsOf i (l ++ [n]) = resultsOf i l := by
  intro i hi
  simp [hn i hi]

theorem OpStep.of_frame {x' : World} (hc : x'.chanAt = x.chanAt) (hid : x'.idAt = x.idAt)
    (hcl : x'.callers = x.callers) (hr : ∀ i, i ≠ j → resultsOf i x'.log = resultsOf i x.log)
    (hj : x.callers j = .idle) : OpStep j x x' :=
  ⟨.of_eq hc, fun k u h => by rwa [hid], fun i _ => by rw [hcl], hr,
    fun k todo d e => by simp [hcl, hj]⟩

theorem OpStep.note (hj : x.callers j = .idle) {n : Note} (hn : ∀ i, i ≠ j → n.resultOf i = none) :
    OpStep j x (x.note n) :=
  .of_frame rfl rfl rfl (resultsOf_note_other hn x.log) hj

theorem OpStep.setDoing {x' : World} (hc : x'.chanAt = x.chanAt) (hid : x'.idAt = x.idAt)
    (hcl : x'.callers = x.callers) (hr : ∀ i, i ≠ j → resultsOf i x'.log = resultsOf i x.log)
    {d : Doing} (hd : ∀ k todo e failed, d ≠ .await k todo e failed) :
    OpStep j x (x'.setDoing j d) := by
  refine ⟨.of_eq (by simpa using hc), fun k u h => by simpa [hid] using h, fun i hij => ?_, hr,
    fun k todo e failed => ?_⟩
  · simp [Function.update_of_ne hij, hcl]
  · simpa using hd k todo e failed

theorem opStep_add (hj : x.callers j = .idle) (u : ConnId) (s : Bool) :
    OpStep j x (x.add j u s) := by
  unfold add
  split
  · exact .note hj fun _ _ => rfl
  split
  · exact .note hj fun _ _ => rfl
  split
  · exact .note hj fun _ _ => rfl
  split
  · exact .note hj fun _ _ => rfl
  -- the one change that is not a frame: the new connection's fresh channel
  have hk := keepsChans_append x (c := ⟨u, Threads.World.fresh x.registry, true, .free⟩) rfl
  refine ⟨⟨fun k c hc => ?_, fun k c hc hn => hk.added k c ?_ hn⟩, fun k u' hu => ?_, fun i _ => ?_,
    fun i _ => by simp [Note.resultOf], fun k todo d e => ?_⟩
  · rw [chanAt_enqueue, chanAt_note]
    exact hk.kept k c hc
  · rwa [chanAt_enqueue, chanAt_note] at hc
  · have hlt : k < x.conns.length := by
      obtain ⟨c, hc, -⟩ := Option.map_eq_some_iff.mp hu
      exact (List.getElem?_eq_some_iff.mp hc).1
    rw [idAt_enqueue, idAt_note]
    simpa [idAt, List.getElem?_append_left hlt] using hu
  · rw [callers_enqueue]
    rfl
  · rw [callers_enqueue]
    simp [note, hj]

theorem opStep_send (hj : x.callers j = .idle) (m : Option Message) (ids : List ConnId) :
    OpStep j x (x.send j m ids) := by
  unfold send
  split
  · exact .note hj fun _ _ => rfl
  · split
    · exact .note hj fun _ _ => rfl
    · exact .setDoing rfl rfl rfl (fun _ _ => rfl) nofun

theorem opStep_disconnect (hj : x.callers j = .idle) (u : ConnId) :
    OpStep j x (x.disconnect j u) := by
  unfold disconnect
  split
  · exact .note hj fun _ _ => rfl
  · exact .setDoing rfl rfl rfl (fun _ _ => rfl) nofun

theorem opStep_close (hj : x.callers j = .idle) (order : List Nat) (dispose : Bool) :
    OpStep j x (x.close j order dispose) := by
  unfold close
  split
  · split
    · exact .setDoing rfl rfl rfl (fun _ _ => rfl) nofun
    · -- a closed server: the `close` returns at once
      exact .note hj fun i hi => by simp [Note.resultOf, Ne.symm hi]
  · refine .setDoing (by rw [chanAt_enqueue, chanAt_note]; rfl) (by rw [idAt_enqueue, idAt_note]; rfl)
      (by rw [callers_enqueue]; rfl) (fun i _ => ?_) nofun
    simp [Note.resultOf]

theorem ifIdle_of_busy {x' : World} (h : x.callers j ≠ .idle) : x.ifIdle j x' = x := by
  unfold ifIdle
  split
  · contradiction
  · rfl

theorem ifIdle_of_idle {x' : World} (h : x.callers j = .idle) : x.ifIdle j x' = x' := by
  simp [ifIdle, h]

theorem step_ifIdle {x' : World} (ho : x.callers j = .idle → OpStep j x x') :
    x.ifIdle j x' = x ∨ x.callers j = .idle ∧ OpStep j x (x.ifIdle j x') := by
  by_cases hj : x.callers j = .idle
  · rw [ifIdle_of_idle hj]
    exact .inr ⟨hj, ho hj⟩
  · exact .inl (ifIdle_of_busy hj)

theorem step_op {a : Act} (ha : a.opBy = some j) :
    x.step a = x ∨ x.callers j = .idle ∧ OpStep j x (x.step a) := by
  cases a with
  | add i u s => cases ha; exact step_ifIdle fun h => opStep_add h u s
  | send i m ids => cases ha; exact step_ifIdle fun h => opStep_send h m ids
  | disconnect i u => cases ha; exact step_ifIdle fun h => opStep_disconnect h u
  | disconnectAll i order =>
    cases ha; exact step_ifIdle fun _ => .setDoing rfl rfl rfl (fun _ _ => rfl) nofun
  | close i order => cases ha; exact step_ifIdle fun h => opStep_close h order false
  | dispose i order => cases ha; exact step_ifIdle fun h => opStep_close h order true
  | run | chan | hook | receive => cases ha

end Ops

section RunCaller

variable {x : World} {j : Nat}

theorem runCaller_idle (h : x.callers j = .idle) : x.runCaller j = x := by
  simp [runCaller, h]

theorem runCaller_calls_nil {d : Bool} {failed : List Error} (h : x.callers j = .calls [] d failed) :
    x.runCaller j = if d then x.setDoing j (.disposing failed)
      else (x.note (.returned j (Error.gather failed))).setDoing j .idle := by
  simp [runCaller, h]

theorem runCaller_call {k : Nat} {s : CallerAt} {todo : List (Nat × CallerAt)} {d : Bool}
    {failed : List Error} (h : x.callers j = .calls ((k, s) :: todo) d failed) {c : Conn}
    (hc : x.conns[k]? = some c) :
    x.runCaller j =
      (x.setConn k { c with chan := c.chan.call j s }).setDoing j (.await k todo d failed) := by
  simp [runCaller, h, hc]

theorem runCaller_call_none {k : Nat} {s : CallerAt} {todo : List (Nat × CallerAt)} {d : Bool}
    {failed : List Error} (h : x.callers j = .calls ((k, s) :: todo) d failed)
    (hc : x.conns[k]? = none) : x.runCaller j = x.setDoing j (.calls todo d failed) := by
  simp [runCaller, h, hc]

theorem runCaller_await_idle {k : Nat} {todo : List (Nat × CallerAt)} {d : Bool}
    {failed : List Error} (h : x.callers j = .await k todo d failed) {c : Conn}
    (hc : x.conns[k]? = some c) (hi : c.chan.callers j = .idle) :
    x.runCaller j = x.setDoing j (.calls todo d (failed ++ (c.failureOf j).toList)) := by
  simp [runCaller, h, hc, hi]

theorem runCaller_await_busy {k : Nat} {todo : List (Nat × CallerAt)} {d : Bool}
    {failed : List Error} (h : x.callers j = .await k todo d failed) {c : Conn}
    (hc : x.conns[k]? = some c) (hi : c.chan.callers j ≠ .idle) : x.runCaller j = x := by
  simp only [runCaller, h, hc]

theorem runCaller_await_none {k : Nat} {todo : List (Nat × CallerAt)} {d : Bool}
    {failed : List Error} (h : x.callers j = .await k todo d failed) (hc : x.conns[k]? = none) :
    x.runCaller j = x.setDoing j (.calls todo d failed) := by
  simp [runCaller, h, hc]

theorem runCaller_disposing {failed : List Error} (h : x.callers j = .disposing failed) :
    x.runCaller j = (((x.setInbox x.inbox.dispose).note (.disposed j)).note
      (.returned j (Error.gather failed))).setDoing j .idle := by
  simp [runCaller, h]

theorem idAt_runCaller (i : Nat) : (x.runCaller i).idAt = x.idAt := by
  unfold runCaller
  split
  · split <;> rfl
  · split
    · next c hc =>
      rw [idAt_setDoing]
      exact idAt_setConn x hc rfl
    · rfl
  · split
    · split <;> rfl
    · rfl
  · rfl
  · rfl

end RunCaller

section Chan

variable (x : World) (k : Nat) (a : Threads.Act)

theorem chanStep_cases : x.chanStep k a = x ∨ ((∀ i, a ≠ .callClose i) ∧
    (∀ i m, a ≠ .callSend i m) ∧ ∃ c, x.conns[k]? = some c ∧
      x.chanStep k a = x.setConn k (c.advance a)) := by
  unfold chanStep
  split
  · exact .inl rfl
  · exact .inl rfl
  · next hcl hse =>
    split
    · next c hc => exact .inr ⟨fun i h => hcl i h, fun i m h => hse i m h, c, hc, rfl⟩
    · exact .inl rfl

theorem callers_chanStep : (x.chanStep k a).callers = x.callers := by
  rcases chanStep_cases x k a with h | ⟨-, -, c, -, h⟩
  · rw [h]
  · rw [h]
    rfl

theorem chanAt_chanStep_ne {k' : Nat} (h : k' ≠ k) : (x.chanStep k a).chanAt k' = x.chanAt k' := by
  rcases chanStep_cases x k a with he | ⟨-, -, c, hc, he⟩
  · rw [he]
  · rw [he, chanAt_setConn x hc, if_neg h]

theorem idAt_chanStep : (x.chanStep k a).idAt = x.idAt := by
  rcases chanStep_cases x k a with he | ⟨-, -, c, hc, he⟩
  · rw [he]
  · rw [he, idAt_setConn x hc (c.id_advance a)]

end Chan

/-- `x'` is `x` as far as the server's caller `j` is concerned: where it is, and on each channel
where that channel's caller `j` is and what its sends there returned; and no channel is gone,
nor any closed queue open again. -/
structure SameFor (j : Nat) (x x' : World) : Prop where
  callers : x'.callers j = x.callers j
  callerAt : ∀ k, x'.callerAt j k = x.callerAt j k
  sendsAt : ∀ k, x'.sendsAt j k = x.sendsAt j k
  returnsAt : ∀ k, x'.returnsAt j k = x.returnsAt j k
  results : resultsOf j x'.log = resultsOf j x.log
  chans : ∀ k, (x.chanAt k).isSome → (x'.chanAt k).isSome
  closed : ∀ k, x.closedAt k = true → x'.closedAt k = true

namespace SameFor

variable {j : Nat} {x x' : World}

theorem refl : SameFor j x x :=
  ⟨rfl, fun _ => rfl, fun _ => rfl, fun _ => rfl, rfl, fun _ => id, fun _ => id⟩

theorem of_frame (hc : x'.chanAt = x.chanAt) (hcl : x'.callers j = x.callers j)
    (hr : resultsOf j x'.log = resultsOf j x.log) : SameFor j x x' :=
  ⟨hcl, fun k => by simp [World.callerAt, hc], fun k => by simp [World.sendsAt, hc],
    fun k => by simp [World.returnsAt, hc], hr, fun k => by simp [hc],
    fun k => by simp [World.closedAt, hc]⟩

theorem setDoing (h : SameFor j x x') {i : Nat} (hij : i ≠ j) (d : Doing) :
    SameFor j x (x'.setDoing i d) :=
  ⟨by simp [Function.update_of_ne (Ne.symm hij), h.callers], h.callerAt, h.sendsAt, h.returnsAt,
    h.results, h.chans, h.closed⟩

theorem returned (h : SameFor j x x') {i : Nat} (hij : i ≠ j) (r : Option Error) :
    SameFor j x (x'.note (.returned i r)) :=
  ⟨h.callers, h.callerAt, h.sendsAt, h.returnsAt, by simp [Note.resultOf, hij, h.results], h.chans,
    h.closed⟩

end SameFor

theorem OpStep.sameFor {i j : Nat} {x x' : World} (h : OpStep i x x') (hij : i ≠ j) :
    SameFor j x x' :=
  ⟨h.others j (Ne.symm hij), h.chans.callerAt j, h.chans.sendsAt j, h.chans.returnsAt j,
    h.results j (Ne.symm hij),
    fun k hk => by
      obtain ⟨c, hc⟩ := Option.isSome_iff_exists.mp hk
      simp [h.chans.kept k c hc],
    fun k hk => by rwa [h.chans.closedAt k]⟩

theorem sameFor_setConn {x : World} {j k : Nat} {c c' : Conn} (hc : x.conns[k]? = some c)
    (hcl : c'.chan.callers j = c.chan.callers j) (hs : sendsOf j c'.chan.log = sendsOf j c.chan.log)
    (hr : returnsOf j c'.chan.log = returnsOf j c.chan.log)
    (hq : c.chan.queueClosed = true → c'.chan.queueClosed = true) :
    SameFor j x (x.setConn k c') := by
  have hch := chanAt_of_conn hc
  refine ⟨rfl, fun k' => ?_, fun k' => ?_, fun k' => ?_, rfl,
    fun k' hk => by rwa [isSome_chanAt_setConn x hc], fun k' hk => ?_⟩
  · rw [callerAt_setConn x hc]
    split
    · next h => rw [h, hcl, callerAt_of hch]
    · rfl
  · rw [sendsAt_setConn x hc]
    split
    · next h => rw [h, hs, sendsAt_of hch]
    · rfl
  · rw [returnsAt_setConn x hc]
    split
    · next h => rw [h, hr, returnsAt_of hch]
    · rfl
  · rw [closedAt_setConn x hc]
    split
    · next h => rw [h, closedAt_of hch] at hk; exact hq hk
    · exact hk

theorem sameFor_runCaller {x : World} {i j : Nat} (hij : i ≠ j) : SameFor j x (x.runCaller i) := by
  unfold runCaller
  split
  · split
    · exact SameFor.refl.setDoing hij _
    · exact (SameFor.refl.returned hij _).setDoing hij _
  · split
    · next c hc =>
      exact (sameFor_setConn hc (Threads.World.callers_call_ne hij _)
        (Threads.World.sendsOf_call _ _ _ _) (Threads.World.returnsOf_call _ _ _ _)
        (by rw [Threads.World.queueClosed_call]; exact id)).setDoing hij _
    · exact SameFor.refl.setDoing hij _
  · split
    · split
      · exact SameFor.refl.setDoing hij _
      · exact .refl
    · exact SameFor.refl.setDoing hij _
  · refine SameFor.setDoing (SameFor.returned ?_ hij _) hij _
    exact .of_frame rfl rfl (by simp [Note.resultOf])
  · exact .refl

theorem sameFor_chanStep {x : World} {j k : Nat} {a : Threads.Act}
    (hs : (x.callerAt j k).stage = none) (hrun : a = .run (.caller j) → x.callerAt j k = .idle) :
    SameFor j x (x.chanStep k a) := by
  rcases chanStep_cases x k a with h | ⟨hcl, hse, c, hc, h⟩
  · rw [h]
    exact .refl
  rw [h]
  have hch := chanAt_of_conn hc
  rw [callerAt_of hch] at hs hrun
  obtain ⟨h₁, h₂, h₃, h₄⟩ := Threads.World.step_keeps_caller hs hcl hse hrun
  rcases c.advance_chan a with he | he
  · exact sameFor_setConn hc (by rw [he, h₁]) (by rw [he, h₂]) (by rw [he, h₃])
      (by rw [he]; exact h₄)
  · exact sameFor_setConn hc (by rw [he]) (by rw [he]) (by rw [he]) (by rw [he]; exact id)

theorem sameFor_hookStep {x : World} {j : Nat} (k : Nat) : SameFor j x (x.hookStep k) :=
  .of_frame (chanAt_hookStep x k) (by rw [callers_hookStep]) (resultsOf_hookStep x j k)

theorem sameFor_receive {x : World} {j : Nat} : SameFor j x x.receive :=
  .of_frame (receive_chanAt_callers x).1 (by rw [(receive_chanAt_callers x).2])
    (receive_idAt_resultsOf x j).2

/-- A channel's caller `j` is in a call only while the server's caller `j` waits on that
channel: the server's caller calls a channel only from its list of calls, and waits there until
the call returns. -/
def CallsIdle (x : World) : Prop :=
  ∀ j k, x.callerAt j k ≠ .idle → ∃ todo d failed, x.callers j = .await k todo d failed

namespace CallsIdle

variable {x : World}

theorem fresh (r : Registry) : CallsIdle (World.fresh r) := by
  intro j k hk
  simp [callerAt, chanAt, World.fresh] at hk

theorem idle_of_not_await (h : CallsIdle x) {j : Nat}
    (hj : ∀ k todo d failed, x.callers j ≠ .await k todo d failed) (k : Nat) :
    x.callerAt j k = .idle := by
  by_contra hk
  obtain ⟨todo, d, failed, hw⟩ := h j k hk
  exact hj k todo d failed hw

theorem idle_of_await (h : CallsIdle x) {j k k' : Nat} {todo : List (Nat × CallerAt)} {d : Bool}
    {failed : List Error} (hj : x.callers j = .await k todo d failed) (hk : k' ≠ k) :
    x.callerAt j k' = .idle := by
  by_contra hk'
  obtain ⟨todo', d', failed', hw⟩ := h j k' hk'
  rw [hj] at hw
  exact hk (Doing.await.inj hw).1.symm

theorem of_sameFor (h : CallsIdle x) {x' : World} {j : Nat} (hs : SameFor j x x') (k : Nat)
    (hk : x'.callerAt j k ≠ .idle) : ∃ todo d failed, x'.callers j = .await k todo d failed := by
  rw [hs.callers]
  exact h j k (by rwa [← hs.callerAt k])

theorem op (h : CallsIdle x) {a : Act} {i : Nat} (ha : a.opBy = some i) : CallsIdle (x.step a) := by
  rcases step_op ha with hs | ⟨hi, ho⟩
  · rw [hs]
    exact h
  intro j k hk
  by_cases hji : j = i
  · -- the caller starting the operation was outside every channel, and stays so
    subst hji
    rw [ho.chans.callerAt, h.idle_of_not_await (by simp [hi]) k] at hk
    exact absurd rfl hk
  · exact h.of_sameFor (ho.sameFor (Ne.symm hji)) k hk

theorem runCaller_self (h : CallsIdle x) {j k : Nat} (hk : (x.runCaller j).callerAt j k ≠ .idle) :
    ∃ todo d failed, (x.runCaller j).callers j = .await k todo d failed := by
  cases hw : x.callers j with
  | idle =>
    rw [runCaller_idle hw] at hk ⊢
    exact h j k hk
  | calls todo d failed =>
    have hout := h.idle_of_not_await (j := j) (by simp [hw])
    cases todo with
    | nil =>
      rw [runCaller_calls_nil hw] at hk
      split at hk
      · exact absurd (hout k) hk
      · exact absurd (hout k) hk
    | cons e todo =>
      obtain ⟨k', s⟩ := e
      cases hc : x.conns[k']? with
      | none =>
        rw [runCaller_call_none hw hc] at hk
        exact absurd (hout k) hk
      | some c =>
        rw [runCaller_call hw hc] at hk ⊢
        by_cases hkk : k = k'
        · subst hkk
          exact ⟨todo, d, failed, by simp⟩
        · simp only [callerAt, chanAt_setDoing, chanAt_setConn x hc, if_neg hkk] at hk
          exact absurd (hout k) hk
  | await k' todo d failed =>
    cases hc : x.conns[k']? with
    | none =>
      rw [runCaller_await_none hw hc] at hk
      by_cases hkk : k = k'
      · subst hkk
        simp [callerAt, chanAt, hc] at hk
      · exact absurd (h.idle_of_await hw hkk) hk
    | some c =>
      by_cases hi : c.chan.callers j = .idle
      · rw [runCaller_await_idle hw hc hi] at hk
        by_cases hkk : k = k'
        · subst hkk
          simp [callerAt, chanAt, hc, hi] at hk
        · exact absurd (h.idle_of_await hw hkk) hk
      · rw [runCaller_await_busy hw hc hi] at hk ⊢
        exact h j k hk
  | disposing failed =>
    rw [runCaller_disposing hw] at hk
    exact absurd (h.idle_of_not_await (by simp [hw]) k) hk

theorem runCaller (h : CallsIdle x) (i : Nat) : CallsIdle (x.runCaller i) := by
  intro j k hk
  by_cases hji : j = i
  · subst hji
    exact h.runCaller_self hk
  · exact h.of_sameFor (sameFor_runCaller (Ne.symm hji)) k hk

theorem chanStep (h : CallsIdle x) (k : Nat) (a : Threads.Act) : CallsIdle (x.chanStep k a) := by
  intro j k' hk
  by_cases hidle : x.callerAt j k = .idle
  · -- caller `j` is outside this channel, and stays so
    exact h.of_sameFor (sameFor_chanStep (by rw [hidle]; rfl) fun _ => hidle) k' hk
  · obtain ⟨todo, d, failed, hw⟩ := h j k hidle
    rw [callers_chanStep]
    by_cases hkk : k' = k
    · exact ⟨todo, d, failed, hkk ▸ hw⟩
    · exact h j k' (by rwa [callerAt, chanAt_chanStep_ne x k a hkk] at hk)

theorem step (h : CallsIdle x) (a : Act) : CallsIdle (x.step a) := by
  cases hop : a.opBy with
  | some i => exact h.op hop
  | none =>
    cases a with
    | run i => exact h.runCaller i
    | chan k b => exact h.chanStep k b
    | hook k => exact fun j k' hk => h.of_sameFor (sameFor_hookStep k) k' hk
    | receive => exact fun j k' hk => h.of_sameFor sameFor_receive k' hk
    | add | send | disconnect | disconnectAll | close | dispose => cases hop

theorem run (h : CallsIdle x) (acts : List Act) : CallsIdle (x.run acts) := by
  induction acts generalizing x with
  | nil => exact h
  | cons a acts ih => exact ih (h.step a)

end CallsIdle

end World

end FramedLink.Threads.Serving
