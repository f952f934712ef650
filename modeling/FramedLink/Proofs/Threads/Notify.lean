import FramedLink.Proofs.Threads.Serving.Reachable
import FramedLink.Proofs.Threads.Receiving.Reachable

namespace FramedLink.Threads

namespace Serving

/-- Who owes a call of the notify hook: a caller after its `add` or `close`, or connection `k`'s
hook call after its push. -/
inductive Notifier where
  | caller (j : Nat)
  | hook (k : Nat)
deriving DecidableEq, Repr

namespace World

/-- The call of the notify hook that act `a`, taken in `w`, leaves owed, with the envelope whose
push it follows: for `add` once it registers, for the first `close` or `dispose`, and for a hook
call's push that the inbox takes. -/
def notifyOwed (w : World) : Act → Option (Notifier × Envelope)
  | .add j u s =>
    match w.callers j with
    | .idle =>
      if s = true ∧ u ≠ ConnId.nil ∧ w.closed = false ∧ w.lookup u = none then
        some (.caller j, ⟨u, .signal .joined⟩)
      else none
    | _ => none
  | .close j _ | .dispose j _ =>
    match w.callers j with
    | .idle => if w.closed then none else some (.caller j, ⟨ConnId.nil, .signal .shutdown⟩)
    | _ => none
  | .hook k =>
    match w.conns[k]? with
    | some c =>
      match c.body with
      | .push m => if (w.inbox.push ⟨c.id, m⟩).isSome then some (.hook k, ⟨c.id, m⟩) else none
      | _ => none
    | none => none
  | _ => none

end World

/-- A server while its threads run, with the calls of its notify hook. -/
structure Notifying where
  world : World
  owed : List (Notifier × Envelope)
  calls : List Envelope

/-- What can happen next: a step of the server's threads, or a call of the notify hook that `n`
owes. -/
inductive NotifyAct where
  | act (a : Act)
  | notify (n : Notifier)

namespace Notifying

def fresh (r : Registry) : Notifying := ⟨World.fresh r, [], []⟩

def step (x : Notifying) : NotifyAct → Notifying
  | .act a => ⟨x.world.step a, x.owed ++ (x.world.notifyOwed a).toList, x.calls⟩
  | .notify n =>
    match x.owed.find? (fun p => p.1 == n) with
    | some p => ⟨x.world, x.owed.erase p, x.calls ++ [p.2]⟩
    | none => x

def run (x : Notifying) (acts : List NotifyAct) : Notifying := acts.foldl step x

end Notifying

open Serving.World

section Envelopes

variable {w : World}

theorem envelopes_enqueue (e : Envelope) (k : Option Nat) :
    envelopes (w.enqueue e k).log =
      envelopes w.log ++ (if (w.inbox.push e).isSome then [e] else []) := by
  cases hq : w.inbox.push e with
  | some q => simp [enqueue_of_push hq, envelopes_concat, Note.envelope?]
  | none => simp [enqueue_of_push_none hq, envelopes_concat, Note.envelope?]

theorem Good.envelopes_add (h : Good w) (j : Nat) (u : ConnId) (s : Bool) :
    envelopes (w.add j u s).log = envelopes w.log ++
      (if s = true ∧ u ≠ ConnId.nil ∧ w.closed = false ∧ w.lookup u = none then
        [⟨u, .signal .joined⟩] else []) := by
  unfold World.add
  by_cases hs : s = true
  · by_cases hu : u = ConnId.nil
    · simp [hs, hu, Note.envelope?]
    by_cases hc : w.closed = true
    · simp [hs, hu, hc, Note.envelope?]
    cases hl : w.lookup u with
    | some k => simp [hs, hu, hc, Note.envelope?]
    | none =>
      -- an open server has an open inbox, so it takes the `joined`
      have hopen : w.inbox.disposed = false := h.inbox_open (by simpa using hc)
      obtain ⟨q, hq⟩ := Inbox.exists_push hopen ⟨u, .signal .joined⟩
      simp [hs, hu, hc, envelopes_enqueue, envelopes_concat, Note.envelope?, hq]
  · simp [hs, Note.envelope?]

theorem Good.envelopes_close (h : Good w) (j : Nat) (order : List Nat) (dispose : Bool) :
    envelopes (w.close j order dispose).log = envelopes w.log ++
      (if w.closed then [] else [⟨ConnId.nil, .signal .shutdown⟩]) := by
  unfold World.close
  by_cases hc : w.closed = true
  · cases dispose <;> simp [hc, Note.envelope?]
  · have hopen : w.inbox.disposed = false := h.inbox_open (by simpa using hc)
    obtain ⟨q, hq⟩ := Inbox.exists_push hopen ⟨ConnId.nil, .signal .shutdown⟩
    simp [hc, envelopes_enqueue, envelopes_concat, Note.envelope?, hq]

theorem envelopes_runCaller (j : Nat) : envelopes (w.runCaller j).log = envelopes w.log := by
  unfold World.runCaller
  split
  · split
    · rfl
    · simp [Note.envelope?]
  · split <;> rfl
  · split
    · split <;> rfl
    · rfl
  · simp [envelopes, Note.envelope?]
  · rfl

theorem envelopes_chanStep (k : Nat) (a : Threads.Act) :
    envelopes (w.chanStep k a).log = envelopes w.log := by
  unfold World.chanStep
  split
  · rfl
  · rfl
  · split <;> rfl

theorem envelopes_forget (k : Nat) : envelopes (w.forget k).log = envelopes w.log := by
  unfold World.forget
  split
  · split
    · simp [envelopes_concat, Note.envelope?]
    · rfl
  · rfl

@[simp] theorem setBody_log (k : Nat) (b : Body) : (w.setBody k b).log = w.log := by
  unfold World.setBody
  split <;> rfl

@[simp] theorem setBody_inbox (k : Nat) (b : Body) : (w.setBody k b).inbox = w.inbox := by
  unfold World.setBody
  split <;> rfl

theorem envelopes_hookStep (k : Nat) :
    envelopes (w.hookStep k).log = envelopes w.log ++
      (((w.notifyOwed (.hook k)).map Prod.snd).toList) := by
  cases hc : w.conns[k]? with
  | none => simp [World.hookStep, notifyOwed, hc]
  | some c =>
    cases hb : c.body with
    | forget => simp [World.hookStep, notifyOwed, hc, hb, envelopes_forget]
    | push m =>
      -- the push of the call in flight is owed a call exactly when the inbox takes it
      simp only [World.hookStep, notifyOwed, hc, hb, envelopes_enqueue, setBody_log,
        setBody_inbox]
      cases w.inbox.push ⟨c.id, m⟩ <;> simp
    | free | done => simp [World.hookStep, notifyOwed, hc, hb]

theorem envelopes_receive : envelopes w.receive.log = envelopes w.log := by
  unfold World.receive
  split
  · simp [envelopes_concat, Note.envelope?]
  · rfl

/-- A step's pushes that the inbox takes are the envelope of the call it leaves owed: `add` and
`close` never see their push refused, and a hook call owes its call exactly when its push is
taken. -/
theorem Good.envelopes_step (h : Good w) (a : Act) :
    envelopes (w.step a).log = envelopes w.log ++ ((w.notifyOwed a).map Prod.snd).toList := by
  cases a with
  | add j u s =>
    -- only an idle caller starts an `add`
    cases hj : w.callers j <;>
      simp only [World.step, World.ifIdle, notifyOwed, hj, Option.map_none, Option.toList_none,
        List.append_nil]
    rw [h.envelopes_add]
    split <;> simp
  | send j m ids =>
    simp only [World.step, World.ifIdle, notifyOwed]
    split
    · unfold World.send
      split
      · simp [envelopes_concat, Note.envelope?]
      · split
        · simp [envelopes_concat, Note.envelope?]
        · simp
    · simp
  | disconnect j u =>
    simp only [World.step, World.ifIdle, notifyOwed]
    split
    · unfold World.disconnect
      split
      · simp [envelopes_concat, Note.envelope?]
      · simp
    · simp
  | disconnectAll j order =>
    simp only [World.step, World.ifIdle, notifyOwed]
    split <;> simp [World.disconnectAll]
  | close j order | dispose j order =>
    cases hj : w.callers j <;>
      simp only [World.step, World.ifIdle, notifyOwed, hj, Option.map_none, Option.toList_none,
        List.append_nil]
    rw [h.envelopes_close]
    split <;> simp
  | run j => simp [World.step, notifyOwed, envelopes_runCaller]
  | chan k a => simp [World.step, notifyOwed, envelopes_chanStep]
  | hook k => simp only [World.step]; exact envelopes_hookStep k
  | receive => simp [World.step, notifyOwed, envelopes_receive]

end Envelopes

namespace Notifying

/-- What every run keeps: the server's invariant, and the calls made and the calls owed are, one
for one, the envelopes the inbox took. -/
structure Good (x : Notifying) : Prop where
  world : Serving.Good x.world
  calls : List.Perm (x.calls ++ x.owed.map Prod.snd) (envelopes x.world.log)

theorem Good.fresh (r : Registry) : Good (fresh r) :=
  ⟨Serving.Good.fresh r, by simp [Notifying.fresh, World.fresh, envelopes]⟩

theorem Good.step {x : Notifying} (h : Good x) (a : NotifyAct) : Good (x.step a) := by
  cases a with
  | act a =>
    -- a step of the threads owes one more call exactly when the inbox takes one more envelope
    refine ⟨h.world.step a, ?_⟩
    have hsnd : ((x.world.notifyOwed a).toList).map Prod.snd =
        ((x.world.notifyOwed a).map Prod.snd).toList := by
      cases x.world.notifyOwed a <;> rfl
    simp only [Notifying.step, List.map_append, ← List.append_assoc, h.world.envelopes_step a, hsnd]
    exact h.calls.append_right _
  | notify n =>
    -- a call of the hook moves one owed call to the calls made
    simp only [Notifying.step]
    split
    · next p hp =>
      have hmem : p ∈ x.owed := List.mem_of_find?_eq_some hp
      have howed : List.Perm (x.owed.map Prod.snd) (p.2 :: (x.owed.erase p).map Prod.snd) :=
        ((List.perm_cons_erase hmem).map Prod.snd).trans (by simp)
      refine ⟨h.world, ?_⟩
      refine List.Perm.trans ?_ h.calls
      rw [List.append_assoc]
      exact (List.perm_append_left_iff _).mpr howed.symm
    · exact h

theorem Good.run {x : Notifying} (h : Good x) (acts : List NotifyAct) : Good (x.run acts) := by
  induction acts generalizing x with
  | nil => exact h
  | cons a acts ih => exact ih (h.step a)

end Notifying

end Serving

namespace Receiving

def Body.owesNotify : Body → Bool
  | .signal | .notify => true
  | .free | .push _ | .done => false

namespace World

/-- The notify hook ran once for each message the inbox took, but for the one that the call in
flight still owes. -/
def NotifiesPushed (w : World) : Prop :=
  w.notified + w.body.owesNotify.toNat = (Queue.pushed w.inbox.log).length

theorem notifiesPushed_fresh (r : Registry) : (fresh r).NotifiesPushed := rfl

namespace NotifiesPushed

variable {w : World}

theorem keep (h : w.NotifiesPushed) {w' : World} (hn : w'.notified = w.notified)
    (hb : w'.body.owesNotify = w.body.owesNotify)
    (hp : Queue.pushed w'.inbox.log = Queue.pushed w.inbox.log) : w'.NotifiesPushed := by
  unfold NotifiesPushed at h ⊢
  rw [hn, hb, hp]
  exact h

theorem setChan (h : w.NotifiesPushed) (ch : Threads.World) : (w.setChan ch).NotifiesPushed := h

theorem setDoing (h : w.NotifiesPushed) (j : Nat) (d : Doing) : (w.setDoing j d).NotifiesPushed := h

theorem ifFree (h : w.NotifiesPushed) {w' : World} (h' : w'.NotifiesPushed) (j : Nat) :
    (w.ifFree j w').NotifiesPushed := by
  unfold World.ifFree
  split
  · exact h'
  · exact h

theorem queueStep (h : w.NotifiesPushed) {a : Queue.Act Message} (ha : a.reads = true) :
    (w.setInbox (w.inbox.step a)).NotifiesPushed :=
  h.keep rfl rfl (w.inbox.reads_step ha).1

theorem runCaller (h : w.NotifiesPushed) (j : Nat) : (w.runCaller j).NotifiesPushed := by
  unfold World.runCaller
  split
  · have hclose : (w.setInbox (w.inbox.close (j + 1))).NotifiesPushed :=
      h.keep rfl rfl (w.inbox.close_log (j + 1)).1
    exact hclose.setDoing j .idle
  · exact h

theorem hookStep (h : w.NotifiesPushed) : w.hookStep.NotifiesPushed := by
  unfold NotifiesPushed at h ⊢
  cases hb : w.body with
  | push m =>
    rcases w.inbox.push_log 0 m with ⟨q, hq, hlog⟩ | ⟨hq, hlog⟩
    · -- the inbox took the push: one message more, and a call owed for it
      simp only [World.hookStep, hb, hq, setBody_notified, setInbox_notified, setBody_body,
        setBody_inbox, setInbox_inbox, hlog, Queue.pushed_concat, Queue.Event.pushed?]
      simp [hb, Body.owesNotify] at h ⊢
      omega
    · simp only [World.hookStep, hb, hq, setBody_notified, setInbox_notified, setBody_body,
        setBody_inbox, setInbox_inbox, hlog, Queue.pushed_concat, Queue.Event.pushed?]
      simpa [hb, Body.owesNotify] using h
  | signal =>
    simp only [World.hookStep, hb, setBody_notified, setInbox_notified, setBody_body,
      setBody_inbox, setInbox_inbox, Queue.World.signal, Queue.World.setCaller_log,
      Queue.World.setToken_log]
    simpa [hb, Body.owesNotify] using h
  | notify =>
    simp only [World.hookStep, hb, notifyDone_notified, notifyDone_body, notifyDone_inbox]
    simp [hb, Body.owesNotify] at h ⊢
    omega
  | free | done => simpa [World.hookStep, hb] using h

end NotifiesPushed

end World

namespace Good

variable {r : Registry} {w : World}

theorem notifiesPushed_advance (h : Good r w) (hn : w.NotifiesPushed) (a : Threads.Act) :
    (w.advance a).NotifiesPushed := by
  have hh := hooks_step w.chan a
  dsimp only [World.advance]
  generalize Serving.hookMoves w.chan (w.chan.step a) = mv at hh ⊢
  match mv, hh with
  | [], _ => exact hn.setChan _
  | [.enter d], hh =>
    -- a hook call starts only when none is in flight, so the stage it replaces owed nothing
    obtain ⟨hnone, -, -⟩ := enter_step (h.inv.step a) hh
    have hfree : w.body = .free := h.free_iff.mpr hnone
    exact hn.keep rfl (by simp [hfree, Body.owesNotify]) rfl
  | [.leave d], _ =>
    show (if w.body = .done then (w.setChan (w.chan.step a)).setBody .free else w).NotifiesPushed
    split
    · next hdone => exact hn.keep rfl (by simp [hdone, Body.owesNotify]) rfl
    · exact hn
  | .enter _ :: _ :: _, _ | .leave _ :: _ :: _, _ => exact hn

theorem notifiesPushed_step (h : Good r w) (hn : w.NotifiesPushed) (a : Act) :
    (w.step a).NotifiesPushed := by
  cases a with
  | send j m | close j => exact hn.ifFree (hn.setChan _) j
  | dispose j => exact hn.ifFree ((hn.setChan _).setDoing j .disposing) j
  | receive j | hasData j => exact hn.ifFree (hn.queueStep rfl) j
  | run j => exact hn.runCaller j
  | popStep j | wake j how => exact hn.queueStep rfl
  | chan a =>
    simp only [World.step]
    split
    · exact hn
    · exact hn
    · exact h.notifiesPushed_advance hn a
  | hook => exact hn.hookStep

theorem notifiesPushed_run (h : Good r w) (hn : w.NotifiesPushed) (acts : List Act) :
    (w.run acts).NotifiesPushed := by
  -- the client's invariant is carried along, for the channel steps that start a hook call
  induction acts generalizing w with
  | nil => exact hn
  | cons a acts ih => exact ih (h.step a) (h.notifiesPushed_step hn a)

end Good

end Receiving

/-- Under every interleaving of their threads, the notify hook runs once for each envelope or
message the inbox took, after its push, and for nothing else. On a server, the calls made and the
calls still owed are, one for one, the envelopes the inbox took, so no call follows a push that
the inbox refused. On a client, the calls made and the one the hook call in flight may still owe
are as many as the messages the inbox took. -/
theorem notify_once (r : Registry) :
    (∀ acts : List Serving.NotifyAct,
      let x := (Serving.Notifying.fresh r).run acts
      List.Perm (x.calls ++ x.owed.map Prod.snd) (Serving.envelopes x.world.log)) ∧
    (∀ acts : List Receiving.Act,
      let w := (Receiving.World.fresh r).run acts
      w.notified + w.body.owesNotify.toNat = (Queue.pushed w.inbox.log).length) :=
  ⟨fun acts => ((Serving.Notifying.Good.fresh r).run acts).calls,
    fun acts =>
      (Receiving.Good.fresh r).notifiesPushed_run (Receiving.World.notifiesPushed_fresh r) acts⟩

end FramedLink.Threads
