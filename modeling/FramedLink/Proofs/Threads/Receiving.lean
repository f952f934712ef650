import FramedLink.Proofs.Threads.Queue
import FramedLink.Proofs.Threads.Serving
import FramedLink.Client

namespace FramedLink.Threads.Receiving

/-- The client's side of a call of its channel's delivery hook. -/
inductive Body where
  | free
  | push (m : Message)
  | signal
  | notify
  | done
deriving DecidableEq, Repr

/-- What a caller of the client is doing besides its calls on the channel and on the inbox. -/
inductive Doing where
  | idle
  | disposing
deriving DecidableEq, Repr

/-- What can happen next. -/
inductive Act where
  | send (j : Nat) (m : Option Message)
  | close (j : Nat)
  | dispose (j : Nat)
  | receive (j : Nat)
  | hasData (j : Nat)
  | run (j : Nat)
  | popStep (j : Nat)
  | wake (j : Nat) (how : Queue.Wake)
  | chan (a : Threads.Act)
  | hook

/-- A client while its threads run. -/
structure World where
  chan : Threads.World
  inbox : Queue.World Message
  body : Body
  callers : Nat → Doing
  notified : Nat

namespace World

def fresh (r : Registry) : World :=
  ⟨Threads.World.fresh r, Queue.World.fresh, .free, fun _ => .idle, 0⟩

@[simps] def setChan (w : World) (ch : Threads.World) : World := { w with chan := ch }

@[simps] def setInbox (w : World) (q : Queue.World Message) : World := { w with inbox := q }

@[simps] def setBody (w : World) (b : Body) : World := { w with body := b }

@[simps] def setDoing (w : World) (j : Nat) (d : Doing) : World :=
  { w with callers := Function.update w.callers j d }

/-- The notify hook runs once and the hook call is done. -/
@[simps] def notifyDone (w : World) : World := { w with notified := w.notified + 1, body := .done }

/-- Whether caller `j` is in no operation: not disposing, not in a call on the channel and not in
a call on the inbox. -/
def free (w : World) (j : Nat) : Bool :=
  match w.callers j, w.chan.callers j, w.inbox.callers (j + 1) with
  | .idle, .idle, .idle => true
  | _, _, _ => false

def ifFree (w : World) (j : Nat) (w' : World) : World := if w.free j then w' else w

/-- A step of the channel's threads or of its stream. A step that calls the hook starts the
client's side of the call; a step that returns from it is not possible until that side is
done. -/
def advance (w : World) (a : Threads.Act) : World :=
  let ch := w.chan.step a
  match Serving.hookMoves w.chan ch with
  | [] => w.setChan ch
  | [.enter d] => (w.setChan ch).setBody (.push (Client.received d))
  | [.leave _] => if w.body = .done then (w.setChan ch).setBody .free else w
  -- no step moves two hook calls at once
  | _ => w

/-- A step of the client's side of the hook call: the push into the inbox, the push handing a
token on, and the notify hook. -/
def hookStep (w : World) : World :=
  match w.body with
  | .push m =>
    match w.inbox.inbox.push m with
    | some _ => (w.setInbox (w.inbox.push 0 m)).setBody .signal
    | none => (w.setInbox (w.inbox.push 0 m)).setBody .done
  | .signal => (w.setInbox (w.inbox.signal 0)).setBody .notify
  | .notify => w.notifyDone
  | .free | .done => w

/-- Caller `j`'s step in `dispose`: once its `close` of the channel has returned, it closes the
inbox. -/
def runCaller (w : World) (j : Nat) : World :=
  match w.callers j, w.chan.callers j with
  | .disposing, .idle => (w.setInbox (w.inbox.close (j + 1))).setDoing j .idle
  | _, _ => w

def stop : CallerAt := .stopping (.claim none)

def step (w : World) : Act → World
  | .send j m => w.ifFree j (w.setChan (w.chan.call j (.sending m)))
  | .close j => w.ifFree j (w.setChan (w.chan.call j stop))
  | .dispose j => w.ifFree j ((w.setChan (w.chan.call j stop)).setDoing j .disposing)
  | .receive j => w.ifFree j (w.setInbox (w.inbox.step (.call (j + 1) .pop)))
  | .hasData j => w.ifFree j (w.setInbox (w.inbox.step (.call (j + 1) .len)))
  | .run j => w.runCaller j
  | .popStep j => w.setInbox (w.inbox.step (.run (j + 1)))
  | .wake j how => w.setInbox (w.inbox.step (.wake (j + 1) how))
  | .chan a =>
    -- the channel's callers are the client's: no one else calls it
    match a with
    | .callClose _ | .callSend _ _ => w
    | _ => w.advance a
  | .hook => w.hookStep

def run (w : World) (acts : List Act) : World := acts.foldl step w

@[simp] theorem run_nil (w : World) : w.run [] = w := rfl

@[simp] theorem run_cons (w : World) (a : Act) (acts : List Act) :
    w.run (a :: acts) = (w.step a).run acts := rfl

theorem run_append (w : World) (acts acts' : List Act) :
    w.run (acts ++ acts') = (w.run acts).run acts' := List.foldl_append

end World
end FramedLink.Threads.Receiving
