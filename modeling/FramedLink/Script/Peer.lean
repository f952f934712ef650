import FramedLink.Pipe
import FramedLink.Echo

namespace FramedLink.Script

/-- How a pipe is made. -/
structure PipeOptions where
  chunk : Nat
  deadlines : Bool
  closeFault : Option String
deriving Repr

/-- A fresh pipe with these options. -/
def PipeOptions.pipe (o : PipeOptions) : Pipe := Pipe.fresh o.chunk o.deadlines o.closeFault

/-- What the peer does to its end of a pipe. -/
inductive PeerAct where
  | write (bytes : Bytes) (endInput : Bool)
  | finish
  | failReads (text : String)
  | failWrites (text : String)
deriving Repr

/-- The pipe after the peer's act. -/
def PeerAct.apply : PeerAct → Pipe → Pipe
  | .write bytes e, p => p.feed bytes e
  | .finish, p => { p with ended := true }
  | .failReads t, p => { p with readFault := some t }
  | .failWrites t, p => { p with writeFault := some t }

/-- What the peer can see of a pipe. -/
structure PipeStats where
  closed : Bool
  closes : Nat
  writes : Nat
  deadlineCalls : Nat
  unreadIn : Nat
  unreadOut : Nat
deriving Repr

/-- What the peer sees of a pipe. -/
def stats (p : Pipe) : PipeStats :=
  ⟨p.closed, p.closes, p.writes, p.deadlineCalls, p.incoming.length, p.outgoing.length⟩

/-- What a step answers. -/
inductive Reply where
  | ok
  | failed (e : Error)
  | bytes (b : Bytes)
  | stats (s : PipeStats)
  | count (n : Nat)
  | message (m : Option Message)
  | envelope (e : Envelope)
  | result (e : Option Error)
  | flag (b : Bool)
  | cause (e : Option Error)
  | delivered (ms : List (Option Message))
  | ids (ids : List ConnId)
  | drained (items : List Envelope) (last : Error)
  | replyFailed (e : Echo.ReplyError)
  | noStream (name : String)
  | hang

/-- A step's reply with the lines logged while it ran, sorted. -/
structure Answer where
  reply : Reply
  log : List String

/-- Log lines as reported: written out and sorted. -/
def report (log : List LogLine) : List String :=
  (log.map LogLine.render).mergeSort fun a b => decide (a ≤ b)

/-- Runs steps in order until one hangs, collecting the answers. -/
def runSteps {σ α : Type} (step : σ → α → σ × Reply × List LogLine) (s : σ) :
    List α → List Answer
  | [] => []
  | a :: as =>
    let (s, reply, log) := step s a
    let answer : Answer := ⟨reply, report log⟩
    match reply with
    | .hang => [answer]
    | _ => answer :: runSteps step s as

end FramedLink.Script
