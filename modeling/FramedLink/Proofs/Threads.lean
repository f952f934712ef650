import FramedLink.Channel
import Mathlib.Logic.Function.Basic
import Mathlib.Tactic.Simps.Basic

namespace FramedLink.Threads

/-- The threads of a channel. -/
inductive Tid where
  | reader
  | writer
  | caller (i : Nat)
deriving DecidableEq, Repr

/-- How a read ended besides the bytes it returned. -/
inductive ReadEnd where
  | more
  | eof
  | fault (e : Error)
deriving Repr

/-- What a write of a frame answered. -/
inductive WriteEnd where
  | ok
  | fault (sent : Nat) (e : Error)
deriving Repr

/-- Where a call of shutdown stands. -/
inductive Stop where
  | claim (cause : Option Error)
  | dropQueue
  | closeStream
  | awaitLock (r : Option Error)
  | deliverLost (r : Option Error)
deriving Repr

/-- Where the reader stands. `off` is how far the current buffer has been cut into frames and
`last` how the read that filled it ended. -/
inductive ReaderAt where
  | read
  | unframe (off : Nat) (last : ReadEnd)
  | awaitLock (off : Nat) (m : Message) (last : ReadEnd)
  | checkOpen (off : Nat) (m : Message) (last : ReadEnd)
  | delivering (off : Nat) (m : Message) (last : ReadEnd)
  | afterUnframe (last : ReadEnd)
  | stopping (s : Stop)
  | exited
deriving Repr

/-- Where the writer stands. -/
inductive WriterAt where
  | pop
  | writing (frame : Bytes)
  | stopping (s : Stop)
  | exited
deriving Repr

/-- Where a caller stands: outside the channel, in `send`, or in `close`. -/
inductive CallerAt where
  | idle
  | sending (m : Option Message)
  | pushing (m : Option Message) (frame : Bytes)
  | stopping (s : Stop)
deriving Repr

/-- A call of the owner's delivery hook starting or returning. -/
inductive Hook where
  | enter (d : Delivery)
  | leave (d : Delivery)
deriving DecidableEq, Repr

/-- What the log records. -/
inductive Event where
  | claimed (t : Tid) (cause : Option Error)
  | streamClosed (t : Tid) (r : Option Error)
  | hook (h : Hook)
  | returned (t : Tid) (won : Bool) (r : Option Error)
  | received (bytes : Bytes) (last : ReadEnd)
  | pushed (i : Nat) (m : Option Message) (frame : Bytes)
  | sendFailed (i : Nat) (e : Error)
  | popped (frame : Bytes)
  | wrote (bytes : Bytes)

/-- A channel while its threads run. -/
structure World where
  registry : Registry
  closed : Bool
  cause : Option Error
  deliverer : Option Tid
  queued : List Bytes
  queueClosed : Bool
  buffer : Bytes
  reader : ReaderAt
  writer : WriterAt
  callers : Nat → CallerAt
  log : List Event

/-- What can happen next: a thread's own step, or a call on the stream returning. -/
inductive Act where
  | run (t : Tid)
  | read (bytes : Bytes) (last : ReadEnd)
  | write (ans : WriteEnd)
  | closeStream (t : Tid) (r : Option Error)
  | callClose (i : Nat)
  | callSend (i : Nat) (m : Option Message)

def ReaderAt.stage : ReaderAt → Option Stop
  | .stopping s => some s
  | _ => none

def WriterAt.stage : WriterAt → Option Stop
  | .stopping s => some s
  | _ => none

def CallerAt.stage : CallerAt → Option Stop
  | .stopping s => some s
  | _ => none

namespace World

def fresh (registry : Registry) : World where
  registry
  closed := false
  cause := none
  deliverer := none
  queued := []
  queueClosed := false
  buffer := []
  reader := .read
  writer := .pop
  callers := fun _ => .idle
  log := []

/-- Adds an event to the log. -/
@[simps] def emit (w : World) (e : Event) : World := { w with log := w.log ++ [e] }

@[simps] def setReader (w : World) (r : ReaderAt) : World := { w with reader := r }

@[simps] def setWriter (w : World) (x : WriterAt) : World := { w with writer := x }

@[simps] def setCaller (w : World) (i : Nat) (c : CallerAt) : World :=
  { w with callers := Function.update w.callers i c }

/-- The close lock's section that closes the channel: the flag and its cause together. -/
@[simps] def closeWith (w : World) (cause : Option Error) : World := { w with closed := true, cause }

/-- The outbound queue's close: later pushes fail, the writer's pop ends, queued frames go. -/
@[simps] def dropQueue (w : World) : World := { w with queueClosed := true, queued := [] }

/-- `t` takes the deliver lock. -/
@[simps] def lock (w : World) (t : Tid) : World := { w with deliverer := some t }

/-- The deliver lock is released. -/
@[simps] def unlock (w : World) : World := { w with deliverer := none }

@[simps] def setBuffer (w : World) (b : Bytes) : World := { w with buffer := b }

@[simps] def enqueue (w : World) (f : Bytes) : World := { w with queued := w.queued ++ [f] }

/-- Takes the oldest frame off the queue. -/
@[simps] def dequeue (w : World) : World := { w with queued := w.queued.tail }

def stage (w : World) : Tid → Option Stop
  | .reader => w.reader.stage
  | .writer => w.writer.stage
  | .caller i => (w.callers i).stage

def setStage (w : World) (s : Stop) : Tid → World
  | .reader => w.setReader (.stopping s)
  | .writer => w.setWriter (.stopping s)
  | .caller i => w.setCaller i (.stopping s)

def finish (w : World) (t : Tid) (won : Bool) (r : Option Error) : World :=
  let w := w.emit (.returned t won r)
  match t with
  | .reader => w.setReader .exited
  | .writer => w.setWriter .exited
  | .caller i => w.setCaller i .idle

/-- One step of `t`'s call of shutdown. Only the first call closes the channel; it then discards
the queue, closes the stream and delivers `lost` under the deliver lock. -/
def stopStep (w : World) (t : Tid) : Stop → World
  | .claim cause =>
    if w.closed then w.finish t false none
    else ((w.closeWith cause).emit (.claimed t cause)).setStage .dropQueue t
  | .dropQueue => w.dropQueue.setStage .closeStream t
  | .closeStream => w
  | .awaitLock r =>
    match w.deliverer with
    | none => ((w.lock t).emit (.hook (.enter .lost))).setStage (.deliverLost r) t
    | some _ => w
  | .deliverLost r => (w.unlock.emit (.hook (.leave .lost))).finish t true r

section Stages

variable (w : World)

@[simp] theorem stage_emit (e : Event) (t : Tid) : (w.emit e).stage t = w.stage t := by
  cases t <;> rfl
@[simp] theorem stage_closeWith (c : Option Error) (t : Tid) : (w.closeWith c).stage t = w.stage t := by
  cases t <;> rfl
@[simp] theorem stage_dropQueue (t : Tid) : w.dropQueue.stage t = w.stage t := by
  cases t <;> rfl
@[simp] theorem stage_lock (t' t : Tid) : (w.lock t').stage t = w.stage t := by
  cases t <;> rfl
@[simp] theorem stage_unlock (t : Tid) : w.unlock.stage t = w.stage t := by
  cases t <;> rfl
@[simp] theorem stage_setBuffer (b : Bytes) (t : Tid) : (w.setBuffer b).stage t = w.stage t := by
  cases t <;> rfl
@[simp] theorem stage_enqueue (f : Bytes) (t : Tid) : (w.enqueue f).stage t = w.stage t := by
  cases t <;> rfl
@[simp] theorem stage_dequeue (t : Tid) : w.dequeue.stage t = w.stage t := by
  cases t <;> rfl

theorem stage_setReader (r : ReaderAt) (t : Tid) :
    (w.setReader r).stage t = if t = .reader then r.stage else w.stage t := by
  cases t <;> rfl

theorem stage_setWriter (x : WriterAt) (t : Tid) :
    (w.setWriter x).stage t = if t = .writer then x.stage else w.stage t := by
  cases t <;> rfl

theorem stage_setCaller (i : Nat) (c : CallerAt) (t : Tid) :
    (w.setCaller i c).stage t = if t = .caller i then c.stage else w.stage t := by
  cases t with
  | reader | writer => rfl
  | caller j =>
    by_cases h : j = i
    · subst h
      simp [stage]
    · simp [stage, h]

theorem stage_setStage (s : Stop) (t t' : Tid) :
    (w.setStage s t).stage t' = if t' = t then some s else w.stage t' := by
  cases t with
  | reader => rw [setStage, stage_setReader]; rfl
  | writer => rw [setStage, stage_setWriter]; rfl
  | caller i => rw [setStage, stage_setCaller]; rfl

theorem stage_finish (t : Tid) (won : Bool) (r : Option Error) (t' : Tid) :
    (w.finish t won r).stage t' = if t' = t then none else w.stage t' := by
  cases t with
  | reader => simp only [finish, stage_setReader, stage_emit]; rfl
  | writer => simp only [finish, stage_setWriter, stage_emit]; rfl
  | caller i => simp only [finish, stage_setCaller, stage_emit]; rfl

variable (s : Stop) (t : Tid) (won : Bool) (r : Option Error)

@[simp] theorem setStage_log : (w.setStage s t).log = w.log := by cases t <;> rfl
@[simp] theorem setStage_closed : (w.setStage s t).closed = w.closed := by cases t <;> rfl
@[simp] theorem setStage_cause : (w.setStage s t).cause = w.cause := by cases t <;> rfl
@[simp] theorem setStage_deliverer : (w.setStage s t).deliverer = w.deliverer := by cases t <;> rfl
@[simp] theorem setStage_queued : (w.setStage s t).queued = w.queued := by cases t <;> rfl
@[simp] theorem setStage_queueClosed : (w.setStage s t).queueClosed = w.queueClosed := by
  cases t <;> rfl
@[simp] theorem setStage_buffer : (w.setStage s t).buffer = w.buffer := by cases t <;> rfl
@[simp] theorem setStage_registry : (w.setStage s t).registry = w.registry := by cases t <;> rfl

theorem setStage_reader : (w.setStage s t).reader = if t = .reader then .stopping s else w.reader := by
  cases t <;> rfl
theorem setStage_writer : (w.setStage s t).writer = if t = .writer then .stopping s else w.writer := by
  cases t <;> rfl

@[simp] theorem finish_log : (w.finish t won r).log = w.log ++ [.returned t won r] := by
  cases t <;> rfl
@[simp] theorem finish_closed : (w.finish t won r).closed = w.closed := by cases t <;> rfl
@[simp] theorem finish_cause : (w.finish t won r).cause = w.cause := by cases t <;> rfl
@[simp] theorem finish_deliverer : (w.finish t won r).deliverer = w.deliverer := by cases t <;> rfl
@[simp] theorem finish_queued : (w.finish t won r).queued = w.queued := by cases t <;> rfl
@[simp] theorem finish_queueClosed : (w.finish t won r).queueClosed = w.queueClosed := by
  cases t <;> rfl
@[simp] theorem finish_buffer : (w.finish t won r).buffer = w.buffer := by cases t <;> rfl
@[simp] theorem finish_registry : (w.finish t won r).registry = w.registry := by cases t <;> rfl

theorem finish_reader : (w.finish t won r).reader = if t = .reader then .exited else w.reader := by
  cases t <;> rfl
theorem finish_writer : (w.finish t won r).writer = if t = .writer then .exited else w.writer := by
  cases t <;> rfl

end Stages

def readerStep (w : World) : World :=
  match w.reader with
  | .unframe off last =>
    match Frame.decode? (w.buffer.drop off) with
    | none => (w.setBuffer (w.buffer.drop off)).setReader (.afterUnframe last)
    | some (payload, n) =>
      match w.registry.unmarshal payload with
      | .error e => w.setReader (.stopping (.claim (some e)))
      | .ok m => w.setReader (.awaitLock (off + n) m last)
  | .awaitLock off m last =>
    match w.deliverer with
    | none => (w.lock .reader).setReader (.checkOpen off m last)
    | some _ => w
  | .checkOpen off m last =>
    -- a closed channel delivers nothing more; the frames left in the buffer are dropped
    if w.closed then w.unlock.setReader (.afterUnframe last)
    else (w.setReader (.delivering off m last)).emit (.hook (.enter (.message m)))
  | .delivering off m last =>
    (w.unlock.setReader (.unframe off last)).emit (.hook (.leave (.message m)))
  | .afterUnframe last =>
    match last with
    | .eof => w.setReader (.stopping (.claim none))
    | .fault e => w.setReader (.stopping (.claim (some e)))
    | .more => w.setReader (if w.closed then .exited else .read)
  | .stopping s => w.stopStep .reader s
  | .read | .exited => w

def readerRead (w : World) (bytes : Bytes) (last : ReadEnd) : World :=
  match w.reader with
  | .read =>
    if bytes.length + w.buffer.length ≤ Frame.bufferSize then
      let w := w.emit (.received bytes last)
      if bytes.isEmpty then w.setReader (.afterUnframe last)
      else (w.setBuffer (w.buffer ++ bytes)).setReader (.unframe 0 last)
    else w
  | _ => w

/-- The writer's step when it waits on nothing outside: it takes the oldest queued frame, or
ends once the queue is closed. -/
def writerStep (w : World) : World :=
  match w.writer with
  | .pop =>
    if w.queueClosed then w.setWriter .exited
    else
      match w.queued with
      | [] => w
      | f :: _ => (w.dequeue.setWriter (.writing f)).emit (.popped f)
  | .stopping s => w.stopStep .writer s
  | .writing _ | .exited => w

def writerWrite (w : World) (ans : WriteEnd) : World :=
  match w.writer with
  | .writing f =>
    match ans with
    | .ok => (w.setWriter .pop).emit (.wrote f)
    | .fault sent e => (w.setWriter (.stopping (.claim (some e)))).emit (.wrote (f.take sent))
  | _ => w

/-- A caller's step. `send` checks that the channel is open and encodes before it queues, and
its queueing fails if the queue was closed meanwhile. -/
def callerStep (w : World) (i : Nat) : World :=
  match w.callers i with
  | .sending m =>
    if w.closed then (w.emit (.sendFailed i .connectionClosed)).setCaller i .idle
    else
      match w.registry.encodeFrame m with
      | .error e => (w.emit (.sendFailed i e)).setCaller i .idle
      | .ok f => w.setCaller i (.pushing m f)
  | .pushing m f =>
    if w.queueClosed then (w.emit (.sendFailed i .connectionClosed)).setCaller i .idle
    else ((w.enqueue f).emit (.pushed i m f)).setCaller i .idle
  | .stopping s => w.stopStep (.caller i) s
  | .idle => w

def streamClose (w : World) (t : Tid) (r : Option Error) : World :=
  match w.stage t with
  | some .closeStream => (w.emit (.streamClosed t r)).setStage (.awaitLock r) t
  | _ => w

def call (w : World) (i : Nat) (c : CallerAt) : World :=
  match w.callers i with
  | .idle => w.setCaller i c
  | _ => w

def step (w : World) : Act → World
  | .run .reader => w.readerStep
  | .run .writer => w.writerStep
  | .run (.caller i) => w.callerStep i
  | .read bytes last => w.readerRead bytes last
  | .write ans => w.writerWrite ans
  | .closeStream t r => w.streamClose t r
  | .callClose i => w.call i (.stopping (.claim none))
  | .callSend i m => w.call i (.sending m)

def run (w : World) (acts : List Act) : World := acts.foldl step w

@[simp] theorem run_nil (w : World) : w.run [] = w := rfl

@[simp] theorem run_cons (w : World) (a : Act) (acts : List Act) :
    w.run (a :: acts) = (w.step a).run acts := rfl

theorem run_append (w : World) (acts acts' : List Act) :
    w.run (acts ++ acts') = (w.run acts).run acts' := List.foldl_append

/-- `w'` has `w`'s registry and extends its log. -/
structure Grows (w w' : World) : Prop where
  registry_eq : w'.registry = w.registry
  log_extends : w.log <+: w'.log

@[simp] theorem grows_iff {w w' : World} :
    Grows w w' ↔ w'.registry = w.registry ∧ w.log <+: w'.log :=
  ⟨fun h => ⟨h.1, h.2⟩, fun h => ⟨h.1, h.2⟩⟩

theorem Grows.trans {w w' w'' : World} (h : Grows w w') (h' : Grows w' w'') : Grows w w'' :=
  ⟨h'.1.trans h.1, h.2.trans h'.2⟩

theorem grows_stopStep (w : World) (t : Tid) (s : Stop) : Grows w (w.stopStep t s) := by
  cases s with
  | claim c =>
    simp only [stopStep]
    split <;> simp
  | awaitLock r =>
    simp only [stopStep]
    split <;> simp
  | dropQueue | closeStream | deliverLost r => simp [stopStep]

theorem grows_readerStep (w : World) : Grows w w.readerStep := by
  unfold readerStep
  split
  · split
    · simp
    · split <;> simp
  · split <;> simp
  · split <;> simp
  · simp
  · split <;> simp
  · exact grows_stopStep _ _ _
  all_goals simp

theorem grows_writerStep (w : World) : Grows w w.writerStep := by
  unfold writerStep
  split
  · split
    · simp
    · split <;> simp
  · exact grows_stopStep _ _ _
  all_goals simp

theorem grows_callerStep (w : World) (i : Nat) : Grows w (w.callerStep i) := by
  unfold callerStep
  split
  · split
    · simp
    · split <;> simp
  · split <;> simp
  · exact grows_stopStep _ _ _
  · simp

theorem grows_step (w : World) (a : Act) : Grows w (w.step a) := by
  cases a with
  | run t =>
    cases t with
    | reader => exact grows_readerStep w
    | writer => exact grows_writerStep w
    | caller i => exact grows_callerStep w i
  | read bytes last =>
    simp only [step, readerRead]
    split
    · split
      · split <;> simp
      · simp
    · simp
  | write ans =>
    simp only [step, writerWrite]
    split
    · split <;> simp
    · simp
  | closeStream t r =>
    simp only [step, streamClose]
    split <;> simp
  | callClose i | callSend i m =>
    simp only [step, call]
    split <;> simp

theorem grows_run (w : World) (acts : List Act) : Grows w (w.run acts) := by
  induction acts generalizing w with
  | nil => simp
  | cons a acts ih => exact (grows_step w a).trans (ih _)

theorem registry_run (r : Registry) (acts : List Act) : ((fresh r).run acts).registry = r :=
  (grows_run _ acts).registry_eq

end World
end FramedLink.Threads
