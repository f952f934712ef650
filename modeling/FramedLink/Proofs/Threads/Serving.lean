import FramedLink.Proofs.Threads.Reader
import FramedLink.Server

namespace FramedLink.Threads

/-- How a call of a channel's caller returned. -/
inductive CallReturn where
  | send (r : Except Error Bytes)
  | close (r : Option Error)

def Event.returnOf (j : Nat) : Event → Option CallReturn
  | .pushed i _ f => if i = j then some (.send (.ok f)) else none
  | .sendFailed i e => if i = j then some (.send (.error e)) else none
  | .returned (.caller i) _ r => if i = j then some (.close r) else none
  | _ => none

def returnsOf (j : Nat) (l : List Event) : List CallReturn := l.filterMap (Event.returnOf j)

/-- The failure of a call's return as the server's caller gathers it: a `send`'s failure is
wrapped with the id `u` of the connection it was for. -/
def CallReturn.failure (u : ConnId) : CallReturn → Option Error
  | .send (.error e) => some (.atConnection u e)
  | .send (.ok _) => none
  | .close r => r

namespace Serving

/-- The server's side of a call of a connection's delivery hook. -/
inductive Body where
  | free
  | forget
  | push (m : Message)
  | done
deriving DecidableEq, Repr

def handed : Delivery → Message
  | .message m => m
  | .lost => .signal .clientLost

def Body.start (d : Delivery) : Body :=
  if handed d = .signal .clientLost then .forget else .push (handed d)

/-- A connection the server took on. -/
structure Conn where
  id : ConnId
  chan : Threads.World
  listed : Bool
  body : Body

def Conn.failureOf (c : Conn) (j : Nat) : Option Error :=
  (returnsOf j c.chan.log).getLast?.bind (CallReturn.failure c.id)

def hookMoves (w w' : Threads.World) : List Hook := (hooks w'.log).drop (hooks w.log).length

namespace Conn

/-- A step of the channel's threads or of its stream. A step that calls the hook starts the
server's side of the call; a step that returns from it is not possible until that side is
done. -/
def advance (c : Conn) (a : Act) : Conn :=
  let ch := c.chan.step a
  match hookMoves c.chan ch with
  | [] => { c with chan := ch }
  | [.enter d] => { c with chan := ch, body := Body.start d }
  | [.leave _] => if c.body = .done then { c with chan := ch, body := .free } else c
  -- no step moves two hook calls at once
  | _ => c

end Conn

/-- What a caller of the server is doing. -/
inductive Doing where
  | idle
  | calls (todo : List (Nat × CallerAt)) (dispose : Bool) (failed : List Error)
  | await (k : Nat) (todo : List (Nat × CallerAt)) (dispose : Bool) (failed : List Error)
  | disposing (failed : List Error)

/-- How `add` ended: the number of the new connection, or a failure, with whether it closed the
stream it was given. -/
inductive Added where
  | registered (k : Nat)
  | refused (e : Error) (streamClosed : Bool)
deriving Repr

/-- What the log records. -/
inductive Note where
  | add (j : Nat) (u : ConnId) (stream : Bool) (result : Added)
  | failed (j : Nat) (e : Error)
  | closing (j : Nat) (ks : List Nat)
  | pushed (e : Envelope) (k : Option Nat)
  | dropped (e : Envelope) (k : Option Nat)
  | forgot (k : Nat)
  | disposed (j : Nat)
  | returned (j : Nat) (r : Option Error)
  | received (e : Envelope)
deriving Repr

/-- What can happen next. -/
inductive Act where
  | add (j : Nat) (u : ConnId) (stream : Bool)
  | send (j : Nat) (m : Option Message) (ids : List ConnId)
  | disconnect (j : Nat) (u : ConnId)
  | disconnectAll (j : Nat) (order : List Nat)
  | close (j : Nat) (order : List Nat)
  | dispose (j : Nat) (order : List Nat)
  | run (j : Nat)
  | chan (k : Nat) (a : Threads.Act)
  | hook (k : Nat)
  | receive

/-- A server while its threads run. -/
structure World where
  registry : Registry
  closed : Bool
  conns : List Conn
  inbox : Inbox Envelope
  callers : Nat → Doing
  log : List Note

namespace World

def fresh (r : Registry) : World := ⟨r, false, [], Inbox.empty, fun _ => .idle, []⟩

@[simps] def note (w : World) (n : Note) : World := { w with log := w.log ++ [n] }

@[simps] def setDoing (w : World) (j : Nat) (d : Doing) : World :=
  { w with callers := Function.update w.callers j d }

@[simps] def setConn (w : World) (k : Nat) (c : Conn) : World := { w with conns := w.conns.set k c }

@[simps] def setInbox (w : World) (q : Inbox Envelope) : World := { w with inbox := q }

def listedAt (w : World) (k : Nat) : Bool := (w.conns[k]?.map Conn.listed).getD false

def table (w : World) : List Nat := (List.range w.conns.length).filter w.listedAt

def lookup (w : World) (u : ConnId) : Option Nat :=
  w.table.find? fun k => (w.conns[k]?.map Conn.id) == some u

def snapshot (w : World) (order : List Nat) : List Nat :=
  if order.isPerm w.table then order else w.table

def enqueue (w : World) (e : Envelope) (k : Option Nat) : World :=
  match w.inbox.push e with
  | some q => (w.setInbox q).note (.pushed e k)
  | none => w.note (.dropped e k)

theorem mem_table {w : World} {k : Nat} :
    k ∈ w.table ↔ ∃ c, w.conns[k]? = some c ∧ c.listed = true := by
  unfold table listedAt
  constructor
  · intro hk
    obtain ⟨hlt, hl⟩ := List.mem_filter.mp hk
    rw [List.getElem?_eq_getElem (List.mem_range.mp hlt)] at hl ⊢
    exact ⟨_, rfl, hl⟩
  · rintro ⟨c, hc, hl⟩
    refine List.mem_filter.mpr ⟨List.mem_range.mpr (List.getElem?_eq_some_iff.mp hc).1, ?_⟩
    simp [hc, hl]

theorem lookup_eq_some {w : World} {u : ConnId} {k : Nat} (h : w.lookup u = some k) :
    ∃ c, w.conns[k]? = some c ∧ c.listed = true ∧ c.id = u := by
  obtain ⟨c, hc, hl⟩ := mem_table.mp (List.mem_of_find?_eq_some h)
  have hid := List.find?_some h
  rw [hc] at hid
  simp only [Option.map_some, beq_iff_eq, Option.some.injEq] at hid
  exact ⟨c, hc, hl, hid⟩

theorem lookup_eq_none {w : World} {u : ConnId} (h : w.lookup u = none) {k : Nat} {c : Conn}
    (hc : w.conns[k]? = some c) (hl : c.listed = true) : c.id ≠ u := by
  intro hid
  have := List.find?_eq_none.mp h k (mem_table.mpr ⟨c, hc, hl⟩)
  simp [hc, hid] at this

theorem mem_snapshot {w : World} {order : List Nat} {k : Nat} :
    k ∈ w.snapshot order ↔ k ∈ w.table := by
  unfold snapshot
  split
  · next hp => exact (List.isPerm_iff.mp hp).mem_iff
  · rfl

theorem enqueue_of_push {w : World} {e : Envelope} {k : Option Nat} {q : Inbox Envelope}
    (h : w.inbox.push e = some q) : w.enqueue e k = (w.setInbox q).note (.pushed e k) := by
  simp [enqueue, h]

theorem enqueue_of_push_none {w : World} {e : Envelope} {k : Option Nat}
    (h : w.inbox.push e = none) : w.enqueue e k = w.note (.dropped e k) := by
  simp [enqueue, h]

def stop : CallerAt := .stopping (.claim none)

/-- `add`: refuses a missing stream and the nil id before taking the lock; under it, refuses
once closed (closing the stream) and an id in the table, or registers a new connection with a
started channel and pushes `joined` for it. -/
def add (w : World) (j : Nat) (u : ConnId) (stream : Bool) : World :=
  if !stream then w.note (.add j u stream (.refused .invalidStream false))
  else if u = ConnId.nil then w.note (.add j u stream (.refused .invalidConnectionId false))
  else if w.closed then w.note (.add j u stream (.refused .serverClosed true))
  else if (w.lookup u).isSome then
    w.note (.add j u stream (.refused (.duplicateConnection u) false))
  else
    let k := w.conns.length
    ({ w with conns := w.conns ++ [Conn.mk u (Threads.World.fresh w.registry) true .free] }.note
      (.add j u stream (.registered k))).enqueue ⟨u, .signal .joined⟩ (some k)

/-- `send`: encodes once, looks every id up under the lock, then queues the frame on each
target's channel in the order of `ids`. -/
def send (w : World) (j : Nat) (m : Option Message) (ids : List ConnId) : World :=
  match w.registry.encodeFrame m with
  | .error e => w.note (.failed j e)
  | .ok f =>
    match ids.find? fun u => (w.lookup u).isNone with
    | some u => w.note (.failed j (.unknownConnection u))
    | none =>
      w.setDoing j (.calls ((ids.filterMap w.lookup).map fun k => (k, .pushing m f)) false [])

def disconnect (w : World) (j : Nat) (u : ConnId) : World :=
  match w.lookup u with
  | none => w.note (.failed j (.unknownConnection u))
  | some k => w.setDoing j (.calls [(k, stop)] false [])

def disconnectAll (w : World) (j : Nat) (order : List Nat) : World :=
  w.setDoing j (.calls ((w.snapshot order).map fun k => (k, stop)) false [])

/-- `close`, and `dispose` when `dispose` is set: under the lock, once only, sets the flag, pushes
`shutdown` under the nil id and takes a snapshot of the table; then closes each channel, and
`dispose` closes the inbox after, whether or not this call closed the server. A `close` of a
closed server returns at once. -/
def close (w : World) (j : Nat) (order : List Nat) (dispose : Bool) : World :=
  if w.closed then (if dispose then w.setDoing j (.disposing []) else w.note (.returned j none))
  else
    let ks := w.snapshot order
    ((({ w with closed := true } : World).note (.closing j ks)).enqueue
      ⟨ConnId.nil, .signal .shutdown⟩ none).setDoing j
        (.calls (ks.map fun k => (k, stop)) dispose [])

/-- A caller's step outside the server's lock. A call that has returned adds its failure, if
any, to those gathered; the operation returns them all once its calls are made. -/
def runCaller (w : World) (j : Nat) : World :=
  match w.callers j with
  | .calls [] dispose failed =>
    if dispose then w.setDoing j (.disposing failed)
    else (w.note (.returned j (Error.gather failed))).setDoing j .idle
  | .calls ((k, s) :: todo) dispose failed =>
    match w.conns[k]? with
    | some c =>
      (w.setConn k { c with chan := c.chan.call j s }).setDoing j (.await k todo dispose failed)
    | none => w.setDoing j (.calls todo dispose failed)
  | .await k todo dispose failed =>
    match w.conns[k]? with
    | some c =>
      match c.chan.callers j with
      | .idle => w.setDoing j (.calls todo dispose (failed ++ (c.failureOf j).toList))
      | _ => w
    | none => w.setDoing j (.calls todo dispose failed)
  | .disposing failed =>
    (((w.setInbox w.inbox.dispose).note (.disposed j)).note
      (.returned j (Error.gather failed))).setDoing j .idle
  | .idle => w

def chanStep (w : World) (k : Nat) (a : Threads.Act) : World :=
  match a with
  | .callClose _ | .callSend _ _ => w
  | _ =>
    match w.conns[k]? with
    | some c => w.setConn k (c.advance a)
    | none => w

def forget (w : World) (k : Nat) : World :=
  match w.conns[k]? with
  | some c => if c.listed then (w.setConn k { c with listed := false }).note (.forgot k) else w
  | none => w

theorem forget_of_listed {w : World} {k : Nat} {c : Conn} (hc : w.conns[k]? = some c)
    (hl : c.listed = true) :
    w.forget k = (w.setConn k { c with listed := false }).note (.forgot k) := by
  simp [forget, hc, hl]

def setBody (w : World) (k : Nat) (b : Body) : World :=
  match w.conns[k]? with
  | some c => w.setConn k { c with body := b }
  | none => w

theorem setBody_of {w : World} {k : Nat} {c : Conn} (hc : w.conns[k]? = some c) (b : Body) :
    w.setBody k b = w.setConn k { c with body := b } := by
  simp [setBody, hc]

def hookStep (w : World) (k : Nat) : World :=
  match w.conns[k]? with
  | some c =>
    match c.body with
    | .forget => (w.forget k).setBody k (.push (.signal .clientLost))
    | .push m => (w.setBody k .done).enqueue ⟨c.id, m⟩ (some k)
    | .free | .done => w
  | none => w

def receive (w : World) : World :=
  match w.inbox.take with
  | .item e q => (w.setInbox q).note (.received e)
  | _ => w

def ifIdle (w : World) (j : Nat) (w' : World) : World :=
  match w.callers j with
  | .idle => w'
  | _ => w

def step (w : World) : Act → World
  | .add j u s => w.ifIdle j (w.add j u s)
  | .send j m ids => w.ifIdle j (w.send j m ids)
  | .disconnect j u => w.ifIdle j (w.disconnect j u)
  | .disconnectAll j order => w.ifIdle j (w.disconnectAll j order)
  | .close j order => w.ifIdle j (w.close j order false)
  | .dispose j order => w.ifIdle j (w.close j order true)
  | .run j => w.runCaller j
  | .chan k a => w.chanStep k a
  | .hook k => w.hookStep k
  | .receive => w.receive

def run (w : World) (acts : List Act) : World := acts.foldl step w

@[simp] theorem run_nil (w : World) : w.run [] = w := rfl

@[simp] theorem run_cons (w : World) (a : Act) (acts : List Act) :
    w.run (a :: acts) = (w.step a).run acts := rfl

end World

end Serving

end FramedLink.Threads
