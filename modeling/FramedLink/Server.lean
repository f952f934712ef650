import FramedLink.Channel
import FramedLink.Inbox

namespace FramedLink

/-- A message with the connection it came from; the nil id for the server's own signals. -/
structure Envelope where
  id : ConnId
  message : Message
deriving DecidableEq, Repr

/-- A connection the server took on. -/
structure Connection where
  id : ConnId
  channel : Channel

/-- A server endpoint. -/
structure Server where
  registry : Registry
  writeTimeout : Duration
  conns : List Connection
  closed : Bool
  inbox : Inbox Envelope
  notified : Nat

/-- What became of a pipe offered to the server. -/
inductive Admission where
  | accepted
  | refused (e : Error) (pipe : Option Pipe)

namespace Server

/-- A server with an empty table; a missing registry is refused. -/
def start (registry : Option Registry) (writeTimeout : Duration) : Except Error Server :=
  match registry with
  | none => .error .invalidRegistry
  | some r =>
    .ok ⟨r, if writeTimeout.nanos < 0 then 0 else writeTimeout, [], false, Inbox.empty, 0⟩

/-- The position of the open connection with this id. -/
def live (s : Server) (id : ConnId) : Option Nat :=
  s.conns.findIdx? fun c => c.id == id && !c.channel.closed

/-- The ids in the table, in byte order. -/
def connections (s : Server) : List ConnId :=
  ((s.conns.filter fun c => !c.channel.closed).map (·.id)).mergeSort ConnId.le

/-- Pushes an envelope, running the notify hook when the inbox takes it. -/
def enqueue (s : Server) (e : Envelope) : Server :=
  match s.inbox.push e with
  | some q => { s with inbox := q, notified := s.notified + 1 }
  | none => s

/-- Turns the deliveries of connection `id` into envelopes. -/
def accept (s : Server) (id : ConnId) : List Delivery → Server
  | [] => s
  | .message m :: ds => (s.enqueue ⟨id, m⟩).accept id ds
  | .lost :: ds => (s.enqueue ⟨id, .signal .clientLost⟩).accept id ds

/-- Runs a channel operation on the connection at position `i`. -/
def onConn (s : Server) (i : Nat) (f : Channel → Channel × Trace) : Server × List LogLine :=
  match s.conns[i]? with
  | none => (s, [])
  | some conn =>
    let (c, t) := f conn.channel
    let s := { s with conns := s.conns.set i { conn with channel := c } }
    (s.accept conn.id t.delivered, t.log)

/-- Runs a channel operation on each of the given positions, in order. -/
def onConns (s : Server) (f : Channel → Channel × Trace) : List Nat → Server × List LogLine
  | [] => (s, [])
  | i :: is =>
    let (s, log) := s.onConn i f
    let (s, more) := s.onConns f is
    (s, log ++ more)

/-- Lets every channel run until it settles. -/
def settle (s : Server) : Server × List LogLine := s.onConns Channel.settle (List.range s.conns.length)

/-- Offers the server a pipe under an id. Refuses, in this order, a missing pipe, the nil id,
a closed server (closing the pipe) and an id already in the table (leaving the pipe alone). -/
def add (s : Server) (id : ConnId) (pipe : Option Pipe) : Server × List LogLine × Admission :=
  match pipe with
  | none => (s, [], .refused .invalidStream none)
  | some p =>
    if id = ConnId.nil then (s, [], .refused .invalidConnectionId (some p))
    else if s.closed then
      (s, [⟨.debug, "connection rejected, server closed", [("conn_id", id.text)]⟩],
        .refused .serverClosed (some p.close.1))
    else if (s.live id).isSome then (s, [], .refused (.duplicateConnection id) (some p))
    else
      let settings : Settings := { writeTimeout := s.writeTimeout, labels := [("conn_id", id.text)] }
      match Channel.start (some p) (some s.registry) ⟨true, true⟩ settings with
      | .error e => (s, [], .refused e (some p))
      | .ok (c, log) =>
        let inbox := (s.inbox.push ⟨id, .signal .joined⟩).getD s.inbox
        ({ s with conns := s.conns ++ [⟨id, c⟩], inbox, notified := s.notified + 1 },
          log ++ [⟨.info, "connection added", [("conn_id", id.text)]⟩],
          .accepted)

/-- Queues the frame of a message for each listed connection, once per listing. Refuses the
message as encoding does, then the first id not in the table, before queuing anything. -/
def send (s : Server) (m : Option Message) (ids : List ConnId) : Except Error (Server × Option Error) :=
  match s.registry.encodeFrame m with
  | .error e => .error e
  | .ok frame =>
    match ids.find? fun id => (s.live id).isNone with
    | some id => .error (.unknownConnection id)
    | none =>
      let step := fun (acc : Server × List Error) (id : ConnId) =>
        let (s, errs) := acc
        match s.live id with
        | none => (s, errs ++ [.unknownConnection id])
        | some i =>
          match s.conns[i]? with
          | none => (s, errs)
          | some conn =>
            match conn.channel.pushFrame frame with
            | .ok c => ({ s with conns := s.conns.set i { conn with channel := c } }, errs)
            | .error e => (s, errs ++ [.atConnection id e])
      let (s, errs) := ids.foldl step (s, [])
      .ok (s, Error.gather errs)

/-- Closes the connections at the given positions, gathering their close failures. -/
def closeAt (s : Server) : List Nat → Server × List LogLine × List Error
  | [] => (s, [], [])
  | i :: is =>
    match s.conns[i]? with
    | none => s.closeAt is
    | some conn =>
      let (c, t, failure) := conn.channel.close
      let s := { s with conns := s.conns.set i { conn with channel := c } }
      let s := s.accept conn.id t.delivered
      let (s, log, errs) := s.closeAt is
      (s, t.log ++ log, failure.toList ++ errs)

/-- The positions of the connections in the table. -/
def table (s : Server) : List Nat :=
  (List.range s.conns.length).filter fun i => match s.conns[i]? with
    | some c => !c.channel.closed
    | none => false

/-- Closes the connection with this id. -/
def disconnect (s : Server) (id : ConnId) : Server × List LogLine × Option Error :=
  match s.live id with
  | none => (s, [], some (.unknownConnection id))
  | some i =>
    let (s, log, errs) := s.closeAt [i]
    (s, log, Error.gather errs)

/-- Closes every connection in the table. -/
def disconnectAll (s : Server) : Server × List LogLine × Option Error :=
  let (s, log, errs) := s.closeAt s.table
  (s, log, Error.gather errs)

/-- Closes the server: once only; pushes `shutdown` under the nil id, then closes every
connection in the table. -/
def close (s : Server) : Server × List LogLine × Option Error :=
  if s.closed then (s, [], none)
  else
    let positions := s.table
    let inbox := (s.inbox.push ⟨ConnId.nil, .signal .shutdown⟩).getD s.inbox
    let s := { s with closed := true, inbox, notified := s.notified + 1 }
    let closing : LogLine := ⟨.info, "server closing", [("connections", toString positions.length)]⟩
    let (s, log, errs) := s.closeAt positions
    (s, closing :: log, Error.gather errs)

/-- Closes the server and empties its inbox for good. -/
def dispose (s : Server) : Server × List LogLine × Option Error :=
  let (s, log, failure) := s.close
  ({ s with inbox := s.inbox.dispose }, log, failure)

end Server
end FramedLink
