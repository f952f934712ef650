import FramedLink.Script.Peer

namespace FramedLink.Script

/-- Where a named pipe is: with the server's connection at a position, or left aside. -/
inductive PipeAt where
  | conn (i : Nat)
  | aside (p : Pipe)

/-- A step of a server script. -/
inductive ServerStep where
  | peer (name : String) (act : PeerAct)
  | peerRead (name : String)
  | peerStats (name : String)
  | notifyCount
  | add (id : ConnId) (name : String) (pipe : Option PipeOptions)
  | send (m : Option Message) (ids : List ConnId)
  | receive
  | receiveWait
  | drain
  | hasData
  | connections
  | disconnect (id : ConnId)
  | disconnectAll
  | close
  | dispose
  | echo
deriving Repr

/-- A running server script. -/
structure ServerRun where
  server : Server
  pipes : List (String × PipeAt)
  notify : Bool

namespace ServerRun

/-- Where the pipe of a name is. -/
def find? (r : ServerRun) (name : String) : Option PipeAt :=
  (r.pipes.find? (·.1 == name)).map (·.2)

/-- Names a pipe, taking the name over. -/
def name (r : ServerRun) (n : String) (at_ : PipeAt) : ServerRun :=
  { r with pipes := (n, at_) :: r.pipes.filter (·.1 != n) }

/-- Looks at a named pipe. -/
def pipe? (r : ServerRun) (n : String) : Option Pipe :=
  match r.find? n with
  | some (.conn i) => (r.server.conns[i]?).map (·.channel.pipe)
  | some (.aside p) => some p
  | none => none

/-- Changes a named pipe with `f`, letting the server react. -/
def alter (r : ServerRun) (n : String) (f : Pipe → Pipe) (settleAfter : Bool) :
    ServerRun × List LogLine :=
  match r.find? n with
  | some (.conn i) =>
    let (s, log) := r.server.onConn i fun c =>
      if settleAfter then c.byPeer f else ({ c with pipe := f c.pipe }, .none)
    ({ r with server := s }, log)
  | some (.aside p) => (r.name n (.aside (f p)), [])
  | none => (r, [])

/-- Runs one step and lets the server settle. -/
def step (r : ServerRun) (s : ServerStep) : ServerRun × Reply × List LogLine :=
  let srv := r.server
  let (r, reply, log) : ServerRun × Reply × List LogLine :=
    match s with
    | .peer n act =>
      match r.find? n with
      | none => (r, .noStream n, [])
      | some _ =>
        let (r, log) := r.alter n act.apply true
        (r, .ok, log)
    | .peerRead n =>
      match r.pipe? n with
      | none => (r, .noStream n, [])
      | some p =>
        let (r, _) := r.alter n (fun p => p.take.2) false
        (r, .bytes p.outgoing, [])
    | .peerStats n =>
      match r.pipe? n with
      | none => (r, .noStream n, [])
      | some p => (r, .stats (stats p), [])
    | .notifyCount => (r, .count (if r.notify then srv.notified else 0), [])
    | .add id n opts =>
      let (srv, log, admission) := srv.add id (opts.map PipeOptions.pipe)
      let r := { r with server := srv }
      match admission with
      | .accepted => (r.name n (.conn (srv.conns.length - 1)), .ok, log)
      | .refused e (some p) => (r.name n (.aside p), .failed e, log)
      | .refused e none => (r, .failed e, log)
    | .send m ids =>
      match srv.send m ids with
      | .ok (srv, none) => ({ r with server := srv }, .ok, [])
      | .ok (srv, some e) => ({ r with server := srv }, .failed e, [])
      | .error e => (r, .failed e, [])
    | .receive =>
      match srv.inbox.poll with
      | .ok (env, q) => ({ r with server := { srv with inbox := q } }, .envelope env, [])
      | .error e => (r, .failed e, [])
    | .receiveWait =>
      match srv.inbox.take with
      | .item env q => ({ r with server := { srv with inbox := q } }, .envelope env, [])
      | .failed e => (r, .failed e, [])
      | .waiting => (r, .hang, [])
    | .drain =>
      let (items, last, q) := srv.inbox.drain
      ({ r with server := { srv with inbox := q } }, .drained items last, [])
    | .hasData => (r, .flag srv.inbox.hasData, [])
    | .connections => (r, .ids srv.connections, [])
    | .disconnect id =>
      let (srv, log, failure) := srv.disconnect id
      ({ r with server := srv }, .result failure, log)
    | .disconnectAll =>
      let (srv, log, failure) := srv.disconnectAll
      ({ r with server := srv }, .result failure, log)
    | .close =>
      let (srv, log, failure) := srv.close
      ({ r with server := srv }, .result failure, log)
    | .dispose =>
      let (srv, log, failure) := srv.dispose
      ({ r with server := srv }, .result failure, log)
    | .echo =>
      let (srv, log, stop) := Echo.serve srv
      let r := { r with server := srv }
      match stop with
      | .requested => (r, .result none, log)
      | .failed e => (r, .result (some e), log)
      | .waits => (r, .hang, log)
  let (srv, settled) := r.server.settle
  ({ r with server := srv }, reply, log ++ settled)

end ServerRun

/-- Starts a server and runs the steps, answering each. -/
def runServer (registry : Option Registry) (writeTimeout : Duration) (notify : Bool)
    (steps : List ServerStep) : Except Error (List Answer) :=
  match Server.start registry writeTimeout with
  | .error e => .error e
  | .ok srv => .ok (runSteps ServerRun.step ⟨srv, [], notify⟩ steps)

end FramedLink.Script
