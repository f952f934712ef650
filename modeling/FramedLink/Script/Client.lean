import FramedLink.Script.Peer

namespace FramedLink.Script

/-- A step of a client script. -/
inductive ClientStep where
  | peer (act : PeerAct)
  | peerRead
  | peerStats
  | notifyCount
  | send (m : Option Message)
  | receive
  | receiveWait
  | receiveReply
  | hasData
  | close
  | dispose
  | done
deriving Repr

/-- A running client script. -/
structure ClientRun where
  client : Client
  notify : Bool

namespace ClientRun

/-- Runs one step and lets the client settle. -/
def step (r : ClientRun) (s : ClientStep) : ClientRun × Reply × List LogLine :=
  let cl := r.client
  let (cl, reply, log) : Client × Reply × List LogLine :=
    match s with
    | .peer act =>
      let (cl, log) := cl.byPeer act.apply
      (cl, .ok, log)
    | .peerRead =>
      let (bytes, p) := cl.channel.pipe.take
      ({ cl with channel := { cl.channel with pipe := p } }, .bytes bytes, [])
    | .peerStats => (cl, .stats (stats cl.channel.pipe), [])
    | .notifyCount => (cl, .count (if r.notify then cl.notified else 0), [])
    | .send m =>
      match cl.send m with
      | .ok cl => (cl, .ok, [])
      | .error e => (cl, .failed e, [])
    | .receive =>
      match cl.inbox.poll with
      | .ok (m, q) => ({ cl with inbox := q }, .message (some m), [])
      | .error e => (cl, .failed e, [])
    | .receiveWait =>
      match cl.inbox.take with
      | .item m q => ({ cl with inbox := q }, .message (some m), [])
      | .failed e => (cl, .failed e, [])
      | .waiting => (cl, .hang, [])
    | .receiveReply =>
      match Echo.awaitReply cl with
      | (cl, .ok m) => (cl, .message (some m), [])
      | (cl, .error e) => (cl, .replyFailed e, [])
    | .hasData => (cl, .flag cl.inbox.hasData, [])
    | .close =>
      let (cl, log, failure) := cl.close
      (cl, .result failure, log)
    | .dispose =>
      let (cl, log, failure) := cl.dispose
      (cl, .result failure, log)
    | .done => (cl, .flag cl.channel.closed, [])
  let (cl, settled) := cl.settle
  ({ r with client := cl }, reply, log ++ settled)

end ClientRun

/-- Starts a client and runs the steps: the log of starting and each step's answer. -/
def runClient (pipe : Option PipeOptions) (registry : Option Registry) (writeTimeout : Duration)
    (notify : Bool) (steps : List ClientStep) : Except Error (List String × List Answer) :=
  match Client.start (pipe.map PipeOptions.pipe) registry writeTimeout with
  | .error e => .error e
  | .ok (cl, log) => .ok (report log, runSteps ClientRun.step ⟨cl, notify⟩ steps)

end FramedLink.Script
