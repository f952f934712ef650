import FramedLink.Script.Peer

namespace FramedLink.Script

/-- The owner's last-message hook: missing, or giving a message (possibly none). -/
inductive LostHook where
  | missing
  | gives (m : Option Message)
deriving Repr

/-- The hooks a channel script's owner supplies. -/
structure ChannelPolicy where
  deliver : Bool
  lost : LostHook
deriving Repr

/-- The hooks of an owner who records deliveries and ends with `serverLost`. -/
def ChannelPolicy.recording : ChannelPolicy := ⟨true, .gives (some (.signal .serverLost))⟩

/-- A step of a channel script. -/
inductive ChannelStep where
  | peer (act : PeerAct)
  | peerRead
  | peerStats
  | notifyCount
  | send (m : Option Message)
  | close
  | isClosed
  | err
  | done
  | delivered
deriving Repr

/-- A running channel script. -/
structure ChannelRun where
  channel : Channel
  lost : Option Message
  unreported : List (Option Message)

namespace ChannelRun

/-- Records a channel operation's result. -/
def absorb (r : ChannelRun) (res : Channel × Trace) : ChannelRun × List LogLine :=
  let got := res.2.delivered.map fun
    | .message m => some m
    | .lost => r.lost
  ({ r with channel := res.1, unreported := r.unreported ++ got }, res.2.log)

/-- Runs one step and lets the channel settle. -/
def step (r : ChannelRun) (s : ChannelStep) : ChannelRun × Reply × List LogLine :=
  let c := r.channel
  let (r, reply, log) : ChannelRun × Reply × List LogLine :=
    match s with
    | .peer act =>
      let (r, log) := r.absorb (c.byPeer act.apply)
      (r, .ok, log)
    | .peerRead =>
      let (bytes, p) := c.pipe.take
      ({ r with channel := { c with pipe := p } }, .bytes bytes, [])
    | .peerStats => (r, .stats (stats c.pipe), [])
    | .notifyCount => (r, .count 0, [])
    | .send m =>
      match c.send m with
      | .ok c => ({ r with channel := c }, .ok, [])
      | .error e => (r, .failed e, [])
    | .close =>
      let (c, t, failure) := c.close
      let (r, log) := r.absorb (c, t)
      (r, .result failure, log)
    | .isClosed => (r, .flag c.closed, [])
    | .err => (r, .cause c.cause, [])
    | .done => (r, .flag c.closed, [])
    | .delivered => ({ r with unreported := [] }, .delivered r.unreported, [])
  let (r, settled) := r.absorb r.channel.settle
  (r, reply, log ++ settled)

end ChannelRun

/-- Starts a channel and runs the steps: the log of starting and each step's answer. -/
def runChannel (pipe : Option PipeOptions) (registry : Option Registry) (writeTimeout : Duration)
    (policy : ChannelPolicy) (steps : List ChannelStep) :
    Except Error (List String × List Answer) :=
  let hooks : Hooks := ⟨policy.deliver, match policy.lost with | .missing => false | .gives _ => true⟩
  let lost := match policy.lost with | .missing => none | .gives m => m
  match Channel.start (pipe.map PipeOptions.pipe) registry hooks (Client.settingsFor writeTimeout) with
  | .error e => .error e
  | .ok (c, log) => .ok (report log, runSteps ChannelRun.step ⟨c, lost, []⟩ steps)

end FramedLink.Script
