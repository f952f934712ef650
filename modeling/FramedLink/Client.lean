import FramedLink.Channel
import FramedLink.Inbox

namespace FramedLink

/-- A client endpoint. -/
structure Client where
  channel : Channel
  inbox : Inbox Message
  notified : Nat

namespace Client

/-- The settings of a client's channel; a negative write timeout counts as none. -/
def settingsFor (writeTimeout : Duration) : Settings :=
  { writeTimeout := if writeTimeout.nanos < 0 then 0 else writeTimeout, labels := [] }

/-- Starts a client on a pipe. -/
def start (pipe : Option Pipe) (registry : Option Registry) (writeTimeout : Duration) :
    Except Error (Client × List LogLine) :=
  match Channel.start pipe registry ⟨true, true⟩ (settingsFor writeTimeout) with
  | .error e => .error e
  | .ok (c, log) => .ok (⟨c, Inbox.empty, 0⟩, log)

/-- The message that a delivery puts into the inbox. -/
def received : Delivery → Message
  | .message m => m
  | .lost => .signal .serverLost

/-- Pushes deliveries into the inbox, running the notify hook for each one taken. -/
def accept (cl : Client) : List Delivery → Client
  | [] => cl
  | d :: ds =>
    match cl.inbox.push (received d) with
    | some q => accept { cl with inbox := q, notified := cl.notified + 1 } ds
    | none => accept cl ds

/-- Takes the result of a channel operation: the channel as it is now and its trace. -/
def absorb (cl : Client) (r : Channel × Trace) : Client × List LogLine :=
  ({ cl with channel := r.1 }.accept r.2.delivered, r.2.log)

/-- Lets the channel run until it settles. -/
def settle (cl : Client) : Client × List LogLine := cl.absorb cl.channel.settle

/-- Queues a message for sending. -/
def send (cl : Client) (m : Option Message) : Except Error Client :=
  match cl.channel.send m with
  | .error e => .error e
  | .ok c => .ok { cl with channel := c }

/-- Closes the channel; the inbox stays readable. -/
def close (cl : Client) : Client × List LogLine × Option Error :=
  let (c, t, failure) := cl.channel.close
  let (cl, log) := cl.absorb (c, t)
  (cl, log, failure)

/-- Closes the channel and empties the inbox for good. -/
def dispose (cl : Client) : Client × List LogLine × Option Error :=
  let (cl, log, failure) := cl.close
  ({ cl with inbox := cl.inbox.dispose }, log, failure)

/-- Lets the peer act on the pipe, then settles. -/
def byPeer (cl : Client) (act : Pipe → Pipe) : Client × List LogLine :=
  cl.absorb (cl.channel.byPeer act)

end Client
end FramedLink
