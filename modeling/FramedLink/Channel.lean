import FramedLink.Registry
import FramedLink.Pipe
import FramedLink.Log
import FramedLink.Duration

namespace FramedLink

/-- What a channel hands its owner: a decoded message, or the notice that it has ended. -/
inductive Delivery where
  | message (m : Message)
  | lost
deriving DecidableEq, Repr

/-- What a channel logged and delivered during an operation, in order. -/
structure Trace where
  log : List LogLine
  delivered : List Delivery
deriving Repr

namespace Trace

/-- Nothing logged, nothing delivered. -/
def none : Trace := ⟨[], []⟩

instance : Append Trace := ⟨fun a b => ⟨a.log ++ b.log, a.delivered ++ b.delivered⟩⟩

/-- A trace of one log line. -/
def line (l : LogLine) : Trace := ⟨[l], []⟩

@[simp] theorem append_delivered (a b : Trace) : (a ++ b).delivered = a.delivered ++ b.delivered := rfl
@[simp] theorem append_log (a b : Trace) : (a ++ b).log = a.log ++ b.log := rfl

end Trace

/-- What an endpoint sets for each of its channels. -/
structure Settings where
  writeTimeout : Duration
  labels : List (String × String)
deriving Repr

/-- Which hooks a channel's owner supplies: a place for deliveries and a last message. A
channel needs both. -/
structure Hooks where
  deliver : Bool
  lost : Bool
deriving Repr

/-- Who ends a channel. -/
inductive Closer where
  | owner
  | reader
  | writer
deriving DecidableEq, Repr

/-- A channel over a pipe. -/
structure Channel where
  registry : Registry
  settings : Settings
  pipe : Pipe
  buffer : Bytes
  buffer_lt : buffer.length < Frame.bufferSize
  outbound : List Bytes
  closed : Bool
  cause : Option Error

namespace Channel

/-- A log line of this channel, its labels first. -/
def note (c : Channel) (level : Level) (text : String) (fields : List (String × String)) :
    LogLine :=
  { level, text, fields := c.settings.labels ++ fields }

/-- Starts a channel on a pipe, refusing, in this order, a missing pipe, a missing registry and
a missing hook. -/
def start (pipe : Option Pipe) (registry : Option Registry) (hooks : Hooks)
    (settings : Settings) : Except Error (Channel × List LogLine) :=
  match pipe, registry with
  | none, _ => .error .invalidStream
  | some _, none => .error .invalidRegistry
  | some p, some r =>
    if !(hooks.deliver && hooks.lost) then .error .invalidPolicy
    else
      let c : Channel := ⟨r, settings, p, [], by decide, [], false, none⟩
      .ok (c, [c.note .debug "connection established" [("write_timeout", settings.writeTimeout.text)]])

/-- Ends the channel on behalf of `by`, unless it has ended already. Returns the pipe's close
failure, which only the owner passes on. -/
def shutdown (c : Channel) (cause : Option Error) (closer : Closer) :
    Channel × Trace × Option Error :=
  if c.closed then (c, .none, none)
  else
    let (p, closeFailure) := c.pipe.close
    -- A reader still waiting on the pipe wakes up to find it closed.
    let woken := if closer = .reader then []
      else [c.note .debug "read error" [("error", Error.closedPipe.message)]]
    let last := match cause with
      | some e => c.note .info "connection closed with error" [("error", e.message)]
      | none => c.note .info "connection closed" []
    ({ c with closed := true, cause, pipe := p, outbound := [] },
      ⟨woken ++ [last], [.lost]⟩, closeFailure)

/-- The owner closes the channel; the pipe's close failure comes back when this call ended it. -/
def close (c : Channel) : Channel × Trace × Option Error := c.shutdown none .owner

/-- Queues a frame for the writer. -/
def pushFrame (c : Channel) (frame : Bytes) : Except Error Channel :=
  if c.closed then .error .connectionClosed else .ok { c with outbound := c.outbound ++ [frame] }

/-- Queues the frame of a message: refused once the channel has ended, then whatever encoding
refuses. -/
def send (c : Channel) (m : Option Message) : Except Error Channel :=
  if c.closed then .error .connectionClosed
  else
    match c.registry.encodeFrame m with
    | .error e => .error e
    | .ok frame => c.pushFrame frame

/-- The writer: writes the queued frames in order until one fails. -/
def flush (c : Channel) : Channel × Trace :=
  match h : c.outbound with
  | [] => (c, .none)
  | frame :: rest =>
    let timed := c.settings.writeTimeout.nanos > 0
    let p := if timed then c.pipe.markDeadline else c.pipe
    match p.write frame with
    | (p, none) => flush { c with pipe := p, outbound := rest }
    | (p, some e) =>
      let (c', t, _) := shutdown { c with pipe := p, outbound := rest } (some e) .writer
      (c', .line (c.note .debug "write error" [("error", e.message)]) ++ t)
termination_by c.outbound.length
decreasing_by simp [h]

/-- Room left in the read buffer; never zero. -/
def room (c : Channel) : Nat := Frame.bufferSize - c.buffer.length

theorem room_pos (c : Channel) : 0 < c.room := by
  have := c.buffer_lt
  simp only [room]
  omega

/-- The reader: reads until it has to wait or the channel ends. -/
def pump (c : Channel) : Channel × Trace :=
  if c.closed then (c, .none)
  else
    match h : c.pipe.read c.room with
    | (p, .blocked) => ({ c with pipe := p }, .none)
    | (p, .ended) =>
      let (c', t, _) := shutdown { c with pipe := p } none .reader
      (c', .line (c.note .debug "peer closed connection" []) ++ t)
    | (p, .fault e) =>
      let (c', t, _) := shutdown { c with pipe := p } (some e) .reader
      (c', .line (c.note .debug "read error" [("error", e.message)]) ++ t)
    | (p, .data bytes atEnd) =>
      let parts := Frame.split (c.buffer ++ bytes)
      let decoded := c.registry.unmarshalAll parts.1
      let got : Trace := ⟨[], decoded.1.map .message⟩
      match decoded.2 with
      | some e =>
        let (c', t, _) := shutdown { c with pipe := p } (some e) .reader
        (c', got ++ .line (c.note .debug "decode error" [("error", e.message)]) ++ t)
      | none =>
        let next : Channel :=
          { c with pipe := p, buffer := parts.2, buffer_lt := Frame.split_rest_lt _ }
        if atEnd then
          let (c', t, _) := shutdown next none .reader
          (c', got ++ .line (c.note .debug "peer closed connection" []) ++ t)
        else
          have : next.pipe.incoming.length < c.pipe.incoming.length :=
            Pipe.read_data_shorter c.room_pos h
          let (c', t) := pump next
          (c', got ++ t)
termination_by c.pipe.incoming.length

/-- Runs the writer and then the reader until neither has anything left to do. -/
def settle (c : Channel) : Channel × Trace :=
  let (c, written) := c.flush
  let (c, read) := c.pump
  (c, written ++ read)

/-- Lets the peer act on the pipe, then settles. -/
def byPeer (c : Channel) (act : Pipe → Pipe) : Channel × Trace :=
  settle { c with pipe := act c.pipe }

end Channel
end FramedLink
