import FramedLink.Server
import FramedLink.Client
import FramedLink.Utf8
import FramedLink.Text.Codec

namespace FramedLink.Echo

/-- The type id of pings. -/
def pingTypeId : Int32 := 7

/-- The type id of pongs. -/
def pongTypeId : Int32 := 8

/-- The codecs of the echo service: ping text and pong text. -/
def codecs : List TextCodec := [⟨pingTypeId⟩, ⟨pongTypeId⟩]

/-- The answer to every ping. -/
def pong : Message := .text pongTypeId (Utf8.encode "pong")

/-- How the echo service stopped. -/
inductive Stop where
  | requested
  | failed (e : Error)
  | waits
deriving Repr

/-- A log line of the service about a connection. -/
def about (level : Level) (text : String) (id : ConnId) (more : List (String × String)) : LogLine :=
  ⟨level, text, ("conn_id", id.text) :: more⟩

/-- Answers one envelope: the server afterwards, the lines logged, and whether to stop. -/
def answer (s : Server) (env : Envelope) : Server × List LogLine × Bool :=
  match env.message with
  | .signal sig =>
    if sig = .joined then (s, [about .info "client joined" env.id []], false)
    else if sig = .clientLost then (s, [about .info "client left" env.id []], false)
    else if sig = .shutdown then (s, [⟨.info, "shutdown requested", []⟩], true)
    else (s, [], false)
  | .text id body =>
    if id ≠ pingTypeId then
      (s, [about .warn "unexpected message" env.id [("type_id", toString id)]], false)
    else
      let seen := about .debug "ping" env.id [("body", Utf8.text body)]
      match s.send (some pong) [env.id] with
      | .ok (s, none) => (s, [seen], false)
      | .ok (s, some e) => (s, [seen, about .error "send pong failed" env.id [("error", e.message)]], false)
      | .error e =>
        if e.fault? = some .unknownConnection then (s, [seen], false)
        else (s, [seen, about .error "send pong failed" env.id [("error", e.message)]], false)
  | .foreign _ => (s, [], false)

/-- Answers the given envelopes, the ones waiting in the server's inbox, one by one. -/
def serveItems (s : Server) : List Envelope → Server × List LogLine × Stop
  | [] => (s, [], .waits)
  | env :: rest =>
    let s := { s with inbox := { s.inbox with items := rest } }
    let (s, log, stop) := answer s env
    if stop then (s, log, .requested)
    else
      let (s, more, how) := serveItems s rest
      (s, log ++ more, how)

/-- Runs the echo service on what the server's inbox holds. -/
def serve (s : Server) : Server × List LogLine × Stop :=
  if s.inbox.disposed then (s, [], .failed .endpointDisposed) else serveItems s s.inbox.items

/-- Why waiting for a pong failed. -/
inductive ReplyError where
  | receiving (e : Error)
  | unexpectedType (id : Int32)
  | lost (s : Signal)
  | unexpected (m : Message)
deriving Repr

/-- The text of a reply failure. -/
def ReplyError.message : ReplyError → String
  | .receiving e => "wait for pong: " ++ e.message
  | .unexpectedType id => "unexpected reply type " ++ toString id
  | .lost s => "connection lost: " ++ s.label
  | .unexpected m => "unexpected reply " ++ Message.typeName (some m)

/-- How a reply failure presents itself: a receiving failure keeps its own kind. -/
def ReplyError.kind : ReplyError → Kind
  | .receiving e => e.kind
  | _ => .plain

/-- Takes the client's next message as a pong. With nothing waiting, the wait runs out. -/
def awaitReply (cl : Client) : Client × Except ReplyError Message :=
  match cl.inbox.take with
  | .failed e => (cl, .error (.receiving e))
  | .waiting => (cl, .error (.receiving .deadlineExceeded))
  | .item m rest =>
    let cl := { cl with inbox := rest }
    match m with
    | .text id _ => if id = pongTypeId then (cl, .ok m) else (cl, .error (.unexpectedType id))
    | .signal s => (cl, .error (.lost s))
    | m => (cl, .error (.unexpected m))

/-- The ping with sequence number `n`. -/
def ping (n : Nat) : Message := .text pingTypeId (Utf8.encode ("ping " ++ toString n))

/-- Moves what one pipe's side wrote into the other pipe's input. -/
def carry (src dst : Pipe) : Pipe × Pipe :=
  let (bytes, src) := src.take
  (src, dst.feed bytes false)

/-- The bodies of the pongs that `count` pings get, each with its sequence number, when a
pinger and the service talk over a pair of pipes; or the first failure of the pinger. -/
def loopback (count : Nat) : Except ReplyError (List (Nat × Message)) :=
  let registry := Registry.ofText codecs
  let id : ConnId := ⟨List.replicate 15 0 ++ [1]⟩
  match Client.start (some (Pipe.fresh 0 false none)) (some registry) 0,
      Server.start (some registry) 0 with
  | .ok (cl, _), .ok srv =>
    let (srv, _, _) := srv.add id (some (Pipe.fresh 0 false none))
    let rec go (n : Nat) (cl : Client) (srv : Server) : Nat → Except ReplyError (List (Nat × Message))
      | 0 => .ok []
      | k + 1 =>
        match cl.send (some (ping n)) with
        | .error e => .error (.receiving e)
        | .ok cl =>
          let (cl, _) := cl.settle
          match srv.conns with
          | [conn] =>
            let (cp, sp) := carry cl.channel.pipe conn.channel.pipe
            let cl := { cl with channel := { cl.channel with pipe := cp } }
            let srv := { srv with conns := [{ conn with channel := { conn.channel with pipe := sp } }] }
            let (srv, _) := srv.settle
            let (srv, _, _) := serve srv
            let (srv, _) := srv.settle
            match srv.conns with
            | [conn] =>
              let (sp, cp) := carry conn.channel.pipe cl.channel.pipe
              let srv := { srv with conns := [{ conn with channel := { conn.channel with pipe := sp } }] }
              let cl := { cl with channel := { cl.channel with pipe := cp } }
              let (cl, _) := cl.settle
              match awaitReply cl with
              | (_, .error e) => .error e
              | (cl, .ok m) =>
                match go (n + 1) cl srv k with
                | .ok rest => .ok ((n, m) :: rest)
                | .error e => .error e
            | _ => .error (.receiving .connectionClosed)
          | _ => .error (.receiving .connectionClosed)
    go 1 cl srv count
  | _, _ => .error (.receiving .invalidRegistry)

end FramedLink.Echo
