import FramedLink.Config.Load
import FramedLink.Echo

namespace FramedLink.Command

/-- What the tool is asked to do. -/
inductive Action where
  | serve
  | ping
  | usage
deriving DecidableEq, Repr

/-- A command line, read. Each flag is the text it was given, or none. -/
structure Invocation where
  action : Action
  config : Option String
  addr : Option String
  logLevel : Option String
  shutdownTimeout : Option String
  count : Option String
  timeout : Option String
deriving Repr

/-- Why a command line could not be read or run. -/
inductive CommandError where
  | unknownCommand (name path : String)
  | unknownFlag (flag : String)
  | unknownShorthand (c : Char) (arg : String)
  | needsArgument (flag : String)
  | badCount (text : String)
  | badTimeout (text : String) (e : DurationError)
  | countNotPositive (n : Int)
  | settings (e : Config.SettingsError)
deriving Repr

/-- The text of a command error. -/
def CommandError.message : CommandError → String
  | .unknownCommand name path => "unknown command " ++ Quote.escapedQuoted name ++ " for " ++ Quote.escapedQuoted path
  | .unknownFlag flag => "unknown flag: " ++ flag
  | .unknownShorthand c arg => "unknown shorthand flag: " ++ Quote.charQuoted c ++ " in " ++ arg
  | .needsArgument flag => "flag needs an argument: " ++ flag
  | .badCount text =>
    "invalid argument " ++ Quote.escapedQuoted text ++ " for \"-c, --count\" flag: strconv.ParseInt: parsing " ++
      Quote.escapedQuoted text ++ ": invalid syntax"
  | .badTimeout text e => "invalid argument " ++ Quote.escapedQuoted text ++ " for \"--timeout\" flag: " ++ e.message
  | .countNotPositive n => "count must be positive, got " ++ toString n
  | .settings e => e.message

/-- A command line with nothing given yet. -/
def Invocation.empty : Invocation := ⟨.usage, none, none, none, none, none, none⟩

/-- The long flags a command takes, besides the tool's own. -/
def flagsOf : Action → List String
  | .serve => ["shutdown-timeout"]
  | .ping => ["count", "timeout"]
  | .usage => []

/-- Records the value of a long flag. -/
def Invocation.set (inv : Invocation) (flag value : String) : Invocation :=
  if flag = "config" then { inv with config := some value }
  else if flag = "addr" then { inv with addr := some value }
  else if flag = "log-level" then { inv with logLevel := some value }
  else if flag = "shutdown-timeout" then { inv with shutdownTimeout := some value }
  else if flag = "count" then { inv with count := some value }
  else { inv with timeout := some value }

/-- The path of the command, as errors name it. -/
def Action.path : Action → String
  | .serve => "msgecho serve"
  | .ping => "msgecho ping"
  | .usage => "msgecho"

/-- Reads the arguments, left to right. -/
def readArgs (inv : Invocation) : List String → Except CommandError Invocation
  | [] => .ok inv
  | arg :: rest =>
    let cs := arg.toList
    match cs with
    | '-' :: '-' :: name =>
      let (flag, given) := match name.span (· ≠ '=') with
        | (f, '=' :: v) => (String.ofList f, some (String.ofList v))
        | (f, _) => (String.ofList f, none)
      if !(["config", "addr", "log-level"] ++ flagsOf inv.action).contains flag then
        .error (.unknownFlag ("--" ++ flag))
      else
        match given with
        | some v => readArgs (inv.set flag v) rest
        | none =>
          match rest with
          | v :: more => readArgs (inv.set flag v) more
          | [] => .error (.needsArgument ("--" ++ flag))
    | '-' :: c :: more =>
      if c = 'c' && inv.action = .ping then
        match more with
        | '=' :: v => readArgs (inv.set "count" (String.ofList v)) rest
        | [] =>
          match rest with
          | v :: after => readArgs (inv.set "count" v) after
          | [] => .error (.needsArgument ("'c' in " ++ arg))
        | v => readArgs (inv.set "count" (String.ofList v)) rest
      else .error (.unknownShorthand c arg)
    | _ =>
      match inv.action with
      | .usage =>
        if arg = "serve" then readArgs { inv with action := .serve } rest
        else if arg = "ping" then readArgs { inv with action := .ping } rest
        else .error (.unknownCommand arg "msgecho")
      | a => .error (.unknownCommand arg a.path)

/-- Reads a command line. -/
def parse (args : List String) : Except CommandError Invocation := readArgs Invocation.empty args

/-- The settings a command runs with: the file's, then the flags', then the command's own. -/
def Invocation.settings (decode : Config.Decoder) (inv : Invocation) (file : Option String) :
    Except CommandError (Config.Settings × LogLevel) := do
  let name := inv.config.getD ""
  let s ← (Config.load decode name file).mapError .settings
  let s := match inv.addr with
    | some a => { s with addr := a }
    | none => s
  let s := match inv.logLevel with
    | some l => { s with logLevel := l }
    | none => s
  let level ← (Config.logLevel s.logLevel).mapError .settings
  let s ← match inv.shutdownTimeout with
    | some t => do
      let d ← (Config.duration "shutdown-timeout" (Utf8.encode t)).mapError .settings
      pure { s with shutdownTimeout := d }
    | none => pure s
  let s ← match inv.count with
    | some t =>
      match LogLevel.decimal? t with
      | none => throw (.badCount t)
      | some n => if n < 1 then throw (.countNotPositive n) else pure { s with count := n }
    | none => pure s
  match inv.timeout with
  | some t =>
    match Duration.parse? t with
    | .error e => throw (.badTimeout t e)
    | .ok _ => pure (s, level)
  | none => pure (s, level)

/-- The usage text. -/
def usage : String :=
  "Exchange ping and pong messages over framed connections\n\n" ++
  "Usage:\n  msgecho [command]\n\n" ++
  "Available Commands:\n" ++
  "  ping        Send pings to the echo service and wait for the pongs\n" ++
  "  serve       Check the settings of the echo service and the address it listens on\n\n" ++
  "Flags:\n" ++
  "      --addr string        address to listen on or dial (default \"127.0.0.1:12345\")\n" ++
  "      --config string      config file (.toml, .yaml or .yml)\n" ++
  "      --log-level string   debug, info, warn or error (default \"info\")\n"

/-- The lines `ping` reports: one per pong, or the failure. -/
def pingReport (s : Config.Settings) : Except String (List String) :=
  match Echo.loopback s.count.toNat with
  | .ok pongs =>
    .ok (pongs.map fun (n, m) =>
      let body := match m with
        | .text _ b => Utf8.text b
        | _ => ""
      "INF pong seq=" ++ toString n ++ " body=" ++ body)
  | .error e => .error e.message

/-- The line `serve` reports: the address it listens on, with the timeouts. -/
def serveReport (bind : Net.Endpoint → Option String) (s : Config.Settings) :
    Except String String :=
  match Config.listenOn bind s.addr with
  | .ok e =>
    .ok ("INF ready addr=" ++ e.text ++ " write_timeout=" ++ s.writeTimeout.text ++
      " shutdown_timeout=" ++ s.shutdownTimeout.text)
  | .error e => .error e.message

end FramedLink.Command
