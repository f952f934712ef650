import FramedLink.Duration
import FramedLink.Config.LogLevel
import FramedLink.Net.Address
import FramedLink.Utf8

namespace FramedLink.Config

/-- What a settings file may set. -/
structure Settings where
  addr : String
  writeTimeout : Duration
  shutdownTimeout : Duration
  count : Int
  logLevel : String
deriving DecidableEq, Repr

def Settings.defaults : Settings :=
  ⟨"127.0.0.1:12345", ⟨5000000000⟩, 0, 3, "info"⟩

/-- Why settings could not be made. -/
inductive SettingsError where
  | load (path text : String)
  | duration (key : String) (e : DurationError)
  | negative (key : String) (d : Duration)
  | countNotPositive (n : Int)
  | logLevel (given : String) (e : LevelError)
  | resolve (addr : String) (e : Net.AddressError)
  | listen (e : Net.Endpoint) (why : String)
deriving Repr

def SettingsError.message : SettingsError → String
  | .load path text => "load config " ++ path ++ ": " ++ text
  | .duration key e => "parse " ++ key ++ ": " ++ e.message
  | .negative key d => key ++ " must not be negative, got " ++ d.text
  | .countNotPositive n => "count must be positive, got " ++ toString n
  | .logLevel given e => "log level " ++ Quote.escapedQuoted given ++ ": " ++ e.message
  | .resolve addr e => "resolve " ++ addr ++ ": " ++ e.message
  | .listen e why => "listen " ++ e.text ++ ": listen tcp " ++ e.text ++ ": bind: " ++ why

def duration (key : String) (value : Bytes) : Except SettingsError Duration :=
  match Duration.read? (Utf8.trimBlank value) with
  | .error e => .error (.duration key e)
  | .ok d => if d.nanos < 0 then .error (.negative key d) else .ok d

def logLevel (given : String) : Except SettingsError LogLevel :=
  match LogLevel.parse given with
  | .ok l => .ok l
  | .error e => .error (.logLevel given e)

def resolve (addr : String) : Except SettingsError Net.Endpoint :=
  match Net.resolve addr with
  | .ok e => .ok e
  | .error e => .error (.resolve addr e)

/-- Resolves the address the echo service listens on, and asks the machine, through `bind`, whether
it can listen there: `bind` gives the reason it cannot, if any. -/
def listenOn (bind : Net.Endpoint → Option String) (addr : String) :
    Except SettingsError Net.Endpoint := do
  let e ← resolve addr
  match bind e with
  | some why => throw (.listen e why)
  | none => pure e

/-- What a settings file says before it is checked: the keys it defines at the top level, and
the value it gives each field (empty, or zero, where it gives none). -/
structure Raw where
  defined : List String
  addr : Bytes
  writeTimeout : Bytes
  shutdownTimeout : Bytes
  count : Int
  logLevel : Bytes
deriving Repr

/-- Overlays what a file says on the defaults, key by key: an address only when it is not
blank, checked durations, a positive count, and a trimmed log level. -/
def Raw.overlay (raw : Raw) : Except SettingsError Settings := do
  let has := fun k => raw.defined.contains k
  let s := Settings.defaults
  let addr := Utf8.text (Utf8.trimBlank raw.addr)
  let s := if has "addr" && !addr.isEmpty then { s with addr } else s
  let s ← if has "write_timeout" then do
      let d ← duration "write_timeout" raw.writeTimeout
      pure { s with writeTimeout := d }
    else pure s
  let s ← if has "shutdown_timeout" then do
      let d ← duration "shutdown_timeout" raw.shutdownTimeout
      pure { s with shutdownTimeout := d }
    else pure s
  let s ← if has "count" then
      if raw.count < 1 then throw (.countNotPositive raw.count) else pure { s with count := raw.count }
    else pure s
  pure (if has "log_level" then { s with logLevel := Utf8.text (Utf8.trimBlank raw.logLevel) } else s)

end FramedLink.Config
