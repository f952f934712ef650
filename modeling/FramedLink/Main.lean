import FramedLink.Command
import FramedLink.Config.Toml.Fields
import FramedLink.Config.Yaml.Fields

open FramedLink

/-- Reads a file's text, or none when it cannot be read. -/
def readSettingsFile (name : Option String) : IO (Option String) := do
  match name with
  | none => pure none
  | some n =>
    if n.isEmpty then pure none
    else
      try
        let text ← IO.FS.readFile n
        pure (some text)
      catch _ => pure none

/-- The settings file read as TOML or as YAML. -/
def decodeSettings : Config.Decoder
  | .toml => Config.Toml.decode
  | .yaml => Config.Yaml.decode

/-- Whether an address belongs to this machine: unspecified or loopback. -/
def isLocalAddress : Net.IP → Bool
  | .v4 bs => bs.head? == some 127 || bs.all (· == 0)
  | .v6 bs _ =>
    let mapped := bs.take 10 = List.replicate 10 0 && (bs.drop 10).take 2 = [255, 255]
    bs.all (· == 0) || bs == List.replicate 15 0 ++ [1] || (mapped && ((bs.drop 12).head? == some 127 ||
      (bs.drop 12).all (· == 0)))

/-- Why this machine refuses to listen on an endpoint, if it does: a port below 1024 (but not
zero) needs privileges the tool does not have, and an address of another machine cannot be
bound. -/
def bindRefusal (e : Net.Endpoint) : Option String :=
  if 0 < e.port && e.port < 1024 then some "permission denied"
  else if !(e.ip.all isLocalAddress) then some "cannot assign requested address"
  else none

/-- Prints a failure and answers exit status 1. -/
def fail (message : String) : IO UInt32 := do
  IO.eprintln ("Error: " ++ message)
  pure 1

def main (args : List String) : IO UInt32 := do
  match Command.parse args with
  | .error e => fail e.message
  | .ok inv =>
    if inv.action = .usage then
      IO.println Command.usage
      return 0
    let file ← readSettingsFile inv.config
    match inv.settings decodeSettings file with
    | .error e => fail e.message
    | .ok (s, _) =>
      match inv.action with
      | .ping =>
        match Command.pingReport s with
        | .ok lines =>
          for l in lines do IO.eprintln l
          pure 0
        | .error m => fail m
      | _ =>
        match Command.serveReport bindRefusal s with
        | .ok line =>
          IO.eprintln line
          pure 0
        | .error m => fail m
