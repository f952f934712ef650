namespace FramedLink

/-- A control signal, told apart by its kind number. -/
structure Signal where
  kind : UInt8
deriving DecidableEq, Repr

namespace Signal

/-- A client's connection to its server is gone. -/
def serverLost : Signal := ⟨1⟩

/-- One of a server's connections is gone. -/
def clientLost : Signal := ⟨2⟩

/-- A server took on a new connection. -/
def joined : Signal := ⟨3⟩

/-- A server was asked to shut down. -/
def shutdown : Signal := ⟨4⟩

/-- The label a signal prints as: both lost signals read `<DISCONNECTED>`. -/
def label (s : Signal) : String :=
  if s.kind = 1 || s.kind = 2 then "<DISCONNECTED>"
  else if s.kind = 3 then "<JOINED>"
  else if s.kind = 4 then "<SHUTDOWN>"
  else "<UNKNOWN>"

/-- The hash of a signal: its kind plus one, times `0x9E3779B97F4A7C15`, modulo `2 ^ 64`. -/
def hash (s : Signal) : UInt64 := (s.kind.toUInt64 + 1) * 0x9E3779B97F4A7C15

end Signal
end FramedLink
