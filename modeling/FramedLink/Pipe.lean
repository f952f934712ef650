import FramedLink.Error

namespace FramedLink

/-- A byte stream with a scripted far end. -/
structure Pipe where
  incoming : Bytes
  ended : Bool
  readFault : Option String
  writeFault : Option String
  chunk : Nat
  deadlines : Bool
  closeFault : Option String
  closed : Bool
  closes : Nat
  outgoing : Bytes
  writes : Nat
  deadlineCalls : Nat
deriving Repr

/-- What one read gives. -/
inductive Reading where
  | blocked
  | data (bytes : Bytes) (atEnd : Bool)
  | fault (e : Error)
  | ended
deriving Repr

namespace Pipe

/-- A fresh pipe with the given read size, deadline support and close failure. -/
def fresh (chunk : Nat) (deadlines : Bool) (closeFault : Option String) : Pipe :=
  { incoming := [], ended := false, readFault := none, writeFault := none, chunk, deadlines,
    closeFault, closed := false, closes := 0, outgoing := [], writes := 0, deadlineCalls := 0 }

/-- One read offering `room` bytes of space. -/
def read (p : Pipe) (room : Nat) : Pipe × Reading :=
  if p.closed then (p, .fault .closedPipe)
  else if p.incoming.isEmpty then
    match p.readFault with
    | some text => (p, .fault (.stream text))
    | none => if p.ended then (p, .ended) else (p, .blocked)
  else
    let n := min room (if p.chunk = 0 then p.incoming.length else p.chunk)
    let rest := p.incoming.drop n
    ({ p with incoming := rest }, .data (p.incoming.take n) (rest.isEmpty && p.ended))

theorem read_data_shorter {p q : Pipe} {room : Nat} {bytes : Bytes} {atEnd : Bool}
    (hroom : 0 < room) (h : p.read room = (q, .data bytes atEnd)) :
    q.incoming.length < p.incoming.length := by
  unfold read at h
  split at h
  · cases h
  · split at h
    · split at h
      · cases h
      · split at h <;> cases h
    · rename_i hne
      cases h
      have hpos : 0 < p.incoming.length := by
        cases hi : p.incoming with
        | nil => simp [hi] at hne
        | cons _ _ => simp
      simp only [List.length_drop]
      split <;> omega

/-- Notes a write deadline, when the pipe takes them. -/
def markDeadline (p : Pipe) : Pipe :=
  if p.deadlines then { p with deadlineCalls := p.deadlineCalls + 1 } else p

/-- Writes one frame, or fails. -/
def write (p : Pipe) (frame : Bytes) : Pipe × Option Error :=
  if p.closed then (p, some .closedPipe)
  else
    match p.writeFault with
    | some text => (p, some (.stream text))
    | none => ({ p with outgoing := p.outgoing ++ frame, writes := p.writes + 1 }, none)

/-- Closes this side; the configured close failure is reported every time. -/
def close (p : Pipe) : Pipe × Option Error :=
  ({ p with closed := true, closes := p.closes + 1 }, p.closeFault.map .stream)

/-- The peer writes bytes, and may end its side with them. -/
def feed (p : Pipe) (bytes : Bytes) (endInput : Bool) : Pipe :=
  { p with incoming := p.incoming ++ bytes, ended := p.ended || endInput }

/-- The peer takes everything written since it last took. -/
def take (p : Pipe) : Bytes × Pipe := (p.outgoing, { p with outgoing := [] })

end Pipe
end FramedLink
