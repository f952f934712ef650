import FramedLink.Text.Case
import FramedLink.Text.Blank

namespace FramedLink

/-- A log level, by rank. -/
structure LogLevel where
  rank : Int
deriving DecidableEq, Repr

/-- Why a log level could not be read. -/
inductive LevelError where
  | unknown (text : String)
  | outOfBounds (n : Int)
deriving DecidableEq, Repr

def LevelError.message : LevelError → String
  | .unknown t => "Unknown Level String: '" ++ t ++ "', defaulting to NoLevel"
  | .outOfBounds n => "Out-Of-Bounds Level: '" ++ toString n ++ "', defaulting to NoLevel"

namespace LogLevel

def names : List (String × Int) :=
  [("trace", -1), ("debug", 0), ("info", 1), ("warn", 2), ("error", 3), ("fatal", 4),
    ("panic", 5), ("disabled", 7), ("", 6)]

def name (l : LogLevel) : String :=
  match names.find? (·.2 == l.rank) with
  | some (n, _) => n
  | none => toString l.rank

def decimal? (s : String) : Option Int :=
  let (neg, digits) := match s.toList with
    | '-' :: r => (true, r)
    | '+' :: r => (false, r)
    | r => (false, r)
  if digits.isEmpty || !digits.all Char.isDigit then none
  else
    let n : Nat := digits.foldl (fun acc c => acc * 10 + (c.toNat - 48)) 0
    let v : Int := if neg then -(n : Int) else n
    if v < -9223372036854775808 || v > 9223372036854775807 then none else some v

/-- Reads a level from text already trimmed and made small: a name, equal up to case, or a
number. -/
def ofName (s : String) : Except LevelError LogLevel :=
  match names.find? (Text.equalFold ·.1 s) with
  | some (_, r) => .ok ⟨r⟩
  | none =>
    match decimal? s with
    | none => .error (.unknown s)
    | some n => if n < -128 || n > 127 then .error (.outOfBounds n) else .ok ⟨n⟩

def parse (s : String) : Except LevelError LogLevel := ofName (Text.lower (Text.trim s))

end LogLevel
end FramedLink
