namespace FramedLink

/-- How much a log line matters. -/
inductive Level where
  | debug
  | info
  | warn
  | error
deriving DecidableEq, Repr

/-- The word a level is written as. -/
def Level.tag : Level → String
  | .debug => "DEBUG"
  | .info => "INFO"
  | .warn => "WARN"
  | .error => "ERROR"

/-- One line of an endpoint's log. -/
structure LogLine where
  level : Level
  text : String
  fields : List (String × String) := []
deriving DecidableEq, Repr

/-- The written form of a log line. -/
def LogLine.render (l : LogLine) : String :=
  l.level.tag ++ " " ++ l.text ++ String.join (l.fields.map fun (k, v) => " " ++ k ++ "=" ++ v)

end FramedLink
