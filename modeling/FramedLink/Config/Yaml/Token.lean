namespace FramedLink.Config.Yaml

/-- A position in the text. -/
structure Mark where
  index : Nat
  line : Nat
  column : Nat
deriving DecidableEq, Repr, Inhabited

/-- How a scalar was written. -/
inductive Style where
  | plain
  | singleQuoted
  | doubleQuoted
  | literal
  | folded
deriving DecidableEq, Repr

/-- What a token is. -/
inductive TokenKind where
  | streamStart
  | streamEnd
  | versionDirective (major minor : Nat)
  | tagDirective (handle pre : String)
  | documentStart
  | documentEnd
  | blockSequenceStart
  | blockMappingStart
  | blockEnd
  | flowSequenceStart
  | flowSequenceEnd
  | flowMappingStart
  | flowMappingEnd
  | blockEntry
  | flowEntry
  | key
  | value
  | alias (name : String)
  | anchor (name : String)
  | tag (handle suffix : String)
  | scalar (text : String) (style : Style)
deriving DecidableEq, Repr

/-- A token with the marks of its start and its end. -/
structure Token where
  kind : TokenKind
  start : Mark
  stop : Mark
deriving Repr

/-- Which stage found a fault. -/
inductive Stage where
  | input
  | token
  | node
  | value
deriving DecidableEq, Repr

/-- A fault: the stage, what was being done (with a mark), and what went wrong (with a
mark). -/
structure Fault where
  stage : Stage
  context : String
  contextMark : Mark
  problem : String
  problemMark : Mark
deriving Repr

def Fault.line (f : Fault) : Nat :=
  let bump := if f.stage = .token then 1 else 0
  if f.contextMark.line ≠ 0 then f.contextMark.line + bump
  else if f.problemMark.line ≠ 0 then f.problemMark.line + bump
  else 0

def Fault.text (f : Fault) : String :=
  if f.stage = .value then "yaml: " ++ f.problem
  else
    let place := if f.line ≠ 0 then "line " ++ toString f.line ++ ": " else ""
    "yaml: " ++ place ++ f.problem

def tokenFault (context : String) (contextMark : Mark) (problem : String) (problemMark : Mark) : Fault :=
  ⟨.token, context, contextMark, problem, problemMark⟩

def nodeFault (context : String) (contextMark : Mark) (problem : String) (problemMark : Mark) : Fault :=
  ⟨.node, context, contextMark, problem, problemMark⟩

def valueFault (message : String) : Fault :=
  ⟨.value, "", default, message, default⟩

end FramedLink.Config.Yaml
