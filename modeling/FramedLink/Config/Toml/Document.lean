import FramedLink.Quote

namespace FramedLink.Config.Toml

/-- A TOML value. Floats and date-times keep only their kind. -/
inductive Value where
  | string (s : String)
  | integer (n : Int)
  | float
  | boolean (b : Bool)
  | datetime
  | array (vs : List Value)
  | table (entries : List (String × Value))
  | tables (ts : List (List (String × Value)))

abbrev Table := List (String × Value)

def Value.typeName : Value → String
  | .string _ => "string"
  | .integer _ => "int64"
  | .float => "float64"
  | .boolean _ => "bool"
  | .datetime => "time.Time"
  | .array _ => "[]any"
  | .table _ => "map[string]any"
  | .tables _ => "[]map[string]any"

def Table.get? (t : Table) (k : String) : Option Value :=
  (t.find? (·.1 == k)).map (·.2)

def Table.put (t : Table) (k : String) (v : Value) : Table :=
  if t.any (·.1 == k) then t.map fun e => if e.1 == k then (k, v) else e else t ++ [(k, v)]

def Table.lookup (t : Table) : List String → Option Value
  | [] => some (.table t)
  | [k] => t.get? k
  | k :: ks =>
    match t.get? k with
    | some (.table u) => Table.lookup u ks
    | some (.tables us) =>
      match us.getLast? with
      | some u => Table.lookup u ks
      | none => none
    | _ => none

/-- Changes the table at a key path (the newest one of an array of tables); a path that
does not lead to a table changes nothing. -/
def Table.update (t : Table) (f : Table → Table) : List String → Table
  | [] => f t
  | k :: ks =>
    match t.get? k with
    | some (.table u) => t.put k (.table (Table.update u f ks))
    | some (.tables us) =>
      match us.getLast? with
      | some u => t.put k (.tables (us.dropLast ++ [Table.update u f ks]))
      | none => t
    | _ => t

def isBareChar (c : Char) : Bool :=
  ('a' ≤ c && c ≤ 'z') || ('A' ≤ c && c ≤ 'Z') || ('0' ≤ c && c ≤ '9') || c = '_' || c = '-'

def escapeKeyChar (c : Char) : List Char :=
  match c with
  | '"' => ['\\', '"']
  | '\\' => ['\\', '\\']
  | '\x08' => ['\\', 'b']
  | '\t' => ['\\', 't']
  | '\n' => ['\\', 'n']
  | '\x0c' => ['\\', 'f']
  | '\r' => ['\\', 'r']
  | c =>
    if c.toNat < 0x20 || c.toNat = 0x7f then ['\\', 'u'] ++ Quote.hexWidth 4 c.toNat else [c]

def keyPartText (k : String) : String :=
  if k.isEmpty then "\"\""
  else if k.all isBareChar then k
  else String.ofList ('"' :: k.toList.flatMap escapeKeyChar ++ ['"'])

def keyText (path : List String) : String :=
  ".".intercalate (path.map keyPartText)

/-- What is remembered about the value a key path got. -/
structure KeyInfo where
  line : Nat

/-- The document being read. -/
structure Doc where
  top : Table
  implicit : List (List String)
  info : List (List String × KeyInfo)
  context : List String
  currentKey : String
  keyLine : Nat

def Doc.empty : Doc := ⟨[], [], [], [], "", 0⟩

def Doc.lastKey (d : Doc) : String :=
  if d.currentKey.isEmpty then keyText d.context
  else if d.context.isEmpty then d.currentKey
  else keyText d.context ++ "." ++ d.currentKey

def Doc.infoOf? (d : Doc) (path : List String) : Option KeyInfo :=
  (d.info.find? (·.1 == path)).map (·.2)

/-- Remembers the value's line for a key of the current table (or the table itself,
for the empty key). -/
def Doc.setInfo (d : Doc) (key : String) (line : Nat) : Doc :=
  let path := if key.isEmpty then d.context else d.context ++ [key]
  let path := if path.isEmpty then [""] else path
  { d with info := (path, ⟨line⟩) :: d.info.filter (·.1 != path) }

def Doc.addImplicit (d : Doc) (path : List String) : Doc :=
  if d.implicit.contains path then d else { d with implicit := path :: d.implicit }

def Doc.removeImplicit (d : Doc) (path : List String) : Doc :=
  { d with implicit := d.implicit.filter (· != path) }

def Doc.isTableAt (d : Doc) (path : List String) : Bool :=
  match d.top.lookup path with
  | some (.table _) | some (.tables _) => true
  | _ => false

def Doc.blockedPrefix? (d : Doc) (path : List String) : Option (List String) :=
  ((List.range path.length).map fun i => path.take (i + 1)).find? fun p => !d.isTableAt p

/-- A refused change: the key the reader was at, and why. -/
structure Refusal where
  lastKey : String
  message : String

def Doc.refuse (d : Doc) (message : String) : Except Refusal α :=
  .error ⟨d.lastKey, message⟩

/-- Sets `key` in the current table. Setting a key again is refused, unless its value is an
implicit table (which is kept and becomes explicit). -/
def Doc.setValue (d : Doc) (key : String) (v : Value) : Except Refusal Doc :=
  match d.blockedPrefix? d.context with
  | some p => d.refuse ("Key '" ++ keyText p ++ "' has already been defined.")
  | none =>
    let path := d.context ++ [key]
    match d.top.lookup path with
    | some _ =>
      if d.implicit.contains path then .ok (d.removeImplicit path)
      else d.refuse ("Key '" ++ keyText path ++ "' has already been defined.")
    | none => .ok { d with top := d.top.update (·.put key v) d.context }

/-- Creates the tables on the way to `path` that are missing, marking them implicit; refuses
a step through a value that is not a table. -/
def Doc.openPath (d : Doc) (done : List String) : List String → Except Refusal Doc
  | [] => .ok d
  | k :: ks =>
    let here := done ++ [k]
    let d := match d.top.lookup here with
      | none => { d.addImplicit here with top := d.top.update (·.put k (.table [])) done }
      | some _ => d
    if d.isTableAt here then d.openPath here ks
    else d.refuse ("Key '" ++ keyText here ++ "' was already created as a hash.")

def Doc.addContext (d : Doc) (key : List String) (array : Bool) : Except Refusal Doc := do
  let parent := key.dropLast
  let last := key.getLastD ""
  let d ← d.openPath [] parent
  let d := { d with context := parent }
  let d ← if array then
      match d.top.lookup key with
      | none => .ok { d with top := d.top.update (·.put last (.tables [[]])) parent }
      | some (.tables ts) => .ok { d with top := d.top.update (·.put last (.tables (ts ++ [[]]))) parent }
      | some _ =>
        d.refuse ("Key '" ++ keyText key ++ "' was already created and cannot be used as an array.")
    else d.setValue last (.table [])
  .ok { d with context := key }

def Doc.addImplicitContext (d : Doc) (key : List String) : Except Refusal Doc :=
  (d.addImplicit key).addContext key false

def Table.putPath (t : Table) (path : List String) (k : String) (v : Value) : Table :=
  match path with
  | [] => t.put k v
  | p :: ps =>
    match t.get? p with
    | some (.table u) => t.put p (.table (Table.putPath u ps k v))
    | some _ => t
    | none => t.put p (.table (Table.putPath [] ps k v))

end FramedLink.Config.Toml
