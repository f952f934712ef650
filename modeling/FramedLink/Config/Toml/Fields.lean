import FramedLink.Config.Settings
import FramedLink.Config.Toml.Reader

namespace FramedLink.Config.Toml

/-- What a settings field holds. -/
inductive FieldKind where
  | text
  | integer
deriving DecidableEq, Repr

def fieldNames : List (String × FieldKind) :=
  [("addr", .text), ("write_timeout", .text), ("shutdown_timeout", .text), ("count", .integer),
    ("log_level", .text)]

def fieldOf? (key : String) : Option (String × FieldKind) :=
  match fieldNames.find? (·.1 = key) with
  | some f => some f
  | none => fieldNames.find? fun f => Text.equalFold f.1 key

def mismatch (d : Doc) (key : String) (v : Value) (kind : FieldKind) : String :=
  let place := match d.infoOf? [key] with
    | some i => if i.line > 0 then "toml: line " ++ toString i.line ++ " " else "toml: "
    | none => "toml: "
  place ++ "(last key " ++ quoted (keyPartText key) ++ "): incompatible types: TOML value has type " ++
    v.typeName ++ "; destination has type " ++ (if kind = .text then "string" else "integer")

def checkFields (d : Doc) : List (String × Value) → Except String Unit
  | [] => .ok ()
  | (key, v) :: rest =>
    match fieldOf? key, v with
    | none, _ => checkFields d rest
    | some (_, .text), .string _ => checkFields d rest
    | some (_, .integer), .integer _ => checkFields d rest
    | some (_, kind), v => .error (mismatch d key v kind)

def textAt (t : Table) (key : String) : Bytes :=
  match t.get? key with
  | some (.string s) => Utf8.encode s
  | _ => []

def decode (text : String) : Except String Raw := do
  let d ← read text
  checkFields d d.top
  let count := match d.top.get? "count" with
    | some (.integer n) => n
    | _ => 0
  pure ⟨d.top.map (·.1), textAt d.top "addr", textAt d.top "write_timeout",
    textAt d.top "shutdown_timeout", count, textAt d.top "log_level"⟩

end FramedLink.Config.Toml
