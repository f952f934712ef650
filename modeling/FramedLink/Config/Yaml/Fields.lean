import FramedLink.Config.Settings
import FramedLink.Config.Yaml.Node
import FramedLink.Config.Yaml.Value

namespace FramedLink.Config.Yaml

/-- What a node is decoded into. -/
inductive Shape where
  | any
  | text
  | int
  | textMap
  | anyMap
  | settings
deriving DecidableEq, Repr

def Shape.typeName : Shape → String
  | .any => "interface \x7b\x7d"
  | .text => "string"
  | .int => "int"
  | .textMap => "map[string]interface \x7b\x7d"
  | .anyMap => "map[interface \x7b\x7d]interface \x7b\x7d"
  | .settings => "main.fileConfig"

/-- What decoding a node gave. -/
inductive Decoded where
  | value (v : Value)
  | text (b : Bytes)
  | int (i : Int)
  | filled
deriving Repr

/-- The decoder: the document's anchored nodes, the decode counts, the aliases being
decoded, the mismatches so far, the keys taken by the merge in progress (if any), and the
settings fields. -/
structure Decoder where
  slots : Array Node
  decodes : Nat
  aliased : Nat
  depth : Nat
  active : List Nat
  errors : List String
  merged : Option (List Value)
  raw : Raw

def Decoder.start (slots : Array Node) : Decoder :=
  ⟨slots, 0, 0, 0, [], [], none, ⟨[], [], [], [], 0, []⟩⟩

abbrev DecodeM := StateT Decoder (Except Fault)

def fatal (message : String) : DecodeM α := throw (valueFault message)

def complain (message : String) : DecodeM Unit :=
  modify fun d => { d with errors := d.errors ++ [message] }

def allowedShare (decodes : Nat) : Float :=
  if decodes ≥ 4000000 then 0.10
  else 0.99 - 0.89 * ((decodes - 400000).toFloat / 3600000.0)

/-- Whether `aliased` of `decodes` is too large a share. Up to 400000 decodes the bound is
99%, compared exactly: a share that passes it does so by far more than rounding. -/
def tooAliased (aliased decodes : Nat) : Bool :=
  if decodes ≤ 400000 then 100 * aliased > 99 * decodes
  else aliased.toFloat / decodes.toFloat > allowedShare decodes

def countDecode : DecodeM Unit := do
  let d ← get
  let decodes := d.decodes + 1
  let aliased := if d.depth > 0 then d.aliased + 1 else d.aliased
  set { d with decodes, aliased }
  if aliased > 100 && decodes > 1000 && tooAliased aliased decodes then
    fatal "document contains excessive aliasing"

def slotNode (slot : Nat) : DecodeM Node := do
  pure ((← get).slots[slot]?.getD default)

def withinAlias (name : String) (id : Nat) (body : DecodeM α) : DecodeM α := do
  if (← get).active.contains id then fatal ("anchor '" ++ name ++ "' value contains itself")
  modify fun d => { d with active := id :: d.active, depth := d.depth + 1 }
  let r ← body
  modify fun d => { d with active := d.active.erase id, depth := d.depth - 1 }
  pure r

def shownValue (v : String) : String :=
  let bs := v.toUTF8.toList
  if bs.length > 10 then Utf8.text (bs.take 7) ++ "..." else v

def Node.text : Node → String
  | .scalar v _ _ => v
  | .alias name _ _ _ => name
  | _ => ""

/-- The mismatch of a node decoded into a shape. A scalar's text follows its tag in
backquotes, except under a collection tag, where it follows the tag directly. -/
def mismatch (n : Node) (shape : Shape) : String :=
  let t := n.tag
  let shown := if t = "!!seq" || t = "!!map" then n.text else " `" ++ shownValue n.text ++ "`"
  "line " ++ toString n.line ++ ": cannot unmarshal " ++ t ++ shown ++ " into " ++ shape.typeName

def sameKey : Node → Node → Bool
  | .scalar a _ _, .scalar b _ _ => a = b
  | .sequence _ _ _, .sequence _ _ _ => true
  | .mapping _ _ _, .mapping _ _ _ => true
  | .alias a _ _ _, .alias b _ _ _ => a = b
  | _, _ => false

def duplicates : List (Node × Node) → List String
  | [] => []
  | (k, _) :: rest =>
    (rest.filter fun p => sameKey k p.1).map (fun p =>
      "line " ++ toString p.1.line ++ ": mapping key " ++ Quote.escapedQuoted p.1.text ++
        " already defined at line " ++ toString k.line) ++ duplicates rest

def isMergeKey : Node → Bool
  | .scalar "<<" t _ => t = "!!merge" || t = "" || t = "!"
  | _ => false

def isMappingIn (slots : Array Node) : Node → Bool
  | .mapping _ _ _ => true
  | .alias _ _ slot _ =>
    match slots[slot]? with
    | some (.mapping _ _ _) => true
    | _ => false
  | _ => false

/-- Whether a mapping decoded into a value of any type becomes a map from strings: every
key is a string or the merge key (an alias counting as the node it names). -/
def isTextMap (slots : Array Node) (pairs : List (Node × Node)) : Bool :=
  pairs.all fun (k, _) =>
    let t := match k with
      | .alias _ _ slot _ => (slots[slot]?.getD default).tag
      | k => k.tag
    t = "!!str" || t = "!!merge"

/-- Resolves a scalar: the tag it resolves to, what it stands for, and its bytes (those a
`!!binary` scalar spells in base64). A scalar tagged `!!str` is its text. -/
def scalarValue (v t : String) : DecodeM (String × Scalar × Bytes) := do
  if t = "!!str" then return ("!!str", .str, Utf8.encode v)
  match resolve t v with
  | .error m => fatal m
  | .ok (rt, r) =>
    if rt = "!!binary" then
      match base64Bytes? v.toList with
      | some bs => pure (rt, r, bs)
      | none => fatal "!!binary value contains invalid base64 data"
    else pure (rt, r, Utf8.encode v)

/-- The integer a scalar gives the count: a 64-bit integer as itself, a float converted
the way the machine does it when it is at most the largest integer. -/
def countOf : Scalar → Option Int
  | .int i => some i
  | .float f => if f.atMostInt64Max then some f.toInt64 else none
  | _ => none

/-- Decodes a scalar node into a shape. Null sets a value of any type or a map to nothing
and leaves a string, the count or the record alone. -/
def scalarInto (n : Node) (v t : String) (shape : Shape) : DecodeM (Option Decoded) := do
  let (_, r, bs) ← scalarValue v t
  if r = .null then
    match shape with
    | .any | .textMap | .anyMap => pure (some (.value .null))
    | _ => pure none
  else
    match shape with
    | .text => pure (some (.text bs))
    | .any =>
      match r with
      | .bool b => pure (some (.value (.bool b)))
      | .int i => pure (some (.value (.int i)))
      | .uint u => pure (some (.value (.uint u)))
      | .float f => pure (some (.value (.float f)))
      | _ => pure (some (.value (.text bs)))
    | .int =>
      match countOf r with
      | some i => pure (some (.int i))
      | none => do complain (mismatch n shape); pure none
    | _ => do complain (mismatch n shape); pure none

def fieldNames : List String := ["addr", "write_timeout", "shutdown_timeout", "count", "log_level"]

def setField (name : String) : Decoded → DecodeM Unit
  | .text bs => modify fun d =>
    let raw := d.raw
    let raw := if name = "addr" then { raw with addr := bs }
      else if name = "write_timeout" then { raw with writeTimeout := bs }
      else if name = "shutdown_timeout" then { raw with shutdownTimeout := bs }
      else if name = "log_level" then { raw with logLevel := bs }
      else raw
    { d with raw }
  | .int i => modify fun d => if name = "count" then { d with raw := { d.raw with count := i } } else d
  | _ => pure ()

def takenKey (taken : Option (List Value)) (k : Value) : Bool :=
  taken.any (·.any (Value.same · k))

def takeKey (taken : Option (List Value)) (k : Value) : Option (List Value) :=
  taken.map (· ++ [k])

def textEntries (es : List (Value × Value)) : List (Bytes × Value) :=
  es.filterMap fun e =>
    match e.1 with
    | .text bs => some (bs, e.2)
    | _ => none

mutual

def decodeNode : Nat → Node → Shape → DecodeM (Option Decoded)
  | 0, _, _ => pure none
  | fuel + 1, n, shape => do
    countDecode
    match n with
    | .alias name id slot _ => withinAlias name id (do decodeNode fuel (← slotNode slot) shape)
    | .scalar v t _ => scalarInto n v t shape
    | .sequence items _ _ =>
      if shape = .any then do
        let mut values : List Value := []
        for item in items do
          match ← decodeNode fuel item .any with
          | some (.value v) => values := values ++ [v]
          | _ => pure ()
        pure (some (.value (.list values)))
      else do
        complain (mismatch n shape)
        pure none
    | .mapping pairs _ _ => mappingInto fuel n pairs shape

def mappingInto : Nat → Node → List (Node × Node) → Shape → DecodeM (Option Decoded)
  | 0, _, _, _ => pure none
  | fuel + 1, n, pairs, shape => do
    let dups := duplicates pairs
    if !dups.isEmpty then
      modify fun d => { d with errors := d.errors ++ dups }
      return none
    match shape with
    | .settings => do
      recordPairs fuel pairs
      pure (some .filled)
    | .textMap => do
      let es ← mapPairs fuel pairs true
      pure (some (.value (.textMap (textEntries es))))
    | .anyMap => do
      let es ← mapPairs fuel pairs false
      pure (some (.value (.anyMap es)))
    | .any => do
      if isTextMap (← get).slots pairs then
        let es ← mapPairs fuel pairs true
        pure (some (.value (.textMap (textEntries es))))
      else
        let es ← mapPairs fuel pairs false
        pure (some (.value (.anyMap es)))
    | _ => do
      complain (mismatch n shape)
      pure none

/-- Decodes the pairs of a mapping into a map whose keys are strings (`textKeys`) or of any
type: the entries it sets, its merges' included. -/
def mapPairs : Nat → List (Node × Node) → Bool → DecodeM (List (Value × Value))
  | 0, _, _ => pure []
  | fuel + 1, pairs, textKeys => do
    let mut taken := (← get).merged
    modify fun d => { d with merged := none }
    let mut mergeValue : Option Node := none
    let mut entries : List (Value × Value) := []
    for (k, v) in pairs do
      if isMergeKey k then mergeValue := some v
      else
        let key? ← match ← decodeNode fuel k (if textKeys then .text else .any) with
          | some (.text bs) => pure (some (Value.text bs))
          | some (.value x) => pure (some x)
          | _ => pure none
        match key? with
        | none => pure ()
        | some key =>
          if !takenKey taken key then
            taken := takeKey taken key
            if key.isCollection then fatal ("invalid map key: " ++ key.render fuel)
            match ← decodeNode fuel v .any with
            | some (.value x) => entries := putEntry Value.same entries key x
            | _ => pure ()
    modify fun d => { d with merged := taken }
    match mergeValue with
    | some m =>
      let more ← mergeInto fuel pairs m (if textKeys then .textMap else .anyMap)
      pure (more.foldl (fun es e => putEntry Value.same es e.1 e.2) entries)
    | none => pure entries

/-- Decodes the pairs of a mapping into the settings record. A key names a field exactly;
a field named twice in one mapping is a mismatch, and other keys are passed over. -/
def recordPairs : Nat → List (Node × Node) → DecodeM Unit
  | 0, _ => pure ()
  | fuel + 1, pairs => do
    let mut taken := (← get).merged
    modify fun d => { d with merged := none }
    let mut mergeValue : Option Node := none
    let mut done : List String := []
    for (k, v) in pairs do
      if isMergeKey k then mergeValue := some v
      else
        match ← decodeNode fuel k .text with
        | some (.text bs) =>
          if !takenKey taken (.text bs) then
            taken := takeKey taken (.text bs)
            let name := Utf8.text bs
            if fieldNames.contains name && Utf8.encode name = bs then
              if done.contains name then
                complain ("line " ++ toString k.line ++ ": field " ++ name ++
                  " already set in type main.fileConfig")
              else
                done := done ++ [name]
                match ← decodeNode fuel v (if name = "count" then .int else .text) with
                | some got => setField name got
                | none => pure ()
        | _ => pure ()
    modify fun d => { d with merged := taken }
    match mergeValue with
    | some m =>
      let _ ← mergeInto fuel pairs m .settings
      pure ()
    | none => pure ()

/-- Merges the mappings a merge value names into what the mapping with the pairs `parent`
is decoded into: the entries they set, when that is a map. The outermost merge first takes
the keys of the parent, decoded into values of any type; a merge inside a merged mapping adds
the keys it takes to those of the merge around it. -/
def mergeInto : Nat → List (Node × Node) → Node → Shape → DecodeM (List (Value × Value))
  | 0, _, _, _ => pure []
  | fuel + 1, parent, m, shape => do
    let saved := (← get).merged
    if saved.isNone then
      let mut keys : List Value := []
      for (k, _) in parent do
        match ← decodeNode fuel k .any with
        | some (.value key) => keys := keys ++ [key]
        | _ => pure ()
      modify fun d => { d with merged := some keys }
    let slots := (← get).slots
    let refuse : DecodeM Unit := fatal "map merge requires map or sequence of maps as the value"
    let sources := match m with
      | .sequence items _ _ => items
      | _ => [m]
    let mut entries : List (Value × Value) := []
    for source in sources do
      if !isMappingIn slots source then refuse
      match ← decodeNode fuel source shape with
      | some (.value (.textMap es)) => entries := entries ++ es.map fun e => (Value.text e.1, e.2)
      | some (.value (.anyMap es)) => entries := entries ++ es
      | _ => pure ()
    modify fun d => { d with merged := if saved.isNone then none else d.merged }
    pure entries

end

def decodeFuel (text : String) : Nat := (text.length + 16) * (text.length + 16)

/-- Decodes a document into a shape from the start of a pass: what the root gave, and the
decoder at the end. -/
def decodePass (fuel : Nat) (doc : Document) (shape : Shape) : Except Fault (Option Decoded × Decoder) := do
  let run : DecodeM (Option Decoded) := do
    match doc.root with
    | none => pure none
    | some root =>
      countDecode
      decodeNode fuel root shape
  run.run (Decoder.start doc.slots)

def mismatchText (errs : List String) : String :=
  "yaml: unmarshal errors:\n  " ++ "\n  ".intercalate errs

/-- What a YAML settings file says, or the text of the first fault: the keys come from the
first pass, the fields from the second. -/
def decode (text : String) : Except String Raw :=
  match readFirst text with
  | .error f => .error f.text
  | .ok doc =>
    let fuel := decodeFuel text
    match decodePass fuel doc .textMap with
    | .error f => .error f.text
    | .ok (top, keys) =>
      if !keys.errors.isEmpty then .error (mismatchText keys.errors)
      else
        match decodePass fuel doc .settings with
        | .error f => .error f.text
        | .ok (_, fields) =>
          if !fields.errors.isEmpty then .error (mismatchText fields.errors)
          else
            let defined := match top with
              | some (.value (.textMap es)) => es.map fun e => Utf8.text e.1
              | _ => []
            .ok { fields.raw with defined }

end FramedLink.Config.Yaml
