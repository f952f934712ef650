import FramedLink.Config.Yaml.Token.Lexer
import FramedLink.Config.Yaml.Scalar

namespace FramedLink.Config.Yaml

/-- A node of a YAML document. -/
inductive Node where
  | scalar (value : String) (tag : String) (line : Nat)
  | sequence (items : List Node) (tag : String) (line : Nat)
  | mapping (pairs : List (Node × Node)) (tag : String) (line : Nat)
  | alias (name : String) (id : Nat) (slot : Nat) (line : Nat)
deriving Repr, Inhabited

def Node.line : Node → Nat
  | .scalar _ _ l | .sequence _ _ l | .mapping _ _ l | .alias _ _ _ l => l

def Node.tag : Node → String
  | .scalar _ t _ | .sequence _ t _ | .mapping _ t _ => t
  | .alias _ _ _ _ => ""

/-- A document: its root node, if any, and the nodes its anchors named, by slot. -/
structure Document where
  root : Option Node
  slots : Array Node

/-- The builder: the lexer, the anchored nodes by slot, each anchor name with its newest slot
(newest first), the number of aliases met, and the tag handles of the document. -/
structure Builder where
  lexer : Lexer
  slots : Array Node
  anchors : List (String × Nat)
  aliases : Nat
  handles : List (String × String)

abbrev BuildM := ExceptT Fault (StateM Builder)

/-- The builder's next token, fetching as needed. The lexer is taken out of the builder while
it fetches, so that its tokens are added to in place; after a fault the builder keeps the
lexer's mark, which tells how far it got. -/
def peekToken : BuildM Token := do
  let lexer ← modifyGet fun p => (p.lexer, { p with lexer := { p.lexer with tokens := #[] } })
  match (fetchMore (2 * lexer.size + 16)).run lexer with
  | .error f => throw f
  | .ok ((), sc) =>
    modify fun p => { p with lexer := sc }
    match sc.tokens[sc.taken]? with
    | some t => pure t
    | none => pure ⟨.streamEnd, sc.mark, sc.mark⟩

def skipToken : BuildM Unit :=
  modify fun p => { p with lexer := { p.lexer with taken := p.lexer.taken + 1 } }

def emptyAt (m : Mark) : Node := .scalar "" "!!null" (m.line + 1)

/-- A scalar node: an explicit tag wins; a quoted or block scalar is a string; a plain one
gets the tag its text resolves to. -/
def scalarNode (value : String) (style : Style) (tag : String) (line : Nat) : Node :=
  let t :=
    if tag ≠ "" && tag ≠ "!" then shortTag tag
    else if style ≠ .plain then "!!str"
    else if value = "<<" then "!!merge"
    else match resolve "" value with
      | .ok (r, _) => r
      | .error _ => "!!str"
  .scalar value t line

def opening (anchor : Option String) : BuildM (Option Nat) :=
  match anchor with
  | some a => do
    let p ← get
    set { p with anchors := (a, p.slots.size) :: p.anchors, slots := p.slots.push default }
    pure (some p.slots.size)
  | none => pure none

def remember (slot : Option Nat) (n : Node) : BuildM Node := do
  match slot with
  | some i => modify fun p => { p with slots := p.slots.modify i fun _ => n }
  | none => pure ()
  pure n

def Token.isOneOf (t : Token) (ks : List TokenKind) : Bool := ks.contains t.kind

mutual

/-- Reads a node; `block` allows block collections, `indentless` a sequence whose `-` stands
at the indentation of the mapping around it. -/
def readNode : Nat → Bool → Bool → BuildM Node
  | 0, _, _ => throw (valueFault "document is nested too deeply")
  | fuel + 1, block, indentless => do
    let t ← peekToken
    match t.kind with
    | .alias name => do
      skipToken
      let p ← get
      match p.anchors.find? (·.1 = name) with
      | some (_, slot) => do
        set { p with aliases := p.aliases + 1 }
        pure (.alias name p.aliases slot (t.start.line + 1))
      | none => throw (valueFault ("unknown anchor '" ++ name ++ "' referenced"))
    | _ => do
      let start := t.start
      let (anchor, tagged, t) ← do
        match t.kind with
        | .anchor a => do
          skipToken
          let t2 ← peekToken
          match t2.kind with
          | .tag h s => do
            skipToken
            pure (some a, some (h, s, t2.start), ← peekToken)
          | _ => pure (some a, none, t2)
        | .tag h s => do
          skipToken
          let t2 ← peekToken
          match t2.kind with
          | .anchor a => do
            skipToken
            pure (some a, some (h, s, t.start), ← peekToken)
          | _ => pure (none, some (h, s, t.start), t2)
        | _ => pure (none, none, t)
      let tag ← match tagged with
        | none => pure ""
        | some (h, s, tagMark) =>
          if h.isEmpty then pure s
          else
            match (← get).handles.find? (·.1 = h) with
            | some (_, pre) => pure (pre ++ s)
            | none => throw (nodeFault "while parsing a node" start "found undefined tag handle" tagMark)
      let collectionTag := fun (dflt : String) => if tag ≠ "" && tag ≠ "!" then shortTag tag else dflt
      if indentless && t.kind = .blockEntry then do
        let slot ← opening anchor
        let items ← indentlessItems fuel []
        remember slot (.sequence items (collectionTag "!!seq") (start.line + 1))
      else
        match t.kind with
        | .scalar v style => do
          skipToken
          let slot ← opening anchor
          remember slot (scalarNode v style tag (start.line + 1))
        | .flowSequenceStart => do
          skipToken
          let slot ← opening anchor
          let items ← flowSequenceItems fuel t.start true []
          remember slot (.sequence items (collectionTag "!!seq") (start.line + 1))
        | .flowMappingStart => do
          skipToken
          let slot ← opening anchor
          let pairs ← flowMappingPairs fuel t.start true []
          remember slot (.mapping pairs (collectionTag "!!map") (start.line + 1))
        | .blockSequenceStart =>
          if block then do
            skipToken
            let slot ← opening anchor
            let items ← blockSequenceItems fuel t.start []
            remember slot (.sequence items (collectionTag "!!seq") (start.line + 1))
          else emptyOrFault anchor tag start t block
        | .blockMappingStart =>
          if block then do
            skipToken
            let slot ← opening anchor
            let pairs ← blockMappingPairs fuel t.start []
            remember slot (.mapping pairs (collectionTag "!!map") (start.line + 1))
          else emptyOrFault anchor tag start t block
        | _ => emptyOrFault anchor tag start t block

def emptyOrFault (anchor : Option String) (tag : String) (start : Mark) (t : Token) (block : Bool) : BuildM Node :=
  if anchor.isSome || tag ≠ "" then do
    let slot ← opening anchor
    remember slot (scalarNode "" .plain tag (start.line + 1))
  else
    throw (nodeFault (if block then "while parsing a block node" else "while parsing a flow node") start
      "did not find expected node content" t.start)

def blockSequenceItems : Nat → Mark → List Node → BuildM (List Node)
  | 0, _, acc => pure acc
  | fuel + 1, ctx, acc => do
    let t ← peekToken
    match t.kind with
    | .blockEntry => do
      skipToken
      let t2 ← peekToken
      let n ← if t2.isOneOf [.blockEntry, .blockEnd] then pure (emptyAt t.stop) else readNode fuel true false
      blockSequenceItems fuel ctx (acc ++ [n])
    | .blockEnd => do
      skipToken
      pure acc
    | _ => throw (nodeFault "while parsing a block collection" ctx "did not find expected '-' indicator" t.start)

def indentlessItems : Nat → List Node → BuildM (List Node)
  | 0, acc => pure acc
  | fuel + 1, acc => do
    let t ← peekToken
    if t.kind = .blockEntry then do
      skipToken
      let t2 ← peekToken
      let n ← if t2.isOneOf [.blockEntry, .key, .value, .blockEnd] then pure (emptyAt t.stop)
        else readNode fuel true false
      indentlessItems fuel (acc ++ [n])
    else pure acc

def blockMappingPairs : Nat → Mark → List (Node × Node) → BuildM (List (Node × Node))
  | 0, _, acc => pure acc
  | fuel + 1, ctx, acc => do
    let t ← peekToken
    match t.kind with
    | .key => do
      skipToken
      let t2 ← peekToken
      let k ← if t2.isOneOf [.key, .value, .blockEnd] then pure (emptyAt t.stop) else readNode fuel true true
      let t3 ← peekToken
      let v ← if t3.kind = .value then do
          skipToken
          let t4 ← peekToken
          if t4.isOneOf [.key, .value, .blockEnd] then pure (emptyAt t3.stop) else readNode fuel true true
        else pure (emptyAt t3.start)
      blockMappingPairs fuel ctx (acc ++ [(k, v)])
    | .blockEnd => do
      skipToken
      pure acc
    | _ => throw (nodeFault "while parsing a block mapping" ctx "did not find expected key" t.start)

def flowSequenceItems : Nat → Mark → Bool → List Node → BuildM (List Node)
  | 0, _, _, acc => pure acc
  | fuel + 1, ctx, first, acc => do
    let t ← peekToken
    if t.kind = .flowSequenceEnd then do
      skipToken
      pure acc
    else
      let t ← if first then pure t
        else if t.kind = .flowEntry then do
          skipToken
          peekToken
        else throw (nodeFault "while parsing a flow sequence" ctx "did not find expected ',' or ']'" t.start)
      if t.kind = .key then do
        skipToken
        let t2 ← peekToken
        let k ← if t2.isOneOf [.value, .flowEntry, .flowSequenceEnd] then pure (emptyAt t2.start)
          else readNode fuel false false
        let t3 ← peekToken
        let v ← if t3.kind = .value then do
            skipToken
            let t4 ← peekToken
            if t4.isOneOf [.flowEntry, .flowSequenceEnd] then pure (emptyAt t4.start) else readNode fuel false false
          else pure (emptyAt t3.start)
        flowSequenceItems fuel ctx false (acc ++ [.mapping [(k, v)] "!!map" (t.start.line + 1)])
      else if t.kind = .flowSequenceEnd then do
        skipToken
        pure acc
      else do
        let n ← readNode fuel false false
        flowSequenceItems fuel ctx false (acc ++ [n])

def flowMappingPairs : Nat → Mark → Bool → List (Node × Node) → BuildM (List (Node × Node))
  | 0, _, _, acc => pure acc
  | fuel + 1, ctx, first, acc => do
    let t ← peekToken
    if t.kind = .flowMappingEnd then do
      skipToken
      pure acc
    else
      let t ← if first then pure t
        else if t.kind = .flowEntry then do
          skipToken
          peekToken
        else throw (nodeFault "while parsing a flow mapping" ctx "did not find expected ',' or '\x7d'" t.start)
      if t.kind = .key then do
        skipToken
        let t2 ← peekToken
        let k ← if t2.isOneOf [.value, .flowEntry, .flowMappingEnd] then pure (emptyAt t2.start)
          else readNode fuel false false
        let t3 ← peekToken
        let v ← if t3.kind = .value then do
            skipToken
            let t4 ← peekToken
            if t4.isOneOf [.flowEntry, .flowMappingEnd] then pure (emptyAt t4.start) else readNode fuel false false
          else pure (emptyAt t3.start)
        flowMappingPairs fuel ctx false (acc ++ [(k, v)])
      else if t.kind = .flowMappingEnd then do
        skipToken
        pure acc
      else do
        let k ← readNode fuel false false
        let t3 ← peekToken
        flowMappingPairs fuel ctx false (acc ++ [(k, emptyAt t3.start)])

end

/-- Reads the `%YAML` and `%TAG` directives before a document, then adds the standard
handles `!` and `!!`. -/
def directives : Nat → Bool → BuildM Unit
  | 0, _ => pure ()
  | fuel + 1, seenVersion => do
    let t ← peekToken
    match t.kind with
    | .versionDirective major minor => do
      if seenVersion then throw (nodeFault "" default "found duplicate %YAML directive" t.start)
      if major ≠ 1 || (minor ≠ 1 && minor ≠ 2) then
        throw (nodeFault "" default "found incompatible YAML document" t.start)
      skipToken
      directives fuel true
    | .tagDirective h pre => do
      if ((← get).handles.any (·.1 = h)) then throw (nodeFault "" default "found duplicate %TAG directive" t.start)
      modify fun p => { p with handles := p.handles ++ [(h, pre)] }
      skipToken
      directives fuel seenVersion
    | _ =>
      modify fun p =>
        let add := fun (hs : List (String × String)) (d : String × String) =>
          if hs.any (·.1 = d.1) then hs else hs ++ [d]
        { p with handles := add (add p.handles ("!", "!")) ("!!", standardPrefix) }

/-- Reads the first document of the stream: its root node, or none for a stream with no
document. -/
def firstDocument (fuel : Nat) : BuildM (Option Node) := do
  let t ← peekToken
  if t.kind ≠ .streamStart then throw (nodeFault "" default "did not find expected <stream-start>" t.start)
  skipToken
  let t ← peekToken
  let explicit := match t.kind with
    | .versionDirective _ _ | .tagDirective _ _ | .documentStart => true
    | _ => false
  if t.kind = .streamEnd then pure none
  else
    directives fuel false
    let root ← if explicit then do
        let t ← peekToken
        if t.kind ≠ .documentStart then throw (nodeFault "" default "did not find expected <document start>" t.start)
        skipToken
        let t ← peekToken
        let content := match t.kind with
          | .versionDirective _ _ | .tagDirective _ _ | .documentStart | .documentEnd | .streamEnd => false
          | _ => true
        if content then readNode fuel true false else pure (emptyAt t.start)
      else readNode fuel true false
    let t ← peekToken
    if t.kind = .documentEnd then skipToken
    pure (some root)

/-- Whether a character may stand in a YAML text: tab, line breaks, printable ASCII, next
line, and the rest of Unicode but for surrogates and the two noncharacters at the end of the
basic plane. -/
def allowedChar (c : Char) : Bool :=
  let n := c.toNat
  n = 0x09 || n = 0x0A || n = 0x0D || (0x20 ≤ n && n ≤ 0x7E) || n = 0x85 ||
    (0xA0 ≤ n && n ≤ 0xD7FF) || (0xE000 ≤ n && n ≤ 0xFFFD) || (0x10000 ≤ n && n ≤ 0x10FFFF)

/-- How many characters the reader has checked once the lexer has needed the first `reach`
of them. The reader decodes 512 bytes at a time, the first read starting at byte `start`
(after a byte order mark), and a character cut at the end of a read waits for the next;
`offset` is the byte the next character starts at, `limit` the end of the current read, and
`count` the characters decoded so far. -/
def checkedCount (reach : Nat) : List Char → Nat → Nat → Nat → Nat
  | [], _, _, count => count
  | c :: rest, offset, limit, count =>
    let w := c.utf8Size
    if offset + w ≤ limit then checkedCount reach rest (offset + w) limit (count + 1)
    else if count ≥ reach then count
    else checkedCount reach rest (offset + w) (offset + 512) (count + 1)

/-- Reads the first document of a YAML text. An empty text reads as a single line break, and
a leading byte order mark is dropped. A character the text may not hold is refused when it
lies in a block the reader decoded: the lexer needs up to four characters past where it
stopped. -/
def readFirst (text : String) : Except Fault Document :=
  let cs := text.toList
  let cs := if cs.isEmpty then ['\n'] else cs
  let (start, cs) := match cs with
    | '\uFEFF' :: rest => (3, rest)
    | cs => (0, cs)
  let init : Builder := ⟨Lexer.init cs, #[], [], 0, []⟩
  let (result, p) := Id.run ((firstDocument (4 * cs.length + 16)).run.run init)
  let reached := match result with
    | .error f => if f.stage = .token then max f.problemMark.index p.lexer.mark.index else p.lexer.mark.index
    | .ok _ => p.lexer.mark.index
  let checked := cs.take (checkedCount (reached + 4) cs start 512 0)
  if !checked.all allowedChar then .error ⟨.input, "", default, "control characters are not allowed", default⟩
  else
    match result with
    | .ok root => .ok ⟨root, p.slots⟩
    | .error f => .error f

end FramedLink.Config.Yaml
