import FramedLink.Config.Yaml.Token
import FramedLink.Utf8
import Std.Data.HashMap

namespace FramedLink.Config.Yaml

def isBreak (c : Char) : Bool :=
  c = '\r' || c = '\n' || c = '\x85' || c = '\u2028' || c = '\u2029'

def isBlank (c : Char) : Bool := c = ' ' || c = '\t'

def isBlankz : Option Char → Bool
  | none => true
  | some c => isBlank c || isBreak c

def isBreakz : Option Char → Bool
  | none => true
  | some c => isBreak c

def isWordChar (c : Char) : Bool := c.isAlphanum || c = '_' || c = '-'

def isHexDigit (c : Char) : Bool := c.isDigit || ('a' ≤ c && c ≤ 'f') || ('A' ≤ c && c ≤ 'F')

def hexValue (c : Char) : Nat :=
  if c.isDigit then c.toNat - 48
  else if 'a' ≤ c && c ≤ 'f' then c.toNat - 87
  else c.toNat - 55

/-- A place where a key without `?` may have started. -/
structure SimpleKey where
  possible : Bool
  required : Bool
  tokenNumber : Nat
  mark : Mark

/-- The lexer: the text left, the length of the whole text (which bounds every scan), the
mark, every token fetched so far (the builder has taken `taken` of them), and the indentation
and flow state. -/
structure Lexer where
  rest : List Char
  size : Nat
  mark : Mark
  tokens : Array Token
  taken : Nat
  started : Bool
  ended : Bool
  indent : Int
  indents : List Int
  simpleKeyAllowed : Bool
  simpleKeys : List SimpleKey
  keysByToken : Std.HashMap Nat SimpleKey
  flowLevel : Nat

namespace Lexer

def init (text : List Char) : Lexer :=
  ⟨text, text.length, ⟨0, 0, 0⟩, #[], 0, false, false, -1, [], false, [], ∅, 0⟩

def at? (s : Lexer) (k : Nat) : Option Char := s.rest[k]?

def skip (s : Lexer) : Lexer :=
  match s.rest with
  | [] => s
  | _ :: cs => { s with rest := cs, mark := ⟨s.mark.index + 1, s.mark.line, s.mark.column + 1⟩ }

def skipN : Nat → Lexer → Lexer
  | 0, s => s
  | n + 1, s => skipN n s.skip

def skipLine (s : Lexer) : Lexer :=
  match s.rest with
  | '\r' :: '\n' :: cs => { s with rest := cs, mark := ⟨s.mark.index + 2, s.mark.line + 1, 0⟩ }
  | c :: cs =>
    if isBreak c then { s with rest := cs, mark := ⟨s.mark.index + 1, s.mark.line + 1, 0⟩ } else s
  | [] => s

/-- Moves past a line break and answers what it stands for in a scalar: a newline, or the
line or paragraph separator itself. -/
def readLine (s : Lexer) : List Char × Lexer :=
  match s.rest with
  | c :: _ =>
    if c = '\r' || c = '\n' || c = '\x85' then (['\n'], s.skipLine)
    else if isBreak c then ([c], s.skipLine)
    else ([], s)
  | [] => ([], s)

def push (s : Lexer) (kind : TokenKind) (start stop : Mark) : Lexer :=
  { s with tokens := s.tokens.push ⟨kind, start, stop⟩ }

def insertToken (ts : Array Token) (n : Nat) (t : Token) : Array Token :=
  if h : n ≤ ts.size then ts.insertIdx n t h else ts.push t

def atDocumentMarker (s : Lexer) : Bool :=
  s.mark.column = 0 && (s.rest.take 3 = ['-', '-', '-'] || s.rest.take 3 = ['.', '.', '.']) &&
    isBlankz (s.at? 3)

def skipSpaces (s : Lexer) : Lexer :=
  let tabsOk := s.flowLevel > 0 || !s.simpleKeyAllowed
  s.skipN (s.rest.takeWhile fun c => c = ' ' || (tabsOk && c = '\t')).length

def skipComment (s : Lexer) : Lexer :=
  if s.rest.head? = some '#' then s.skipN (s.rest.takeWhile fun c => !isBreak c).length else s

end Lexer

abbrev LexM := StateT Lexer (Except Fault)

def lexFail (context : String) (contextMark : Mark) (problem : String) : LexM α := do
  throw (tokenFault context contextMark problem (← get).mark)

def maxDepth : Nat := 10000

def depthProblem : String := "exceeded max depth of " ++ toString maxDepth

/-- Skips blanks, comments and line breaks up to the next token; a line break in block
context allows a simple key again. -/
def scanToNextToken : Nat → Lexer → Lexer
  | 0, s => s
  | fuel + 1, s =>
    let s := if s.mark.column = 0 && s.rest.head? = some '\uFEFF' then s.skip else s
    let s := s.skipSpaces.skipComment
    match s.rest.head? with
    | some c =>
      if isBreak c then
        scanToNextToken fuel { s.skipLine with simpleKeyAllowed := s.flowLevel = 0 || s.simpleKeyAllowed }
      else s
    | none => s

def removeSimpleKey : LexM Unit := do
  let s ← get
  match s.simpleKeys with
  | k :: ks =>
    if k.possible then
      if k.required then lexFail "while scanning a simple key" k.mark "could not find expected ':'"
      else
        set { s with simpleKeys := { k with possible := false } :: ks,
                     keysByToken := s.keysByToken.erase k.tokenNumber }
  | [] => pure ()

def saveSimpleKey : LexM Unit := do
  let s ← get
  if s.simpleKeyAllowed then
    let key : SimpleKey :=
      ⟨true, s.flowLevel = 0 && s.indent = (s.mark.column : Int), s.tokens.size, s.mark⟩
    removeSimpleKey
    modify fun s => { s with simpleKeys := key :: s.simpleKeys.drop 1,
                             keysByToken := s.keysByToken.insert key.tokenNumber key }

/-- Opens a block at `column` when it is further right than the current indentation: pushes
the indentation and puts the start token at position `number` (or at the end). -/
def rollIndent (column : Nat) (number : Option Nat) (kind : TokenKind) (mark : Mark) : LexM Unit := do
  let s ← get
  if s.flowLevel = 0 && s.indent < (column : Int) then
    if s.indents.length ≥ maxDepth then
      lexFail "while increasing indent level" ((s.simpleKeys.head?.map (·.mark)).getD s.mark) depthProblem
    let t : Token := ⟨kind, mark, mark⟩
    let tokens := match number with
      | some n => Lexer.insertToken s.tokens n t
      | none => s.tokens.push t
    set { s with indents := s.indent :: s.indents, indent := (column : Int), tokens }

def unrollFrom (column : Int) (mark : Mark) : Int → List Int → Array Token → Int × List Int × Array Token
  | indent, i :: is, toks =>
    if indent > column then unrollFrom column mark i is (toks.push ⟨.blockEnd, mark, mark⟩)
    else (indent, i :: is, toks)
  | indent, [], toks => (indent, [], toks)

/-- Closes the blocks indented further than `column`; their ends are marked just before
`scanMark`. -/
def unrollIndent (column : Int) (scanMark : Mark) : LexM Unit :=
  modify fun s =>
    if s.flowLevel = 0 then
      let (indent, indents, tokens) :=
        unrollFrom column { scanMark with index := scanMark.index - 1 } s.indent s.indents s.tokens
      { s with indent, indents, tokens }
    else s

def fetchStreamStart : LexM Unit :=
  modify fun s =>
    let slot : SimpleKey := ⟨false, false, 0, s.mark⟩
    { s.push .streamStart s.mark s.mark with
      indent := -1, simpleKeyAllowed := true, started := true, simpleKeys := [slot] }

def fetchStreamEnd : LexM Unit := do
  modify fun s =>
    if s.mark.column ≠ 0 then { s with mark := { s.mark with column := 0, line := s.mark.line + 1 } } else s
  unrollIndent (-1) (← get).mark
  removeSimpleKey
  modify fun s => { s.push .streamEnd s.mark s.mark with simpleKeyAllowed := false, ended := true }

def fetchDocumentIndicator (kind : TokenKind) : LexM Unit := do
  unrollIndent (-1) (← get).mark
  removeSimpleKey
  modify fun s =>
    let t := s.skipN 3
    { t.push kind s.mark t.mark with simpleKeyAllowed := false }

def fetchIndicator (kind : TokenKind) : LexM Unit :=
  modify fun s => let t := s.skip; t.push kind s.mark t.mark

def fetchFlowCollectionStart (kind : TokenKind) : LexM Unit := do
  saveSimpleKey
  modify fun s =>
    let slot : SimpleKey := ⟨false, false, 0, s.mark⟩
    { s with simpleKeys := slot :: s.simpleKeys, flowLevel := s.flowLevel + 1, simpleKeyAllowed := true }
  let s ← get
  if s.flowLevel > maxDepth then lexFail "while increasing flow level" s.mark depthProblem
  fetchIndicator kind

def fetchFlowCollectionEnd (kind : TokenKind) : LexM Unit := do
  removeSimpleKey
  modify fun s =>
    let s := if s.flowLevel > 0 then { s with flowLevel := s.flowLevel - 1, simpleKeys := s.simpleKeys.drop 1 } else s
    { s with simpleKeyAllowed := false }
  fetchIndicator kind

def fetchFlowEntry : LexM Unit := do
  removeSimpleKey
  modify fun s => { s with simpleKeyAllowed := true }
  fetchIndicator .flowEntry

def fetchBlockEntry : LexM Unit := do
  let s ← get
  if s.flowLevel = 0 then
    if !s.simpleKeyAllowed then lexFail "" s.mark "block sequence entries are not allowed in this context"
    rollIndent s.mark.column none .blockSequenceStart s.mark
  removeSimpleKey
  modify fun s => { s with simpleKeyAllowed := true }
  fetchIndicator .blockEntry

def fetchKey : LexM Unit := do
  let s ← get
  if s.flowLevel = 0 then
    if !s.simpleKeyAllowed then lexFail "" s.mark "mapping keys are not allowed in this context"
    rollIndent s.mark.column none .blockMappingStart s.mark
  removeSimpleKey
  modify fun s => { s with simpleKeyAllowed := s.flowLevel = 0 }
  fetchIndicator .key

/-- Reads `:` before a value. When a simple key is pending, its `KEY` token (and perhaps the
start of a block mapping) is inserted where it began. -/
def fetchValue : LexM Unit := do
  let s ← get
  match s.simpleKeys with
  | k :: ks =>
    let stale := k.mark.line < s.mark.line || k.mark.index + 1024 < s.mark.index
    if k.possible && stale && k.required then
      lexFail "while scanning a simple key" k.mark "could not find expected ':'"
    else if k.possible && !stale then
      let t : Token := ⟨.key, k.mark, k.mark⟩
      set { s with tokens := Lexer.insertToken s.tokens k.tokenNumber t }
      rollIndent k.mark.column (some k.tokenNumber) .blockMappingStart k.mark
      modify fun s => { s with simpleKeys := { k with possible := false } :: ks,
                               keysByToken := s.keysByToken.erase k.tokenNumber, simpleKeyAllowed := false }
    else do
      let s := if k.possible then
          { s with simpleKeys := { k with possible := false } :: ks,
                   keysByToken := s.keysByToken.erase k.tokenNumber }
        else s
      set s
      if s.flowLevel = 0 then
        if !s.simpleKeyAllowed then lexFail "" s.mark "mapping values are not allowed in this context"
        rollIndent s.mark.column none .blockMappingStart s.mark
      modify fun s => { s with simpleKeyAllowed := s.flowLevel = 0 }
  | [] => pure ()
  fetchIndicator .value

def fetchAnchor (isAlias : Bool) : LexM Unit := do
  saveSimpleKey
  modify fun s => { s with simpleKeyAllowed := false }
  let s ← get
  let start := s.mark
  let t := s.skip
  let name := t.rest.takeWhile isWordChar
  let t := t.skipN name.length
  set t
  let ends := isBlankz t.rest.head? || t.rest.head?.any fun c =>
    c = '?' || c = ':' || c = ',' || c = ']' || c = '\x7d' || c = '%' || c = '@' || c = '`'
  if name.isEmpty || !ends then
    lexFail (if isAlias then "while scanning an alias" else "while scanning an anchor") start
      "did not find expected alphabetic or numeric character"
  let n := String.ofList name
  set (t.push (if isAlias then .alias n else .anchor n) start t.mark)

def isUriChar (c : Char) : Bool :=
  isWordChar c || ";/?:@&=+$,.%!~*'()[]".contains c

def tagContext (directive : Bool) : String :=
  if directive then "while parsing a %TAG directive" else "while parsing a tag"

def uriOctet (directive : Bool) (start : Mark) : LexM UInt8 := do
  let s ← get
  match s.rest with
  | '%' :: h :: l :: _ =>
    if isHexDigit h && isHexDigit l then
      set (s.skipN 3)
      pure (UInt8.ofNat (hexValue h * 16 + hexValue l))
    else lexFail (tagContext directive) start "did not find URI escaped octet"
  | _ => lexFail (tagContext directive) start "did not find URI escaped octet"

def uriTail (directive : Bool) (start : Mark) : Nat → LexM Bytes
  | 0 => pure []
  | n + 1 => do
    let b ← uriOctet directive start
    if b / 64 ≠ 2 then lexFail (tagContext directive) start "found an incorrect trailing UTF-8 octet"
    let bs ← uriTail directive start n
    pure (b :: bs)

/-- Reads the escapes of one character of a tag: a leading octet that tells how many octets
the character has, then those that follow it. -/
def uriEscape (directive : Bool) (start : Mark) : LexM Bytes := do
  let b ← uriOctet directive start
  let w := if b < 0x80 then 1 else if b / 32 = 6 then 2 else if b / 16 = 14 then 3
    else if b / 8 = 30 then 4 else 0
  if w = 0 then lexFail (tagContext directive) start "found an incorrect leading UTF-8 octet"
  let bs ← uriTail directive start (w - 1)
  pure (b :: bs)

def uriBody (directive : Bool) (start : Mark) : Nat → Bytes → LexM Bytes
  | 0, acc => pure acc
  | fuel + 1, acc => do
    let s ← get
    match s.rest with
    | c :: _ =>
      if c = '%' then do
        let bs ← uriEscape directive start
        uriBody directive start fuel (acc ++ bs)
      else if isUriChar c then do
        set s.skip
        uriBody directive start fuel (acc ++ Utf8.encode (String.singleton c))
      else pure acc
    | [] => pure acc

/-- Reads the `!`-delimited handle of a tag: `!`, `!!` or `!name!`, or a `!` followed by a
name that is part of the suffix. -/
def tagHandle (directive : Bool) (start : Mark) : LexM (List Char) := do
  let s ← get
  if s.rest.head? ≠ some '!' then
    lexFail (if directive then "while parsing a %TAG directive" else "while parsing a tag") start
      "did not find expected '!'"
  let t := s.skip
  let name := t.rest.takeWhile isWordChar
  let t := t.skipN name.length
  if t.rest.head? = some '!' then
    set t.skip
    pure ('!' :: name ++ ['!'])
  else
    set t
    if directive && !name.isEmpty then
      lexFail "while parsing a %TAG directive" start "did not find expected '!'"
    pure ('!' :: name)

/-- Reads the rest of a tag after `head` (whose `!` is dropped). An escape `%XX` stands for
an octet, and the octets of one character must be escaped together. -/
def tagUri (directive : Bool) (head : List Char) (start : Mark) : LexM (List Char) := do
  let body ← uriBody directive start ((← get).size + 1) []
  if head.isEmpty && body.isEmpty then
    lexFail (tagContext directive) start "did not find expected tag URI"
  pure (head.drop 1 ++ Utf8.lossy body)

def fetchTag : LexM Unit := do
  saveSimpleKey
  modify fun s => { s with simpleKeyAllowed := false }
  let s ← get
  let start := s.mark
  let (handle, suffix) ← do
    if s.at? 1 = some '<' then
      set (s.skipN 2)
      let suffix ← tagUri false [] start
      let t ← get
      if t.rest.head? ≠ some '>' then lexFail "while scanning a tag" start "did not find the expected '>'"
      set t.skip
      pure ([], suffix)
    else
      let handle ← tagHandle false start
      if handle.length > 1 && handle.getLast? = some '!' then
        let suffix ← tagUri false [] start
        pure (handle, suffix)
      else
        let suffix ← tagUri false handle start
        if suffix.isEmpty then pure ([], ['!']) else pure (['!'], suffix)
  let t ← get
  if !isBlankz t.rest.head? && !(t.flowLevel > 0 && t.rest.head? = some ',') then
    lexFail "while scanning a tag" start "did not find expected whitespace or line break"
  set (t.push (.tag (String.ofList handle) (String.ofList suffix)) start t.mark)

def versionNumber (start : Mark) : LexM Nat := do
  let s ← get
  let ds := s.rest.takeWhile Char.isDigit
  if ds.length > 2 then
    set (s.skipN 2)
    lexFail "while scanning a %YAML directive" start "found extremely long version number"
  if ds.isEmpty then lexFail "while scanning a %YAML directive" start "did not find expected version number"
  set (s.skipN ds.length)
  pure (ds.foldl (fun n c => n * 10 + (c.toNat - 48)) 0)

def fetchDirective : LexM Unit := do
  unrollIndent (-1) (← get).mark
  removeSimpleKey
  modify fun s => { s with simpleKeyAllowed := false }
  let s ← get
  let start := s.mark
  let t := s.skip
  let name := t.rest.takeWhile isWordChar
  let t := t.skipN name.length
  set t
  if name.isEmpty then lexFail "while scanning a directive" start "could not find expected directive name"
  if !isBlankz t.rest.head? then
    lexFail "while scanning a directive" start "found unexpected non-alphabetical character"
  let kind ← do
    if name = ['Y', 'A', 'M', 'L'] then
      modify fun s => s.skipN (s.rest.takeWhile isBlank).length
      let major ← versionNumber start
      if (← get).rest.head? ≠ some '.' then
        lexFail "while scanning a %YAML directive" start "did not find expected digit or '.' character"
      modify Lexer.skip
      let minor ← versionNumber start
      pure (TokenKind.versionDirective major minor)
    else if name = ['T', 'A', 'G'] then
      modify fun s => s.skipN (s.rest.takeWhile isBlank).length
      let handle ← tagHandle true start
      if !((← get).rest.head?.any isBlank) then
        lexFail "while scanning a %TAG directive" start "did not find expected whitespace"
      modify fun s => s.skipN (s.rest.takeWhile isBlank).length
      let pre ← tagUri true [] start
      if !isBlankz (← get).rest.head? then
        lexFail "while scanning a %TAG directive" start "did not find expected whitespace or line break"
      pure (TokenKind.tagDirective (String.ofList handle) (String.ofList pre))
    else lexFail "while scanning a directive" start "found unknown directive name"
  modify fun s => let s := s.push kind start s.mark; s.skipN (s.rest.takeWhile isBlank).length
  modify fun s => if s.rest.head? = some '#' then s.skipN (s.rest.takeWhile fun c => !isBreak c).length else s
  let s ← get
  if !isBreakz s.rest.head? then
    lexFail "while scanning a directive" start "did not find expected comment or line break"
  set s.skipLine

/-- What a scalar has read so far (reversed) and the blanks and breaks waiting to be joined
in. -/
structure Folding where
  text : List Char
  leadingBreak : List Char
  trailingBreaks : List Char
  whitespaces : List Char
  leadingBlanks : Bool

def Folding.empty : Folding := ⟨[], [], [], [], false⟩

/-- Joins the waiting blanks or breaks in before the next character: one line break folds to
a space (or to the empty lines that followed it); other breaks and blanks stay. -/
def Folding.join (f : Folding) : Folding :=
  if f.leadingBlanks then
    let add :=
      if f.leadingBreak.head? = some '\n' then
        if f.trailingBreaks.isEmpty then [' '] else f.trailingBreaks
      else f.leadingBreak ++ f.trailingBreaks
    { f with text := add.reverse ++ f.text, leadingBreak := [], trailingBreaks := [], leadingBlanks := false }
  else { f with text := f.whitespaces.reverse ++ f.text, whitespaces := [] }

/-- Reads the blanks and line breaks inside a scalar. With a limit, a tab in the indentation
of a continuation line (left of the limit column) is a fault of the scalar started at the
given mark. -/
def scalarBlanks (limit : Option (Mark × Int)) : Nat → Lexer × Folding → Except Fault (Lexer × Folding)
  | 0, st => .ok st
  | fuel + 1, (s, f) =>
    match s.rest with
    | c :: _ =>
      if isBlank c then
        match limit with
        | some (start, indent) =>
          if f.leadingBlanks && (s.mark.column : Int) < indent && c = '\t' then
            .error (tokenFault "while scanning a plain scalar" start "found a tab character that violates indentation" s.mark)
          else scalarBlanks limit fuel (s.skip, if f.leadingBlanks then f else { f with whitespaces := f.whitespaces ++ [c] })
        | none => scalarBlanks limit fuel (s.skip, if f.leadingBlanks then f else { f with whitespaces := f.whitespaces ++ [c] })
      else if isBreak c then
        let (br, s') := s.readLine
        if f.leadingBlanks then scalarBlanks limit fuel (s', { f with trailingBreaks := f.trailingBreaks ++ br })
        else scalarBlanks limit fuel (s', { f with whitespaces := [], leadingBreak := br, leadingBlanks := true })
      else .ok (s, f)
    | [] => .ok (s, f)

/-- Reads one word of a plain scalar, up to a blank, a `: ` or (in flow context) a flow
indicator; answers the mark after its last character. -/
def plainWord : Nat → Lexer × Folding × Mark → Lexer × Folding × Mark
  | 0, st => st
  | fuel + 1, (s, f, stop) =>
    match s.rest with
    | c :: more =>
      if isBlank c || isBreak c then (s, f, stop)
      else if (c = ':' && isBlankz more.head?) ||
          (s.flowLevel > 0 && (c = ',' || c = '?' || c = '[' || c = ']' || c = '\x7b' || c = '\x7d')) then
        (s, f, stop)
      else
        let f := if f.leadingBlanks || !f.whitespaces.isEmpty then f.join else f
        let s := s.skip
        plainWord fuel (s, { f with text := c :: f.text }, s.mark)
    | [] => (s, f, stop)

/-- Reads the words of a plain scalar; in block context a line indented less than `indent`
ends it. -/
def plainWords (start : Mark) (indent : Int) : Nat → Lexer × Folding × Mark → Except Fault (Lexer × Folding × Mark)
  | 0, st => .ok st
  | fuel + 1, (s, f, stop) =>
    if s.atDocumentMarker || s.rest.head? = some '#' then .ok (s, f, stop)
    else
      let (s, f, stop) := plainWord (s.size + 1) (s, f, stop)
      match s.rest.head? with
      | some c =>
        if isBlank c || isBreak c then
          match scalarBlanks (some (start, indent)) (s.size + 1) (s, f) with
          | .error e => .error e
          | .ok (s, f) =>
            if s.flowLevel = 0 && (s.mark.column : Int) < indent then .ok (s, f, stop)
            else plainWords start indent fuel (s, f, stop)
        else .ok (s, f, stop)
      | none => .ok (s, f, stop)

def fetchPlainScalar : LexM Unit := do
  saveSimpleKey
  modify fun s => { s with simpleKeyAllowed := false }
  let s ← get
  let start := s.mark
  match plainWords start (s.indent + 1) (s.size + 1) (s, Folding.empty, start) with
  | .error e => throw e
  | .ok (s, f, stop) =>
    let s := s.push (.scalar (String.ofList f.text.reverse) .plain) start stop
    set (if f.leadingBlanks then { s with simpleKeyAllowed := true } else s)

def escapeChar : Char → Option Char
  | '0' => some '\x00'
  | 'a' => some '\x07'
  | 'b' => some '\x08'
  | 't' => some '\t'
  | '\t' => some '\t'
  | 'n' => some '\n'
  | 'v' => some '\x0b'
  | 'f' => some '\x0c'
  | 'r' => some '\r'
  | 'e' => some '\x1b'
  | ' ' => some ' '
  | '"' => some '"'
  | '\'' => some '\''
  | '\\' => some '\\'
  | 'N' => some '\x85'
  | '_' => some '\xa0'
  | 'L' => some '\u2028'
  | 'P' => some '\u2029'
  | _ => none

/-- Reads the characters of a quoted scalar up to a blank, a line break or the closing
quote, decoding escapes; an escaped line break ends the word and starts the blanks. -/
def quotedWord (single : Bool) (start : Mark) : Nat → Lexer × Folding → Except Fault (Lexer × Folding)
  | 0, st => .ok st
  | fuel + 1, (s, f) =>
    match s.rest with
    | [] => .ok (s, f)
    | c :: more =>
      if isBlank c || isBreak c then .ok (s, f)
      else if single && c = '\'' && more.head? = some '\'' then
        quotedWord single start fuel (s.skipN 2, { f with text := '\'' :: f.text })
      else if single && c = '\'' then .ok (s, f)
      else if !single && c = '"' then .ok (s, f)
      else if !single && c = '\\' && more.head?.any isBreak then
        .ok (s.skip.skipLine, { f with leadingBlanks := true })
      else if !single && c = '\\' then
        match more.head?.bind escapeChar with
        | some e => quotedWord single start fuel (s.skipN 2, { f with text := e :: f.text })
        | none =>
          let width := match more.head? with
            | some 'x' => 2
            | some 'u' => 4
            | some 'U' => 8
            | _ => 0
          if width = 0 then
            .error (tokenFault "while parsing a quoted scalar" start "found unknown escape character" s.mark)
          else
            let s := s.skipN 2
            let ds := s.rest.take width
            if ds.length < width || !ds.all isHexDigit then
              .error (tokenFault "while parsing a quoted scalar" start "did not find expected hexdecimal number" s.mark)
            else
              let v := ds.foldl (fun a d => a * 16 + hexValue d) 0
              if (0xD800 ≤ v && v ≤ 0xDFFF) || v > 0x10FFFF then
                .error (tokenFault "while parsing a quoted scalar" start "found invalid Unicode character escape code" s.mark)
              else quotedWord single start fuel (s.skipN width, { f with text := Char.ofNat v :: f.text })
      else quotedWord single start fuel (s.skip, { f with text := c :: f.text })

def quotedWords (single : Bool) (start : Mark) : Nat → Lexer × Folding → Except Fault (Lexer × Folding)
  | 0, st => .ok st
  | fuel + 1, (s, f) =>
    if s.atDocumentMarker then
      .error (tokenFault "while scanning a quoted scalar" start "found unexpected document indicator" s.mark)
    else if s.rest.isEmpty then
      .error (tokenFault "while scanning a quoted scalar" start "found unexpected end of stream" s.mark)
    else
      match quotedWord single start (s.size + 1) (s, { f with leadingBlanks := false }) with
      | .error e => .error e
      | .ok (s, f) =>
        if s.rest.head? = some (if single then '\'' else '"') then .ok (s, f)
        else
          match scalarBlanks none (s.size + 1) (s, f) with
          | .error e => .error e
          | .ok (s, f) => quotedWords single start fuel (s, f.join)

def fetchQuotedScalar (single : Bool) : LexM Unit := do
  saveSimpleKey
  modify fun s => { s with simpleKeyAllowed := false }
  let s ← get
  let start := s.mark
  match quotedWords single start (s.size + 2) (s.skip, Folding.empty) with
  | .error e => throw e
  | .ok (s, f) =>
    let s := s.skip
    set (s.push (.scalar (String.ofList f.text.reverse) (if single then .singleQuoted else .doubleQuoted)) start s.mark)

/-- Reads the chomping (`+` keeps trailing breaks, `-` strips them) and indentation
indicators of a block scalar, in either order. -/
def blockIndicators (start : Mark) (s : Lexer) : Except Fault (Lexer × Int × Nat) :=
  let chomp := fun (c : Char) => if c = '+' then (1 : Int) else -1
  let zero := fun (t : Lexer) =>
    Except.error (tokenFault "while scanning a block scalar" start "found an indentation indicator equal to 0" t.mark)
  match s.rest with
  | c :: more =>
    if c = '+' || c = '-' then
      match more with
      | d :: _ =>
        if d.isDigit then
          if d = '0' then zero s.skip else .ok (s.skipN 2, chomp c, d.toNat - 48)
        else .ok (s.skip, chomp c, 0)
      | [] => .ok (s.skip, chomp c, 0)
    else if c.isDigit then
      if c = '0' then zero s
      else
        match more with
        | d :: _ => if d = '+' || d = '-' then .ok (s.skipN 2, chomp d, c.toNat - 48) else .ok (s.skip, 0, c.toNat - 48)
        | [] => .ok (s.skip, 0, c.toNat - 48)
    else .ok (s, 0, 0)
  | [] => .ok (s, 0, 0)

/-- Eats the indentation and the empty lines before the next line of a block scalar,
collecting the breaks; fixes the indentation from the deepest of those lines when it is not
known yet. Answers the lexer, the indentation, the breaks and the end mark. -/
def blockBreaks (start : Mark) (parent : Int) : Nat → Lexer × Nat × List Char × Nat × Mark →
    Except Fault (Lexer × Nat × List Char × Mark)
  | 0, (s, indent, breaks, _, stop) => .ok (s, indent, breaks, stop)
  | fuel + 1, (s, indent, breaks, deepest, stop) =>
    let n := (s.rest.takeWhile (· = ' ')).length
    let s := if indent = 0 then s.skipN n else s.skipN (min n (indent - min indent s.mark.column))
    let deepest := max deepest s.mark.column
    if (indent = 0 || s.mark.column < indent) && s.rest.head? = some '\t' then
      .error (tokenFault "while scanning a block scalar" start "found a tab character where an indentation space is expected" s.mark)
    else if s.rest.head?.any isBreak then
      let (br, s) := s.readLine
      blockBreaks start parent fuel (s, indent, breaks ++ br, deepest, s.mark)
    else
      let indent :=
        if indent = 0 then max 1 (max deepest (parent + 1).toNat) else indent
      .ok (s, indent, breaks, stop)

def blockLines (literal : Bool) (start : Mark) (parent : Int) (indent : Nat) :
    Nat → Lexer × List Char × List Char × List Char × Bool × Mark →
    Except Fault (Lexer × List Char × List Char × List Char × Mark)
  | 0, (s, text, leading, trailing, _, stop) => .ok (s, text, leading, trailing, stop)
  | fuel + 1, (s, text, leading, trailing, leadingBlank, stop) =>
    if s.mark.column = indent && !s.rest.isEmpty then
      let trailingBlank := s.rest.head?.any isBlank
      let text :=
        if !literal && !leadingBlank && !trailingBlank && leading.head? = some '\n' then
          if trailing.isEmpty then ' ' :: text else text
        else leading.reverse ++ text
      let text := trailing.reverse ++ text
      let leadingBlank := s.rest.head?.any isBlank
      let line := s.rest.takeWhile fun c => !isBreak c
      let s := s.skipN line.length
      let text := line.reverse ++ text
      let (br, s) := s.readLine
      match blockBreaks start parent (s.size + 1) (s, indent, [], 0, stop) with
      | .error e => .error e
      | .ok (s, _, trailing, stop) => blockLines literal start parent indent fuel (s, text, br, trailing, leadingBlank, stop)
    else .ok (s, text, leading, trailing, stop)

def fetchBlockScalar (literal : Bool) : LexM Unit := do
  removeSimpleKey
  modify fun s => { s with simpleKeyAllowed := true }
  let s ← get
  let start := s.mark
  match blockIndicators start s.skip with
  | .error e => throw e
  | .ok (s, chomping, increment) =>
    let s := s.skipN (s.rest.takeWhile isBlank).length
    let s := if s.rest.head? = some '#' then s.skipN (s.rest.takeWhile fun c => !isBreak c).length else s
    set s
    if !isBreakz s.rest.head? then
      lexFail "while scanning a block scalar" start "did not find expected comment or line break"
    let s := if s.rest.head?.any isBreak then s.skipLine else s
    let indent : Nat :=
      if increment > 0 then (if s.indent ≥ 0 then s.indent.toNat + increment else increment) else 0
    match blockBreaks start s.indent (s.size + 1) (s, indent, [], 0, s.mark) with
    | .error e => throw e
    | .ok (s, indent, trailing, stop) =>
      match blockLines literal start s.indent indent (s.size + 1) (s, [], [], trailing, false, stop) with
      | .error e => throw e
      | .ok (s, text, leading, trailing, stop) =>
        let text := if chomping ≠ -1 then leading.reverse ++ text else text
        let text := if chomping = 1 then trailing.reverse ++ text else text
        set (s.push (.scalar (String.ofList text.reverse) (if literal then .literal else .folded)) start stop)

def startsPlain (s : Lexer) (c : Char) : Bool :=
  let next := s.at? 1
  !(isBlankz (some c) || "-?:,[]\x7b\x7d#&*!|>'\"%@`".contains c) ||
    (c = '-' && !(next.any isBlank)) ||
    (s.flowLevel = 0 && (c = '?' || c = ':') && !isBlankz next)

def fetchNextToken : LexM Unit := do
  if !(← get).started then fetchStreamStart
  else
    let scanMark := (← get).mark
    modify fun s => scanToNextToken (s.size + 1) s
    unrollIndent (← get).mark.column scanMark
    let s ← get
    match s.rest with
    | [] => fetchStreamEnd
    | c :: _ =>
      let next := s.at? 1
      if s.mark.column = 0 && c = '%' then fetchDirective
      else if s.mark.column = 0 && s.rest.take 3 = ['-', '-', '-'] && isBlankz (s.at? 3) then
        fetchDocumentIndicator .documentStart
      else if s.mark.column = 0 && s.rest.take 3 = ['.', '.', '.'] && isBlankz (s.at? 3) then
        fetchDocumentIndicator .documentEnd
      else if c = '[' then fetchFlowCollectionStart .flowSequenceStart
      else if c = '\x7b' then fetchFlowCollectionStart .flowMappingStart
      else if c = ']' then fetchFlowCollectionEnd .flowSequenceEnd
      else if c = '\x7d' then fetchFlowCollectionEnd .flowMappingEnd
      else if c = ',' then fetchFlowEntry
      else if c = '-' && isBlankz next then fetchBlockEntry
      else if c = '?' && (s.flowLevel > 0 || isBlankz next) then fetchKey
      else if c = ':' && (s.flowLevel > 0 || isBlankz next) then fetchValue
      else if c = '*' then fetchAnchor true
      else if c = '&' then fetchAnchor false
      else if c = '!' then fetchTag
      else if c = '|' && s.flowLevel = 0 then fetchBlockScalar true
      else if c = '>' && s.flowLevel = 0 then fetchBlockScalar false
      else if c = '\'' then fetchQuotedScalar true
      else if c = '"' then fetchQuotedScalar false
      else if startsPlain s c then fetchPlainScalar
      else lexFail "while scanning for the next token" s.mark "found character that cannot start any token"

/-- Fetches tokens until the builder's next token is settled: three tokens are waiting, and no
pending simple key could still be inserted before the next one. A pending key found stale
there is dropped from the index only: it was not required, and a stale key that is not
required counts as no key wherever its slot is looked at again. -/
def fetchMore : Nat → LexM Unit
  | 0 => pure ()
  | fuel + 1 => do
    let s ← get
    if s.taken + 2 < s.tokens.size then
      match s.keysByToken.get? s.taken with
      | none => pure ()
      | some k =>
        if k.mark.line < s.mark.line || k.mark.index + 1024 < s.mark.index then
          if k.required then lexFail "while scanning a simple key" k.mark "could not find expected ':'"
          else modify fun s => { s with keysByToken := s.keysByToken.erase k.tokenNumber }
        else do
          fetchNextToken
          fetchMore fuel
    else do
      fetchNextToken
      fetchMore fuel

end FramedLink.Config.Yaml
