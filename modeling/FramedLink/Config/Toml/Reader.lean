import FramedLink.Config.Toml.Document
import FramedLink.Config.Toml.Scalar
import FramedLink.Text.Case
import FramedLink.Text.Letter

namespace FramedLink.Config.Toml

/-- Why a document could not be read: the line, the key the reader was last at (empty for
none), and the complaint. -/
structure ParseError where
  line : Nat
  lastKey : String
  message : String
deriving Repr

def ParseError.text (e : ParseError) : String :=
  let place := "toml: line " ++ toString e.line
  if e.lastKey.isEmpty then place ++ ": " ++ e.message
  else place ++ " (last key " ++ quoted e.lastKey ++ "): " ++ e.message

/-- Where the reader stands and what it has built. -/
structure Reader where
  rest : List Char
  line : Nat
  endsInNewline : Bool
  doc : Doc

abbrev ReadM := StateT Reader (Except ParseError)

def failAt (line : Nat) (message : String) : ReadM α := do
  throw ⟨line, (← get).doc.lastKey, message⟩

def fail (message : String) : ReadM α := do
  failAt (← get).line message

def failBefore (message : String) : ReadM α := do
  failAt ((← get).line - 1) message

def failAtEnd (message : String) : ReadM α := do
  let r ← get
  failAt (if r.endsInNewline then r.line - 1 else r.line) message

def change (f : Doc → Except Refusal Doc) : ReadM Unit := do
  let r ← get
  match f r.doc with
  | .ok d => set { r with doc := d }
  | .error e => throw ⟨r.doc.keyLine, e.lastKey, e.message⟩

def modifyDoc (f : Doc → Doc) : ReadM Unit :=
  modify fun r => { r with doc := f r.doc }

def isControl (c : Char) : Bool :=
  c ≠ '\t' && c ≠ '\n' && c ≠ '\r' && (c.toNat < 0x20 || c.toNat = 0x7f)

def isBlank (c : Char) : Bool := c = ' ' || c = '\t'

def isNewline (c : Char) : Bool := c = '\n' || c = '\r'

def controlMessage (c : Char) : String :=
  "TOML files cannot contain control characters: '0x" ++ String.ofList (Quote.hexWidth 2 c.toNat) ++ "'"

/-- Refuses a control character at the front of the text, and a carriage return not
followed by a newline. -/
def checkFront (cs : List Char) : ReadM Unit :=
  match cs with
  | c :: more =>
    if isControl c || (c = '\r' && more.head? != some '\n') then fail (controlMessage c)
    else pure ()
  | [] => pure ()

def peek : ReadM (Option Char) := do
  let r ← get
  checkFront r.rest
  pure r.rest.head?

def next : ReadM (Option Char) := do
  let r ← get
  checkFront r.rest
  match r.rest with
  | [] => pure none
  | c :: cs =>
    set { r with rest := cs, line := if c = '\n' then r.line + 1 else r.line }
    pure (some c)

def skipBlanks : ReadM Unit := do
  modify fun r => { r with rest := r.rest.dropWhile isBlank }
  let _ ← peek

def comment : ReadM Unit := do
  let r ← get
  match (r.rest.takeWhile fun c => !isNewline c).find? isControl with
  | some c => fail (controlMessage c)
  | none =>
    set { r with rest := r.rest.dropWhile fun c => !isNewline c }
    let _ ← peek

def fuelLeft : ReadM Nat := do
  pure (2 * (← get).rest.length + 8)

def hexDigits (word : String) (letter : Char) (seen : List Char) : Nat → ReadM (List Char)
  | 0 => pure []
  | n + 1 => do
    let complaint := fun (s : List Char) =>
      "expected " ++ word ++ " hexadecimal digits after '\\" ++ String.singleton letter ++
        "', but got " ++ quoted (String.ofList s) ++ " instead"
    match ← next with
    | some c =>
      if isHex c then do
        let ds ← hexDigits word letter (seen ++ [c]) n
        pure (c :: ds)
      else fail (complaint (seen ++ [c]))
    | none => failAtEnd (complaint seen)

/-- Reads what follows a backslash in a basic string; `seen` is the text so far, backslash
included. The end of the text reads as a NUL character, reported on the line before. -/
def escapeTail (seen : List Char) : ReadM (List Char) := do
  match ← next with
  | none => failBefore "invalid escape in string '\\\x00'"
  | some c =>
    if c = 'b' || c = 't' || c = 'n' || c = 'f' || c = 'r' || c = 'e' || c = '"' || c = ' ' ||
        c = '\t' || c = '\\' then pure [c]
    else if c = 'x' then do
      let ds ← hexDigits "two" 'x' (seen ++ [c]) 2
      pure (c :: ds)
    else if c = 'u' then do
      let ds ← hexDigits "four" 'u' (seen ++ [c]) 4
      pure (c :: ds)
    else if c = 'U' then do
      let ds ← hexDigits "eight" 'U' (seen ++ [c]) 8
      pure (c :: ds)
    else fail ("invalid escape in string '\\" ++ String.singleton c ++ "'")

/-- Reads a one-line basic string after its opening quote; `seen` is the text so far,
reversed. Answers the text as written, escapes undecoded. -/
def basicLine : Nat → List Char → ReadM (List Char)
  | 0, _ => failAtEnd "unexpected EOF; expected '\"'"
  | fuel + 1, seen => do
    match ← next with
    | none => failAtEnd "unexpected EOF; expected '\"'"
    | some c =>
      if isNewline c then failBefore "strings cannot contain newlines"
      else if c = '\\' then do
        let tail ← escapeTail ('\\' :: seen).reverse
        basicLine fuel (tail.reverse ++ '\\' :: seen)
      else if c = '"' then pure seen.reverse
      else basicLine fuel (c :: seen)

def literalLine : Nat → List Char → ReadM (List Char)
  | 0, _ => failAtEnd "unexpected EOF; expected \"'\""
  | fuel + 1, seen => do
    match ← next with
    | none => failAtEnd "unexpected EOF; expected \"'\""
    | some c =>
      if isNewline c then failBefore "strings cannot contain newlines"
      else if c = '\'' then pure seen.reverse
      else literalLine fuel (c :: seen)

/-- Reads a multi-line basic string after its opening quotes. Up to two quotes right before
the closing three belong to the string; a sixth is refused. -/
def basicBlock : Nat → List Char → ReadM (List Char)
  | 0, _ => failAtEnd "unexpected EOF; expected '\"\"\"'"
  | fuel + 1, seen => do
    match ← next with
    | none => failAtEnd "unexpected EOF; expected '\"\"\"'"
    | some c =>
      if c = '\\' then
        match (← get).rest with
        | d :: _ =>
          if isNewline d then do
            let _ ← next
            basicBlock fuel (d :: '\\' :: seen)
          else do
            let tail ← escapeTail ('\\' :: seen).reverse
            basicBlock fuel (tail.reverse ++ '\\' :: seen)
        | [] => do
          let tail ← escapeTail ('\\' :: seen).reverse
          basicBlock fuel (tail.reverse ++ '\\' :: seen)
      else if c = '"' then
        match (← get).rest with
        | '"' :: '"' :: _ => do
          let _ ← next
          let _ ← next
          if (← peek) = some '"' then
            let now := '"' :: '"' :: '"' :: seen
            if now.take 5 = ['"', '"', '"', '"', '"'] && now.take 6 ≠ ['"', '"', '"', '"', '"', '\\'] then
              fail "unexpected '\"\"\"\"\"\"'"
            else do
              modify fun r => { r with rest := '"' :: '"' :: r.rest }
              basicBlock fuel ('"' :: seen)
          else pure seen.reverse
        | _ => basicBlock fuel ('"' :: seen)
      else basicBlock fuel (c :: seen)

def literalBlock : Nat → List Char → ReadM (List Char)
  | 0, _ => failAtEnd "unexpected EOF; expected \"'''\""
  | fuel + 1, seen => do
    match ← next with
    | none => failAtEnd "unexpected EOF; expected \"'''\""
    | some c =>
      if c = '\'' then
        match (← get).rest with
        | '\'' :: '\'' :: _ => do
          let _ ← next
          let _ ← next
          if (← peek) = some '\'' then
            if ('\'' :: '\'' :: '\'' :: seen).take 5 = ['\'', '\'', '\'', '\'', '\''] then
              fail "unexpected \"''''''\""
            else do
              modify fun r => { r with rest := '\'' :: '\'' :: r.rest }
              literalBlock fuel ('\'' :: seen)
          else pure seen.reverse
        | _ => literalBlock fuel ('\'' :: seen)
      else literalBlock fuel (c :: seen)

def stripFirstNewline : List Char → List Char
  | '\n' :: rest => rest
  | '\r' :: '\n' :: rest => rest
  | s => s

def stripLineEnds : List Char → List Char
  | [] => []
  | '\\' :: '\\' :: rest => '\\' :: '\\' :: stripLineEnds rest
  | '\\' :: rest =>
    if (rest.takeWhile isSpaceOrBreak).contains '\n' then stripLineEnds (rest.dropWhile isSpaceOrBreak)
    else '\\' :: stripLineEnds rest
  | c :: rest => c :: stripLineEnds rest
termination_by s => s.length
decreasing_by
  all_goals simp_wf
  all_goals first
    | omega
    | (have h := length_dropWhile_le isSpaceOrBreak rest; omega)

def decodeBasic (line : Nat) (raw : List Char) : ReadM String :=
  match unescape raw with
  | .ok s => pure (String.ofList s)
  | .error m => failAt line m

/-- Reads one part of a key or table name: a quoted string, or a bare name (possibly
empty). -/
def namePart : ReadM String := do
  match ← peek with
  | some '"' => do
    let _ ← next
    let raw ← basicLine (← fuelLeft) []
    decodeBasic (← get).line raw
  | some '\'' => do
    let _ ← next
    let raw ← literalLine (← fuelLeft) []
    pure (String.ofList raw)
  | _ => do
    let r ← get
    set { r with rest := r.rest.dropWhile isBareChar }
    let _ ← peek
    pure (String.ofList (r.rest.takeWhile isBareChar))

def keyTail : Nat → ReadM (List String)
  | 0 => failAtEnd "unexpected EOF; expected key separator '='"
  | fuel + 1 => do
    skipBlanks
    match ← next with
    | none => failAtEnd "unexpected EOF; expected key separator '='"
    | some '.' => do
      skipBlanks
      match ← peek with
      | none => fail "unexpected '='"
      | some '=' => fail "unexpected '='"
      | some '.' => fail "unexpected '.'"
      | some _ => do
        let part ← namePart
        let more ← keyTail fuel
        pure (part :: more)
    | some '=' => pure []
    | some '\n' => failBefore "expected '.' or '=', but got '\\n' instead"
    | some c => fail ("expected '.' or '=', but got " ++ Quote.charQuoted c ++ " instead")

def keyParts : ReadM (List String × Nat) := do
  skipBlanks
  match ← peek with
  | none => fail "unexpected '=': key name appears blank"
  | some '=' => fail "unexpected '=': key name appears blank"
  | some '.' => fail "unexpected '.': keys cannot start with a '.'"
  | some _ => do
    let first ← namePart
    let line := (← get).line
    let more ← keyTail (← fuelLeft)
    pure (first :: more, line)

def judgeNumber (kind : NumberKind) (tok : List Char) : ReadM (Value × Nat) := do
  let line := (← get).line
  let text := String.ofList tok
  match kind with
  | .integer =>
    match integerValue text with
    | .ok n => pure (.integer n, line)
    | .error m => failAt line m
  | .float =>
    match floatCheck text with
    | .ok () => pure (.float, line)
    | .error m => failAt line m
  | .datetime =>
    let t := datetimeText (String.ofList (tok.reverse.dropWhile (· = ' ')).reverse)
    if datetimeOk t.toList then pure (.datetime, line)
    else failAt line ("invalid datetime: " ++ quoted t)

def numberValue (first : Char) : ReadM (Value × Nat) := do
  let r ← get
  match cutNumber first r.rest with
  | .error m => fail m
  | .ok (kind, tok, rest) => do
    set { r with rest }
    let _ ← peek
    judgeNumber kind tok

def signedValue (sign : Char) : ReadM (Value × Nat) := do
  let r ← get
  let take := fun (n : Nat) => set { r with rest := r.rest.drop n }
  match r.rest with
  | 'i' :: 'n' :: 'f' :: _ => do take 3; judgeNumber .float [sign, 'i', 'n', 'f']
  | 'i' :: 'n' :: _ => do take 2; fail ("invalid float: '" ++ String.ofList [sign, 'i', 'n'] ++ "'")
  | 'i' :: _ => do take 1; fail ("invalid float: '" ++ String.ofList [sign, 'i'] ++ "'")
  | 'n' :: 'a' :: 'n' :: _ => do take 3; judgeNumber .float [sign, 'n', 'a', 'n']
  | 'n' :: 'a' :: _ => do take 2; fail ("invalid float: '" ++ String.ofList [sign, 'n', 'a'] ++ "'")
  | 'n' :: _ => do take 1; fail ("invalid float: '" ++ String.ofList [sign, 'n'] ++ "'")
  | '.' :: _ => do take 1; fail "floats must start with a digit, not '.'"
  | d :: more =>
    if d = '0' && (more.head? = some 'b' || more.head? = some 'o' || more.head? = some 'x') then do
      take 1
      fail ("cannot use sign with non-decimal numbers: '" ++ String.ofList [sign, '0', more.headD ' '] ++ "'")
    else if isDigit d then do
      let (kind, tok, rest) := cutDecimal [sign, d] more
      set { r with rest }
      let _ ← peek
      judgeNumber kind tok
    else do
      let _ ← next
      fail ("expected a digit but got " ++ Quote.charQuoted d)
  | [] => failAtEnd "expected a digit but got '\\x00'"

def wordValue : ReadM (Value × Nat) := do
  let r ← get
  set { r with rest := r.rest.dropWhile Text.isLetter }
  let _ ← peek
  let w := String.ofList (r.rest.takeWhile Text.isLetter)
  let line := (← get).line
  if w = "true" then pure (.boolean true, line)
  else if w = "false" then pure (.boolean false, line)
  else fail ("expected value but found " ++ quoted w ++ " instead")

def infOrNan (c : Char) : ReadM (Value × Nat) := do
  let r ← get
  match r.rest with
  | 'n' :: 'f' :: _ => do set { r with rest := r.rest.drop 2 }; judgeNumber .float [c, 'n', 'f']
  | 'n' :: 'a' :: 'n' :: _ => do set { r with rest := r.rest.drop 3 }; judgeNumber .float [c, 'n', 'a', 'n']
  | 'n' :: 'a' :: _ => do set { r with rest := r.rest.drop 1 }; wordValue
  | 'n' :: _ => wordValue
  | 'a' :: 'n' :: _ => do set { r with rest := r.rest.drop 2 }; judgeNumber .float [c, 'a', 'n']
  | 'a' :: _ => wordValue
  | _ => do set { r with rest := c :: r.rest }; wordValue

mutual

/-- Reads a value; `inArray` tells an inline table that it is an element of an array.
Answers the value and its line. -/
def value : Nat → Bool → ReadM (Value × Nat)
  | 0, _ => failAtEnd "unexpected EOF; expected value"
  | fuel + 1, inArray => do
    skipBlanks
    match ← next with
    | none => failAtEnd "unexpected EOF; expected value"
    | some c =>
      if isDigit c then numberValue c
      else if c = '[' then do
        let line := (← get).line
        let vs ← arrayBody fuel []
        pure (.array vs, line)
      else if c = '\x7b' then do
        let line := (← get).line
        let t ← inlineTable fuel inArray
        pure (.table t, line)
      else if c = '"' then
        match (← get).rest with
        | '"' :: '"' :: _ => do
          let _ ← next
          let _ ← next
          let raw ← basicBlock (← fuelLeft) []
          let line := (← get).line
          let s ← decodeBasic line (stripLineEnds (stripFirstNewline raw))
          pure (.string s, line)
        | _ => do
          let raw ← basicLine (← fuelLeft) []
          let line := (← get).line
          let s ← decodeBasic line raw
          pure (.string s, line)
      else if c = '\'' then
        match (← get).rest with
        | '\'' :: '\'' :: _ => do
          let _ ← next
          let _ ← next
          let raw ← literalBlock (← fuelLeft) []
          pure (.string (String.ofList (stripFirstNewline raw)), (← get).line)
        | _ => do
          let raw ← literalLine (← fuelLeft) []
          pure (.string (String.ofList raw), (← get).line)
      else if c = '.' then fail "floats must start with a digit, not '.'"
      else if c = 'i' || c = 'n' then infOrNan c
      else if c = '+' || c = '-' then signedValue c
      else if Text.isLetter c then do
        modify fun r => { r with rest := c :: r.rest }
        wordValue
      else if c = '\n' then failBefore "expected value but found '\\n' instead"
      else fail ("expected value but found " ++ Quote.charQuoted c ++ " instead")

def arrayBody : Nat → List Value → ReadM (List Value)
  | 0, _ => failAtEnd "unexpected EOF; expected value"
  | fuel + 1, acc => do
    match ← peek with
    | some c =>
      if isBlank c || isNewline c then do
        let _ ← next
        arrayBody fuel acc
      else if c = '#' then do
        let _ ← next
        comment
        arrayBody fuel acc
      else if c = ',' then do
        let _ ← next
        fail "unexpected comma"
      else if c = ']' then do
        let _ ← next
        pure acc.reverse
      else do
        let (v, _) ← value fuel true
        arrayEnd fuel (v :: acc)
    | none => do
      let (v, _) ← value fuel true
      arrayEnd fuel (v :: acc)

def arrayEnd : Nat → List Value → ReadM (List Value)
  | 0, _ => failAtEnd "expected a comma (',') or array terminator (']'), but got end of file"
  | fuel + 1, acc => do
    match ← next with
    | none => failAtEnd "expected a comma (',') or array terminator (']'), but got end of file"
    | some c =>
      if isBlank c || isNewline c then arrayEnd fuel acc
      else if c = '#' then do
        comment
        arrayEnd fuel acc
      else if c = ',' then arrayBody fuel acc
      else if c = ']' then pure acc.reverse
      else fail ("expected a comma (',') or array terminator (']'), but got '" ++ String.singleton c ++ "'")

/-- Reads an inline table after its opening brace. Its keys are set in the document as they
are read, under the key being read; answers the table as written. -/
def inlineTable : Nat → Bool → ReadM Table
  | 0, _ => failAtEnd "unexpected EOF; expected value"
  | fuel + 1, inArray => do
    let d := (← get).doc
    let ctx := d.context ++ [d.currentKey]
    modifyDoc fun d => { d with context := ctx, currentKey := "" }
    change fun d => (d.addImplicit ctx).addContext ctx inArray
    let t ← inlineBody fuel ctx []
    modifyDoc fun e => { e with context := d.context, currentKey := d.currentKey }
    pure t

def inlineBody : Nat → List String → Table → ReadM Table
  | 0, _, _ => failAtEnd "unexpected EOF; expected value"
  | fuel + 1, ctx, acc => do
    match ← peek with
    | some c =>
      if isBlank c || isNewline c then do
        let _ ← next
        inlineBody fuel ctx acc
      else if c = '#' then do
        let _ ← next
        comment
        inlineBody fuel ctx acc
      else if c = ',' then do
        let _ ← next
        fail "unexpected comma"
      else if c = '\x7d' then do
        let _ ← next
        pure acc
      else inlinePair fuel ctx acc
    | none => inlinePair fuel ctx acc

def inlinePair : Nat → List String → Table → ReadM Table
  | 0, _, _ => failAtEnd "unexpected EOF; expected value"
  | fuel + 1, ctx, acc => do
    let (parts, line) ← keyParts
    let key := parts.getLastD ""
    modifyDoc fun d => { d with keyLine := line, currentKey := key }
    for p in parts.dropLast do
      change fun d => d.addImplicitContext (d.context ++ [p])
    let (v, _) ← value fuel false
    change fun d => d.setValue key v
    modifyDoc fun d => { d.setInfo key line with context := ctx }
    inlineEnd fuel ctx (acc.putPath parts.dropLast key v)

def inlineEnd : Nat → List String → Table → ReadM Table
  | 0, _, _ => failAtEnd "unexpected EOF; expected value"
  | fuel + 1, ctx, acc => do
    match ← next with
    | none => failAtEnd "expected a comma or an inline table terminator '\x7d', but got end of file instead"
    | some c =>
      if isBlank c || isNewline c then inlineEnd fuel ctx acc
      else if c = '#' then do
        comment
        inlineEnd fuel ctx acc
      else if c = ',' then do
        skipBlanks
        if (← peek) = some '\x7d' then inlineEnd fuel ctx acc
        else inlineBody fuel ctx acc
      else if c = '\x7d' then pure acc
      else
        fail ("expected a comma or an inline table terminator '\x7d', but got '" ++
          String.singleton c ++ "' instead")

end

def tableName : Nat → ReadM (List String × Nat)
  | 0 => fail "unexpected end of table name (table names cannot be empty)"
  | fuel + 1 => do
    skipBlanks
    match ← peek with
    | none => fail "unexpected end of table name (table names cannot be empty)"
    | some ']' => fail "unexpected end of table name (table names cannot be empty)"
    | some '.' => fail "unexpected table separator (table names cannot be empty)"
    | some _ => do
      let part ← namePart
      let line := (← get).line
      skipBlanks
      match ← next with
      | some '.' => do
        let (more, _) ← tableName fuel
        pure (part :: more, line)
      | some ']' => pure ([part], line)
      | some c => fail ("expected '.' or ']' to end table name, but got " ++ Quote.charQuoted c ++ " instead")
      | none => failAtEnd "expected '.' or ']' to end table name, but got '\\x00' instead"

def tableHeader : ReadM Unit := do
  let itemLine := (← get).line
  let array ← do
    if (← peek) = some '[' then do
      let _ ← next
      pure true
    else pure false
  let (parts, line) ← tableName (← fuelLeft)
  if array then
    match ← next with
    | some ']' => pure ()
    | some c => fail ("expected end of table array name delimiter ']', but got " ++ Quote.charQuoted c ++ " instead")
    | none => failAtEnd "expected end of table array name delimiter ']', but got '\\x00' instead"
  modifyDoc fun d => { d with keyLine := line }
  change fun d => d.addContext parts array
  modifyDoc fun d => d.setInfo "" itemLine

def keyValue : ReadM Unit := do
  let outer := (← get).doc.context
  let (parts, line) ← keyParts
  let key := parts.getLastD ""
  modifyDoc fun d => { d with keyLine := line, currentKey := key }
  for p in parts.dropLast do
    change fun d => d.addImplicitContext (d.context ++ [p])
  let (v, valueLine) ← value (← fuelLeft) false
  change fun d => d.setValue key v
  modifyDoc fun d => { d.setInfo key valueLine with context := outer, currentKey := "" }

def lineEnd : Nat → ReadM Unit
  | 0 => pure ()
  | fuel + 1 => do
    match ← next with
    | none => pure ()
    | some c =>
      if c = '#' then comment
      else if isBlank c then lineEnd fuel
      else if isNewline c then pure ()
      else
        fail ("expected a top-level item to end with a newline, comment, or EOF, but got " ++
          Quote.charQuoted c ++ " instead")

def lines : Nat → ReadM Unit
  | 0 => pure ()
  | fuel + 1 => do
    match ← peek with
    | none => pure ()
    | some c =>
      if isBlank c || isNewline c then do
        let _ ← next
        lines fuel
      else if c = '#' then do
        let _ ← next
        comment
        lines fuel
      else if c = '[' then do
        let _ ← next
        tableHeader
        lineEnd (← fuelLeft)
        lines fuel
      else do
        keyValue
        lineEnd (← fuelLeft)
        lines fuel

/-- Reads a TOML document: its top table and what is remembered about its keys, or the
text of the first fault. A leading byte order mark is skipped; a NUL among the first six
bytes is taken for UTF-16 and refused. -/
def read (text : String) : Except String Doc :=
  let cs := match text.toList with
    | '\uFEFF' :: rest => rest
    | cs => cs
  if ((String.ofList cs).toUTF8.toList.take 6).contains 0 then
    .error (ParseError.text
      ⟨1, "", "files cannot contain NULL bytes; probably using UTF-16; TOML files must be UTF-8"⟩)
  else
    match (lines (cs.length + 1)).run ⟨cs, 1, cs.getLast? == some '\n', Doc.empty⟩ with
    | .ok (_, r) => .ok r.doc
    | .error e => .error e.text

end FramedLink.Config.Toml
