import RecordSchema.Yaml.Token

/-!
# From text to tokens

Indentation opens and closes blocks, so the tokens that begin and end them are not in the text but
follow from columns. A scalar, an anchor or a bracket may turn out to be a key when a colon follows
it on its line, within 1024 characters; until then its place among the tokens is remembered, one
place for each level of brackets, and the token that marks a key is put there afterwards.
-/

set_option autoImplicit false

namespace RecordSchema.Yaml

/-- A place among the tokens where a key may begin. -/
structure PossibleKey where
  level : Nat
  /-- How many tokens stand before it. -/
  place : Nat
  /-- Nothing but a key can stand here. -/
  required : Bool
  index : Nat
  line : Nat
  column : Nat

/-- The tokens found so far and what decides about the next one. -/
structure TokenStream where
  cursor : Cursor
  tokens : Array Token := #[]
  /-- The depth of brackets. -/
  level : Nat := 0
  /-- The column of the innermost block, or -1 outside all blocks. -/
  indent : Int := -1
  outerIndents : List Int := []
  keyAllowed : Bool := true
  possible : List PossibleKey := []
  done : Bool := false

namespace TokenStream

def inFlow (s : TokenStream) : Bool := s.level != 0

def push (s : TokenStream) (t : Token) : TokenStream := { s with tokens := s.tokens.push t }

/-- Forgets the possible keys that lie on an earlier line or too far back; one that is required must
not be forgotten. -/
def dropStale (s : TokenStream) : Except DocumentFault TokenStream :=
  let stale (k : PossibleKey) : Bool :=
    k.line != s.cursor.line || 1024 < s.cursor.index - k.index
  if s.possible.any (fun k => stale k && k.required) then malformed
  else .ok { s with possible := s.possible.filter fun k => !stale k }

/-- Forgets the possible key at this level. -/
def dropPossible (s : TokenStream) : Except DocumentFault TokenStream :=
  if s.possible.any (fun k => k.level == s.level && k.required) then malformed
  else .ok { s with possible := s.possible.filter (·.level != s.level) }

/-- Remembers that the next token may begin a key. -/
def savePossible (s : TokenStream) : Except DocumentFault TokenStream :=
  if s.keyAllowed then do
    let required := !s.inFlow && s.indent == s.cursor.column
    let s ← s.dropPossible
    let c := s.cursor
    return { s with
      possible := ⟨s.level, s.tokens.size, required, c.index, c.line, c.column⟩ :: s.possible }
  else .ok s

/-- Ends the blocks that are indented further than a column. -/
def unwind (s : TokenStream) (column : Int) : TokenStream :=
  if s.inFlow then s
  else go s s.outerIndents
where
  go (s : TokenStream) : List Int → TokenStream
    | [] => s
    | outer :: rest =>
      if column < s.indent then
        go { s.push .blockEnd with indent := outer, outerIndents := rest } rest
      else s

/-- Begins a block at a column, if that is further in. -/
def addIndent (s : TokenStream) (column : Nat) : Option TokenStream :=
  if s.indent < column then
    some { s with indent := column, outerIndents := s.indent :: s.outerIndents }
  else none

/-- Adds a token for the character here. -/
def single (s : TokenStream) (t : Token) : TokenStream :=
  { s.push t with cursor := s.cursor.next }

/-- Skips spaces, comments and line breaks. Outside brackets a key may begin on every new line. -/
def skipToToken : Nat → TokenStream → TokenStream
  | 0, s => s
  | fuel + 1, s =>
    let c := s.cursor.skipSpaces
    let c := if c.current == '#' then c.skipLine else c
    match c.lineBreak with
    | ([], c) => { s with cursor := c }
    | (_, c) => skipToToken fuel { s with cursor := c, keyAllowed := s.keyAllowed || !s.inFlow }

/-- What ends every block: a directive, a document mark or the end. -/
def leaveBlocks (s : TokenStream) : Except DocumentFault TokenStream := do
  let s ← (s.unwind (-1)).dropPossible
  return { s with keyAllowed := false }

def fetchDirective (s : TokenStream) : Except DocumentFault TokenStream := do
  let s ← s.leaveBlocks
  let (t, cursor) ← scanDirective s.cursor
  return { s.push t with cursor }

def fetchDocumentMark (s : TokenStream) (t : Token) : Except DocumentFault TokenStream := do
  let s ← s.leaveBlocks
  return { s.push t with cursor := s.cursor.forward 3 }

def fetchFlowStart (s : TokenStream) (t : Token) : Except DocumentFault TokenStream := do
  let s ← s.savePossible
  return { s.single t with level := s.level + 1, keyAllowed := true }

def fetchFlowEnd (s : TokenStream) (t : Token) : Except DocumentFault TokenStream := do
  let s ← s.dropPossible
  return { s.single t with level := s.level - 1, keyAllowed := false }

def fetchFlowEntry (s : TokenStream) : Except DocumentFault TokenStream := do
  let s ← { s with keyAllowed := true }.dropPossible
  return s.single .flowEntry

/-- Outside brackets an entry or a key begins only where a key may; it begins a block of its own if
it is further in than the block around it. -/
def beginBlock (s : TokenStream) (start : Token) : Except DocumentFault TokenStream :=
  if s.inFlow then .ok s
  else if !s.keyAllowed then malformed
  else .ok (((s.addIndent s.cursor.column).map (·.push start)).getD s)

def fetchBlockEntry (s : TokenStream) : Except DocumentFault TokenStream := do
  let s ← s.beginBlock .blockSequenceStart
  let s ← { s with keyAllowed := true }.dropPossible
  return s.single .blockEntry

def fetchKey (s : TokenStream) : Except DocumentFault TokenStream := do
  let s ← s.beginBlock .blockMappingStart
  let s ← { s with keyAllowed := !s.inFlow }.dropPossible
  return s.single .key

def insert (s : TokenStream) (place : Nat) (t : Token) : TokenStream :=
  { s with tokens := s.tokens.insertIdxIfInBounds place t }

def fetchValue (s : TokenStream) : Except DocumentFault TokenStream := do
  match s.possible.find? (·.level == s.level) with
  | some k =>
    let s := { s with possible := s.possible.filter (·.level != s.level) }
    let s := if k.place < s.tokens.size then s.insert k.place .key else s.push .key
    let s :=
      if s.inFlow then s
      else ((s.addIndent k.column).map (·.insert k.place .blockMappingStart)).getD s
    return { s.single .value with keyAllowed := false }
  | none =>
    let s ← s.beginBlock .blockMappingStart
    let s ← { s with keyAllowed := !s.inFlow }.dropPossible
    return s.single .value

/-- A token that may begin a key and after which none can begin. -/
def fetchScanned (s : TokenStream) (scan : Cursor → Except DocumentFault (Token × Cursor)) :
    Except DocumentFault TokenStream := do
  let s ← s.savePossible
  let (t, cursor) ← scan s.cursor
  return { s.push t with cursor, keyAllowed := false }

def fetchBlockScalar (s : TokenStream) (folded : Bool) : Except DocumentFault TokenStream := do
  let s ← { s with keyAllowed := true }.dropPossible
  let (t, cursor) ← scanBlockScalar folded s.indent s.cursor
  return { s.push t with cursor }

def fetchPlain (s : TokenStream) : Except DocumentFault TokenStream := do
  let s ← s.savePossible
  let (t, crossed, cursor) := scanPlain s.inFlow s.indent s.cursor
  return { s.push t with cursor, keyAllowed := crossed }

/-- Can a plain scalar begin here? -/
def beginsPlain (s : TokenStream) : Bool :=
  let ch := s.cursor.current
  (!isGapOrEnd ch && !isOneOf "-?:,[]\x7b\x7d#&*!|>'\"%@\x60" ch) ||
    (!isGapOrEnd (s.cursor.peek 1) && (ch == '-' || (!s.inFlow && (ch == '?' || ch == ':'))))

/-- Adds the next token, with the tokens that indentation puts before it. -/
def fetch (s : TokenStream) : Except DocumentFault TokenStream := do
  let s ← (skipToToken (s.cursor.rest.length + 1) s).dropStale
  let s := s.unwind s.cursor.column
  let c := s.cursor
  let ch := c.current
  let gapAhead := isGapOrEnd (c.peek 1)
  if c.atEnd then
    let s ← s.leaveBlocks
    return { s with possible := [], done := true }
  else if ch == '%' && c.column == 0 then s.fetchDirective
  else if c.column == 0 && c.threeMarks '-' then s.fetchDocumentMark .documentStart
  else if c.column == 0 && c.threeMarks '.' then s.fetchDocumentMark .documentEnd
  else if ch == '[' then s.fetchFlowStart .flowSequenceStart
  else if ch == '\x7b' then s.fetchFlowStart .flowMappingStart
  else if ch == ']' then s.fetchFlowEnd .flowSequenceEnd
  else if ch == '\x7d' then s.fetchFlowEnd .flowMappingEnd
  else if ch == ',' then s.fetchFlowEntry
  else if ch == '-' && gapAhead then s.fetchBlockEntry
  else if ch == '?' && (s.inFlow || gapAhead) then s.fetchKey
  else if ch == ':' && (s.inFlow || gapAhead) then s.fetchValue
  else if ch == '*' then
    s.fetchScanned fun c => (scanAnchor c).map fun p => (.aliasName p.1, p.2)
  else if ch == '&' then
    s.fetchScanned fun c => (scanAnchor c).map fun p => (.anchor p.1, p.2)
  else if ch == '!' then s.fetchScanned scanTag
  else if ch == '|' && !s.inFlow then s.fetchBlockScalar false
  else if ch == '>' && !s.inFlow then s.fetchBlockScalar true
  else if ch == '\'' || ch == '"' then s.fetchScanned scanQuoted
  else if s.beginsPlain then s.fetchPlain
  else malformed

/-- How many tokens are certain: those before the first one that may still turn out to be a key. -/
def certain (s : TokenStream) : Nat :=
  s.possible.foldl (fun n k => min n k.place) s.tokens.size

/-- The tokens up to the end of the text, or up to the place where its fault shows. A fault shows
only when a token that is not certain is asked for. -/
def run : Nat → TokenStream → List Token
  | 0, s => s.tokens.toList
  | fuel + 1, s =>
    match s.dropStale with
    | .error cause => s.tokens.toList.take s.certain ++ [.fault cause]
    | .ok settled =>
      match settled.fetch with
      | .error cause => s.tokens.toList.take settled.certain ++ [.fault cause]
      | .ok s => if s.done then s.tokens.toList else run fuel s

end TokenStream

/-- May a character stand in a YAML text at all? -/
def isAllowedChar (c : Char) : Bool :=
  let n := c.toNat
  n == 0x09 || n == 0x0A || n == 0x0D || (0x20 ≤ n && n ≤ 0x7E) || n == 0x85 ||
    (0xA0 ≤ n && n ≤ 0xD7FF) || (0xE000 ≤ n && n ≤ 0xFFFD) || (0x10000 ≤ n && n ≤ 0x10FFFF)

/-- The tokens of a text. A byte order mark at its start is skipped. -/
def tokens (cs : List Char) : List Token :=
  if !cs.all isAllowedChar then [.fault .malformed]
  else
    let start : Cursor := { rest := cs }
    let start := if start.current == '\uFEFF' then start.next else start
    TokenStream.run (cs.length + 2) { cursor := start }

end RecordSchema.Yaml
