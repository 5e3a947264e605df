import RecordSchema.Toml.Scalar
import RecordSchema.Value.Kind

/-!
# Reading TOML

A TOML document is a sequence of statements: entries of the current table, and headers that open a
table or append a table to a list. Tables that are written out, tables that a dotted key made and
everything inside an inline value are closed to later statements in their own ways; marks on the
paths of tables keep account of that.
-/

set_option autoImplicit false

namespace RecordSchema.Toml

open RecordSchema.Text

/-- The entries of a table. -/
abbrev Entries := List (Value × Value)

/-- Why a path is closed: nothing may be added under it, or no header may open it again. -/
inductive Mark where
  | frozen
  | explicit
deriving DecidableEq

/-- A mark on a path; if it is deep it covers everything under the path too. -/
structure Closed where
  path : List String
  mark : Mark
  deep : Bool

/-- The document read so far. -/
structure State where
  root : Entries := []
  marks : List Closed := []
  /-- Paths that a dotted key went through; they become explicit at the next header. -/
  pending : List (List String) := []
  /-- The path of the current table. -/
  header : List String := []

def isMarked (marks : List Closed) (path : List String) (mark : Mark) : Bool :=
  marks.any fun c =>
    c.mark == mark && (c.path == path || (c.deep && c.path.isPrefixOf path && !path.isEmpty))

/-- Skips a comment, which runs to the end of the line. -/
def skipComment (cs : List Char) : Except DocumentFault (List Char) :=
  match cs with
  | '#' :: rest =>
    if (rest.takeWhile (· != '\n')).any isControl then malformed
    else .ok (rest.dropWhile (· != '\n'))
  | cs => .ok cs

/-- Skips blanks, line ends and comments inside a list. -/
def skipFiller : Nat → List Char → Except DocumentFault (List Char)
  | 0, cs => .ok cs
  | fuel + 1, cs => do
    let rest ← skipComment (cs.dropWhile fun c => isTomlBlank c || c == '\n')
    if rest.length == cs.length then return cs else skipFiller fuel rest

def isBareKeyChar (c : Char) : Bool :=
  ('a' ≤ c && c ≤ 'z') || ('A' ≤ c && c ≤ 'Z') || ('0' ≤ c && c ≤ '9') || c == '-' || c == '_'

/-- One part of a key: bare, or a string on one line. -/
def keyPart (cs : List Char) : Except DocumentFault (String × List Char) :=
  match cs with
  | [] => malformed
  | c :: rest =>
    if isBareKeyChar c then
      .ok (String.ofList (cs.takeWhile isBareKeyChar), cs.dropWhile isBareKeyChar)
    else if c == '\'' || c == '"' then do
      let (body, rest) ← lineString c rest
      return (String.ofList body, rest)
    else malformed

/-- A key of parts between dots, with the blanks after it. -/
def key : Nat → List Char → Except DocumentFault (List String × List Char)
  | 0, _ => malformed
  | fuel + 1, cs => do
    let (part, rest) ← keyPart cs
    match skipBlanks rest with
    | '.' :: rest =>
      let (parts, rest) ← key fuel (skipBlanks rest)
      return (part :: parts, rest)
    | rest => return ([part], rest)

/-- Changes the table under a path, making tables where there are none. On the way, the last table
of a list stands for the list if `throughLists` says so. -/
def change (throughLists : Bool) (f : Entries → Except DocumentFault Entries) :
    List String → Entries → Except DocumentFault Entries
  | [], entries => f entries
  | k :: path, entries => do
    let found := (Value.lookupText k entries).getD (.mapping [])
    match found with
    | .mapping inner =>
      return Value.setEntry entries (.text k) (.mapping (← change throughLists f path inner))
    | .list cell items =>
      match throughLists, items.reverse with
      | true, .mapping inner :: before =>
        let inner ← change throughLists f path inner
        return Value.setEntry entries (.text k) (.list cell (before.reverse ++ [.mapping inner]))
      | _, _ => malformed
    | _ => malformed

/-- Adds an entry to a table that has none under the key. -/
def addNew (k : String) (v : Value) (entries : Entries) : Except DocumentFault Entries :=
  if (Value.lookupText k entries).isSome then malformed else .ok (entries ++ [(.text k, v)])

/-- Adds an empty table to the list under a key, making the list if there is none. -/
def addTable (k : String) (entries : Entries) : Except DocumentFault Entries :=
  match Value.lookupText k entries with
  | none => .ok (entries ++ [(.text k, .ofList [.mapping []])])
  | some (.list cell items) =>
    .ok (Value.setEntry entries (.text k) (.list cell (items ++ [.mapping []])))
  | some _ => malformed

/-- Is the value a list or a table? -/
def isCollection : Value → Bool
  | .mapping _ | .list _ _ => true
  | _ => false

mutual

/-- A value at the front. The fuel bounds the number of values. -/
def value : Nat → List Char → Except DocumentFault (Value × List Char)
  | 0, _ => malformed
  | fuel + 1, cs =>
    match cs with
    | '"' :: '"' :: '"' :: rest => do
      let (body, rest) ← multilineString '"' rest
      return (.text (String.ofList body), rest)
    | '\'' :: '\'' :: '\'' :: rest => do
      let (body, rest) ← multilineString '\'' rest
      return (.text (String.ofList body), rest)
    | '"' :: rest => do
      let (body, rest) ← lineString '"' rest
      return (.text (String.ofList body), rest)
    | '\'' :: rest => do
      let (body, rest) ← lineString '\'' rest
      return (.text (String.ofList body), rest)
    | '[' :: rest => do
      let rest ← skipFiller rest.length rest
      match rest with
      | ']' :: after => return (.ofList [], after)
      | rest =>
        let (items, after) ← items fuel rest
        return (.ofList items, after)
    | '\x7b' :: rest =>
      match skipBlanks rest with
      | '\x7d' :: after => .ok (.mapping [], after)
      | rest => do
        let (entries, after) ← inlineEntries fuel [] [] rest
        return (.mapping entries, after)
    | cs =>
      match afterWord? "true" cs, afterWord? "false" cs with
      | some after, _ => .ok (.bool true, after)
      | _, some after => .ok (.bool false, after)
      | _, _ => plainScalar cs

/-- The items of a list from its first one on, and the closing bracket. -/
def items : Nat → List Char → Except DocumentFault (List Value × List Char)
  | 0, _ => malformed
  | fuel + 1, cs => do
    let (v, rest) ← value fuel cs
    let rest ← skipFiller rest.length rest
    match rest with
    | ']' :: after => return ([v], after)
    | ',' :: after =>
      let rest ← skipFiller after.length after
      match rest with
      | ']' :: after => return ([v], after)
      | rest =>
        let (vs, after) ← items fuel rest
        return (v :: vs, after)
    | _ => malformed

/-- The entries of an inline table, added to those before, and the closing brace. -/
def inlineEntries : Nat → List Closed → Entries → List Char →
    Except DocumentFault (Entries × List Char)
  | 0, _, _, _ => malformed
  | fuel + 1, marks, entries, cs => do
    let (path, rest) ← key cs.length cs
    match rest with
    | '=' :: rest =>
      let (v, rest) ← value fuel (skipBlanks rest)
      if isMarked marks path .frozen then malformed
      let entries ← change false (addNew (path.getLastD "") v) path.dropLast entries
      match skipBlanks rest with
      | '\x7d' :: after => return (entries, after)
      | ',' :: after =>
        let marks := if isCollection v then ⟨path, .frozen, true⟩ :: marks else marks
        inlineEntries fuel marks entries (skipBlanks after)
      | _ => malformed
    | _ => malformed

end

/-- An entry of the current table. -/
def entryStatement (st : State) (cs : List Char) : Except DocumentFault (State × List Char) := do
  let (path, rest) ← key cs.length cs
  match rest with
  | '=' :: rest =>
    let rest := skipBlanks rest
    let (v, rest) ← value (rest.length + 1) rest
    let parents := (List.range (path.length - 1)).map fun i => st.header ++ path.take (i + 1)
    if parents.any (isMarked st.marks · .explicit) then malformed
    let parent := st.header ++ path.dropLast
    if isMarked st.marks parent .frozen then malformed
    let root ← change true (addNew (path.getLastD "") v) parent st.root
    let marks :=
      if isCollection v then ⟨st.header ++ path, .frozen, true⟩ :: st.marks else st.marks
    return ({ st with root, marks, pending := parents ++ st.pending }, rest)
  | _ => malformed

/-- Makes the paths that dotted keys went through explicit. -/
def settle (st : State) : State :=
  { st with marks := st.pending.map (⟨·, .explicit, false⟩) ++ st.marks, pending := [] }

/-- A header that opens a table; its opening bracket has been read. -/
def tableHeader (st : State) (cs : List Char) : Except DocumentFault (State × List Char) := do
  let (path, rest) ← key cs.length (skipBlanks cs)
  if isMarked st.marks path .explicit || isMarked st.marks path .frozen then malformed
  let root ← change true .ok path st.root
  match rest with
  | ']' :: rest =>
    return ({ st with root, marks := ⟨path, .explicit, false⟩ :: st.marks, header := path }, rest)
  | _ => malformed

/-- A header that appends a table to a list; its opening brackets have been read. -/
def listHeader (st : State) (cs : List Char) : Except DocumentFault (State × List Char) := do
  let (path, rest) ← key cs.length (skipBlanks cs)
  if isMarked st.marks path .frozen then malformed
  let marks := st.marks.filter fun c => !path.isPrefixOf c.path
  let root ← change true (addTable (path.getLastD "")) path.dropLast st.root
  match rest with
  | ']' :: ']' :: rest =>
    return ({ st with root, marks := ⟨path, .explicit, false⟩ :: marks, header := path }, rest)
  | _ => malformed

/-- One statement, if the line holds any. -/
def statement (st : State) (cs : List Char) : Except DocumentFault (State × List Char) :=
  match cs with
  | [] => .ok (st, [])
  | c :: rest =>
    if c == '\n' || c == '#' then .ok (st, cs)
    else if isBareKeyChar c || c == '"' || c == '\'' then entryStatement st cs
    else if c == '[' then
      match rest with
      | '[' :: rest => listHeader (settle st) rest
      | rest => tableHeader (settle st) rest
    else malformed

/-- The statements of a document, one a line. -/
def statements : Nat → State → List Char → Except DocumentFault State
  | 0, st, _ => .ok st
  | fuel + 1, st, cs => do
    let (st, rest) ← statement st (skipBlanks cs)
    match ← skipComment (skipBlanks rest) with
    | [] => return st
    | '\n' :: rest => statements fuel st rest
    | _ => malformed

/-- Line ends as single line feeds. -/
def unifyLineEnds : List Char → List Char
  | '\r' :: '\n' :: rest => '\n' :: unifyLineEnds rest
  | c :: rest => c :: unifyLineEnds rest
  | [] => []

/-- The table that a document denotes. -/
def decode (cs : List Char) : Except DocumentFault Value := do
  let cs := unifyLineEnds cs
  return .mapping (← statements (cs.length + 1) {} cs).root

end RecordSchema.Toml
