import RecordSchema.Schema.Basic
import RecordSchema.Settings.Load
import RecordSchema.Text.Blank
import RecordSchema.Text.Lines

/-!
# Environment files

An environment file assigns variables, one statement a line. A value stands bare, where a blank
before `#` begins a comment, or between quotes of either kind, where it may run over lines and
escape characters. Variables of the environment stay as they are; those that the file adds may refer
to others as `$` and braces around a name, with a default for a name that stands for nothing.

A statement that cannot be read is skipped with a warning.
-/

set_option autoImplicit false

namespace RecordSchema.EnvironmentFile

open RecordSchema.Text

/-- A statement of a file. -/
inductive Statement where
  /-- A blank line or a comment. -/
  | empty
  /-- A name with its value, if it has one. -/
  | assignment (name : String) (value : Option String)
  | invalid

/-- A blank inside a line. -/
def isGap (c : Char) : Bool := isBlank c && c != '\n' && c != '\r'

def isLineEnd (c : Char) : Bool := c == '\n' || c == '\r'

/-- A quoted value whose opening quote has been read, and what follows it. Behind a backslash any
character belongs to the value. -/
def quotedValue (quote : Char) : List Char → Option (List Char × List Char)
  | [] => none
  | [c] => if c == quote then some ([], []) else none
  | c :: d :: rest =>
    if c == quote then some ([], d :: rest)
    else if c == '\\' then (quotedValue quote rest).map fun p => (c :: d :: p.1, p.2)
    else (quotedValue quote (d :: rest)).map fun p => (c :: p.1, p.2)

/-- What a character stands for behind a backslash between double quotes. -/
def escapes : List (Char × Char) :=
  [('\\', '\\'), ('\'', '\''), ('"', '"'), ('a', '\x07'), ('b', '\x08'), ('f', '\x0c'),
   ('n', '\n'), ('r', '\r'), ('t', '\t'), ('v', '\x0b')]

/-- What a character stands for behind a backslash between quotes of a kind. -/
def unescape? (quote c : Char) : Option Char :=
  if quote == '\'' then if c == '\\' || c == '\'' then some c else none
  else (escapes.find? (·.1 == c)).map (·.2)

/-- A quoted value with its escapes resolved; other backslashes stand for themselves. -/
def resolveEscapes (quote : Char) : List Char → List Char
  | [] => []
  | '\\' :: c :: rest =>
    match unescape? quote c with
    | some d => d :: resolveEscapes quote rest
    | none => '\\' :: resolveEscapes quote (c :: rest)
  | c :: rest => c :: resolveEscapes quote rest

/-- A bare value up to a comment, which a blank precedes. -/
def beforeComment : List Char → List Char
  | [] => []
  | c :: rest =>
    if isBlank c && (rest.dropWhile isBlank).head? == some '#' then [] else c :: beforeComment rest

/-- A value and what follows it. A reading that fails leaves what has not been read. -/
def valueAt (cs : List Char) : Except (List Char) (String × List Char) :=
  match cs with
  | [] => .ok ("", [])
  | c :: rest =>
    if c == '\'' || c == '"' then
      match quotedValue c rest with
      | some (value, rest) => .ok (String.ofList (resolveEscapes c value), rest)
      | none => .error cs
    else
      let line := cs.takeWhile (!isLineEnd ·)
      .ok (String.ofList (trimEnd (beforeComment line)), cs.dropWhile (!isLineEnd ·))

/-- A name and what follows it; nothing before a comment. -/
def nameAt (cs : List Char) : Except (List Char) (Option String × List Char) :=
  match cs with
  | '#' :: _ => .ok (none, cs)
  | '\'' :: rest =>
    let name := rest.takeWhile (· != '\'')
    match name, rest.dropWhile (· != '\'') with
    | _ :: _, '\'' :: rest => .ok (some (String.ofList name), rest)
    | _, _ => .error cs
  | cs =>
    let name := cs.takeWhile fun c => c != '=' && c != '#' && !isBlank c
    if name.isEmpty then .error cs
    else .ok (some (String.ofList name), cs.drop name.length)

/-- Passes over the word that may stand before an assignment. -/
def skipExport (cs : List Char) : List Char :=
  let word := "export".toList
  let rest := cs.drop word.length
  if word.isPrefixOf cs && (rest.head?.elim false isGap) then rest.dropWhile isGap else cs

/-- What follows the line, if nothing but a comment is left on it. -/
def endOfLine (cs : List Char) : Except (List Char) (List Char) :=
  let commentless :=
    match cs.dropWhile isGap with
    | '#' :: rest => rest.dropWhile (!isLineEnd ·)
    | _ => cs
  match commentless.dropWhile isGap with
  | [] => .ok []
  | c :: rest => if isLineEnd c then .ok rest else .error commentless

/-- An assignment, or a name alone, and what follows its line. -/
def assignmentAt (cs : List Char) : Except (List Char) (Statement × List Char) := do
  let (name, rest) ← nameAt (skipExport cs)
  let rest := rest.dropWhile isGap
  let (value, rest) ←
    match rest with
    | '=' :: rest => do
      let (value, rest) ← valueAt (rest.dropWhile isGap)
      pure (some value, rest)
    | rest => pure (none, rest)
  let rest ← endOfLine rest
  return ((name.map (Statement.assignment · value)).getD .empty, rest)

/-- The next statement and what follows it. -/
def statementAt (cs : List Char) : Statement × List Char :=
  match cs.dropWhile isBlank with
  | [] => (.empty, [])
  | cs =>
    match assignmentAt cs with
    | .ok found => found
    | .error left => (.invalid, (left.dropWhile (!isLineEnd ·)).drop 1)

/-- The statements of a file, each with the number of the line where its reading began. -/
def statements (cs : List Char) : List (Nat × Statement) :=
  go cs.length 1 cs
where
  go : Nat → Nat → List Char → List (Nat × Statement)
    | 0, _, _ => []
    | _, _, [] => []
    | fuel + 1, line, cs =>
      let (statement, rest) := statementAt cs
      (line, statement) :: go fuel (line + (cs.count '\n' - rest.count '\n')) rest

/-- A reference behind its dollar sign and opening brace: the name, the default, what follows. -/
def reference? (cs : List Char) : Option (String × Option String × List Char) :=
  let name := String.ofList (cs.takeWhile fun c => c != '\x7d' && c != ':')
  match cs.dropWhile fun c => c != '\x7d' && c != ':' with
  | '\x7d' :: rest => some (name, none, rest)
  | ':' :: '-' :: rest =>
    match rest.dropWhile (· != '\x7d') with
    | '\x7d' :: after => some (name, some (String.ofList (rest.takeWhile (· != '\x7d'))), after)
    | _ => none
  | _ => none

/-- A value with its references replaced; `lookup` tells what a name stands for, if anything. -/
def expand (lookup : String → Option String) (value : String) : String :=
  String.ofList (go value.toList.length value.toList)
where
  go : Nat → List Char → List Char
    | 0, cs => cs
    | _, [] => []
    | fuel + 1, c :: rest =>
      match c, rest with
      | '$', '\x7b' :: behind =>
        match reference? behind with
        | some (name, default, after) =>
          ((lookup name).getD (default.getD "")).toList ++ go fuel after
        | none => c :: go fuel rest
      | _, _ => c :: go fuel rest

/-- The variables of a file in order, each with its references replaced by those of the environment
and else by those before it; a name without a value stands for the empty text. -/
def assignments (e : Environment) (cs : List Char) : List (String × Option String) :=
  (statements cs).foldl (fun known s =>
    match s.2 with
    | .assignment name value =>
      let lookup (n : String) : Option String :=
        match e.get? n with
        | some s => some s
        | none => (Value.lookup n known).map (·.getD "")
      Schema.put known name (value.map (expand lookup))
    | _ => known) []

/-- The names that references in a value ask for. -/
def references (value : String) : List String :=
  let cs := value.toList
  (List.range cs.length).filterMap fun i =>
    match cs.drop i with
    | '$' :: '\x7b' :: behind => (reference? behind).map (·.1)
    | _ => none

/-- All names that a file mentions. -/
def mentioned (cs : List Char) : List String :=
  (statements cs).flatMap fun s =>
    match s.2 with
    | .assignment name value => name :: references (value.getD "")
    | _ => []

/-- Can a variable of this name and value be set? -/
def isSettable (name value : String) : Bool :=
  name != "" && !name.contains '=' && !name.contains '\x00' && !value.contains '\x00'

/-- The environment with the variables that a file adds. -/
def additions (e : Environment) (cs : List Char) : Except Refusal Environment :=
  (assignments e cs).foldlM (fun e v =>
    match v.2 with
    | none => .ok e
    | some value =>
      if (e.get? v.1).isSome then .ok e
      else if isSettable v.1 value then .ok (e.set v.1 value)
      else .error .badValue) e

/-- The variable that keeps environment files from being read, and the words that do so. -/
def switchName : String := "PYTHON_DOTENV_DISABLED"

def switchWords : List String := ["1", "true", "t", "yes", "y"]

/-- Is no environment file to be read? Letter case makes no difference, nor does the long form of
the letter s. -/
def isSwitchedOff (e : Environment) : Bool :=
  match e.get? switchName with
  | some word => switchWords.contains (lower (word.map fun c => if c == '\u017F' then 's' else c))
  | none => false

/-- Reads the environment file of the current directory, if there is one. -/
def load (files : FileTree) (e : Environment) : Report Environment := do
  if isSwitchedOff e then return e
  match files.read (Path.ofText ".env") with
  | .error _ => return e
  | .ok octets =>
    match Utf8.decode? octets with
    | none => Report.refuse .undecodable
    | some cs =>
      let cs := unifyLines cs
      (statements cs).forM fun s =>
        match s.2 with
        | .invalid => Report.say .warning .environment
            ("python-dotenv could not parse statement starting at line " ++ Nat.repr s.1)
        | _ => pure ()
      Report.ofExcept ((additions e cs).mapError .refused)

end RecordSchema.EnvironmentFile
