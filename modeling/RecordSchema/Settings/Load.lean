import RecordSchema.Files.Tree
import RecordSchema.Settings.Loose
import RecordSchema.Toml.Reader

/-!
# Where settings come from

Settings are read from one table of one TOML file, and variables of the environment overrule them.
Without a file of the caller's choice two files of the current directory are looked at in turn; the
first that can be read and has a table that is not empty decides alone.
-/

set_option autoImplicit false

namespace RecordSchema

open RecordSchema.Text

/-- Variables by name; a name that is set twice has its last value. -/
structure Environment where
  bindings : List (String × String) := []

namespace Environment

def get? (e : Environment) (name : String) : Option String :=
  (e.bindings.reverse.find? (·.1 == name)).map (·.2)

def set (e : Environment) (name value : String) : Environment :=
  ⟨e.bindings ++ [(name, value)]⟩

end Environment

namespace Settings

/-- What the names of variables begin with. -/
def variableHead : String := "TYPEDSTRUCT_"

/-- The settings with the ends of the names of their variables. -/
def variableTails : List (String × String) :=
  [("strict_options", "STRICT_OPTIONS"), ("name_policy", "NAME_POLICY"), ("log_level", "LOG_LEVEL"),
   ("descriptor_indent", "DESCRIPTOR_INDENT")]

/-- The settings that variables give, as a mapping; an empty variable gives none. -/
def fromVariables (e : Environment) (head : String) : List (Value × Value) :=
  variableTails.filterMap fun setting =>
    match e.get? (head ++ setting.2) with
    | some s => if s == "" then none else some (.text setting.1, .text s)
    | none => none

/-- The settings as variables overrule them. -/
def overruled (s : Settings) (e : Environment) (head : String) : Except Refusal Settings :=
  s.applyEntries (fromVariables e head)

/-- The file of settings for this program alone, and the one that holds them among others. -/
def ownFile : String := "typedstruct.toml"

def sharedFile : String := "pyproject.toml"

/-- The part of a file that holds settings. -/
def table (fileName : String) (content : List (Value × Value)) : Value :=
  if fileName == sharedFile then
    match (Value.lookupText "tool" content).getD (.mapping []) with
    | .mapping tools => (Value.lookupText "typedstruct" tools).getD .none
    | _ => .none
  else
    match Value.lookupText "compiler" content with
    | some (.mapping entries) => .mapping entries
    | _ => .mapping content

/-- The table of settings in a file; none, with a warning, if the file cannot be read. -/
def tableOf (files : FileTree) (p : Path) : Report (Option Value) :=
  let unread (cause : String) : Report (Option Value) := do
    Report.say .warning .settings ("could not read " ++ p.text ++ ": " ++ cause)
    return none
  match files.read p with
  | .error fault => unread fault.message
  | .ok octets =>
    match Utf8.decode? octets with
    | none => Report.refuse .undecodable
    | some cs =>
      match Toml.decode cs with
      | .ok (.mapping content) => return some (table p.name content)
      | .ok _ => return none
      | .error .malformed => unread DocumentFault.untold
      | .error (.refused cause) => Report.refuse cause

/-- The first table with anything in it among the files that are there. -/
def firstTable (files : FileTree) : List Path → Report (Option Value)
  | [] => return none
  | p :: rest => do
    if p.isUnusable then return ← firstTable files rest
    match files.place p with
    | .error ⟨.nameTooLong, _, _⟩ => Report.refuse .unusablePath
    | _ => pure ()
    if (files.find? p).isNone then firstTable files rest
    else
      match ← tableOf files p with
      | some found => if found.truthy then return some found else firstTable files rest
      | none => firstTable files rest

/-- The settings in a file of the caller's choice, or in the files of the current directory. -/
def ofFiles (files : FileTree) (path : Option String) : Report Settings := do
  let candidates :=
    match path with
    | some s => [s]
    | none => [ownFile, sharedFile]
  match ← firstTable files (candidates.map Path.ofText) with
  | some found => Report.ofExcept (((({} : Settings).apply found)).mapError .refused)
  | none => return {}

/-- The settings of files, overruled by those of variables. -/
def load (files : FileTree) (e : Environment) (path : Option String) : Report Settings := do
  let s ← ofFiles files path
  Report.ofExcept ((s.overruled e variableHead).mapError .refused)

end Settings

end RecordSchema
