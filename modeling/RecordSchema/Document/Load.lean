import RecordSchema.Document.Compile
import RecordSchema.Files.Tree
import RecordSchema.Json.Reader
import RecordSchema.Text.Lines
import RecordSchema.Toml.Reader
import RecordSchema.Yaml.Reader

/-!
# Loading documents

A document is a file in one of three formats, told by the suffix of its name in any letter case. It
has to hold a mapping.
-/

set_option autoImplicit false

namespace RecordSchema.Document

open RecordSchema.Text

/-- The formats of documents. -/
inductive Format where
  | yaml
  | json
  | toml
deriving DecidableEq

/-- The format for a suffix. -/
def Format.ofSuffix? (suffix : String) : Option Format :=
  let s := lower suffix
  if s == ".yaml" || s == ".yml" then some .yaml
  else if s == ".json" then some .json
  else if s == ".toml" then some .toml
  else none

/-- The value of a document in a format. -/
def read (format : Format) (path : String) (octets : List UInt8) : Except Error Value :=
  match Utf8.decode? octets with
  | none => .error (.refused .undecodable)
  | some cs =>
    match format with
    | .json =>
      let cs := unifyLines cs
      match Json.decode cs with
      | .ok v => .ok v
      | .error (.malformed message left) =>
        .error (.unreadable path (Json.placed cs message left))
      | .error .longNumber => .error (.refused .badValue)
    | .toml => told (Toml.decode cs)
    | .yaml => told (Yaml.decode (unifyLines cs))
where
  told (result : Except DocumentFault Value) : Except Error Value :=
    match result with
    | .ok v => .ok v
    | .error .malformed => .error (.unreadable path DocumentFault.untold)
    | .error (.refused cause) => .error (.refused cause)

/-- The mapping that a file holds. -/
def load (files : FileTree) (path : String) : Except Error Value := do
  let p := Path.ofText path
  match Format.ofSuffix? p.suffix with
  | none => throw (.unsupportedFile p.name)
  | some format =>
    if p.isUnusable then throw (.refused .badValue)
    match files.read p with
    | .error fault => throw (.unreadable p.text fault.message)
    | .ok octets =>
      match ← read format p.text octets with
      | .mapping entries => return .mapping entries
      | v => throw (.notMapping p.text v.kindName)

/-- The schemas of the blocks in a file. -/
def loadSchemas (settings : Settings) (files : FileTree) (path : String) :
    Report (List (String × Schema)) := do
  compile settings (← Report.ofExcept (load files path))

end RecordSchema.Document
