import RecordSchema.Session.Attributes

/-!
# What a record class tells about itself

A profile puts together what is found under the names of a class: its own names, its description,
its fields with defaults and types, and the parameters of its constructor. Everything is looked up
in the class as it stands, so a class that lost one of these names has no profile.
-/

set_option autoImplicit false

namespace RecordSchema

/-- What a record class tells about itself. -/
structure Profile where
  title : String
  qualname : String
  module : Value
  description : Value
  /-- The qualified name of the constructor. -/
  constructorName : String
  keys : List Value
  defaults : List (Value × Value)
  types : List (Value × Value)
  annotations : List (Value × Value)
  matchArguments : List Value
  isHashable : Bool
  /-- The parameters of the constructor, unless it is the one that all objects have. -/
  signature : Option (List Parameter)

namespace Session

open RecordSchema.Value

/-- The entries of a mapping. -/
def entriesOf (v : Value) : Act (List (Value × Value)) :=
  match v with
  | .mapping entries => return entries
  | _ => refuse .absentAttribute

/-- Entries under texts as entries of a mapping. -/
def textEntries (pairs : List (String × Value)) : List (Value × Value) :=
  pairs.map fun p => (.text p.1, p.2)

/-- What a class lists by code of its own. -/
def listedBy (t : RecordType) (name : String) (part : Schema → List (String × Value)) :
    Act (List (Value × Value)) := do
  match ← find (.recordType t.identity.id) name with
  | .code _ _ .classMethod .listDefaults [_] | .code _ _ .classMethod .listTypes [_] =>
    if t.identity.hasSchema then return textEntries (part t.schema) else refuse .absentAttribute
  | _ => refuse .wrongKind

/-- The name of the constructor and its parameters. -/
def constructorOf (t : RecordType) : Act (String × Option (List Parameter)) := do
  match ← find (.recordType t.identity.id) "__init__" with
  | .code _ _ _ .initialise _ => return (t.constructorName, some t.signature)
  | .inherited .. => return ("object.__init__", Option.none)
  | _ => refuse .absentAttribute

/-- The profile of a class. -/
def profile (t : RecordType) : Act Profile := do
  let o := Object.recordType t.identity.id
  let (constructorName, signature) ← constructorOf t
  return {
    title := t.identity.title
    qualname := t.identity.name.qualname
    module := ← readAttribute o "__module__"
    description := ← readAttribute o "__doc__"
    constructorName
    keys := ← ofRefusal (← call o "__keys__" []).elements
    defaults := ← listedBy t "__defaults__" Schema.defaults
    types := ← listedBy t "__types__" Schema.types
    annotations := ← entriesOf (← readAttribute o "__annotations__")
    matchArguments := ← ofRefusal (← readAttribute o "__match_args__").elements
    isHashable := t.isHashable
    signature }

end Session

end RecordSchema
