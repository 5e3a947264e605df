import RecordSchema.TypeTerm.Rendering
import RecordSchema.Hash.Sha256
import RecordSchema.Json.Writer
import RecordSchema.Schema.Basic
import RecordSchema.Text.Utf8
import RecordSchema.Value.Conversion

/-!
# Descriptors

A descriptor is a schema as plain data: the types are text, the defaults are values that JSON can
hold, everything else is written as its printed form, if it can be printed. It can be stored, read
back and fingerprinted without the program that declared the fields. The fingerprint of a mapping is
the SHA-256 digest of its canonical JSON text.
-/

set_option autoImplicit false

namespace RecordSchema

open RecordSchema.Text Value

/-- The version of the descriptor format. -/
def formatVersion : Int := 1

/-- A schema as plain data. -/
structure Descriptor where
  name : Value
  /-- Field names with their types as text, in declaration order. -/
  fields : List (String × String)
  /-- What stands for each field that is not given. -/
  defaults : List (Value × Value)
  required : List Value
  nullable : List Value
  version : Int

mutual

/-- A value as JSON can hold it: scalars, lists and mappings with text keys are kept, tuples become
lists, and anything else becomes its printed form. -/
def plain : Value → Value
  | .list _ items => .ofList (plainAll items)
  | .tuple items => .ofList (plainAll items)
  | .mapping entries =>
    if entries.all (fun e => match e.1 with | .text _ => true | _ => false) then
      .mapping (plainEntries entries)
    else .text (shown (.mapping entries))
  | .none => .none
  | .bool b => .bool b
  | .int n => .int n
  | .real x => .real x
  | .text s => .text s
  | v => .text v.shown

def plainAll : List Value → List Value
  | [] => []
  | v :: rest => plain v :: plainAll rest

def plainEntries : List (Value × Value) → List (Value × Value)
  | [] => []
  | (k, v) :: rest => (k, plain v) :: plainEntries rest

end

mutual

/-- What goes wrong first when a value is made plain: only what becomes its printed form
can fail. -/
def plainFault? : Value → Option Refusal
  | .list _ items => plainFaultIn items
  | .tuple items => plainFaultIn items
  | .mapping entries =>
    if entries.all (fun e => match e.1 with | .text _ => true | _ => false) then
      plainFaultInEntries entries
    else printFault? (.mapping entries)
  | .int _ => Option.none
  | v => v.printFault?

def plainFaultIn : List Value → Option Refusal
  | [] => Option.none
  | v :: rest => (plainFault? v).or (plainFaultIn rest)

def plainFaultInEntries : List (Value × Value) → Option Refusal
  | [] => Option.none
  | (_, v) :: rest => (plainFault? v).or (plainFaultInEntries rest)

end

/-- Hexadecimal fingerprint of a mapping with the given entries. -/
def fingerprint (entries : List (Value × Value)) : Except Refusal String := do
  return Sha256.hex (Utf8.encodeText (← Json.canonical (.mapping entries)))

namespace Descriptor

/-- The descriptor of a schema. -/
def ofSchema (s : Schema) : Descriptor where
  name := s.name
  fields := s.types.map fun p => (p.1, TypeTerm.render p.2)
  defaults := s.defaults.map fun p => (.text p.1, plain p.2)
  required := (s.keys.filter s.isRequired).map .text
  nullable := s.nullable.map .text
  version := formatVersion

/-- The entries of a descriptor written as a mapping. -/
def entries (d : Descriptor) : List (Value × Value) :=
  [(.text "name", d.name),
   (.text "fields", .ofList (d.fields.map fun p =>
      .mapping [(.text "name", .text p.1), (.text "type", .text p.2)])),
   (.text "defaults", .mapping d.defaults),
   (.text "required", .ofList d.required),
   (.text "nullable", .ofList d.nullable),
   (.text "version", .int d.version)]

def toValue (d : Descriptor) : Value := .mapping d.entries

/-- The fingerprint of a descriptor. -/
def hash (d : Descriptor) : Except Refusal String := fingerprint d.entries

/-- Reads a descriptor from a mapping. Only the name is indispensable; names and types of fields
become text, if they can be printed, and the other parts are copied. -/
def ofValue (v : Value) : Except Refusal Descriptor := do
  let name ← (← v.member "name").displayed
  let part (key : String) (absent : Value) : Value :=
    match v with
    | .mapping entries => (lookupText key entries).getD absent
    | _ => absent
  let fields ← (← (part "fields" (.ofList [])).elements).mapM fun f => do
    return (← (← f.member "name").displayed, ← (← f.member "type").displayed)
  let defaults ← (part "defaults" (.mapping [])).toEntries
  let required ← (part "required" (.ofList [])).elements
  let nullable ← (part "nullable" (.ofList [])).elements
  let version ← (part "version" (.int formatVersion)).toInteger
  return { name := .text name, fields := Schema.putAll [] fields, defaults, required, nullable,
           version }

/-- The printed form of a descriptor. -/
def shown (d : Descriptor) : String :=
  "StructDescriptor(name=" ++ d.name.shown ++ ", fields=" ++
    (Value.mapping (d.fields.map fun p => (.text p.1, .text p.2))).shown ++ ", defaults=" ++
    (Value.mapping d.defaults).shown ++ ", required=" ++ (Value.ofList d.required).shown ++
    ", nullable=" ++ (Value.ofList d.nullable).shown ++ ", version=" ++ intText d.version ++ ")"

/-- Equal descriptors agree in every part; the order of fields and of defaults does not matter to
equality. -/
def equal (a b : Descriptor) : Bool :=
  alike a.name b.name &&
    alike (.mapping (a.fields.map fun p => (.text p.1, .text p.2)))
      (.mapping (b.fields.map fun p => (.text p.1, .text p.2))) &&
    alike (.mapping a.defaults) (.mapping b.defaults) &&
    alike (.ofList a.required) (.ofList b.required) &&
    alike (.ofList a.nullable) (.ofList b.nullable) && a.version == b.version

end Descriptor

namespace Schema

/-- What goes wrong first when a schema is described: with the text of a type, or else with a
default. -/
def describeFault? (s : Schema) : Option Refusal :=
  (s.types.findSome? fun p => TypeTerm.renderFault? p.2).or
    (s.defaults.findSome? fun p => plainFault? p.2)

/-- The descriptor of a schema whose types and defaults can be written out. -/
def describe (s : Schema) : Except Refusal Descriptor :=
  match s.describeFault? with
  | some cause => .error cause
  | Option.none => .ok (Descriptor.ofSchema s)

/-- The fingerprint of a schema is that of its descriptor. -/
def hash (s : Schema) : Except Refusal String := do (← s.describe).hash

end Schema

end RecordSchema
