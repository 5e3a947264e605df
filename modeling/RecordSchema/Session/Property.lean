import RecordSchema.Session.Blocks
import RecordSchema.Session.Records

/-!
# Properties of other objects

What objects that are neither records nor record classes have under a name, and what setting and
deleting a name does. Schemas and descriptors cannot be changed. A block and an accumulator take any
value under any name but those that they work out themselves; a filled model takes what its rule for
extra names allows; a frame takes new names for its columns.
-/

set_option autoImplicit false

namespace RecordSchema.Session

open RecordSchema.Value

/-- Fields as values. -/
def fieldValue (f : Field) : Value := .handle 0 (.object "AccumulatedField") f.shown

/-! ## Reading -/

/-- The attributes of a schema. -/
def schemaAttributes (s : Schema) : List (String × Value) :=
  [("name", s.name), ("fields", .tuple (s.fields.map fieldValue)), ("shape", readOnly s.defaults),
   ("required", .frozenSet (s.sortedRequired.map .text)), ("type_descriptor", readOnly s.types),
   ("_keys", .tuple (s.keys.map .text))]

/-- The attributes of a descriptor, whose lists have the given labels. -/
def descriptorAttributes (d : Descriptor) (required nullable : Nat) : List (String × Value) :=
  [("name", d.name), ("fields", .mapping (d.fields.map fun p => (.text p.1, .text p.2))),
   ("defaults", .mapping d.defaults), ("required", .list required d.required),
   ("nullable", .list nullable d.nullable), ("version", .int d.version)]

/-- One of the attributes that an object has been made with, or all of them. -/
def ofAttributes (attributes : List (String × Value)) (name : String) : Act Value := do
  match lookup name attributes, name with
  | some v, _ => return v
  | Option.none, "__match_args__" => return .tuple (attributes.map fun p => .text p.1)
  | Option.none, "__dict__" => return Object.attributesValue attributes
  | _, _ => refuse .absentAttribute

/-- What a schema has under a name. -/
def schemaProperty (s : Schema) (name : String) : Act Value := do
  if name == "nullable" then return .tuple ((← ofRefusal s.nullability).map .text)
  ofAttributes (schemaAttributes s) name

/-- What a builder itself has under a name. -/
def builderOwn (id : Nat) (name : String) : Act Value := do
  let cell ← builderCell id
  let b := cell.builder
  match name with
  | "name" => return b.name
  | "strict_options" => return b.strict
  | "name_policy" => return .handle 0 (.object "NamePolicy") b.policy.shown
  | "_aborted" =>
    match b.cause with
    | some e => return .handle 0 (.object "SchemaError") e.shown
    | Option.none => return .none
  | "_schema" =>
    match b.schema, cell.schemaId with
    | some s, some schemaId => (Object.schema schemaId s).toValue
    | _, _ => return .none
  | _ => refuse .absentAttribute

/-- What an accumulator itself has under a name. -/
def accumulatorOwn (id : Nat) (name : String) : Act Value := do
  let a ← accumulatorOf id
  match name with
  | "name" => return a.name
  | "_state" => return .handle 0 (.object "BlockState") a.standing
  | "_fields" => return .ofList (a.fields.map fieldValue)
  | "_required" => return .ofTexts a.required
  | "_names" => return .set (a.names.eraseDups.map .text)
  | _ => refuse .absentAttribute

/-- What a block with a body itself has under a name. -/
def blockOwn (id : Nat) (name : String) : Act Value := do
  let cell ← blockOf id
  match name with
  | "schema" =>
    match cell.block.schema with
    | some s => (Object.schema cell.schemaId s).toValue
    | Option.none => return .none
  | "struct" =>
    match cell.block.struct with
    | some t => return .recordClass (← typeOf t.identity.id).identity
    | Option.none => return .none
  | _ => refuse .absentAttribute

/-- What a frame has under a name. -/
def frameProperty (f : Frame) (name : String) : Act Value := do
  match name with
  | "height" => return .int f.height
  | "width" => return .int f.columns.length
  | "shape" => return .tuple [.int f.height, .int f.columns.length]
  | "columns" => return .ofTexts (f.columns.map (·.name))
  | _ => refuse .absentAttribute

/-- What a model has under a name. -/
def modelProperty (m : Model) (name : String) : Act Value := do
  match name with
  | "__name__" | "__qualname__" => return .text m.name
  | "__module__" => return .text ClassBody.modelModule
  | "__doc__" => return .none
  | "model_config" => return m.configuration
  | _ => refuse .absentAttribute

/-- What a filled model has under a name. -/
def filledProperty (m : Model) (values : List (String × Value)) (given : List String)
    (name : String) : Act Value := do
  match lookup name values, name with
  | some v, _ => return v
  | Option.none, "__dict__" =>
    return Object.attributesValue (values.filter fun p => m.fields.any (·.name == p.1))
  | Option.none, "model_fields_set" => return .set (given.map .text)
  | Option.none, "model_extra" => return m.extraValue values
  | Option.none, "model_config" => return m.configuration
  | Option.none, "__doc__" => return .none
  | _, _ => refuse .absentAttribute

/-- The names that a builder is made with. -/
def builderNames : List String :=
  ["name", "strict_options", "name_policy", "_state", "_schema", "_aborted"]

/-- The names that an accumulator is made with. -/
def accumulatorNames : List String := ["name", "_fields", "_names", "_required", "_state"]

/-- The names of a block with a body that its class has a value for. -/
def defaultedNames : List String := ["schema", "struct"]

/-- What an object has under a name, unless something was put in the place of it. -/
def own (o : Object) (name : String) : Act Value := do
  match o with
  | .schema _ s => schemaProperty s name
  | .descriptor _ d required nullable =>
    ofAttributes (descriptorAttributes d required nullable) name
  | .builder id => builderOwn id name
  | .accumulator id => accumulatorOwn id name
  | .block id => blockOwn id name
  | .frame _ f => frameProperty f name
  | .model _ m => modelProperty m name
  | .filled _ _ m values given => filledProperty m values given name
  | _ => refuse .absentAttribute

/-- What an object works out itself, whatever is put in the place of its attributes. -/
def workedOut? (o : Object) (name : String) : Act (Option Value) := do
  match o, name with
  | .builder id, "finalized" => return some (.bool (← isFinalized id))
  | .builder id, "aborted" => return some (.bool (← isAborted id))
  | .accumulator id, "finalized" =>
    requireOwn id "_state"
    return some (.bool (← accumulatorOf id).finalized)
  | .accumulator id, "state" =>
    match ← overlaid? id "_state" with
    | some (some v) => return some v
    | some Option.none => refuse .absentAttribute
    | Option.none => some <$> accumulatorOwn id "_state"
  | _, _ => return Option.none

/-- What an object has under a name. -/
def property (o : Object) (name : String) : Act Value := do
  if let some v ← workedOut? o name then return v
  match ← overlaid? o.identity name, o with
  | some (some v), _ => return v
  | some Option.none, .block _ =>
    if defaultedNames.contains name then return .none else refuse .absentAttribute
  | some Option.none, _ => refuse .absentAttribute
  | Option.none, o => own o name

/-! ## Setting and deleting -/

/-- Gives an object that is kept with its name a new content, wherever it has a name. -/
def replaceObject (o : Object) : Act Unit :=
  modify fun s =>
    { s with names := s.names.map fun n => if n.2.identity == o.identity then (n.1, o) else n }

/-- Names that no object can set or delete. -/
def fixedNames : Object → List String
  | .builder _ => ["finalized", "aborted"]
  | .accumulator _ => ["finalized", "state"]
  | .frame .. => ["height", "width", "shape"]
  | _ => []

/-- Sets an attribute of a builder. -/
def setBuilderAttribute (id : Nat) (name : String) (v : Value) : Act Unit := do
  let cell ← builderCell id
  let keep (b : Builder) : Act Unit := do
    setBuilder id { cell with builder := b }
    uncover id [name]
  match name, v with
  | "name", v => keep { cell.builder with name := v }
  | "strict_options", v => keep { cell.builder with strict := v }
  | "name_policy", v =>
    keep { cell.builder with policy := .identifier }
    overlay id name (some v)
  | "_aborted", .none =>
    reopen id
    uncover id [name]
  | name, v => overlay id name (some v)

/-- Sets an attribute of an accumulator. -/
def setAccumulatorAttribute (id : Nat) (name : String) (v : Value) : Act Unit := do
  match name with
  | "name" =>
    setAccumulator id { ← accumulatorOf id with name := v }
    uncover id [name]
  | "_state" =>
    setAccumulator id { ← accumulatorOf id with finalized := false }
    overlay id name (some v)
  | _ => overlay id name (some v)

/-- The text that a name of a column is. -/
def columnName (v : Value) : Act String :=
  match v with
  | .text s => return s
  | _ => refuse .wrongKind

/-- A frame with other names for its columns. -/
def renamed (f : Frame) (v : Value) : Act Frame := do
  let names ← (← ofRefusal v.elements).mapM columnName
  if names.length != f.columns.length then refuse .unevenColumns
  ofRefusal (Frame.ofColumns ((f.columns.zip names).map fun p => { p.1 with name := p.2 }))

/-- Sets an attribute of an object that is neither a record nor a record class. -/
def setProperty (o : Object) (name : String) (v : Value) : Act Unit := do
  if (fixedNames o).contains name then refuse .absentAttribute
  match o, name with
  | .schema .., _ | .descriptor .., _ => refuse .frozen
  | .filled id modelId m values given, name =>
    if (lookup name values).isSome || m.policy == .allow then
      replaceObject (.filled id modelId m (Schema.put values name v)
        (if given.contains name then given else given ++ [name]))
    else if Model.isPrivate name then return ()
    else refuse .badValue
  | _, "__class__" => refuse .wrongKind
  | .builder id, name => setBuilderAttribute id name v
  | .accumulator id, name => setAccumulatorAttribute id name v
  | .frame id f, "columns" => replaceObject (.frame id (← renamed f v))
  | o, name => overlay o.identity name (some v)

/-- Deletes an attribute of an object that is neither a record nor a record class. -/
def deleteProperty (o : Object) (name : String) : Act Unit := do
  let isOwn := match o with
    | .builder _ => builderNames.contains name
    | .accumulator _ => accumulatorNames.contains name
    | .block _ => ("builder" :: defaultedNames).contains name
    | _ => false
  match o, ← overlaid? o.identity name with
  | .schema .., _ | .descriptor .., _ => refuse .frozen
  | .filled id modelId m values given, _ =>
    if (lookup name values).isNone then refuse .absentAttribute
    replaceObject (.filled id modelId m (values.filter (·.1 != name)) given)
  | _, some Option.none => refuse .absentAttribute
  | o, some (some _) =>
    if isOwn then overlay o.identity name Option.none else uncover o.identity [name]
  | o, Option.none => if isOwn then overlay o.identity name Option.none else refuse .absentAttribute

end RecordSchema.Session
