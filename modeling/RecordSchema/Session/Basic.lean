import RecordSchema.Descriptor
import RecordSchema.Frame.Records
import RecordSchema.Model.Basic
import RecordSchema.Model.Output
import RecordSchema.Record.Block
import RecordSchema.Record.Body
import RecordSchema.TypeTerm.Repetition
import RecordSchema.Value.Sharing

/-!
# Sessions

A session keeps objects under names: blocks, schemas, record classes, records, frames and models.
Every object has an identity, a number that is given out once. What can change is kept in tables by
identity; what cannot change stands with the name itself.

An action works on a session and may fail. What it did to the session before it failed stays done,
and so does what it said.
-/

set_option autoImplicit false

namespace RecordSchema

/-- An object by its identity, with its content if that cannot change. -/
inductive Object where
  | builder (id : Nat)
  | accumulator (id : Nat)
  | block (id : Nat)
  | schema (id : Nat) (s : Schema)
  /-- A descriptor, with the labels of its lists of enforced and of nullable fields. -/
  | descriptor (id : Nat) (d : Descriptor) (required nullable : Nat)
  | recordType (id : Nat)
  | record (cell : Nat) (c : RecordClass) (attributes : List (String × Value))
  | frame (id : Nat) (f : Frame)
  | model (id : Nat) (m : Model)
  /-- The values of a filled model, and the names that were given. -/
  | filled (id modelId : Nat) (m : Model) (values : List (String × Value)) (given : List String)

/-- A builder and the identity of the schema that it built. -/
structure BuilderCell where
  builder : Builder
  schemaId : Option Nat := none

/-- A block with a body and the identity of its schema. -/
structure BlockCell where
  block : Block
  schemaId : Nat

/-- What was put in the place of an object's own attributes, or added to them; nothing where an
attribute was deleted. -/
abbrev Overlay := List (String × Option Value)

/-- Contents by identity. -/
abbrev Table (α : Type) := List (Nat × α)

namespace Table

variable {α : Type}

def get? (t : Table α) (id : Nat) : Option α := (t.find? (·.1 == id)).map (·.2)

/-- Sets the content for an identity. -/
def set (t : Table α) (id : Nat) (a : α) : Table α :=
  if t.any (·.1 == id) then t.map fun e => if e.1 == id then (id, a) else e else t ++ [(id, a)]

def mapContents (t : Table α) (f : α → α) : Table α := t.map fun e => (e.1, f e.2)

end Table

structure Session where
  /-- The last number given out. -/
  last : Nat := 0
  names : List (String × Object) := []
  builders : Table BuilderCell := []
  accumulators : Table Accumulator := []
  blocks : Table BlockCell := []
  types : Table RecordType := []
  overlays : Table Overlay := []
  /-- The typing constructs made so far. -/
  constructions : List TypeTerm.Construction := []
  log : List LogEntry := []

/-- Something done in a session. -/
abbrev Act (α : Type) := ExceptT Error (StateM Session) α

namespace Session

variable {α : Type}

def refuse (cause : Refusal) : Act α := throw (.refused cause)

/-- A number that was not given out before. -/
def fresh : Act Nat := modifyGet fun s => (s.last + 1, { s with last := s.last + 1 })

/-- The result of a computation, with what it said. -/
def perform (r : Report α) : Act α := do
  modify fun s => { s with log := s.log ++ r.log }
  liftExcept r.result
where
  liftExcept : Except Error α → Act α
    | .ok a => pure a
    | .error e => throw e

def ofExcept (r : Except Error α) : Act α := perform (Report.ofExcept r)

def ofRefusal (r : Except Refusal α) : Act α := ofExcept (r.mapError .refused)

/-- The object of a name. -/
def object (name : String) : Act Object := do
  match Value.lookup name (← get).names with
  | some o => return o
  | none => refuse .unboundName

/-- Gives an object a name, if one is wanted. -/
def bind (name : Option String) (o : Object) : Act Unit :=
  match name with
  | some name => modify fun s => { s with names := Schema.put s.names name o }
  | none => pure ()

/-- The content for an identity, which every object has. -/
def content (found : Option α) : Act α :=
  match found with
  | some a => pure a
  | none => refuse .unboundName

def builderCell (id : Nat) : Act BuilderCell := do content ((← get).builders.get? id)

def setBuilder (id : Nat) (c : BuilderCell) : Act Unit :=
  modify fun s => { s with builders := s.builders.set id c }

def accumulatorOf (id : Nat) : Act Accumulator := do content ((← get).accumulators.get? id)

def setAccumulator (id : Nat) (a : Accumulator) : Act Unit :=
  modify fun s => { s with accumulators := s.accumulators.set id a }

def blockOf (id : Nat) : Act BlockCell := do content ((← get).blocks.get? id)

def setBlock (id : Nat) (b : BlockCell) : Act Unit :=
  modify fun s => { s with blocks := s.blocks.set id b }

/-- What was put in the place of an attribute, if anything was; nothing inside if it was deleted. -/
def overlaid? (id : Nat) (name : String) : Act (Option (Option Value)) := do
  return Value.lookup name (((← get).overlays.get? id).getD [])

/-- Changes what was put in the place of the attributes of an object. -/
def adjust (id : Nat) (f : Overlay → Overlay) : Act Unit :=
  modify fun s =>
    let changed := f ((s.overlays.get? id).getD [])
    { s with overlays := s.overlays.set id changed }

/-- Puts a value in the place of an attribute, or deletes it. -/
def overlay (id : Nat) (name : String) (v : Option Value) : Act Unit :=
  adjust id fun o => Schema.put o name v

/-- Gives attributes back to the object itself. -/
def uncover (id : Nat) (names : List String) : Act Unit :=
  adjust id fun o => o.filter fun p => !names.contains p.1

/-- An attribute of the object's own that was deleted is missed. -/
def requireOwn (id : Nat) (name : String) : Act Unit := do
  if (← overlaid? id name) matches some none then refuse .absentAttribute

def typeOf (id : Nat) : Act RecordType := do content ((← get).types.get? id)

def setType (t : RecordType) : Act Unit :=
  modify fun s => { s with types := s.types.set t.identity.id t }

/-- The schema that a value is, if it has a name, with its identity. -/
def schemaBehind? (v : Value) : Act (Option (Nat × Schema)) := do
  match v with
  | .handle id _ _ =>
    return (← get).names.findSome? fun n =>
      match n.2 with
      | .schema other s => if other == id then some (id, s) else none
      | _ => none
  | _ => return none

/-- The identity of the builder that a value is. -/
def builderBehind? (v : Value) : Act (Option Nat) := do
  match v with
  | .handle id _ _ => return ((← get).builders.get? id).map fun _ => id
  | _ => return none

end Session

namespace Object

/-- The identity of an object. -/
def identity : Object → Nat
  | builder id | accumulator id | block id | schema id _ | descriptor id _ _ _ | recordType id
  | record id _ _ | frame id _ | model id _ | filled id _ _ _ _ => id

/-- The printed form of a filled model. -/
def filledShown (m : Model) (values : List (String × Value)) : String :=
  m.name ++ "(" ++ Value.commas (values.map fun p => p.1 ++ "=" ++ p.2.shown) ++ ")"

/-- The printed form of a model. -/
def modelShown (m : Model) : String :=
  "<class '" ++ ClassBody.modelModule ++ "." ++ m.name ++ "'>"

/-- An object without elements counts as false. -/
def sized (empty : Bool) (className : String) : HandleKind :=
  if empty then .emptyObject className else .object className

/-- Attributes as a value. -/
def attributesValue (values : List (String × Value)) : Value :=
  .mapping (values.map fun p => (.text p.1, p.2))

/-- Are two objects equal although each has an identity of its own? Descriptors are if they agree,
and so are filled models of one model. -/
def alike : Object → Object → Bool
  | descriptor _ a _ _, descriptor _ b _ _ => a.equal b
  | filled _ m _ xs _, filled _ n _ ys _ =>
    m == n && (attributesValue xs).alike (attributesValue ys)
  | _, _ => false

/-- The identity of an object among those that are equal to it: that of the first one with
a name. -/
def likeness (o : Object) : Act Nat := do
  return (((← get).names.find? fun n => o.alike n.2).map (·.2.identity)).getD o.identity

/-- An object as a value. -/
def toValue (o : Object) : Act Value := do
  match o with
  | builder id => return .handle id (.object "SchemaBuilder") "<SchemaBuilder>"
  | accumulator id =>
    return .handle id (sized (← Session.accumulatorOf id).fields.isEmpty "SchemaState")
      "<SchemaState>"
  | block id => return .handle id (.keyless "Block") "<Block>"
  | schema id s => return .handle id (sized s.fields.isEmpty "Schema") s.shown
  | descriptor _ d _ _ => return .handle (← o.likeness) (.keyless "StructDescriptor") d.shown
  | recordType id => return .recordClass (← Session.typeOf id).identity
  | record cell c attributes => return .record cell c attributes
  | frame id _ => return .handle id (.undecided "DataFrame") "<DataFrame>"
  | model id m => return .handle id .classObject (modelShown m)
  | filled _ _ m values _ =>
    return .handle (← o.likeness) (.keyless m.name) (filledShown m values)

end Object

/-- The value that a name stands for in a session. -/
def Session.valueOf (name : String) : Act Value := do (← object name).toValue

end RecordSchema
