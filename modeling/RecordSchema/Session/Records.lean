import RecordSchema.Record.Construction
import RecordSchema.Session.Change
import RecordSchema.Value.Fault

/-!
# Records in a session

What a record class and a record have under a name, and what setting and deleting a name does.

A name is looked for in the class first: a property and the places that every class has come before
the attributes of the record itself, and everything else in the class comes after them. What no
class defines all objects have in common.
-/

set_option autoImplicit false

namespace RecordSchema.Session

open RecordSchema.Value

/-- What an attribute is. -/
inductive Found where
  | data (v : Value)
  /-- Code of a class, with the arguments that it is bound to. -/
  | code (t : RecordType) (name : String) (binding : Binding) (behaviour : Behaviour)
      (bound : List Value)
  /-- What all objects can do. -/
  | inherited (name : String) (bound : List Value)
  /-- What an object of another kind can do. -/
  | ability (name : String)

/-! ## What all objects have in common -/

/-- Operations that are written in the way of operators. -/
def operators : List String :=
  ["__repr__", "__hash__", "__str__", "__getattribute__", "__setattr__", "__delattr__", "__lt__",
   "__le__", "__eq__", "__ne__", "__gt__", "__ge__", "__init__"]

/-- Other operations on an object. -/
def objectMethods : List String :=
  ["__reduce_ex__", "__reduce__", "__getstate__", "__format__", "__sizeof__", "__dir__"]

/-- Operations on a class. -/
def classOperations : List String := ["__subclasshook__", "__init_subclass__", "__new__"]

/-- Operations on a class that it has for being a class. -/
def kindOperations : List String := ["__call__", "mro", "__instancecheck__", "__subclasscheck__"]

/-- The operation of a name that all objects have in common, bound to an object if there is one. -/
def inherited? (name : String) (self : Option Value) : Option Found :=
  if operators.contains name || objectMethods.contains name then some (.inherited name self.toList)
  else if classOperations.contains name then some (.inherited name [])
  else Option.none

/-! ## Reading -/

/-- The schema of a class as a value. -/
def schemaValue (t : RecordType) : Act Value := (Object.schema t.identity.id t.schema).toValue

/-- Code as an attribute of a record, or of the class itself. -/
def boundCode (t : RecordType) (name : String) (binding : Binding) (behaviour : Behaviour)
    (self : Option Value) : Found :=
  match binding with
  | .classMethod => .code t name binding behaviour [.recordClass t.identity]
  | .staticMethod => .code t name binding behaviour []
  | .method | .property => .code t name binding behaviour self.toList

/-- A place that every record of a class has, as a value. -/
def placeValue (t : RecordType) (name : String) : Value :=
  .handle 0 (.object "getset_descriptor")
    ("<attribute '" ++ name ++ "' of '" ++ t.identity.title ++ "' objects>")

/-- What a member of a class is, seen from a record or from the class itself. -/
def foundMember (t : RecordType) (name : String) (self : Option Value) : Member → Act Found
  | .data v => return .data v
  | .code binding behaviour => return boundCode t name binding behaviour self
  | .schema => return .data (← schemaValue t)
  | .attributes => return .data (placeValue t "__dict__")
  | .reference => return .data (placeValue t "__weakref__")

/-- A mapping that can only be read, as a value. -/
def readOnly (entries : List (String × Value)) : Value :=
  .handle 0 (.object "mappingproxy")
    ("mappingproxy(" ++ (Object.attributesValue entries).shown ++ ")")

/-- What a class tells about itself, whatever its namespace has. -/
def classFact? (t : RecordType) (name : String) : Option Value :=
  match name with
  | "__name__" => some (.text t.identity.title)
  | "__qualname__" => some (.text t.identity.name.qualname)
  | "__bases__" => some (.tuple [builtinClass "object"])
  | "__mro__" => some (.tuple [.recordClass t.identity, builtinClass "object"])
  | "__base__" => some (builtinClass "object")
  | "__class__" => some (builtinClass "type")
  | "__dict__" => some (readOnly [])
  | "__text_signature__" => some .none
  | "__itemsize__" => some (.int 0)
  | "__annotations__" => if t.members.has name then Option.none else some (.mapping [])
  | _ => Option.none

/-- An attribute of a record class. -/
def readClass (t : RecordType) (name : String) : Act Found := do
  match classFact? t name, t.member? name, inherited? name Option.none with
  | some v, _, _ => return .data v
  | Option.none, some m, _ => foundMember t name Option.none m
  | Option.none, Option.none, some found => return found
  | Option.none, Option.none, Option.none =>
    if kindOperations.contains name then return .inherited name [.recordClass t.identity]
    else refuse .absentAttribute

/-- A record as it stands, with its class and its attributes. -/
structure Instance where
  cell : Nat
  type : RecordType
  attributes : List (String × Value)

namespace Instance

def toValue (x : Instance) : Value := .record x.cell x.type.identity x.attributes

/-- An attribute that is neither a property nor one of the places that every class has. -/
def ordinary (x : Instance) (name : String) : Act Found := do
  match lookup name x.attributes, x.type.member? name, inherited? name (some x.toValue) with
  | some v, _, _ => return .data v
  | Option.none, some m, _ => foundMember x.type name (some x.toValue) m
  | Option.none, Option.none, some found => return found
  | _, _, _ => refuse x.type.identity.absence

/-- The attribute of a record; reading a property is left to the caller. -/
def read (x : Instance) (name : String) : Act Found := do
  if !x.type.identity.isReadable then refuse .wrongKind
  match x.type.member? name with
  | some (.code .property behaviour) =>
    return .code x.type name .property behaviour [x.toValue]
  | some .attributes => return .data (Object.attributesValue x.attributes)
  | some .reference => return .data .none
  | some _ => x.ordinary name
  | Option.none =>
    if name == "__class__" then return .data (.recordClass x.type.identity) else x.ordinary name

end Instance

/-- The record that a value is. -/
def instance? (v : Value) : Act (Option Instance) := do
  match v with
  | .record cell c attributes => return some ⟨cell, ← typeOf c.id, attributes⟩
  | _ => return Option.none

/-- The value of an attribute of a record by which a property is read. -/
def plainAttribute (v : Value) (name : String) : Act Value := do
  match ← instance? v with
  | some x =>
    match ← x.read name with
    | .data v => return v
    | _ => refuse .wrongKind
  | Option.none => refuse .absentAttribute

/-! ## Setting and deleting -/

/-- The attributes that a mapping brings: those under texts. -/
def attributesFrom (entries : List (Value × Value)) : List (String × Value) :=
  entries.filterMap fun e =>
    match e.1 with
    | .text name => some (name, e.2)
    | _ => Option.none

/-- A record after its attribute of a name is set, by the way that all objects have. -/
def Instance.put (x : Instance) (name : String) (v : Value) : Act Instance := do
  let own (name : String) (v : Value) : Instance :=
    { x with attributes := Schema.put x.attributes name v }
  match x.type.member? name, name, v with
  | some (.code .property (.doubled field)), _, v => return own field (← ofRefusal v.halved)
  | some (.code .property _), _, _ => refuse .absentAttribute
  | some .attributes, _, .mapping entries => return { x with attributes := attributesFrom entries }
  | some .attributes, _, _ => refuse .wrongKind
  | some .reference, _, _ => refuse .absentAttribute
  | Option.none, "__class__", .recordClass c => return { x with type := ← typeOf c.id }
  | Option.none, "__class__", _ => refuse .wrongKind
  | _, _, v => return own name v

/-- A record after its attribute of a name is set. -/
def Instance.set (x : Instance) (name : String) (v : Value) : Act Instance :=
  if x.type.members.has "__setattr__" then refuse .wrongKind else x.put name v

/-- A record after its attribute of a name is deleted, by the way that all objects have. -/
def Instance.remove (x : Instance) (name : String) : Act Instance := do
  match x.type.member? name with
  | some (.code .property _) | some .reference => refuse .absentAttribute
  | some .attributes => return { x with attributes := [] }
  | m =>
    if name == "__class__" && m.isNone then refuse .wrongKind
    else if (lookup name x.attributes).isNone then refuse .absentAttribute
    else return { x with attributes := x.attributes.filter (·.1 != name) }

/-- A record after its attribute of a name is deleted. -/
def Instance.delete (x : Instance) (name : String) : Act Instance :=
  if x.type.members.has "__delattr__" then refuse .wrongKind else x.remove name

/-- Puts a changed record in the place of the old one. -/
def keepInstance (x : Instance) : Act Unit :=
  carryOut (.ofRecord x.cell x.type.identity x.attributes)

/-- What a class tells about itself that cannot be changed. -/
def fixedFacts : List String :=
  ["__mro__", "__base__", "__dict__", "__text_signature__", "__itemsize__", "__basicsize__",
   "__dictoffset__", "__flags__", "__weakrefoffset__"]

/-- A class after its attribute of a name is set. -/
def setClass (t : RecordType) (name : String) (v : Value) : Act RecordType := do
  match name, v with
  | "__name__", v =>
    let title ← ofRefusal (RecordType.checkTitle v)
    return { t with identity := { t.identity with title } }
  | "__qualname__", .text qualname =>
    return { t with identity := { t.identity with name := ⟨t.identity.name.module, qualname⟩ } }
  | "__qualname__", _ | "__bases__", _ | "__class__", _ => refuse .wrongKind
  | _, v =>
    if fixedFacts.contains name then refuse .absentAttribute
    match name, (← schemaBehind? v).map (·.2) with
    | "__schema__", some s =>
      return { t with schema := s, members := Schema.put t.members name .schema }
    | _, _ => return { t with members := Schema.put t.members name (.data v) }

/-- A class after its attribute of a name is deleted. -/
def deleteClass (t : RecordType) (name : String) : Act RecordType := do
  if ["__name__", "__qualname__", "__module__", "__bases__", "__doc__", "__class__"].contains name
  then refuse .wrongKind
  if fixedFacts.contains name || (t.member? name).isNone then refuse .absentAttribute
  return { t with members := t.members.erase name }

/-! ## Making records -/

/-- A record of a class with the given attributes. -/
def newRecord (t : RecordType) (attributes : List (String × Value)) : Act Object := do
  return .record (← fresh) t.identity attributes

/-- A record after its constructor has gone over it. -/
def initialise (x : Instance) (positional : List Value) (keywords : List (String × Value)) :
    Act Instance := do
  match x.type.member? "__init__" with
  | some (.code .method .initialise) =>
    let given ← ofRefusal (RecordType.bindArguments positional keywords)
    if !x.type.identity.hasSchema then refuse .absentAttribute
    (← ofExcept (x.type.fill given)).foldlM (fun x p => x.set p.1 p.2) x
  | some _ => refuse .wrongKind
  | Option.none => if positional.isEmpty && keywords.isEmpty then return x else refuse .wrongKind

/-- A new record from a call of its class. -/
def makeOf (t : RecordType) (positional : List Value) (keywords : List (String × Value)) :
    Act Object := do
  if t.members.has "__new__" then refuse .wrongKind
  let x ← initialise ⟨← fresh, t, []⟩ positional keywords
  return .record x.cell x.type.identity x.attributes

/-- Fills a model with values. A default that could change is copied, and a value that was made over
has storage of its own. -/
def fillModel (modelId : Nat) (m : Model) (given : List (String × Value)) : Act Object := do
  let given := Schema.putAll [] given
  let values ← (← ofExcept (m.validate given)).mapM fun p => do
    let isDefault := (lookup p.1 given).isNone
    let depth : CopyDepth := if isDefault && !p.2.hashable then .records else .unplaced
    return (p.1, ← copyValue depth p.2)
  return .filled (← fresh) modelId m values (given.map (·.1))

/-- Calls an object as a class: a record class or a model makes a record of its own. -/
def make (o : Object) (positional : List Value) (keywords : List (String × Value)) :
    Act Object := do
  match o with
  | .recordType id => makeOf (← typeOf id) positional keywords
  | .model modelId m =>
    if positional.isEmpty then fillModel modelId m keywords else refuse .wrongKind
  | _ => refuse .wrongKind

/-- Calls an object as a model. -/
def fill (o : Object) (given : List (String × Value)) : Act Object := do
  match o with
  | .model modelId m => fillModel modelId m given
  | _ => refuse .wrongKind

/-! ## Printing and comparing -/

/-- What stands in for attributes that the records of each class lack: values in the class. -/
def sharedAttributes (types : Table RecordType) (c : RecordClass) : List (String × Value) :=
  match types.get? c.id with
  | some t => t.members.filterMap fun m =>
      match m.2 with
      | .data v => some (m.1, v)
      | _ => Option.none
  | Option.none => []

/-- A value in which every record has the attributes that its class stands in for. -/
def completed (v : Value) : Act Value := do
  return v.revised { shared := sharedAttributes (← get).types }

/-- The result of an operation on a value, or else of the same on the completed value. -/
def onCompleted {α : Type} (f : Value → Except Refusal α) (v : Value) : Act α := do
  match f v with
  | .ok a => return a
  | .error _ => ofRefusal (f (← completed v))

/-- The printed form of a value. -/
def print (v : Value) : Act String := onCompleted Value.print v

/-- Are two values equal? -/
def compare (a b : Value) : Act Bool := do
  match Value.compare a b with
  | .ok same => return same
  | .error _ => ofRefusal (Value.compare (← completed a) (← completed b))

/-- A value that can be shown, with what its class stands in for. -/
def presentable (v : Value) : Act Value :=
  onCompleted (fun v =>
    match v.printFault? with
    | some cause => .error cause
    | Option.none => .ok v) v

/-- The class of a value has no rule for inequality but that for equality. -/
def checkInequality (v : Value) : Act Unit := do
  match ← instance? v with
  | some x => if x.type.members.has "__ne__" then refuse .wrongKind
  | Option.none => return ()

/-! ## Records and their classes -/

/-- The record class of a value that is a record or a record class. -/
def typeBehind? (v : Value) : Act (Option RecordType) := do
  let typed (c : RecordClass) : Act (Option RecordType) :=
    if c.hasSchema then some <$> typeOf c.id else pure Option.none
  match v with
  | .recordClass c => typed c
  | .record _ c _ => if c.isReadable then typed c else refuse .wrongKind
  | _ => return Option.none

/-- The record class of a value, which has to have one. -/
def typeBehind (v : Value) : Act RecordType := do
  match ← typeBehind? v with
  | some t => return t
  | Option.none =>
    let _ ← print v
    throw (.notRecord v)

/-- The values of the fields of a record, by name. -/
def fieldsOf (v : Value) : Act (List (String × Value)) := do
  if v.isClass then throw .fieldsOfClass
  let t ← typeBehind v
  t.schema.keys.mapM fun name => do
    match ← instance? v with
    | some x =>
      match ← x.read name with
      | .data v => return (name, v)
      | .code _ _ .property (.doubled field) bound =>
        return (name, ← ofRefusal (← plainAttribute (bound.headD .none) field).doubled)
      | _ => return (name, .handle 0 (.object "function") ("<function " ++ name ++ ">"))
    | Option.none => refuse .absentAttribute

/-- A copy of a record with changes. The name of the record itself cannot be among them. -/
def replace (v : Value) (changes : List (String × Value)) : Act Object := do
  if (lookup "instance" changes).isSome then refuse .wrongKind
  let values ← fieldsOf v
  match v with
  | .record _ c _ => makeOf (← typeOf c.id) [] (Schema.putAll values changes)
  | _ => refuse .wrongKind

/-- The hash of an object, as far as it is known. -/
def hash (o : Object) : Act (Option Int) := do
  match o with
  | .record _ c _ =>
    match c.hashing with
    | .constant n => return some n
    | .byIdentity => return Option.none
    | _ => refuse .wrongKind
  | .descriptor .. | .filled .. | .block _ | .frame .. => refuse .wrongKind
  | _ => return Option.none

/-! ## Frames -/

/-- The schema that an object has: a schema its own, a record class or a record that of
its class. -/
def columnsOf (o : Object) : Act (List (String × ColumnType)) := do
  match o with
  | .schema _ s => return s.columnTypes
  | o => return (← typeBehind (← o.toValue)).schema.columnTypes

/-- The frame of the records in a list; of no records whatever has columns makes an empty frame. -/
def toFrame (o : Object) (values : List Value) : Act Frame := do
  match o, values with
  | .recordType id, _ =>
    let t ← typeOf id
    let values ← values.mapM completed
    let rows ← ofExcept (Frame.recordRows t values)
    let _ ← typeBehind (.recordClass t.identity)
    if !t.identity.isReadable && !rows.isEmpty && !t.schema.fields.isEmpty then refuse .wrongKind
    ofExcept (Frame.ofRecords t values)
  | o, [] => return ⟨(← columnsOf o).map fun p => ⟨p.1, p.2, []⟩⟩
  | .model _ m, values =>
    match values.find? fun v => v.kindName != m.name with
    | some v => throw (.wrongRow m.name v.kindName)
    | Option.none => return ⟨(← columnsOf o).map fun p => ⟨p.1, p.2, []⟩⟩
  | _, _ :: _ => refuse .wrongKind

/-- The records that the rows of a frame make. -/
def fromFrame (o table : Object) (strict : Bool) : Act (List Object) := do
  let t ← typeBehind (← o.toValue)
  match o, table with
  | .recordType _, .frame _ f => (f.arguments t strict).mapM (makeOf t [])
  | _, .frame _ f => if f.height == 0 then return [] else refuse .wrongKind
  | _, _ => refuse .absentAttribute

/-! ## Descriptors and models -/

/-- A schema whose types and defaults can be shown, with what their classes stand in for. -/
def presentableSchema (s : Schema) : Act Schema := do
  let fields ← s.fields.mapM fun f => do
    return { f with effective := ← presentable f.effective, default := ← presentable f.default }
  let _ ← ofRefusal s.nullability
  return { s with fields }

/-- Describes a schema. -/
def describe (s : Schema) : Act Object := do
  let d := Descriptor.ofSchema (← presentableSchema s)
  return .descriptor (← fresh) d (← fresh) (← fresh)

/-- The descriptor that an object is or that its schema has. -/
def descriptorOf (o : Object) : Act Descriptor := do
  match o with
  | .descriptor _ d _ _ => return d
  | .schema _ s => return Descriptor.ofSchema (← presentableSchema s)
  | _ => refuse .absentAttribute

/-- The values that a filled model gives out. -/
def filledValues (o : Object) : Act (List (String × Value)) := do
  match o with
  | .filled _ _ _ values _ => ofRefusal (dumpedFields values)
  | _ => refuse .absentAttribute

/-- The record that the values of a filled model make. -/
def fromFilled (o filled : Object) : Act Object := do
  make o [] (← copyValues .lists (← filledValues filled))

end RecordSchema.Session
