import RecordSchema.Session.Property
import RecordSchema.Value.Making

/-!
# Attributes in a session

Reading, setting, deleting and calling the attributes of objects of every kind: the code in record
classes, what all objects have in common, and what the other kinds of objects can do.
-/

set_option autoImplicit false

namespace RecordSchema.Session

open RecordSchema.Value

/-! ## Code in classes -/

/-- The mark of an operation that does not know the other value. -/
def notImplemented : Value := .handle 0 (.object "NotImplementedType") "NotImplemented"

/-- Is a value the given class? -/
def isTypeValue (t : RecordType) : Value → Bool
  | .recordClass c => c.id == t.identity.id
  | _ => false

/-- Is a value a record of the given class? -/
def isRecordOf (t : RecordType) : Value → Bool
  | .record _ c _ => c.id == t.identity.id
  | _ => false

/-- Are two values of one class? -/
def sameClass : Value → Value → Bool
  | .record _ c _, .record _ d _ => c.id == d.id
  | .record _ _ _, _ => false
  | _, .record _ _ _ => false
  | a, b => a.kindName == b.kindName

/-- A record whose class has the given rules. -/
def withRules (v : Value) (printing : Printing) (comparison : Comparison) : Value :=
  match v with
  | .record cell c attributes => .record cell { c with printing, comparison } attributes
  | v => v

/-- Field by field comparison, whatever rule the class has. -/
def compareFields (a b : Value) : Act Value := do
  match a, sameClass a b with
  | .record _ _ _, true =>
    return .bool (← compare (withRules a .byFields .byFields) (withRules b .byFields .byFields))
  | _, true => refuse .absentAttribute
  | _, false => return notImplemented

/-- What a schema of a class is asked for, if the class has one. -/
def schemaPart (t : RecordType) (part : Schema → Value) : Act Value :=
  if t.identity.hasSchema then return part t.schema else refuse .absentAttribute

/-- What code in a class does when it is called with all its arguments. -/
def behave (t : RecordType) (binding : Binding) (behaviour : Behaviour) (arguments : List Value) :
    Act Value := do
  match behaviour, arguments with
  | .greeting, [self] =>
    match ← plainAttribute self "name" with
    | .text s => return .text ("hi " ++ s)
    | _ => refuse .wrongKind
  | .ownership, [v] =>
    match binding with
    | .method | .property => return .bool (isRecordOf t v)
    | .classMethod | .staticMethod => return .bool (isTypeValue t v)
  | .blank, [_] => (← newRecord t [("label", .text "blank")]).toValue
  | .constant n, [] => return .int n
  | .doubled field, [self] =>
    copyValue .unplaced (← ofRefusal (← plainAttribute self field).doubled)
  | .initialise, self :: positional =>
    match ← instance? self with
    | some x =>
      if !positional.isEmpty then refuse .wrongKind
      if !x.type.identity.hasSchema then refuse .absentAttribute
      let given ← ofExcept (x.type.fill [])
      keepInstance (← given.foldlM (fun x p => x.set p.1 p.2) x)
      return .none
    | Option.none => if positional.isEmpty then refuse .absentAttribute else refuse .wrongKind
  | .printFields, [self] =>
    match self with
    | .record _ _ _ => return .text (← print (withRules self .byFields .byFields))
    | _ => refuse .absentAttribute
  | .printText fixed, [_] => return .text fixed
  | .printPlace, [self] =>
    if isRecordOf t self then return .text (← print self) else refuse .wrongKind
  | .compareFields, [a, b] => compareFields a b
  | .compareParity field, [a, b] =>
    if isRecordOf t a && isRecordOf t b then
      let rule := Comparison.byParity field
      return .bool (← compare (withRules a .byFields rule) (withRules b .byFields rule))
    else return .bool false
  | .hashConstant n, [_] => return .int n
  | .listKeys, [_] => schemaPart t fun s => .tuple (s.keys.map .text)
  | .listDefaults, [_] => schemaPart t fun s => readOnly s.defaults
  | .listTypes, [_] => schemaPart t fun s => readOnly s.types
  | _, _ => refuse .wrongKind

/-- The name that a piece of code goes by. -/
def codeName (t : RecordType) (name : String) : Behaviour → String
  | .initialise => t.constructorName
  | .printFields => "_repr"
  | .compareFields => "_eq"
  | .listKeys => "_keys"
  | .listDefaults => "_defaults"
  | .listTypes => "_types"
  | _ => t.identity.title ++ "." ++ name

/-- The value of a property, or of anything else that is read. -/
def foundValue : Found → Act Value
  | .data v => return v
  | .code t _ .property behaviour [self] => behave t .property behaviour [self]
  | .code _ _ .property _ _ => return .handle 0 (.object "property") "<property object>"
  | .code t name _ behaviour (self :: _) => do
    return .handle 0 (.object "method")
      ("<bound method " ++ codeName t name behaviour ++ " of " ++ (← print self) ++ ">")
  | .code t name _ behaviour [] =>
    return .handle 0 (.object "function") ("<function " ++ codeName t name behaviour ++ ">")
  | .inherited name [] =>
    let form := if operators.contains name then "<slot wrapper '" else "<method '"
    return .handle 0 (.object "wrapper_descriptor") (form ++ name ++ "' of 'object' objects>")
  | .inherited name _ =>
    return .handle 0 (.object "method-wrapper") ("<method-wrapper '" ++ name ++ "'>")
  | .ability name => return .handle 0 (.object "method") ("<bound method " ++ name ++ ">")

/-! ## What all objects can do -/

/-- Equality by the rule of the first value's class alone; nothing if it does not know
the second. -/
def equalOnce (a b : Value) : Act (Option Bool) := do
  match ← instance? a with
  | some x =>
    match x.type.member? "__eq__" with
    | some (.code .method behaviour) =>
      match ← behave x.type .method behaviour [a, b] with
      | .bool same => return some same
      | _ => return Option.none
    | some _ => refuse .wrongKind
    | Option.none => return if sameObject a b then some true else Option.none
  | Option.none => if sameClass a b then return some (← compare a b) else return Option.none

/-- The name that a value is, for an operation on attributes. -/
def attributeName (v : Value) : Act String :=
  match v with
  | .text name => return name
  | _ => refuse .wrongKind

/-- The record that an operation is applied to. -/
def instanceFor (v : Value) : Act Instance := do
  match ← instance? v with
  | some x => return x
  | Option.none => refuse .wrongKind

/-- What all objects can do, with the object in front of the arguments. -/
def callInherited (name : String) (arguments : List Value) : Act Value := do
  match name, arguments with
  | "__repr__", [.record _ c _] => return .text (Namespace.objectForm c.name.dotted ++ ">")
  | "__repr__", [v] => return .text (← print v)
  | "__str__", [v] => return .text (← print v)
  | "__format__", [v, .text ""] => return .text (← print v)
  | "__eq__",
      [.handle i (.keyless "StructDescriptor") _, .handle j (.keyless "StructDescriptor") _] =>
    return .bool (i == j)
  | "__eq__", [a, b] => return if sameObject a b then .bool true else notImplemented
  | "__ne__", [a, b] =>
    match ← equalOnce a b with
    | some same => return .bool (!same)
    | Option.none => return notImplemented
  | "__lt__", [_, _] | "__le__", [_, _] | "__gt__", [_, _] | "__ge__", [_, _] =>
    return notImplemented
  | "__hash__", [v] => if v.hashable then return .int 0 else refuse .wrongKind
  | "__getattribute__", [self, name] => do
    foundValue (← (← instanceFor self).read (← attributeName name))
  | "__setattr__", [self, name, v] => do
    keepInstance (← (← instanceFor self).put (← attributeName name) v)
    return .none
  | "__delattr__", [self, name] => do
    keepInstance (← (← instanceFor self).remove (← attributeName name))
    return .none
  | "__init__", [_] => return .none
  | "__getstate__", [self] =>
    let x ← instanceFor self
    return if x.attributes.isEmpty then .none else Object.attributesValue x.attributes
  | "__new__", .recordClass c :: rest =>
    let t ← typeOf c.id
    if !rest.isEmpty && !t.members.has "__init__" then refuse .wrongKind
    (← newRecord t []).toValue
  | "__call__", .recordClass c :: positional => (← makeOf (← typeOf c.id) positional []).toValue
  | "mro", [.recordClass c] =>
    copyValue .unplaced (.ofList [.recordClass c, builtinClass "object"])
  | "__instancecheck__", [.recordClass c, v] =>
    return .bool (isRecordOf (← typeOf c.id) v)
  | "__subclasscheck__", [.recordClass c, v] =>
    if v.isClass then return .bool ((Value.recordClass c).equal v) else refuse .wrongKind
  | "__subclasshook__", [_] => return notImplemented
  | "__init_subclass__", [] => return .none
  | _, _ => refuse .wrongKind

/-! ## Other objects -/

/-- The class of an object that is no record, and its module. -/
def homeOf : Object → Option ClassName
  | .schema .. => some ⟨"typedstruct.core.emitter", "Schema"⟩
  | .descriptor .. => some ⟨"typedstruct.core.descriptor", "StructDescriptor"⟩
  | .builder _ => some ⟨"typedstruct.core.builder", "SchemaBuilder"⟩
  | .block _ => some ⟨"typedstruct.core.builder", "Block"⟩
  | .accumulator _ => some ⟨"typedstruct.core.accumulator", "SchemaState"⟩
  | .filled _ _ m _ _ => some ⟨ClassBody.modelModule, m.name⟩
  | _ => Option.none

/-- What an object can do by its own methods. -/
def abilities : Object → List String
  | .schema .. => ["keys", "defaults", "types", "field", "__len__"]
  | .descriptor .. => ["to_dict", "from_dict"]
  | .builder _ => ["__init__", "_check_open", "field", "declare", "build", "build_struct"]
  | .block _ => ["field"]
  | .accumulator _ =>
    ["__init__", "append", "finalize", "fields", "required", "__contains__", "__len__"]
  | .filled .. => ["model_dump", "dict", "model_copy", "copy"]
  | .frame .. => ["rows", "to_dicts", "is_empty", "__len__"]
  | _ => []

/-- An attribute of an object that is neither a record nor a record class. -/
def readOther (o : Object) (name : String) : Act Found := do
  if (abilities o).contains name then return .ability name
  match name, homeOf o with
  | "__class__", some c => return .data (.classToken c)
  | "__module__", some c => return .data (.text c.module)
  | _, _ =>
    if (operators ++ objectMethods).contains name then return .inherited name [← o.toValue]
    return .data (← property o name)

/-- Reads an attribute. -/
def find (o : Object) (name : String) : Act Found := do
  match o with
  | .record cell c attributes => (Instance.mk cell (← typeOf c.id) attributes).read name
  | .recordType id => readClass (← typeOf id) name
  | o => readOther o name

/-- The value of an attribute. -/
def readAttribute (o : Object) (name : String) : Act Value := do foundValue (← find o name)

/-! ## Setting and deleting -/

/-- Sets an attribute. -/
def setAttribute (o : Object) (name : String) (v : Value) : Act Unit := do
  match o with
  | .record cell c attributes =>
    keepInstance (← (Instance.mk cell (← typeOf c.id) attributes).set name v)
  | .recordType id => replaceType (← setClass (← typeOf id) name v).settled
  | o => setProperty o name v

/-- Deletes an attribute. -/
def deleteAttribute (o : Object) (name : String) : Act Unit := do
  match o with
  | .record cell c attributes =>
    keepInstance (← (Instance.mk cell (← typeOf c.id) attributes).delete name)
  | .recordType id => replaceType (← deleteClass (← typeOf id) name).settled
  | o => deleteProperty o name

/-! ## Calling -/

/-- What a schema does. -/
def callSchema (s : Schema) (name : String) (arguments : List Value) : Act Value := do
  match name, arguments with
  | "keys", [] => return .tuple (s.keys.map .text)
  | "defaults", [] => return readOnly s.defaults
  | "types", [] => return readOnly s.types
  | "field", [v] => return fieldValue (← ofExcept (s.field v))
  | "__len__", [] => return .int s.fields.length
  | _, _ => refuse .wrongKind

/-- Makes sure that a block has not failed. -/
def checkOpen (id : Nat) : Act Unit := do
  checkOwnState id false
  let b := (← builderCell id).builder
  if b.isAborted then
    requireOwn id "name"
    throw (Error.blockAborted b.name).raised

/-- What a block does. -/
def callBuilder (o : Object) (name : String) (arguments : List Value) : Act Value := do
  match name, arguments with
  | "__init__", [name] =>
    setBuilder o.identity { builder := Builder.new name }
    uncover o.identity builderNames
    return .none
  | "_check_open", [] =>
    checkOpen o.identity
    return .none
  | "field", [name, type] => return fieldValue (← declareIn o name type [])
  | "declare", [name, type] => return fieldValue (← declareIn o name type [])
  | "declare", [name, type, options] => return fieldValue (← declareWith o name type options)
  | "build", [] =>
    match ← overlaid? o.identity "_schema" with
    | some (some Value.none) | some Option.none | Option.none =>
      let (id, s) ← build o
      (Object.schema id s).toValue
    | some (some v) =>
      checkOpen o.identity
      return v
  | "build_struct", [] =>
    let (_, s) ← build o
    return .recordClass (← createType s {}).identity
  | _, _ => refuse .wrongKind

/-- What an accumulator does. -/
def callAccumulator (o : Object) (name : String) (arguments : List Value) : Act Value := do
  let (_, a) ← accumulator o
  match name, arguments with
  | "append", [.text name, default, type, enforced] =>
    return fieldValue (← append o name type enforced default .missing)
  | "__init__", [name] =>
    setAccumulator o.identity { name }
    uncover o.identity accumulatorNames
    return .none
  | "finalize", [] => return .tuple ((← finalize o).map fieldValue)
  | "fields", [] => return .tuple ((← ofExcept a.finalFields).map fieldValue)
  | "required", [] => return .frozenSet ((← ofExcept a.finalRequired).eraseDups.map .text)
  | "__contains__", [v] => return .bool ((← holds a [v]).headD false)
  | "__len__", [] => return .int a.fields.length
  | _, _ => refuse .wrongKind

/-- The values of a row of a frame. -/
def rowValues (row : List (String × Value)) : Value := .tuple (row.map (·.2))

/-- What a frame does. -/
def callFrame (f : Frame) (name : String) (arguments : List Value) : Act Value := do
  match name, arguments with
  | "rows", [] => copyValue .unplaced (.ofList (f.rows.map rowValues))
  | "to_dicts", [] => copyValue .unplaced (.ofList (f.rows.map Object.attributesValue))
  | "is_empty", [] => return .bool (f.height == 0)
  | "__len__", [] => return .int f.height
  | _, _ => refuse .wrongKind

/-- Calls a method of an object that is neither a record nor a record class. -/
def callAbility (o : Object) (name : String) (arguments : List Value) : Act Value := do
  match o with
  | .schema _ s => callSchema s name arguments
  | .descriptor _ d _ _ =>
    match name, arguments with
    | "to_dict", [] => return d.toValue
    | "from_dict", [v] =>
      let made ← ofRefusal (Descriptor.ofValue v)
      return .handle (← fresh) (.keyless "StructDescriptor") made.shown
    | _, _ => refuse .wrongKind
  | .builder _ | .block _ => callBuilder o name arguments
  | .accumulator _ => callAccumulator o name arguments
  | .frame _ f => callFrame f name arguments
  | .filled id modelId m values given =>
    if !arguments.isEmpty then refuse .wrongKind
    if name == "model_dump" || name == "dict" then
      return Object.attributesValue (← copyValues .lists (← ofRefusal (dumpedFields values)))
    else (Object.filled id modelId m values given).toValue
  | _ => refuse .wrongKind

/-- Calls a value: a class makes a value of its own, and so does a generic type with
its arguments. -/
def callValue (v : Value) (arguments : List Value) : Act Value := do
  let makeIn (className : String) : Act Value := do
    copyValue .unplaced (← ofRefusal (made className arguments))
  match v with
  | .recordClass c => (← makeOf (← typeOf c.id) arguments []).toValue
  | .classToken ⟨"builtins", className⟩ => makeIn className
  | .alias .builtin className _ => makeIn className
  | _ => refuse .wrongKind

/-- Calls an attribute. -/
def call (o : Object) (name : String) (arguments : List Value) : Act Value := do
  match ← find o name with
  | .code t _ .property behaviour [self] =>
    callValue (← behave t .property behaviour [self]) arguments
  | .code _ _ .property _ _ => refuse .wrongKind
  | .code t _ binding behaviour bound => behave t binding behaviour (bound ++ arguments)
  | .inherited name bound => callInherited name (bound ++ arguments)
  | .ability name => callAbility o name arguments
  | .data v => callValue v arguments

/-! ## Lists in attributes -/

/-- The storage and the items of a list in an attribute, reached through the record itself or
through its field values. -/
def listIn (o : Object) (name : String) (throughFields : Bool) : Act (Nat × List Value) := do
  let found ←
    if throughFields then
      match lookup name (← fieldsOf (← o.toValue)) with
      | some v => pure v
      | Option.none => refuse .absentKey
    else readAttribute o name
  match found with
  | .list cell items => return (cell, items)
  | _ => refuse .absentAttribute

/-- Adds an item at the end of a list, wherever the list stands. -/
def push (list : Nat × List Value) (v : Value) : Act (List Value) := do
  let items := list.2 ++ [v]
  carryOut (.ofItems list.1 items)
  return items

end RecordSchema.Session
