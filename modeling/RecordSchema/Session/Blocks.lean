import RecordSchema.Session.Annotation

/-!
# Blocks in a session

Opening blocks, declaring their fields, and building their schemas and record classes; accumulating
fields without a block; and class bodies. A built block keeps its schema, so building it again gives
the same object. What was put in the place of what a block knows about itself counts, and what was
deleted is missed where it is needed.
-/

set_option autoImplicit false

namespace RecordSchema.Session

/-- Opens a block. -/
def openBuilder (name strict : Value) (policy : NamePolicy) : Act (Nat × Builder) := do
  let id ← fresh
  let b := Builder.new name strict policy
  setBuilder id { builder := b }
  return (id, b)

/-- The names that a call with options as keywords keeps for itself. -/
def keywordsTaken : List String := ["self", "name", "type_"]

/-- Are options usable as keywords of a call? -/
def checkKeywords (options : List (Value × Value)) : Act Unit :=
  if options.any fun o => match o.1 with
    | .text s => keywordsTaken.contains s
    | _ => true
  then refuse .wrongKind
  else pure ()

/-- Can fields still be declared in a block? -/
def isOpen (b : Builder) : Bool := !b.isAborted && !b.isFinalized

/-- A cause of failure that was put in the place of a block's own is none that can be told, and what
keeps the fields has to be the block's own. -/
def checkOwnState (id : Nat) (needsFields : Bool) : Act Unit := do
  match ← overlaid? id "_aborted" with
  | some none => refuse .absentAttribute
  | some (some _) =>
    requireOwn id "name"
    refuse .wrongKind
  | none => if needsFields && (← overlaid? id "_state").isSome then refuse .absentAttribute

/-- Declares a field in the builder of an identity. -/
def declareInBuilder (id : Nat) (name type : Value) (options : List (Value × Value)) :
    Act Field := do
  let cell ← builderCell id
  checkOwnState id (!cell.builder.isAborted)
  if isOpen cell.builder then
    requireOwn id "strict_options"
    if (← overlaid? id "name_policy") matches some none then
      let read := FieldOptions.ofEntries options cell.builder.strict.truthy name
      if read.result matches .ok _ then
        let _ ← perform read
        refuse .absentAttribute
  else requireOwn id "name"
  let (builder, made) := cell.builder.declare name type options
  setBuilder id { cell with builder := ← settledBuilder builder }
  if isOpen cell.builder && builder.isAborted then requireOwn id "name"
  settled (← perform made)

/-- Declares a field in a block, with or without a body. -/
def declareIn (o : Object) (name type : Value) (options : List (Value × Value)) : Act Field := do
  match o with
  | .builder id => declareInBuilder id name type options
  | .block id =>
    match ← overlaid? id "builder" with
    | some (some v) =>
      match ← builderBehind? v with
      | some id => declareInBuilder id name type options
      | none => refuse .absentAttribute
    | some none => refuse .absentAttribute
    | none =>
      let cell ← blockOf id
      let (block, made) := cell.block.declare name type options
      setBlock id { cell with block := { block with builder := ← settledBuilder block.builder } }
      settled (← perform made)
  | _ => refuse .absentAttribute

/-- Declares a field in a block, the options being any value. One that is no mapping is looked
through for unknown options, and then has no options to give. -/
def declareWith (o : Object) (name type options : Value) : Act Field := do
  match o, options with
  | _, .none => declareIn o name type []
  | _, .mapping entries => declareIn o name type entries
  | .builder id, v =>
    if !isOpen (← builderCell id).builder || !(← ofRefusal v.truth) then declareIn o name type []
    else
      let keys ← ofRefusal v.elements
      if !Value.allHashable keys then refuse .wrongKind
      let read := FieldOptions.ofEntries (keys.map fun k => (k, .none))
        (← builderCell id).builder.strict.truthy name
      if read.result matches .ok _ then
        let _ ← perform read
        refuse .absentAttribute
      declareIn o name type (keys.map fun k => (k, .none))
  | _, _ => refuse .absentAttribute

/-- Declares a field in a block, the options being keywords. -/
def declareField (o : Object) (name type : Value) (options : List (Value × Value)) : Act Field := do
  checkKeywords options
  declareIn o name type options

/-- Declares a field in a block without a body, the options being a mapping. -/
def declare (o : Object) (name type : Value) (options : List (Value × Value)) : Act Field := do
  match o with
  | .block _ => refuse .absentAttribute
  | o => declareIn o name type options

/-- Builds a builder: the identity of its schema and the schema. -/
def buildOwn (id : Nat) : Act (Nat × Schema) := do
  let cell ← builderCell id
  if cell.builder.isAborted then requireOwn id "name"
  let (builder, built) := cell.builder.build
  setBuilder id { cell with builder }
  let schema ← perform built
  let schemaId ← match cell.schemaId with
    | some known => pure known
    | none => fresh
  setBuilder id { builder, schemaId := some schemaId }
  return (schemaId, schema)

/-- Builds a block: the identity of its schema and the schema. -/
def build (o : Object) : Act (Nat × Schema) := do
  match o with
  | .builder id =>
    let b := (← builderCell id).builder
    match ← overlaid? id "_schema" with
    | none =>
      checkOwnState id (isOpen b)
      buildOwn id
    | some none =>
      checkOwnState id false
      if b.isAborted then buildOwn id else refuse .absentAttribute
    | some (some .none) =>
      checkOwnState id (!b.isAborted)
      if b.isFinalized then throw (Error.finalizeTwice b.state.name).raised
      uncover id ["_schema"]
      buildOwn id
    | some (some v) =>
      checkOwnState id false
      if b.isAborted then buildOwn id
      else
        match ← schemaBehind? v with
        | some known => return known
        | none => refuse .absentAttribute
  | _ => refuse .absentAttribute

/-- Is a builder at its end? -/
def isFinalized (id : Nat) : Act Bool := do
  if (← overlaid? id "_state").isSome then refuse .absentAttribute
  return (← builderCell id).builder.isFinalized

/-- Is a builder marked as failed? -/
def isAborted (id : Nat) : Act Bool := do
  match ← overlaid? id "_aborted" with
  | some none => refuse .absentAttribute
  | some (some _) => return true
  | none => return (← builderCell id).builder.isAborted

/-- Is the block of an object built, and is it aborted? -/
def phase (o : Object) : Act (Bool × Bool) := do
  match o with
  | .builder id => return (← isFinalized id, ← isAborted id)
  | _ => refuse .absentAttribute

/-- Takes away the mark of failure from a builder. -/
def reopen (id : Nat) : Act Unit := do
  let cell ← builderCell id
  setBuilder id { cell with builder := { cell.builder with cause := none } }

/-- The schema that an object is. -/
def schemaOf (o : Object) : Act Schema := do
  match o with
  | .schema _ s => return s
  | _ => refuse .absentAttribute

/-- The schema that an object is, to make a class or a model of: of each field it has to be told
whether it is enforced. -/
def decidedSchema (o : Object) : Act Schema := do
  let s ← schemaOf o
  s.fields.forM fun f => do let _ ← ofRefusal f.enforced.truth
  return s

/-- Makes the record class of a schema. -/
def createType (s : Schema) (body : ClassBody) : Act RecordType := do
  let id ← fresh
  let t ← ofRefusal (RecordType.create id s body)
  setType t
  return t

/-- Makes the record class of a class body. -/
def decorate (body : List BodyStatement) (name module qualname : String) (inherits : Bool)
    (strict : Value) (policy : Except Error NamePolicy) : Act RecordType := do
  let id ← fresh
  let t ← perform (BodyState.compile body id name module qualname inherits strict
    policy)
  let t := t.retyped (← settledSchema t.schema)
  setType t
  return t

/-! ## Blocks with a body -/

/-- Enters a block. -/
def enterBlock (name strict : Value) (policy : NamePolicy) : Act Nat := do
  let id ← fresh
  setBlock id { block := { builder := Builder.new name strict policy }, schemaId := ← fresh }
  return id

/-- The block with a body that an object is. -/
def blockBehind (o : Object) : Act BlockCell := do
  match o with
  | .block id => blockOf id
  | _ => refuse .absentAttribute

/-- Runs the body of a block and leaves it: the schema and the record class. -/
def runBlock (id : Nat) (declarations : List (Value × Value × List (Value × Value)))
    (interruption : Option Error) (body : ClassBody) : Act (Schema × RecordType) := do
  let typeId ← fresh
  let cell ← blockOf id
  let (block, given) := cell.block.run declarations interruption typeId body
  let builder ← settledBuilder block.builder
  setBlock id { cell with block := { block with
    builder, schema := ← block.schema.mapM settledSchema } }
  let (schema, t) ← perform given
  let schema ← settledSchema schema
  let t := t.retyped schema
  setType t
  return (schema, t)

/-! ## Accumulators -/

/-- Opens an accumulator. -/
def openAccumulator (name : Value) : Act Nat := do
  let id ← fresh
  setAccumulator id { name }
  return id

/-- The accumulator that an object is. -/
def accumulator (o : Object) : Act (Nat × Accumulator) := do
  match o with
  | .accumulator id => return (id, ← accumulatorOf id)
  | _ => refuse .absentAttribute

/-- Adds a field to an accumulator; the type written is the type in effect unless one is given. -/
def append (o : Object) (name : String) (type enforced default declared : Value) : Act Field := do
  let (id, a) ← accumulator o
  let written := if isGiven declared then declared else type
  let (grown, added) := a.append ⟨name, default, written, type, enforced⟩
  setAccumulator id grown
  -- A field that will not tell whether it is enforced is refused before its block is named.
  if !a.finalized then let _ ← ofRefusal enforced.truth
  requireOwn id "name"
  perform added

/-- Ends an accumulator and gives its fields. -/
def finalize (o : Object) : Act (List Field) := do
  let (id, a) ← accumulator o
  let ended := a.finalize
  if let .ok a := ended.result then
    setAccumulator id a
    uncover id ["_state"]
  requireOwn id "name"
  return (← perform ended).fields

/-- The schema of an ended accumulator, a new object each time. -/
def emit (o : Object) : Act (Nat × Schema) := do
  let (_, a) ← accumulator o
  let schema ← ofExcept a.emit
  return (← fresh, schema)

/-- Is each value the name of an accumulated field? -/
def holds (a : Accumulator) (names : List Value) : Act (List Bool) :=
  names.mapM fun v =>
    match v with
    | .text s => return a.contains s
    | v => if v.hashable then return false else refuse .wrongKind

end RecordSchema.Session
