import RecordSchema.Schema.Basic

/-!
# Declaration blocks

A block is open until it is built or a declaration in it is faulty. Declarations are checked and
resolved one by one; a faulty one aborts the block for good. A built block gives the same schema
ever after and takes no further declaration.

A block keeps the fault that aborted it and the schema that it gave apart from its accumulator,
which knows by itself whether it is finalized.
-/

set_option autoImplicit false

namespace RecordSchema

open RecordSchema.Text Value

/-- A block under construction. -/
structure Builder where
  name : Value
  /-- Are unknown options refused? Any value, taken for its truth. -/
  strict : Value := .bool false
  policy : NamePolicy := .identifier
  state : Accumulator
  /-- The schema, once the block has given it. -/
  schema : Option Schema := none
  /-- The fault that aborted the block. -/
  cause : Option Error := none

/-- The policy that a value denotes; only text has a chance. -/
def NamePolicy.ofValue (v : Value) : Except Error NamePolicy :=
  let refuse := Except.error (Error.unknownPolicy v)
  match v with
  | .text s =>
    match ofLooseWord? s with
    | some policy => .ok policy
    | Option.none => refuse
  | .bytes _ => refuse
  | .classToken c =>
    if c == .builtin "str" || c == .builtin "bytes" then .error (.refused .wrongKind)
    else .error (.refused .absentAttribute)
  | v => if v.truthy then .error (.refused .absentAttribute) else refuse

namespace Builder

/-- A new block. -/
def new (name : Value) (strict : Value := .bool false) (policy : NamePolicy := .identifier) :
    Builder :=
  { name, strict, policy, state := { name } }

def isFinalized (b : Builder) : Bool := b.state.finalized

def isAborted (b : Builder) : Bool := b.cause.isSome

/-- The annotation of a field as written. A missing mark counts as none written, and then the one in
effect stands for it. -/
def written (type effective : Value) : Value :=
  match type with
  | .missing => effective
  | t => t

/-- The field that a declaration makes in an open block. -/
def resolve (b : Builder) (name type : Value) (options : List (Value × Value)) : Report Field := do
  let options ← FieldOptions.ofEntries options b.strict.truthy name
  let checked ← Report.ofExcept (validateName name b.policy b.state.contains)
  let effective ← Report.ofExcept
    ((TypeTerm.effective type options.hasDefault options.enforce).mapError .refused)
  return ⟨checked, options.default, written type effective, effective, .bool options.enforce⟩

/-- Declares a field. -/
def declare (b : Builder) (name type : Value) (options : List (Value × Value)) :
    Builder × Report Field :=
  if b.isAborted then (b, Report.fail (.blockAborted b.name))
  else if b.isFinalized then (b, Report.fail (.declareAfterEnd b.name name))
  else
    let resolved := b.resolve name type options
    match resolved.result with
    | .error e =>
      if e.isDeclaration then
        let note : LogEntry := ⟨.debug, .builder,
          "block " ++ b.name.display ++ " aborted: " ++ e.message.getD ""⟩
        ({ b with cause := some e }, ⟨resolved.log ++ [note], .error e⟩)
      else (b, resolved)
    | .ok f =>
      let (state, appended) := b.state.append f
      ({ b with state }, ⟨resolved.log ++ appended.log, appended.result⟩)

/-- The accumulator at its end, and the schema of its fields. -/
def finish (b : Builder) : Report (Accumulator × Schema) := do
  let state ← b.state.finalize
  let schema ← Report.ofExcept state.emit
  Report.say .debug .builder ("built schema " ++ schema.shown)
  return (state, schema)

/-- Ends the block and gives its schema, the same one every time. -/
def build (b : Builder) : Builder × Report Schema :=
  if b.isAborted then (b, Report.fail (.blockAborted b.name))
  else
    match b.schema with
    | some schema => (b, pure schema)
    | Option.none =>
      let ended := b.finish
      match ended.result with
      | .ok (state, schema) =>
        ({ b with state, schema := some schema }, ⟨ended.log, .ok schema⟩)
      | .error e => (b, ⟨ended.log, .error e⟩)

/-- Declares fields in order until one is refused. -/
def declareAll (b : Builder) : List (Value × Value × List (Value × Value)) → Builder × Report Unit
  | [] => (b, pure ())
  | (name, type, options) :: rest =>
    let (b, made) := b.declare name type options
    match made.result with
    | .error e => (b, ⟨made.log, .error e⟩)
    | .ok _ =>
      let (b, others) := b.declareAll rest
      (b, ⟨made.log ++ others.log, others.result⟩)

end Builder

end RecordSchema
