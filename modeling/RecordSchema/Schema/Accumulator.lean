import RecordSchema.Schema.Field

/-!
# Accumulating fields

An accumulator collects the fields of one block in order. It grows until it is finalized, once, and
only then yields its fields; whatever comes out of turn is an error and changes nothing. A field of
which it cannot be told whether it is enforced is an error as well, but it stays.
-/

set_option autoImplicit false

namespace RecordSchema

open RecordSchema.Text Value

/-- The fields declared so far. -/
structure Accumulator where
  name : Value
  fields : List Field := []
  /-- The names taken. -/
  names : List String := []
  /-- The names of the enforced fields, in order. -/
  required : List String := []
  finalized : Bool := false

/-- The outcome of a block: its fields in order, and which of them are enforced. -/
structure Schema where
  name : Value
  fields : List Field
  required : List String

namespace Accumulator

/-- Is a name taken? -/
def contains (a : Accumulator) (name : String) : Bool := a.names.contains name

/-- The word for where an accumulator stands. -/
def word (a : Accumulator) : String := if a.finalized then "finalized" else "accumulating"

/-- The printed form of where an accumulator stands. -/
def standing (a : Accumulator) : String :=
  if a.finalized then "<BlockState.FINALIZED: 'finalized'>"
  else "<BlockState.ACCUMULATING: 'accumulating'>"

/-- The accumulator with one more field at the end. -/
def push (a : Accumulator) (f : Field) : Accumulator :=
  { a with
    fields := a.fields ++ [f]
    names := a.names ++ [f.name]
    required := if f.isEnforced then a.required ++ [f.name] else a.required }

/-- The accumulator with one more field at the end that is not noted as required. -/
def pushSpared (a : Accumulator) (f : Field) : Accumulator :=
  { a with fields := a.fields ++ [f], names := a.names ++ [f.name] }

/-- Adds a field at the end. Whether it is enforced is asked when it is already there, so it stays
if that cannot be told. -/
def append (a : Accumulator) (f : Field) : Accumulator × Report Field :=
  if a.finalized then (a, Report.fail (.appendAfterFinalize a.name f.name))
  else
    match f.enforced.truth with
    | .error cause => (a.pushSpared f, Report.refuse cause)
    | .ok _ =>
      let note : LogEntry := ⟨.debug, .accumulator,
        a.name.display ++ ": appended field " ++ quoted f.name ++ " (enforced=" ++
          f.enforced.display ++ ")"⟩
      (a.push f, ⟨[note], .ok f⟩)

/-- Ends the accumulation. -/
def finalize (a : Accumulator) : Report Accumulator := do
  if a.finalized then Report.fail (.finalizeTwice a.name)
  Report.say .debug .accumulator
    (a.name.display ++ ": finalized with " ++ Nat.repr a.fields.length ++ " field(s)")
  return { a with finalized := true }

/-- The fields, once there can be no more. -/
def finalFields (a : Accumulator) : Except Error (List Field) :=
  if a.finalized then .ok a.fields else .error (Error.emitWhileOpen a.name).raised

/-- The names of the enforced fields, once there can be no more. -/
def finalRequired (a : Accumulator) : Except Error (List String) :=
  if a.finalized then .ok a.required else .error (Error.emitWhileOpen a.name).raised

/-- The schema of the accumulated fields, once there can be no more. -/
def emit (a : Accumulator) : Except Error Schema := do
  return ⟨a.name, ← a.finalFields, ← a.finalRequired⟩

end Accumulator

end RecordSchema
