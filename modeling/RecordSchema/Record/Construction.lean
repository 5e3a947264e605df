import RecordSchema.Record.Class

/-!
# Making records

A record is made from values for some of its fields. Names that are no fields are told in the order
in which they were given; otherwise the enforced fields without a value are told in declaration
order; otherwise each field has the value given for it, or its default. The values are not looked
at.
-/

set_option autoImplicit false

namespace RecordSchema.RecordType

/-- The names given that are no fields, in the order given. -/
def unexpected (t : RecordType) (given : List (String × Value)) : List String :=
  (given.map (·.1)).filter fun name => !t.schema.keys.contains name

/-- The enforced fields that were not given, in declaration order. -/
def absent (t : RecordType) (given : List (String × Value)) : List String :=
  t.schema.keys.filter fun name =>
    t.schema.isRequired name && (Value.lookup name given).isNone

/-- The attributes of a record made from the values given. -/
def fill (t : RecordType) (given : List (String × Value)) :
    Except Error (List (String × Value)) :=
  match t.unexpected given, t.absent given with
  | [], [] => .ok (t.schema.defaults.map fun p => (p.1, (Value.lookup p.1 given).getD p.2))
  | [], missing => .error (Error.missingRequired t.schema.name missing).raised
  | names, _ => .error (Error.unexpectedKeywords t.schema.name names).raised

/-- The arguments of a call to the constructor as values by name. Values given by place, and one
given for the record itself, are refused. -/
def bindArguments (positional : List Value) (keywords : List (String × Value)) :
    Except Refusal (List (String × Value)) :=
  if positional.isEmpty && (Value.lookup receiver keywords).isNone then
    .ok (Schema.putAll [] keywords)
  else .error .wrongKind

/-- The attributes of a record after a call to the constructor. -/
def construct (t : RecordType) (positional : List Value) (keywords : List (String × Value)) :
    Except Error (List (String × Value)) := do
  t.fill (← (bindArguments positional keywords).mapError Error.refused)

/-- The fields of a record with their values, in declaration order; every field has to be there. -/
def fieldValues (t : RecordType) (attributes : List (String × Value)) :
    Except Refusal (List (String × Value)) :=
  t.schema.keys.mapM fun name =>
    match Value.lookup name attributes with
    | some v => .ok (name, v)
    | none => .error .absentAttribute

/-- The attributes of a copy of a record in which some fields are replaced. -/
def replaced (t : RecordType) (attributes : List (String × Value))
    (changes : List (String × Value)) : Except Error (List (String × Value)) := do
  let values ← (t.fieldValues attributes).mapError Error.refused
  t.construct [] (Schema.putAll values changes)

end RecordSchema.RecordType
