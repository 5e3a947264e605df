import RecordSchema.Frame.Basic
import RecordSchema.Record.Construction

/-!
# Frames of records

The records of one class are laid out as a frame, a row for each, with a column for each field in
declaration order. Back from a frame every row goes through the constructor of the class, so a frame
without an enforced field is refused unless it has no rows. Columns that are no fields are dropped,
or, if the reading is strict, handed to the constructor.
-/

set_option autoImplicit false

namespace RecordSchema

/-- The columns for the fields of a schema, in order. -/
def Schema.columnTypes (s : Schema) : List (String × ColumnType) :=
  s.types.map fun p => (p.1, TypeTerm.column p.2)

namespace Frame

/-- The attributes of the records in a list; a value of any other class is told by its kind. -/
def recordRows (t : RecordType) (values : List Value) :
    Except Error (List (List (String × Value))) :=
  values.mapM fun v =>
    match v with
    | .record _ c attributes =>
      if c.id == t.identity.id then .ok attributes
      else .error (.wrongRow t.identity.title v.kindName)
    | v => .error (.wrongRow t.identity.title v.kindName)

/-- The column of one field. -/
def fieldColumn (rows : List (List (String × Value))) (name : String) (type : ColumnType) :
    Except Refusal Column := do
  let values ← rows.mapM fun attributes =>
    match Value.lookup name attributes with
    | some v => .ok v
    | none => .error Refusal.absentAttribute
  column name type values

/-- The frame of the records in a list. -/
def ofRecords (t : RecordType) (values : List Value) : Except Error Frame := do
  let rows ← recordRows t values
  let columns ← (t.schema.columnTypes.mapM fun p => fieldColumn rows p.1 p.2).mapError .refused
  (ofColumns columns).mapError .refused

/-- The columns that are handed to the constructor. -/
def passed (f : Frame) (t : RecordType) (strict : Bool) : Frame :=
  ⟨f.columns.filter fun c => strict || t.schema.keys.contains c.name⟩

/-- What the constructor is called with for each row. -/
def arguments (f : Frame) (t : RecordType) (strict : Bool) : List (List (String × Value)) :=
  let kept := f.passed t strict
  if kept.columns.isEmpty then List.replicate f.height [] else kept.rows

/-- The attributes of the records that the rows make. -/
def toRecords (f : Frame) (t : RecordType) (strict : Bool) :
    Except Error (List (List (String × Value))) :=
  (f.arguments t strict).mapM (t.construct [])

end Frame

end RecordSchema
