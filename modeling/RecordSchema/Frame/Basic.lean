import RecordSchema.TypeTerm.Column
import RecordSchema.Number.Word

/-!
# Frames

A frame is a list of columns of one length, each with a name and a type. A column stores only values
of its type, and `None`: truth values count as numbers, integers and decimals as floating-point
numbers, and a column of objects stores anything.

If a value does not belong into its column, the cause told is not always that value: an object that
only a column of objects could store, or an integer beyond all columns, is told first.
-/

set_option autoImplicit false

namespace RecordSchema

/-- A column of a frame. -/
structure Column where
  name : String
  type : ColumnType
  values : List Value

/-- Columns of one length. -/
structure Frame where
  columns : List Column

namespace ColumnType

/-- A value as a column stores it. -/
def store (type : ColumnType) (v : Value) : Except Refusal Value :=
  match type, v with
  | _, .none => .ok .none
  | .object, v => .ok v
  | .int64, .bool b => .ok (.int (if b then 1 else 0))
  | .int64, .int n => if Word.holds 64 n then .ok (.int n) else .error .wrongKind
  | .float64, .real x => .ok (.real x)
  | .float64, .bool b => .ok (.real (if b then .one else .zero))
  | .float64, .int n =>
    match Binary64.ofInt? n with
    | some x => .ok (.real x)
    | none => .error .wrongKind
  | .float64, .decimal d =>
    match d.real? with
    | some x => .ok (.real x)
    | none => .error .badValue
  | .string, .text s => .ok (.text s)
  | .boolean, .bool b => .ok (.bool b)
  | _, _ => .error .wrongKind

/-- Is a value of a kind that some column other than one of objects could store? -/
def isData : Value → Bool
  | .none | .bool _ | .int _ | .real _ | .text _ | .bytes _ | .list _ _ | .tuple _ | .mapping _
  | .date _ | .clock _ | .moment _ | .decimal _ => true
  | _ => false

/-- Why a column cannot hold a value whatever its type, if that is so. -/
def unstorable? : Value → Option Refusal
  | .int n => if Word.holds 128 n then none else some .outOfRange
  | v => if isData v then none else some .badValue

/-- The values as a column of a type stores them. -/
def storeAll (type : ColumnType) (values : List Value) : Except Refusal (List Value) :=
  match values.mapM type.store with
  | .error .wrongKind => .error ((values.findSome? unstorable?).getD .wrongKind)
  | stored => stored

end ColumnType

namespace Frame

/-- A column with the given values, if its type takes them all. -/
def column (name : String) (type : ColumnType) (values : List Value) : Except Refusal Column := do
  return ⟨name, type, ← type.storeAll values⟩

/-- The number of rows; a frame without columns has none. -/
def height (f : Frame) : Nat :=
  match f.columns with
  | [] => 0
  | c :: _ => c.values.length

/-- The frame of columns, which have to be of one length and of different names. -/
def ofColumns (columns : List Column) : Except Refusal Frame :=
  if !(columns.map (·.name)).Nodup then .error .repeatedColumn
  else if !columns.all (fun c => c.values.length == height ⟨columns⟩) then .error .unevenColumns
  else .ok ⟨columns⟩

/-- The values of a row by column. -/
def row (f : Frame) (index : Nat) : List (String × Value) :=
  f.columns.map fun c => (c.name, c.values.getD index .none)

/-- The rows in order. -/
def rows (f : Frame) : List (List (String × Value)) :=
  (List.range f.height).map f.row

end Frame

end RecordSchema
