import RecordSchema.TypeTerm.Column

/-!
# Primitive classes

The classes `int`, `float`, `str` and `bool` as annotations, alone or with `None` beside them, and
the values that are exactly of one of them.
-/

set_option autoImplicit false

namespace RecordSchema

/-- The classes of plain scalars. -/
inductive Primitive where
  | int
  | float
  | str
  | bool
deriving DecidableEq

namespace Primitive

def name : Primitive → String
  | int => "int"
  | float => "float"
  | str => "str"
  | bool => "bool"

/-- The class as an annotation. -/
def type (p : Primitive) : Value := Value.builtinClass p.name

/-- The class with `None` beside it. -/
def orNone (p : Primitive) : Value := .union [p.type, Value.noneClass]

/-- A value of exactly the class, and not the mark of no number. -/
inductive Has : Primitive → Value → Prop where
  | int (n : Int) : Has int (.int n)
  | float (x : Binary64) (number : ∀ label, x ≠ .nan label) : Has float (.real x)
  | str (s : String) : Has str (.text s)
  | bool (b : Bool) : Has bool (.bool b)

/-- A value of the class. -/
def sample : Primitive → Value
  | int => .int 0
  | float => .real .zero
  | str => .text ""
  | bool => .bool false

theorem has_sample (p : Primitive) : p.Has p.sample := by
  cases p with
  | int => exact .int 0
  | float => exact .float .zero nofun
  | str => exact .str ""
  | bool => exact .bool false

theorem type_injective {p q : Primitive} (h : p.type = q.type) : p = q := by
  cases p <;> cases q <;>
    first | rfl | simp [type, name, Value.builtinClass, ClassName.builtin] at h

theorem widen_type (p : Primitive) : TypeTerm.widen p.type = .ok p.orNone := by
  cases p <;> rfl

/-- The column for the class. -/
def column : Primitive → ColumnType
  | int => .int64
  | float => .float64
  | str => .string
  | bool => .boolean

theorem column_type (p : Primitive) : TypeTerm.column p.type = p.column := by
  cases p <;> rfl

theorem column_orNone (p : Primitive) : TypeTerm.column p.orNone = p.column := by
  cases p <;> rfl

end Primitive

end RecordSchema
