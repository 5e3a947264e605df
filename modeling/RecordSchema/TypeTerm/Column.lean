import RecordSchema.TypeTerm.Rendering

/-!
# Column types

The type of the column that holds a field in a frame: integers, floating-point numbers, texts and
truth values have columns of their own, with or without `None`; everything else is kept as objects.
A text annotation is read by name, after an optional type or the alternative `None` is taken off.
-/

set_option autoImplicit false

namespace RecordSchema

/-- The type of a column. -/
inductive ColumnType where
  | int64
  | float64
  | string
  | boolean
  | object
deriving DecidableEq

namespace ColumnType

def word : ColumnType → String
  | .int64 => "Int64"
  | .float64 => "Float64"
  | .string => "String"
  | .boolean => "Boolean"
  | .object => "Object"

def ofWord? (w : String) : Option ColumnType :=
  [int64, float64, string, boolean, object].find? (·.word == w)

/-- The column type for the name of a builtin class. -/
def ofTypeName (name : String) : ColumnType :=
  if name == "int" then .int64
  else if name == "float" then .float64
  else if name == "str" then .string
  else if name == "bool" then .boolean
  else .object

end ColumnType

namespace TypeTerm

open RecordSchema.Text

/-- What stands between the brackets of an optional type that is all of the text, if it stays on one
line. -/
def insideOptional? (cs : List Char) : Option (List Char) :=
  match after? "Optional[" cs with
  | none => none
  | some rest =>
    match rest.reverse with
    | ']' :: inner =>
      if inner.isEmpty || inner.contains '\n' then none else some inner.reverse
    | _ => none

/-- The parts of a list between occurrences of a separator. -/
def splitAt (separator : Char) : List Char → List (List Char)
  | [] => [[]]
  | c :: rest =>
    if c == separator then [] :: splitAt separator rest
    else
      match splitAt separator rest with
      | part :: parts => (c :: part) :: parts
      | [] => [[c]]

/-- A text annotation without an optional type around it or `None` beside it. -/
def withoutNone (s : String) : String :=
  let cs := trimChars s.toList
  match insideOptional? cs with
  | some inner => String.ofList (trimChars inner)
  | none =>
    match ((splitAt '|' cs).map trimChars).filter (· != "None".toList) with
    | [one] => String.ofList one
    | _ => String.ofList cs

mutual

/-- The column type for an annotation. -/
def column : Value → ColumnType
  | .text s => ColumnType.ofTypeName (withoutNone s)
  | .orNone inner => column inner
  | .union members =>
    match columnsBesideNone members with
    | [one] => one
    | _ => .object
  | .pipe members =>
    match columnsBesideNone members with
    | [one] => one
    | _ => .object
  | .classToken c => if c.module == "builtins" then ColumnType.ofTypeName c.qualname else .object
  | _ => .object

/-- The column types of the members of a union other than `None`. -/
def columnsBesideNone : List Value → List ColumnType
  | [] => []
  | v :: rest =>
    if v.isNoneClass then columnsBesideNone rest else column v :: columnsBesideNone rest

end

end TypeTerm

end RecordSchema
