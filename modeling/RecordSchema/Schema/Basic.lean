import RecordSchema.Schema.Accumulator

/-!
# Schemas

What a schema tells about its fields. A name that is declared twice keeps its first place among
defaults and types, with the last default and type; blocks never declare a name twice.
-/

set_option autoImplicit false

namespace RecordSchema.Schema

open RecordSchema.Text Value

/-- Sets what stands under a name: in its place if the name is there, else at the end. -/
def put {α : Type} (pairs : List (String × α)) (name : String) (a : α) : List (String × α) :=
  match pairs with
  | [] => [(name, a)]
  | p :: rest => if p.1 == name then (name, a) :: rest else p :: put rest name a

def putAll {α : Type} (pairs more : List (String × α)) : List (String × α) :=
  more.foldl (fun ps p => put ps p.1 p.2) pairs

/-- Field names in declaration order. -/
def keys (s : Schema) : List String := s.fields.map (·.name)

/-- What each field holds if it is not given, in order. -/
def defaults (s : Schema) : List (String × Value) :=
  putAll [] (s.fields.map fun f => (f.name, f.initial))

/-- The type in effect of each field, in order. -/
def types (s : Schema) : List (String × Value) :=
  putAll [] (s.fields.map fun f => (f.name, f.effective))

/-- The names of the fields whose type was widened, in order. -/
def nullable (s : Schema) : List String :=
  (s.fields.filter (·.isNullable)).map (·.name)

/-- The names of the fields whose type was widened, if that can be told of every field. -/
def nullability (s : Schema) : Except Refusal (List String) := do
  return ((← s.fields.mapM fun f => return (f.name, ← f.nullability)).filter (·.2)).map (·.1)

def isRequired (s : Schema) (name : String) : Bool := s.required.contains name

/-- The names of the enforced fields, sorted, each once. -/
def sortedRequired (s : Schema) : List String :=
  (s.required.eraseDups).mergeSort fun a b => !(b < a)

/-- The first field of a name. -/
def field (s : Schema) (name : Value) : Except Error Field :=
  match s.fields.find? (fun f => name.equal (.text f.name)) with
  | some f => .ok f
  | Option.none => .error (Error.noSuchField s.name name).raised

def shown (s : Schema) : String :=
  "Schema(name=" ++ s.name.shown ++ ", keys=" ++ quotedTuple s.keys ++ ", required=" ++
    quotedList s.sortedRequired ++ ")"

end RecordSchema.Schema
