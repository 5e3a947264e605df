import RecordSchema.Value.Kind

/-!
# Values that filled models give out

A filled model gives its values out as they are, but for data classes: these become mappings of
their fields, wherever they stand in a list, a tuple or a mapping. A set cannot hold a mapping, so a
data class in one is refused. The only data class among the values is the union of a token with
`None`; any other object counts as none.
-/

set_option autoImplicit false

namespace RecordSchema.Value

mutual

/-- Has a value a property, or anything that it holds if it is a collection? Keys do not count. -/
def holds (p : Value → Bool) : Value → Bool
  | .list _ items => anyHolds p items
  | .tuple items => anyHolds p items
  | .set items => anyHolds p items
  | .frozenSet items => anyHolds p items
  | .mapping entries => anyEntryHolds p entries
  | v => p v

def anyHolds (p : Value → Bool) : List Value → Bool
  | [] => false
  | v :: rest => holds p v || anyHolds p rest

def anyEntryHolds (p : Value → Bool) : List (Value × Value) → Bool
  | [] => false
  | (_, v) :: rest => holds p v || anyEntryHolds p rest

end

def isDataClass : Value → Bool
  | .orNone _ => true
  | _ => false

mutual

/-- The value that a filled model gives out. -/
def dumped : Value → Except Refusal Value
  | .orNone inner => do return .mapping [(.text "inner", ← dumped inner)]
  | .list cell items => do return .list cell (← dumpedAll items)
  | .tuple items => do return .tuple (← dumpedAll items)
  | .set items => if anyHolds isDataClass items then .error .wrongKind else .ok (.set items)
  | .frozenSet items =>
    if anyHolds isDataClass items then .error .wrongKind else .ok (.frozenSet items)
  | .mapping entries => do return .mapping (← dumpedEntries entries)
  | v => .ok v

def dumpedAll : List Value → Except Refusal (List Value)
  | [] => .ok []
  | v :: rest => do
    let v ← dumped v
    return v :: (← dumpedAll rest)

def dumpedEntries : List (Value × Value) → Except Refusal (List (Value × Value))
  | [] => .ok []
  | (k, v) :: rest => do
    let v ← dumped v
    return (k, v) :: (← dumpedEntries rest)

end

/-- The values under names that a filled model gives out. -/
def dumpedFields (values : List (String × Value)) : Except Refusal (List (String × Value)) :=
  values.mapM fun p => do return (p.1, ← p.2.dumped)

end RecordSchema.Value
