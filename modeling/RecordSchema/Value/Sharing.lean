import RecordSchema.Value.Basic

/-!
# Shared storage

Lists and records are passed around by reference: a change to one shows wherever the same storage
stands, and so does a change to a record class. Values carry their contents with them, so a change
is carried out by replacing the contents at every place where the storage occurs.
-/

set_option autoImplicit false

namespace RecordSchema

/-- New contents for lists and records. -/
structure Revision where
  /-- The new items of the list with a label. -/
  items : Nat → Option (List Value) := fun _ => none
  /-- The new class and attributes of the record with a label. -/
  record : Nat → Option (RecordClass × List (String × Value)) := fun _ => none
  /-- The class that records of a class have from now on. -/
  identity : RecordClass → RecordClass := fun c => c
  /-- Attributes that stand in for those that a record of a class lacks. -/
  shared : RecordClass → List (String × Value) := fun _ => []

namespace Revision

/-- New items for one list. -/
def ofItems (cell : Nat) (items : List Value) : Revision where
  items := fun c => if c == cell then some items else none

/-- A new class and new attributes for one record. -/
def ofRecord (cell : Nat) (c : RecordClass) (attributes : List (String × Value)) : Revision where
  record := fun changed => if changed == cell then some (c, attributes) else none

/-- A new identity for one class. -/
def ofClass (c : RecordClass) : Revision where
  identity := fun old => if old.id == c.id then c else old

end Revision

namespace Value

mutual

/-- The value after a revision. -/
def revised (r : Revision) : Value → Value
  | .list cell items => .list cell ((r.items cell).getD (revisedAll r items))
  | .record cell c attributes =>
    match r.record cell with
    | some (c, attributes) => .record cell c attributes
    | Option.none =>
      let own := revisedFields r attributes
      .record cell (r.identity c)
        (own ++ (r.shared c).filter fun p => !own.any (·.1 == p.1))
  | .recordClass c => .recordClass (r.identity c)
  | .tuple items => .tuple (revisedAll r items)
  | .mapping entries => .mapping (revisedEntries r entries)
  | .set items => .set (revisedAll r items)
  | .frozenSet items => .frozenSet (revisedAll r items)
  | v => v

def revisedAll (r : Revision) : List Value → List Value
  | [] => []
  | v :: rest => revised r v :: revisedAll r rest

def revisedEntries (r : Revision) : List (Value × Value) → List (Value × Value)
  | [] => []
  | (k, v) :: rest => (revised r k, revised r v) :: revisedEntries r rest

def revisedFields (r : Revision) : List (String × Value) → List (String × Value)
  | [] => []
  | (k, v) :: rest => (k, revised r v) :: revisedFields r rest

end

/-- What a copy gives storage of its own. -/
inductive CopyDepth where
  /-- The lists that have no storage yet. -/
  | unplaced
  /-- Every list. -/
  | lists
  /-- Every list and every record. -/
  | records
deriving DecidableEq

mutual

/-- A copy in which lists, and records if asked for, have storage of their own: the labels from
`next` on are given out in turn, and the first one left is returned too. -/
def copied (depth : CopyDepth) (next : Nat) : Value → Value × Nat
  | .list cell items =>
    if depth != .unplaced || cell == 0 then
      let (items, after) := copiedAll depth (next + 1) items
      (.list next items, after)
    else (.list cell items, next)
  | .tuple items =>
    let (items, after) := copiedAll depth next items
    (.tuple items, after)
  | .mapping entries =>
    let (entries, after) := copiedEntries depth next entries
    (.mapping entries, after)
  | .record cell c attributes =>
    if depth == .records then
      let (attributes, after) := copiedFields depth (next + 1) attributes
      (.record next c attributes, after)
    else (.record cell c attributes, next)
  | v => (v, next)

def copiedAll (depth : CopyDepth) (next : Nat) : List Value → List Value × Nat
  | [] => ([], next)
  | v :: rest =>
    let (v, after) := copied depth next v
    let (rest, after) := copiedAll depth after rest
    (v :: rest, after)

def copiedEntries (depth : CopyDepth) (next : Nat) : List (Value × Value) →
    List (Value × Value) × Nat
  | [] => ([], next)
  | (k, v) :: rest =>
    let (v, after) := copied depth next v
    let (rest, after) := copiedEntries depth after rest
    ((k, v) :: rest, after)

def copiedFields (depth : CopyDepth) (next : Nat) : List (String × Value) →
    List (String × Value) × Nat
  | [] => ([], next)
  | (k, v) :: rest =>
    let (v, after) := copied depth next v
    let (rest, after) := copiedFields depth after rest
    ((k, v) :: rest, after)

end

end Value

end RecordSchema
