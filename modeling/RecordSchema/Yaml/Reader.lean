import RecordSchema.Value.Kind
import RecordSchema.Yaml.Scalar

/-!
# From nodes to values

The value of a node by its tag. Nodes are visited in waves: a collection is entered into its parent
at once, and its own nodes follow when all collections met before have been gone through; the first
fault on this way is the one that counts. Tags without a rule are faults, and so are keys that can
change.

A merge key in a mapping takes the entries of the mappings under it, before the mapping's own. The
mapping keeps them: whoever comes to it later finds them instead of the merge key.

A collection that lies in itself has no finite value. It is unfolded as far as the structure of a
document goes and shown as a mark below that.

Main function: `Yaml.decode`, the value of the only document in a text.
-/

set_option autoImplicit false

namespace RecordSchema.Yaml

open RecordSchema.Text

/-- The value of a node: a value of its own, or what will be found at a place. -/
inductive Reference where
  | value (v : Value)
  | place (n : Nat)

/-- What a collection holds. -/
inductive Contents where
  | list (items : List Reference)
  | pairs (items : List (Reference × Reference))
  | map (entries : List (Value × Reference))
  | set (members : List Value)

/-- The nodes of a document, the collections gone through, those not gone through yet, and whether
one has been met before. -/
structure Construction where
  nodes : Array Node
  contents : Array (Option Contents)
  seen : Array Bool
  waiting : List Nat := []

namespace Construction

def node (c : Construction) (place : Nat) : Node := c.nodes.getD place default

def tag (c : Construction) (place : Nat) : String := (c.node place).tag

def isMerge (c : Construction) (place : Nat) : Bool := c.tag place == coreTag "merge"

def isDefaultKey (c : Construction) (place : Nat) : Bool := c.tag place == coreTag "value"

/-- The entries of a mapping; nothing for other nodes. -/
def entries? (c : Construction) (place : Nat) : Option (List (Nat × Nat)) :=
  match (c.node place).content with
  | .mapping entries => some entries
  | _ => none

def setEntries (c : Construction) (place : Nat) (entries : List (Nat × Nat)) : Construction :=
  { c with nodes := c.nodes.setIfInBounds place ⟨c.tag place, .mapping entries⟩ }

/-- A default key that stays in a mapping is read as text from then on. -/
def settleKey (c : Construction) (place : Nat) : Construction :=
  if c.isDefaultKey place then
    { c with nodes := c.nodes.setIfInBounds place ⟨coreTag "str", (c.node place).content⟩ }
  else c

/-- The number of merge keys in all mappings. -/
def mergeCount (c : Construction) : Nat :=
  c.nodes.foldl (fun n node =>
    match node.content with
    | .mapping entries => n + entries.countP fun e => c.isMerge e.1
    | _ => n) 0

mutual

/-- Replaces the merge keys of a mapping by what they bring; `brought` are the entries found so far.
The fuel bounds the number of merge keys left. -/
def flattenFrom : Nat → Nat → List (Nat × Nat) → Construction → Except DocumentFault Construction
  | 0, _, _, _ => malformed
  | fuel + 1, place, brought, c =>
    let entries := (c.entries? place).getD []
    match entries.find? fun e => c.isMerge e.1 with
    | none =>
      let c := c.setEntries place (brought ++ entries)
      .ok ((brought ++ entries).foldl (fun c e => c.settleKey e.1) c)
    | some (_, source) => do
      let left := entries.eraseP fun e => c.isMerge e.1
      let (found, c) ← mergedFrom fuel source (c.setEntries place left)
      flattenFrom fuel place (brought ++ found) c

/-- The entries that a node under a merge key brings: those of a mapping, or of the mappings in a
sequence, later ones first. -/
def mergedFrom : Nat → Nat → Construction →
    Except DocumentFault (List (Nat × Nat) × Construction)
  | 0, _, _ => malformed
  | fuel + 1, source, c =>
    let mappingEntries (source : Nat) (c : Construction) :
        Except DocumentFault (List (Nat × Nat) × Construction) :=
      match (c.node source).content with
      | .mapping _ => do
        let c ← flattenFrom fuel source [] c
        return ((c.entries? source).getD [], c)
      | _ => malformed
    match (c.node source).content with
    | .sequence items =>
      items.foldlM (fun state source => do
        let (found, c) ← mappingEntries source state.2
        return (found ++ state.1, c)) ([], c)
    | _ => mappingEntries source c

end

/-- A mapping with its merge keys replaced. -/
def flatten (place : Nat) (c : Construction) : Except DocumentFault Construction :=
  flattenFrom (2 * c.mergeCount + 4) place [] c

/-- The text of a scalar; a mapping with the default key `=` stands for the scalar there. -/
def scalarText : Nat → Construction → Nat → Except DocumentFault String
  | 0, _, _ => malformed
  | fuel + 1, c, place =>
    match (c.node place).content with
    | .scalar s => .ok s
    | .mapping entries =>
      match entries.find? fun e => c.isDefaultKey e.1 with
      | some (_, v) => scalarText fuel c v
      | none => malformed
    | .sequence _ => malformed

/-- Is a tag one for collections? -/
def isCollectionTag (tag : String) : Bool :=
  ["seq", "map", "set", "omap", "pairs"].any (coreTag · == tag)

/-- The value of a node; a collection is put off. -/
def visit (place : Nat) (c : Construction) : Except DocumentFault (Reference × Construction) := do
  let tag := c.tag place
  if isCollectionTag tag then
    if c.seen.getD place true then return (.place place, c)
    else
      return (.place place,
        { c with waiting := place :: c.waiting, seen := c.seen.setIfInBounds place true })
  else if isScalarTag tag then
    let text ← scalarText (c.nodes.size + 1) c place
    match (c.node place).content with
    | .scalar _ => return (.value (← scalarValue tag text), c)
    | _ =>
      if tag == coreTag "timestamp" then refused .wrongKind
      else return (.value (← scalarValue tag text), c)
  else malformed

def visitAll : List Nat → Construction → Except DocumentFault (List Reference × Construction)
  | [], c => .ok ([], c)
  | place :: rest, c => do
    let (r, c) ← c.visit place
    let (rs, c) ← visitAll rest c
    return (r :: rs, c)

/-- The entries of a mapping. A collection cannot be a key. -/
def visitEntries : List (Nat × Nat) → Construction →
    Except DocumentFault (List (Value × Reference) × Construction)
  | [], c => .ok ([], c)
  | (k, v) :: rest, c => do
    match ← c.visit k with
    | (.place _, _) => malformed
    | (.value key, c) =>
      let (value, c) ← c.visit v
      let (others, c) ← visitEntries rest c
      return ((key, value) :: others, c)

/-- The items of a list of pairs, each a mapping of one entry. -/
def visitPairs : List Nat → Construction →
    Except DocumentFault (List (Reference × Reference) × Construction)
  | [], c => .ok ([], c)
  | place :: rest, c => do
    match c.entries? place with
    | some [(k, v)] =>
      let (key, c) ← c.visit k
      let (value, c) ← c.visit v
      let (others, c) ← visitPairs rest c
      return ((key, value) :: others, c)
    | _ => malformed

/-- Goes through a collection. -/
def enter (place : Nat) (c : Construction) : Except DocumentFault Construction := do
  let keep (contents : Contents) (c : Construction) : Construction :=
    { c with contents := c.contents.setIfInBounds place (some contents) }
  let tag := c.tag place
  if tag == coreTag "map" || tag == coreTag "set" then
    match c.entries? place with
    | none => malformed
    | some _ =>
      let c ← c.flatten place
      let (entries, c) ← c.visitEntries ((c.entries? place).getD [])
      return keep (if tag == coreTag "map" then .map entries else .set (entries.map (·.1))) c
  else
    match (c.node place).content with
    | .sequence items =>
      if tag == coreTag "seq" then
        let (rs, c) ← c.visitAll items
        return keep (.list rs) c
      else
        let (ps, c) ← c.visitPairs items
        return keep (.pairs ps) c
    | _ => malformed

/-- Goes through the collections of a wave. -/
def enterAll : List Nat → Construction → Except DocumentFault Construction
  | [], c => .ok c
  | place :: rest, c => do enterAll rest (← c.enter place)

/-- Goes through all collections, wave by wave. Every collection waits only once. -/
def run : Nat → Construction → Except DocumentFault Construction
  | 0, c => .ok c
  | fuel + 1, c =>
    match c.waiting with
    | [] => .ok c
    | wave => do run fuel (← enterAll wave.reverse { c with waiting := [] })

/-! ## Reading off the value -/

/-- How many levels down the structure of a document goes: its blocks, their fields, and what is
said of each. -/
def structureDepth : Nat := 5

/-- What stands for a collection inside itself. -/
def mark (contents : Contents) : Value :=
  match contents with
  | .map _ => .handle 0 (.object "dict") "\x7b...\x7d"
  | .set _ => .handle 0 (.object "set") "set(...)"
  | _ => .handle 0 (.object "list") "[...]"

/-- A value read off, whether it is free of marks, and the values of the collections that are, by
place. -/
abbrev Reading := Value × Bool × Array (Option Value)

/-- Reads off values one after another. -/
def readAll (read : Reference → Array (Option Value) → Reading) (rs : List Reference)
    (known : Array (Option Value)) : List Value × Bool × Array (Option Value) :=
  let (vs, whole, known) := rs.foldl (fun (vs, whole, known) r =>
    let (v, whole', known) := read r known
    (v :: vs, whole && whole', known)) ([], true, known)
  (vs.reverse, whole, known)

/-- The value of what a collection holds. -/
def readContents (read : Reference → Array (Option Value) → Reading) (contents : Contents)
    (known : Array (Option Value)) : Reading :=
  match contents with
  | .list items =>
    let (vs, whole, known) := readAll read items known
    (.ofList vs, whole, known)
  | .pairs items =>
    let (ks, whole, known) := readAll read (items.map (·.1)) known
    let (vs, whole', known) := readAll read (items.map (·.2)) known
    (.ofList ((ks.zip vs).map fun p => .tuple [p.1, p.2]), whole && whole', known)
  | .map entries =>
    let (vs, whole, known) := readAll read (entries.map (·.2)) known
    (.mapping (Value.ofPairs ((entries.map (·.1)).zip vs)), whole, known)
  | .set members =>
    (.set ((Value.ofPairs (members.map fun m => (m, .none))).map (·.1)), true, known)

/-- The value of a reference `depth` levels down. `path` holds the collections around it that are
not unfolded again. -/
def read (c : Construction) : Nat → Nat → List Nat → Reference → Array (Option Value) → Reading
  | _, _, _, .value v, known => (v, true, known)
  | 0, _, _, .place _, known => (.none, false, known)
  | fuel + 1, depth, path, .place place, known =>
    match known.getD place none, c.contents.getD place none with
    | some v, _ => (v, true, known)
    | none, none => (.none, false, known)
    | none, some contents =>
      if path.contains place then (mark contents, false, known)
      else
        let path := if depth < structureDepth then [] else place :: path
        let (v, whole, known) := readContents (read c fuel (depth + 1) path) contents known
        (v, whole, if whole then known.setIfInBounds place (some v) else known)

end Construction

/-- The value of the only document in a text; an empty text stands for `None`. -/
def decode (cs : List Char) : Except DocumentFault Value := do
  match ← document (tokens cs) with
  | none => return .none
  | some (nodes, root) =>
    let size := nodes.size
    let start : Construction :=
      { nodes, contents := Array.replicate size none, seen := Array.replicate size false }
    let (r, c) ← start.visit root
    let c ← c.run (size + 1)
    return (c.read (size + Construction.structureDepth + 1) 0 [] r (Array.replicate size none)).1

end RecordSchema.Yaml
