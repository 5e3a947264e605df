import RecordSchema.Proofs.Block.Failure
import RecordSchema.Proofs.Document.Fields
import RecordSchema.Proofs.Names
import RecordSchema.Proofs.Sequences
import Mathlib.Data.List.Perm.Basic

/-!
# The blocks of a document

Every block of a document is compiled on its own (`Document.filed`), and the results are put under
the texts of their names one after another (`Document.result_compileBlocks`). So a document with
distinct names comes to what its blocks come to one by one, in order, or to the fault of the first
block that is at fault (`Document.blocks_independent`). Names that are different as values and have
one text are put in one place, and there only the last block is kept: no block is lost exactly if
the texts are distinct (`Document.blocks_kept_iff`).
-/

set_option autoImplicit false

namespace RecordSchema

open Value

namespace Document

/-- A document with a single block. -/
def alone (key body : Value) : Value :=
  .mapping [(.text "structs", .mapping [(key, body)])]

/-- What becomes of one block: the text of its name and its schema. -/
def filed (settings : Settings) (block : Value × Value) : Except Error (String × Schema) := do
  let name ← block.1.displayed.mapError .refused
  return (name, ← (compileBlock settings name block.2).result)

/-- The blocks of a document are compiled each on its own and then put in their places. -/
theorem result_compileBlocks (settings : Settings) (done : List (String × Schema))
    (blocks : List (Value × Value)) :
    (compileBlocks settings done blocks).result =
      (blocks.mapM (filed settings)).map (Schema.putAll done) := by
  induction blocks generalizing done with
  | nil => rfl
  | cons block blocks ih =>
    obtain ⟨key, body⟩ := block
    -- The name is written out, then the block is compiled; either may fail before the rest is.
    simp only [compileBlocks, List.mapM_cons, filed, Report.result_bind, Report.result_ofExcept]
    cases key.displayed with
    | error cause => rfl
    | ok name =>
      simp only [mapError_ok, ok_bind]
      cases (compileBlock settings name body).result with
      | error e => rfl
      | ok s =>
        simp only [ok_bind, ih]
        cases blocks.mapM (filed settings) with
        | error e => rfl
        | ok r => rfl

theorem result_compile_of_blocks {settings : Settings} {entries blocks : List (Value × Value)}
    (h : lookupText "structs" entries = some (.mapping blocks)) :
    (compile settings (.mapping entries)).result =
      (blocks.mapM (filed settings)).map (Schema.putAll []) := by
  rw [compile, h]
  exact result_compileBlocks settings [] blocks

/-- A document with a single block comes to the schema of the block. -/
theorem result_compile_alone (settings : Settings) (key body : Value) :
    (compile settings (alone key body)).result =
      (filed settings (key, body)).map fun p => [p] := by
  rw [alone, result_compile_of_blocks rfl, List.mapM_cons, List.mapM_nil]
  cases filed settings (key, body) with
  | error e => rfl
  | ok p => rfl

theorem compile_alone_eq_ok_iff {settings : Settings} {key body : Value} {p : String × Schema} :
    (compile settings (alone key body)).result = .ok [p] ↔ filed settings (key, body) = .ok p := by
  rw [result_compile_alone, map_eq_ok_iff]
  constructor
  · rintro ⟨p', hp', hpair⟩
    rw [hp', (List.cons.inj hpair).1]
  · intro hp
    exact ⟨p, hp, rfl⟩

theorem exists_compile_alone_iff {settings : Settings} {key body : Value} :
    (∃ r, (compile settings (alone key body)).result = .ok r) ↔
      ∃ p, filed settings (key, body) = .ok p := by
  rw [result_compile_alone]
  cases filed settings (key, body) with
  | error e => exact iff_of_false (fun ⟨r, hr⟩ => by cases hr) fun ⟨p, hp⟩ => by cases hp
  | ok p => exact iff_of_true ⟨[p], rfl⟩ ⟨p, rfl⟩

theorem filed_text (settings : Settings) (name : String) (body : Value) :
    filed settings (.text name, body) =
      (compileBlock settings name body).result.map fun s => (name, s) := by
  show ((compileBlock settings name body).result >>= fun s => _) = _
  cases (compileBlock settings name body).result with
  | error e => rfl
  | ok s => rfl

theorem displayed_of_filed {settings : Settings} {block : Value × Value} {p : String × Schema}
    (h : filed settings block = .ok p) : block.1.displayed = .ok p.1 := by
  obtain ⟨name, hname, h⟩ := bind_eq_ok_iff.1 h
  obtain ⟨s, -, h⟩ := bind_eq_ok_iff.1 h
  rw [← Except.ok.inj h]
  exact mapError_eq_ok_iff.1 hname

/-! ## Names that are texts -/

/-- The entries under `structs` for blocks with texts for names. -/
def named (blocks : List (String × Value)) : List (Value × Value) :=
  blocks.map fun b => (.text b.1, b.2)

section Named

variable {settings : Settings} {entries : List (Value × Value)} {blocks : List (String × Value)}

/-- Blocks under distinct texts are all kept, in order. -/
theorem result_compile_of_named
    (hblocks : lookupText "structs" entries = some (.mapping (named blocks)))
    (hnames : (blocks.map Prod.fst).Nodup) :
    (compile settings (.mapping entries)).result =
      blocks.mapM fun b => filed settings (.text b.1, b.2) := by
  have hmap : (named blocks).mapM (filed settings) =
      blocks.mapM fun b => filed settings (.text b.1, b.2) := by
    rw [named, List.mapM_map]
    rfl
  rw [result_compile_of_blocks hblocks, hmap]
  cases h : blocks.mapM fun b => filed settings (.text b.1, b.2) with
  | error e => rfl
  | ok r =>
    have hkeys : r.map Prod.fst = blocks.map Prod.fst :=
      map_eq_map_of_forall₂ (mapM_eq_ok_iff.1 h) fun b p hp =>
        (Except.ok.inj (displayed_of_filed hp)).symm
    -- Under distinct names nothing is overwritten.
    have hplaces : Schema.putAll [] r = r := Schema.putAll_of_nodup (by rwa [hkeys])
    exact congrArg Except.ok hplaces

/-- A block that is at fault on its own. -/
theorem compile_alone_eq_error_iff {policy : NamePolicy}
    (hpolicy : settings.namePolicy = .ok policy) (name : String) (body : Value) (e : Error) :
    (compile settings (alone (.text name) body)).result = .error e ↔
      BlockFault settings policy name body e := by
  rw [result_compile_alone, map_eq_error_iff, filed_text, map_eq_error_iff,
    compileBlock_eq_error_iff hpolicy]

/-- The blocks of a document do not depend on each other. If their names are distinct texts, the
document comes to the schemas that the blocks come to one by one, in the order of the blocks, and
another order only puts the schemas in another order. Otherwise it comes to the fault of the first
block that is at fault, and the block has that fault on its own: its shape, or what the first of its
entries that is at fault has. -/
theorem blocks_independent {policy : NamePolicy} (hpolicy : settings.namePolicy = .ok policy)
    (hblocks : lookupText "structs" entries = some (.mapping (named blocks)))
    (hnames : (blocks.map Prod.fst).Nodup) :
    let whole := (compile settings (.mapping entries)).result
    let single := fun b : String × Value => (compile settings (alone (.text b.1) b.2)).result
    ((∃ r, whole = .ok r) ↔ ∀ b ∈ blocks, ∃ r, single b = .ok r) ∧
    (∀ r, whole = .ok r → List.Forall₂ (fun b p => p.1 = b.1 ∧ single b = .ok [p]) blocks r) ∧
    (∀ r, whole = .ok r → ∀ blocks' entries', blocks'.Perm blocks →
      lookupText "structs" entries' = some (.mapping (named blocks')) →
      ∃ r', (compile settings (.mapping entries')).result = .ok r' ∧ r'.Perm r) ∧
    (∀ e, whole = .error e ↔ ∃ before b after, blocks = before ++ b :: after ∧
      (∀ c ∈ before, ∃ r, single c = .ok r) ∧ single b = .error e) ∧
    ∀ b ∈ blocks, ∀ e, single b = .error e ↔ BlockFault settings policy b.1 b.2 e := by
  intro whole single
  have hwhole : whole = blocks.mapM fun b => filed settings (.text b.1, b.2) :=
    result_compile_of_named hblocks hnames
  have hexists : ∀ b : String × Value,
      (∃ r, single b = .ok r) ↔ ∃ p, filed settings (.text b.1, b.2) = .ok p :=
    fun b => exists_compile_alone_iff
  have herror : ∀ (b : String × Value) (e : Error),
      single b = .error e ↔ filed settings (.text b.1, b.2) = .error e := by
    intro b e
    rw [show single b = _ from result_compile_alone settings (.text b.1) b.2, map_eq_error_iff]
  refine ⟨?_, ?_, ?_, ?_, fun b _ e => compile_alone_eq_error_iff hpolicy b.1 b.2 e⟩
  · rw [hwhole, exists_mapM_eq_ok_iff]
    simp only [hexists]
  · intro r hr
    rw [hwhole, mapM_eq_ok_iff] at hr
    refine hr.imp fun b p hp => ⟨(Except.ok.inj (displayed_of_filed hp)).symm, ?_⟩
    exact compile_alone_eq_ok_iff.2 hp
  · intro r hr blocks' entries' hperm hblocks'
    rw [hwhole, mapM_eq_ok_iff] at hr
    -- What belongs to the blocks one by one can be put into their new order.
    obtain ⟨r', hr', hperm'⟩ := List.perm_comp_forall₂ hperm hr
    have hnames' : (blocks'.map Prod.fst).Nodup := (hperm.map Prod.fst).nodup_iff.2 hnames
    refine ⟨r', ?_, hperm'⟩
    rw [result_compile_of_named hblocks' hnames', mapM_eq_ok_iff]
    exact hr'
  · intro e
    rw [hwhole, mapM_eq_error_iff]
    simp only [hexists, herror]

/-- An empty block and one whose only entry is no mapping. -/
def shapelessBlocks : List (String × Value) :=
  [("A", .mapping []), ("B", .mapping [(.text "fields", .ofList [.text "x"])])]

theorem fault_of_shapeless :
    (compile {} (.mapping [(.text "structs", .mapping (named shapelessBlocks))])).result =
        .error (.malformedField "B" 0) ∧
      BlockFault {} .identifier "B" (.mapping [(.text "fields", .ofList [.text "x"])])
        (.malformedField "B" 0) := by
  have hparts := @blocks_independent {} [(.text "structs", .mapping (named shapelessBlocks))]
    shapelessBlocks .identifier rfl rfl (by decide)
  obtain ⟨-, -, -, hfails, hfault⟩ := hparts
  have hlast : (compile {} (alone (.text "B") (.mapping [(.text "fields", .ofList [.text "x"])]))
      ).result = .error (.malformedField "B" 0) := rfl
  refine ⟨(hfails _).2 ⟨[("A", .mapping [])], _, [], rfl, ?_, hlast⟩, ?_⟩
  · intro c hc
    rw [List.mem_singleton.1 hc]
    exact ⟨[("A", ⟨.text "A", [], []⟩)], rfl⟩
  · exact (hfault ("B", _) (by simp [shapelessBlocks]) _).1 hlast

end Named

/-! ## Names of any kind -/

/-- What a document keeps of its blocks. Each block comes to a schema under the text of its name;
a text that several names have keeps its first place and the schema of the last block that has it.
So there is one schema for each block exactly if no two names have one text, and then the schemas
are in the order of the blocks. -/
theorem blocks_kept_iff {settings : Settings} {entries blocks : List (Value × Value)}
    {r : List (String × Schema)}
    (hblocks : lookupText "structs" entries = some (.mapping blocks))
    (hr : (compile settings (.mapping entries)).result = .ok r) :
    ∃ pairs : List (String × Schema),
      List.Forall₂ (fun b p => b.1.displayed = .ok p.1 ∧
        (compile settings (alone b.1 b.2)).result = .ok [p]) blocks pairs ∧
      r.map Prod.fst = (pairs.map Prod.fst).eraseDups ∧
      (∀ name, Value.lookup name r = Value.lookup name pairs.reverse) ∧
      (r.length = blocks.length ↔ (pairs.map Prod.fst).Nodup) ∧
      (r.length = blocks.length ↔ r = pairs) := by
  rw [result_compile_of_blocks hblocks, map_eq_ok_iff] at hr
  obtain ⟨pairs, hpairs, rfl⟩ := hr
  have hall := mapM_eq_ok_iff.1 hpairs
  rw [hall.length_eq, Schema.length_putAll_eq_iff]
  refine ⟨pairs, ?_, Schema.keys_putAll pairs, Schema.lookup_putAll pairs, Iff.rfl, ?_⟩
  · exact hall.imp fun b p hp => ⟨displayed_of_filed hp, compile_alone_eq_ok_iff.2 hp⟩
  · constructor
    · intro hnames
      exact Schema.putAll_of_nodup hnames
    · intro hplaces
      rw [← Schema.length_putAll_eq_iff, hplaces]

/-- Names of two kinds with different texts: both blocks are kept. -/
theorem blocks_kept_under_number_and_none :
    let blocks : List (Value × Value) := [(.int 1, .mapping []), (.none, .mapping [])]
    let r : List (String × Schema) := [("1", ⟨.text "1", [], []⟩), ("None", ⟨.text "None", [], []⟩)]
    (compile {} (.mapping [(.text "structs", .mapping blocks)])).result = .ok r ∧
      List.Forall₂ (fun b p => b.1.displayed = .ok p.1 ∧
        (compile {} (alone b.1 b.2)).result = .ok [p]) blocks r := by
  intro blocks r
  have hr : (compile {} (.mapping [(.text "structs", .mapping blocks)])).result = .ok r := rfl
  obtain ⟨pairs, hpairs, -, -, -, hkept⟩ := blocks_kept_iff rfl hr
  refine ⟨hr, ?_⟩
  rw [hkept.1 rfl]
  exact hpairs

/-- A block with one field. -/
def fieldBody : Value :=
  .mapping [(.text "fields",
    .ofList [.mapping [(.text "name", .text "a"), (.text "type", .text "int")]])]

theorem compileBlock_field (strict : Value) (name : String) :
    (compileBlock { strict } name fieldBody).result =
      .ok ⟨.text name, [⟨"a", .missing, .text "int", .text "int | None", .bool false⟩], []⟩ := by
  have hentry : IsEntry (.mapping [(.text "name", .text "a"), (.text "type", .text "int")])
      [(.text "name", .text "a"), (.text "type", .text "int")] (.text "a") (.text "int") :=
    ⟨rfl, rfl, rfl⟩
  rw [result_compileBlock rfl rfl, result_declareEntries_written hentry rfl
    (Builder.inPhase_open_new _ _ _),
    show entryOptions [(.text "name", .text "a"), (.text "type", .text "int")] = [] from rfl,
    Builder.result_resolve_of_read (FieldOptions.result_ofEntries_nil _ _) Builder.validateName_a]
  rfl

/-- The number one and its text are two names of one text, and the block under the number is lost
with its field. -/
theorem block_lost_under_number :
    (compile {} (alone (.int 1) fieldBody)).result =
        .ok [("1", ⟨.text "1", [⟨"a", .missing, .text "int", .text "int | None", .bool false⟩],
          []⟩)] ∧
      (compile {} (.mapping [(.text "structs",
          .mapping [(.int 1, fieldBody), (.text "1", .mapping [])])])).result =
        .ok [("1", ⟨.text "1", [], []⟩)] := by
  have hfirst : filed {} (.int 1, fieldBody) = .ok ("1", ⟨.text "1",
      [⟨"a", .missing, .text "int", .text "int | None", .bool false⟩], []⟩) := by
    show ((compileBlock {} "1" fieldBody).result >>= fun s => _) = _
    rw [compileBlock_field (.bool false)]
    rfl
  refine ⟨compile_alone_eq_ok_iff.2 hfirst, ?_⟩
  rw [result_compile_of_blocks rfl, List.mapM_cons, hfirst]
  rfl

end Document

end RecordSchema
