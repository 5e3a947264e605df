import RecordSchema.Document.Compile
import RecordSchema.Proofs.Block.Phases
import Mathlib.Data.List.Forall2

/-!
# The fields of a block in a document

The entries of a list of fields are declared one after another, and the first one that is at fault
decides what comes of the block (`Document.declareEntries_eq_error_iff`). An entry is at fault for
its shape, for its type, or for what becomes of it as a declaration after the entries before it
(`Document.EntryFault`), and for the first of these that applies. A block is at fault for its shape
or for that entry (`Document.compileBlock_eq_error_iff`).
-/

set_option autoImplicit false

namespace RecordSchema

open Value

/-- A block that is open, under given settings, with fields named by entries in order. -/
structure Builder.HasTaken (b : Builder) (strict : Value) (policy : NamePolicy)
    (items : List Value) : Prop where
  is_open : b.InPhase .open
  strict_eq : b.strict = strict
  policy_eq : b.policy = policy
  names : List.Forall₂
    (fun item n => ∃ keys, item = .mapping keys ∧ lookupText "name" keys = some (.text n)) items
    b.state.names

theorem Builder.hasTaken_new (name strict : Value) (policy : NamePolicy) :
    (Builder.new name strict policy).HasTaken strict policy [] :=
  ⟨inPhase_open_new name strict policy, rfl, rfl, .nil⟩

theorem Builder.result_build_of_open {b : Builder} (hb : b.InPhase .open) :
    b.build.2.result = .ok b.state.outcome := by
  have hreply := reply_build_of_open hb
  rw [reply, call, Report.result_map, map_eq_ok_iff] at hreply
  obtain ⟨s, hs, hgiven⟩ := hreply
  rw [hs, Given.schema.inj hgiven]

namespace Document

/-- A value is an entry for a field: a mapping with a name and a type. -/
structure IsEntry (item : Value) (keys : List (Value × Value)) (field type : Value) : Prop where
  mapping : item = .mapping keys
  name : lookupText "name" keys = some field
  type : lookupText "type" keys = some type

/-! ## One entry -/

/-- What an entry of a list of fields is at fault with, in the block that the entries before it
make. The shape comes first, then the text of the type, and then the declaration. -/
inductive EntryFault (name : String) (index : Nat) (b : Builder) (item : Value) : Error → Prop where
  /-- The entry is no mapping with a name and a type. -/
  | shape (shapeless : ∀ keys field type, ¬ IsEntry item keys field type) :
      EntryFault name index b item (.malformedField name index)
  /-- The type cannot be written out. -/
  | type {keys : List (Value × Value)} {field type : Value} {cause : Refusal}
      (entry : IsEntry item keys field type) (unwritten : type.displayed = .error cause) :
      EntryFault name index b item (.refused cause)
  /-- The declaration has an unknown option where none is let through, a name that is not acceptable
  or one that is taken. -/
  | declaration {keys : List (Value × Value)} {field type : Value} {text : String} {e : Error}
      (entry : IsEntry item keys field type) (written : type.displayed = .ok text)
      (condemned : b.Condemns field (entryOptions keys) e) :
      EntryFault name index b item e
  /-- The rules of values refuse something in the declaration. -/
  | refusal {keys : List (Value × Value)} {field type : Value} {text : String} {cause : Refusal}
      (entry : IsEntry item keys field type) (written : type.displayed = .ok text)
      (refused : (b.resolve field (.text text) (entryOptions keys)).result =
        .error (.refused cause)) :
      EntryFault name index b item (.refused cause)

theorem isEntry_or_shapeless (item : Value) :
    (∃ keys field type, IsEntry item keys field type) ∨
      ∀ keys field type, ¬ IsEntry item keys field type := by
  by_cases h : ∃ keys field type, IsEntry item keys field type
  · exact Or.inl h
  · exact Or.inr fun keys field type hentry => h ⟨keys, field, type, hentry⟩

theorem declareEntries_shapeless {item : Value}
    (h : ∀ keys field type, ¬ IsEntry item keys field type) (name : String) (index : Nat)
    (b : Builder) (items : List Value) :
    declareEntries name index b (item :: items) = Report.fail (.malformedField name index) := by
  cases item with
  | mapping keys =>
    rw [declareEntries]
    split
    · rename_i field type hfield htype
      exact absurd ⟨rfl, hfield, htype⟩ (h keys field type)
    · rfl
  | _ => rfl

theorem result_declareEntries_shapeless {item : Value}
    (h : ∀ keys field type, ¬ IsEntry item keys field type) (name : String) (index : Nat)
    (b : Builder) (items : List Value) :
    (declareEntries name index b (item :: items)).result = .error (.malformedField name index) := by
  rw [declareEntries_shapeless h]
  rfl

/-- An entry is declared once its type is written out, and then the entries after it. -/
theorem declareEntries_entry {item : Value} {keys : List (Value × Value)} {field type : Value}
    (h : IsEntry item keys field type) (name : String) (index : Nat) (b : Builder)
    (items : List Value) :
    declareEntries name index b (item :: items) =
      Report.ofExcept (type.displayed.mapError .refused) >>= fun text =>
        (b.declare field (.text text) (entryOptions keys)).2 >>= fun _ =>
          declareEntries name (index + 1) (b.declare field (.text text) (entryOptions keys)).1
            items := by
  obtain ⟨rfl, hfield, htype⟩ := h
  rw [declareEntries, hfield, htype]

theorem result_declareEntries_entry {item : Value} {keys : List (Value × Value)}
    {field type : Value} (h : IsEntry item keys field type) (name : String) (index : Nat)
    (b : Builder) (items : List Value) :
    (declareEntries name index b (item :: items)).result =
      type.displayed.mapError .refused >>= fun text =>
        (b.declare field (.text text) (entryOptions keys)).2.result >>= fun _ =>
          (declareEntries name (index + 1) (b.declare field (.text text) (entryOptions keys)).1
            items).result := by
  rw [declareEntries_entry h]
  simp only [Report.result_bind, Report.result_ofExcept]

/-- What an entry with a type that can be written out does to an open block: if its declaration
makes a field, the field is added. -/
theorem result_declareEntries_written {item : Value} {keys : List (Value × Value)}
    {field type : Value} (h : IsEntry item keys field type) {text : String}
    (written : type.displayed = .ok text) {b : Builder} (hb : b.InPhase .open) (name : String)
    (index : Nat) :
    (declareEntries name index b [item]).result =
      (b.resolve field (.text text) (entryOptions keys)).result.map fun f =>
        { b with state := b.state.push f } := by
  rw [result_declareEntries_entry h, written, mapError_ok, ok_bind,
    Builder.result_declare hb.alive hb.going]
  cases hf : (b.resolve field (.text text) (entryOptions keys)).result with
  | error e => rfl
  | ok f => exact congrArg Except.ok (Builder.call_declare_of_made hb hf)

/-- An entry that is at fault fails by its fault. -/
theorem EntryFault.result_declareEntries {name : String} {index : Nat} {b : Builder} {item : Value}
    {e : Error} (h : EntryFault name index b item e) (hb : b.InPhase .open) :
    (declareEntries name index b [item]).result = .error e := by
  cases h with
  | shape shapeless => exact result_declareEntries_shapeless shapeless name index b []
  | type entry unwritten =>
    rw [result_declareEntries_entry entry, unwritten]
    rfl
  | declaration entry written condemned =>
    rw [result_declareEntries_written entry written hb, condemned.resolve]
    rfl
  | refusal entry written refused =>
    rw [result_declareEntries_written entry written hb, refused]
    rfl

/-- An entry that fails is at fault. -/
theorem entryFault_of_error {name : String} {index : Nat} {b : Builder} (hb : b.InPhase .open)
    {item : Value} {e : Error} (h : (declareEntries name index b [item]).result = .error e) :
    EntryFault name index b item e := by
  rcases isEntry_or_shapeless item with ⟨keys, field, type, entry⟩ | shapeless
  · cases hwritten : type.displayed with
    | error cause =>
      rw [result_declareEntries_entry entry, hwritten] at h
      rw [← Except.error.inj h]
      exact .type entry hwritten
    | ok text =>
      rw [result_declareEntries_written entry hwritten hb, map_eq_error_iff] at h
      rcases Builder.condemns_or_refused_of_resolve h with condemned | ⟨cause, rfl⟩
      · exact .declaration entry hwritten condemned
      · exact .refusal entry hwritten h
  · rw [result_declareEntries_shapeless shapeless] at h
    rw [← Except.error.inj h]
    exact .shape shapeless

/-- An entry that does not fail names a field, and the block has taken it. -/
theorem hasTaken_of_entry {b b' : Builder} {strict : Value} {policy : NamePolicy}
    {items : List Value} (hb : b.HasTaken strict policy items) {name : String} {index : Nat}
    {item : Value} (h : (declareEntries name index b [item]).result = .ok b') :
    b'.HasTaken strict policy (items ++ [item]) := by
  rcases isEntry_or_shapeless item with ⟨keys, field, type, entry⟩ | shapeless
  · cases hwritten : type.displayed with
    | error cause =>
      rw [result_declareEntries_entry entry, hwritten] at h
      cases h
    | ok text =>
      rw [result_declareEntries_written entry hwritten hb.is_open, map_eq_ok_iff] at h
      obtain ⟨f, hf, rfl⟩ := h
      obtain ⟨hof, -⟩ := Builder.isOf_of_resolve hf
      refine ⟨hb.is_open, hb.strict_eq, hb.policy_eq, List.rel_append hb.names (.cons ?_ .nil)⟩
      exact ⟨keys, entry.mapping, hof.name_eq ▸ entry.name⟩
  · rw [result_declareEntries_shapeless shapeless] at h
    cases h

/-! ## Lists of entries -/

theorem result_declareEntries_cons (name : String) (index : Nat) (b : Builder) (item : Value)
    (items : List Value) :
    (declareEntries name index b (item :: items)).result =
      (declareEntries name index b [item]).result >>= fun b =>
        (declareEntries name (index + 1) b items).result := by
  rcases isEntry_or_shapeless item with ⟨keys, field, type, entry⟩ | shapeless
  · rw [result_declareEntries_entry entry, result_declareEntries_entry entry]
    cases type.displayed with
    | error cause => rfl
    | ok text =>
      simp only [mapError_ok, ok_bind]
      cases (b.declare field (.text text) (entryOptions keys)).2.result with
      | error e => rfl
      | ok f => rfl
  · rw [result_declareEntries_shapeless shapeless, result_declareEntries_shapeless shapeless]
    rfl

/-- A block that has taken entries takes further ones. -/
theorem hasTaken_of_declareEntries {b b' : Builder} {strict : Value} {policy : NamePolicy}
    {taken : List Value} (hb : b.HasTaken strict policy taken) {name : String} {index : Nat}
    {items : List Value} (h : (declareEntries name index b items).result = .ok b') :
    b'.HasTaken strict policy (taken ++ items) := by
  induction items generalizing b index taken with
  | nil =>
    rw [List.append_nil]
    exact Except.ok.inj h ▸ hb
  | cons item items ih =>
    rw [result_declareEntries_cons, bind_eq_ok_iff] at h
    obtain ⟨c, hc, h⟩ := h
    have hrest := ih (hasTaken_of_entry hb hc) h
    rwa [List.append_assoc] at hrest

/-- Entries are declared in the block that those before them make, and counted on from them. -/
theorem result_declareEntries_append (name : String) (index : Nat) (b : Builder)
    (before after : List Value) :
    (declareEntries name index b (before ++ after)).result =
      (declareEntries name index b before).result >>= fun b =>
        (declareEntries name (index + before.length) b after).result := by
  induction before generalizing b index with
  | nil => rfl
  | cons item before ih =>
    rw [List.cons_append, result_declareEntries_cons name index b item (before ++ after),
      result_declareEntries_cons name index b item before]
    cases (declareEntries name index b [item]).result with
    | error e => rfl
    | ok c =>
      rw [ok_bind, ok_bind, ih, List.length_cons, Nat.add_comm before.length 1, ← Nat.add_assoc]

/-- Entries that fail have a first one that is at fault. -/
theorem exists_entryFault_of_error {b : Builder} {strict : Value} {policy : NamePolicy}
    {taken : List Value} (hb : b.HasTaken strict policy taken) {name : String} {index : Nat}
    {items : List Value} {e : Error} (h : (declareEntries name index b items).result = .error e) :
    ∃ before item after b', items = before ++ item :: after ∧
      (declareEntries name index b before).result = .ok b' ∧
      EntryFault name (index + before.length) b' item e := by
  induction items generalizing b index taken with
  | nil => cases h
  | cons item items ih =>
    rw [result_declareEntries_cons] at h
    rcases bind_eq_error_iff.1 h with hfirst | ⟨c, hfirst, hrest⟩
    · exact ⟨[], item, items, b, rfl, rfl, entryFault_of_error hb.is_open hfirst⟩
    · obtain ⟨before, item', after, b', rfl, hbefore, hfault⟩ :=
        ih (hasTaken_of_entry hb hfirst) hrest
      refine ⟨item :: before, item', after, b', rfl, ?_, ?_⟩
      · rw [result_declareEntries_cons, hfirst]
        exact hbefore
      · rwa [List.length_cons, Nat.add_comm before.length 1, ← Nat.add_assoc]

/-- Entries fail at the first one that is at fault, whatever comes after it. -/
theorem declareEntries_eq_error_iff {b : Builder} {strict : Value} {policy : NamePolicy}
    {taken : List Value} (hb : b.HasTaken strict policy taken) (name : String) (index : Nat)
    (items : List Value) (e : Error) :
    (declareEntries name index b items).result = .error e ↔
      ∃ before item after b', items = before ++ item :: after ∧
        (declareEntries name index b before).result = .ok b' ∧
        EntryFault name (index + before.length) b' item e := by
  refine ⟨exists_entryFault_of_error hb, ?_⟩
  rintro ⟨before, item, after, b', rfl, hbefore, hfault⟩
  have hopen := (hasTaken_of_declareEntries hb hbefore).is_open
  rw [result_declareEntries_append, hbefore, ok_bind, result_declareEntries_cons,
    hfault.result_declareEntries hopen, error_bind]

/-! ## One block -/

/-- What the block of a document is at fault with: its shape, or the first of its entries that is at
fault. The entries before it are all taken, each as a field of the name it gives. -/
inductive BlockFault (settings : Settings) (policy : NamePolicy) (name : String) (body : Value) :
    Error → Prop where
  | body (shapeless : bodyFields? body = Option.none) :
      BlockFault settings policy name body (.malformedStruct name)
  | entry {before after : List Value} {item : Value} {b : Builder} {e : Error}
      (fields : bodyFields? body = some (before ++ item :: after))
      (made : (declareEntries name 0 (Builder.new (.text name) settings.strict policy)
        before).result = .ok b)
      (taken : b.HasTaken settings.strict policy before)
      (fault : EntryFault name before.length b item e) :
      BlockFault settings policy name body e

theorem openBlock_of_policy {settings : Settings} {policy : NamePolicy}
    (h : settings.namePolicy = .ok policy) (name : Value) :
    settings.openBlock name = .ok (Builder.new name settings.strict policy) := by
  rw [Settings.openBlock, h]
  rfl

theorem openBlock_eq_ok_iff {settings : Settings} {name : Value} {b : Builder} :
    settings.openBlock name = .ok b ↔
      ∃ policy, settings.namePolicy = .ok policy ∧ Builder.new name settings.strict policy = b := by
  rw [Settings.openBlock, bind_eq_ok_iff]
  refine exists_congr fun policy => and_congr_right fun _ => ?_
  exact ⟨Except.ok.inj, congrArg Except.ok⟩

/-- A block of a document comes to the schema of its entries. -/
theorem result_compileBlock {settings : Settings} {policy : NamePolicy}
    (hpolicy : settings.namePolicy = .ok policy) {body : Value} {items : List Value}
    (hbody : bodyFields? body = some items) (name : String) :
    (compileBlock settings name body).result =
      (declareEntries name 0 (Builder.new (.text name) settings.strict policy) items).result.map
        fun b => b.state.outcome := by
  simp only [compileBlock, hbody, openBlock_of_policy hpolicy, mapError_ok, Report.result_bind,
    Report.result_ofExcept, Report.result_say, Report.result_pure, ok_bind]
  cases h : (declareEntries name 0 (Builder.new (.text name) settings.strict policy)
    items).result with
  | error e => rfl
  | ok b =>
    have hopen := (hasTaken_of_declareEntries (Builder.hasTaken_new _ _ _) h).is_open
    simp only [ok_bind, Builder.result_build_of_open hopen]
    rfl

/-- A block of a document fails by what it is at fault with. -/
theorem compileBlock_eq_error_iff {settings : Settings} {policy : NamePolicy}
    (hpolicy : settings.namePolicy = .ok policy) (name : String) (body : Value) (e : Error) :
    (compileBlock settings name body).result = .error e ↔
      BlockFault settings policy name body e := by
  have hnew := Builder.hasTaken_new (.text name) settings.strict policy
  cases hbody : bodyFields? body with
  | none =>
    -- A body of another shape is refused before its entries are looked at.
    have hshape : (compileBlock settings name body).result = .error (.malformedStruct name) := by
      rw [compileBlock, hbody]
      rfl
    rw [hshape]
    constructor
    · intro h
      rw [← Except.error.inj h]
      exact .body hbody
    · intro h
      cases h with
      | body _ => rfl
      | entry fields _ _ _ => cases hbody.symm.trans fields
  | some items =>
    rw [result_compileBlock hpolicy hbody, map_eq_error_iff, declareEntries_eq_error_iff hnew]
    simp only [Nat.zero_add]
    constructor
    · rintro ⟨before, item, after, b, rfl, hbefore, hfault⟩
      exact .entry hbody hbefore (hasTaken_of_declareEntries hnew hbefore) hfault
    · intro h
      cases h with
      | body shapeless => cases hbody.symm.trans shapeless
      | entry fields made _ fault =>
        exact ⟨_, _, _, _, Option.some.inj (hbody.symm.trans fields), made, fault⟩

end Document

end RecordSchema
