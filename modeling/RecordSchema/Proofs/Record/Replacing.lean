import RecordSchema.Proofs.Record.Construction

/-!
# Copies of records with changes

A copy with changes is made by calling the class again, with the fields of the record as keywords
and the changes over them. So no field is lacking, enforced or not, and what is told of is a change
under a name that is no field (`Schema.Replaces`). Two names never come that far: the call passes
the record itself under the name `instance`, and the constructor has it under the name `self`.

No class has a field called `self`. A field may however be called `instance`, and this one cannot be
changed (`RecordType.replace_outcomes`); any other change of fields gives a new record of the class.
-/

set_option autoImplicit false

namespace RecordSchema

/-! ## Changes over values -/

namespace Schema

variable {s : Schema} {values changes : List (String × Value)}

/-- Values by name with changes over them. -/
def changed (values changes : List (String × Value)) : List (String × Value) :=
  values.map fun p => (p.1, (Value.lookup p.1 changes).getD p.2)

theorem keys_changed (values changes : List (String × Value)) :
    (changed values changes).map Prod.fst = values.map Prod.fst := by
  rw [changed, List.map_map]
  rfl

/-- No change is under a name that a record has on its way into a copy. -/
def Unshadowed (changes : List (String × Value)) : Prop :=
  "instance" ∉ changes.map Prod.fst ∧ RecordType.receiver ∉ changes.map Prod.fst

/-- The ways in which changing a record ends, by the values that it has. -/
inductive Replaces (s : Schema) (values changes : List (String × Value)) :
    Except Error (List (String × Value)) → Prop where
  | shadowed (some_shadowed : ¬ Unshadowed changes) :
      Replaces s values changes (.error (.refused .wrongKind))
  | unexpected (none_shadowed : Unshadowed changes) (some_stray : s.strays changes ≠ []) :
      Replaces s values changes (.error (.unexpectedKeywords s.name (s.strays changes)))
  | replaced (none_shadowed : Unshadowed changes) (no_stray : s.strays changes = []) :
      Replaces s values changes (.ok (changed values changes))

section Over

variable (hs : s.keys.Nodup) (hvalues : values.map Prod.fst = s.keys)
  (hchanges : (changes.map Prod.fst).Nodup)

include hvalues hchanges

/-- The values and the changes come under the names of the fields and then under the strays. -/
theorem keys_over : (putAll values changes).map Prod.fst = s.keys ++ s.strays changes := by
  rw [keys_putAll_of_nodup values hchanges, hvalues]
  rfl

theorem strays_over : s.strays (putAll values changes) = s.strays changes := by
  rw [strays, keys_over hvalues hchanges, List.filter_append, strays, List.filter_filter]
  have hnone : s.keys.filter (fun n => decide (n ∉ s.keys)) = [] :=
    List.filter_eq_nil_iff.2 fun n hn => by simpa using hn
  simp only [hnone, Bool.and_self, List.nil_append]

/-- Every field has its value among them. -/
theorem lacking_over : s.lacking (putAll values changes) = [] := by
  rw [lacking_eq_nil_iff, keys_over hvalues hchanges]
  exact fun f hf _ => List.mem_append_left _ (List.mem_map_of_mem hf)

include hs

theorem nodup_over : ((putAll values changes).map Prod.fst).Nodup := by
  rw [keys_over hvalues hchanges]
  refine List.nodup_append.2 ⟨hs, hchanges.filter _, fun n hn m hm hnm => ?_⟩
  have hstray : m ∉ s.keys := by simpa using (List.mem_filter.1 hm).2
  exact hstray (hnm ▸ hn)

/-- What is filled in are the values with the changes over them. -/
theorem filled_over : s.filled (putAll values changes) = changed values changes := by
  have hdistinct : (values.map Prod.fst).Nodup := hvalues ▸ hs
  have hself :
      values = s.fields.map fun f => (f.name, (Value.lookup f.name values).getD .none) := by
    have hlookup := map_lookup_of_nodup hdistinct Value.none
    rw [hvalues, keys, List.map_map] at hlookup
    exact hlookup.symm
  rw [changed, hself, List.map_map, ← hself, filled]
  refine List.map_congr_left fun f hf => ?_
  have hmem : f.name ∈ values.map Prod.fst := hvalues ▸ List.mem_map_of_mem hf
  obtain ⟨v, hv⟩ := Option.isSome_iff_exists.1 (isSome_lookup_iff.2 hmem)
  simp only [Function.comp_apply, lookup_putAll_of_nodup values hchanges, hv, Option.getD_some]
  cases Value.lookup f.name changes <;> rfl

end Over

end Schema

/-! ## Changing a record -/

namespace RecordType.IsClassOf

open RecordSchema.Session

variable {s : Schema} {t : RecordType} {σ : Session} {values changes : List (String × Value)}

/-- A call of the class with the values of a record and changes over them. -/
theorem exists_replaces_make (ht : t.IsClassOf s) (hσ : σ.types.get? t.identity.id = some t)
    (hvalues : values.map Prod.fst = s.keys) (hchanges : (changes.map Prod.fst).Nodup)
    (hinstance : "instance" ∉ changes.map Prod.fst) :
    ∃ r, s.Replaces values changes r ∧
      Runs (make (.recordType t.identity.id) [] (Schema.putAll values changes)) σ
        (r.map fun w => .record (σ.last + 1) t.identity w) { σ with last := σ.last + 1 } := by
  have hs := ht.regular.distinct
  by_cases hself : receiver ∈ (Schema.putAll values changes).map Prod.fst
  · -- The name of the record is no field, so it is one of the changes.
    have hchange : receiver ∈ changes.map Prod.fst := by
      rw [Schema.keys_over hvalues hchanges] at hself
      exact List.mem_of_mem_filter ((List.mem_append.1 hself).resolve_left ht.receiver_notMem)
    have hruns := ht.ordinary.runs_make hσ [] (Schema.putAll values changes)
    rw [construct_of_receiver hself] at hruns
    exact ⟨_, .shadowed fun hfree => hfree.2 hchange, hruns⟩
  · have hfree : Schema.Unshadowed changes := by
      refine ⟨hinstance, fun hmem => hself ?_⟩
      rw [Schema.keys_over hvalues hchanges]
      exact List.mem_append_right _ (List.mem_filter.2 ⟨hmem, by simpa using ht.receiver_notMem⟩)
    obtain ⟨r, hways, hruns⟩ :=
      ht.exists_constructs hσ (Schema.nodup_over hs hvalues hchanges) hself
    refine ⟨r, ?_, hruns⟩
    cases hways with
    | unexpected some_stray =>
      rw [Schema.strays_over hvalues hchanges] at some_stray ⊢
      exact .unexpected hfree some_stray
    | missing _ some_lacking =>
      exact absurd (Schema.lacking_over hvalues hchanges) some_lacking
    | made no_stray _ =>
      rw [Schema.strays_over hvalues hchanges] at no_stray
      rw [Schema.filled_over hs hvalues hchanges]
      exact .replaced hfree no_stray

/-- Changing a record that lists its values ends as the schema says. -/
theorem exists_replaces (ht : t.IsClassOf s) (hσ : σ.types.get? t.identity.id = some t)
    {cell : Nat} {attributes : List (String × Value)} (hvalues : values.map Prod.fst = s.keys)
    (hlisted : Runs (fieldsOf (.record cell t.identity attributes)) σ (.ok values) σ)
    (hchanges : (changes.map Prod.fst).Nodup) :
    ∃ r, s.Replaces values changes r ∧
      Runs (replace (.record cell t.identity attributes) changes) σ
        (r.map fun w => .record (σ.last + 1) t.identity w)
        (if "instance" ∈ changes.map Prod.fst then σ else { σ with last := σ.last + 1 }) := by
  by_cases hinstance : "instance" ∈ changes.map Prod.fst
  · refine ⟨_, .shadowed fun hfree => hfree.1 hinstance, ?_⟩
    rw [if_pos hinstance, replace, if_pos (Schema.isSome_lookup_iff.2 hinstance)]
    exact runs_refuse _ σ
  · obtain ⟨r, hways, hruns⟩ := ht.exists_replaces_make hσ hvalues hchanges hinstance
    refine ⟨r, hways, ?_⟩
    rw [if_neg hinstance, replace, if_neg (Schema.isSome_lookup_iff.not.2 hinstance)]
    exact .bind hlisted hruns

end RecordType.IsClassOf

/-- A record that a call of an ordinary class makes has the values of the fields, in order. -/
theorem RecordType.IsOrdinary.eq_record_of_make {t : RecordType} (ht : t.IsOrdinary)
    {σ σ' : Session} (hσ : σ.types.get? t.identity.id = some t) {positional : List Value}
    {given : List (String × Value)} {o : Object}
    (h : Session.Runs (Session.make (.recordType t.identity.id) positional given) σ (.ok o) σ') :
    ∃ values, o = .record (σ.last + 1) t.identity values ∧
      values.map Prod.fst = t.schema.keys ∧ σ' = { σ with last := σ.last + 1 } := by
  obtain ⟨hresult, rfl⟩ := h.unique (ht.runs_make hσ positional given)
  cases hmade : t.construct positional given with
  | error e =>
    rw [hmade] at hresult
    cases hresult
  | ok values =>
    rw [hmade] at hresult
    obtain ⟨bound, -, hfill⟩ := bind_eq_ok_iff.1 hmade
    exact ⟨values, Except.ok.inj hresult, keys_of_fill ht.distinct hfill, rfl⟩

open RecordSchema.Session

/-- Changes of a record that its class has made, for a schema that an accumulator gives, with a body
that leaves the records alone. A change under a name that is no field is refused. Changes of fields
give a new record of the same class, which lists the values with the changes over them, and the
record itself lists what it did before; but no field called `instance` can be changed. -/
theorem RecordType.replace_outcomes {s : Schema} (hs : s.IsCollected)
    (hplaces : ∀ n ∈ s.keys, n ∉ places) {body : ClassBody} (hbody : body.LeavesAlone s.keys)
    {t : RecordType} {σ₀ σ₁ σ σ' τ : Session} (hcreate : Runs (createType s body) σ₀ (.ok t) σ₁)
    (hσ : σ.types.get? t.identity.id = some t) {positional : List Value}
    {given : List (String × Value)} {o : Object}
    (hmake : Runs (make (.recordType t.identity.id) positional given) σ (.ok o) σ')
    (hτ : τ.types.get? t.identity.id = some t) (hlast : σ'.last ≤ τ.last)
    {changes : List (String × Value)} (hchanges : (changes.map Prod.fst).Nodup) :
    ∃ cell values, Runs o.toValue τ (.ok (.record cell t.identity values)) τ ∧
      Runs (fieldsOf (.record cell t.identity values)) τ (.ok values) τ ∧
      ((∀ n ∈ changes.map Prod.fst, n ∈ s.keys) → "instance" ∉ changes.map Prod.fst →
        ∃ copy τ', copy ≠ cell ∧ τ' = { τ with last := τ.last + 1 } ∧
          Runs (replace (.record cell t.identity values) changes) τ
            (.ok (.record copy t.identity (Schema.changed values changes))) τ' ∧
          Runs (fieldsOf (.record copy t.identity (Schema.changed values changes))) τ'
            (.ok (Schema.changed values changes)) τ' ∧
          Runs (fieldsOf (.record cell t.identity values)) τ' (.ok values) τ') ∧
      ("instance" ∈ changes.map Prod.fst →
        Runs (replace (.record cell t.identity values) changes) τ
          (.error (.refused .wrongKind)) τ) ∧
      ((∃ n ∈ changes.map Prod.fst, n ∉ s.keys) →
        ∃ e τ', Runs (replace (.record cell t.identity values) changes) τ (.error e) τ' ∧
          (e = .refused .wrongKind ∨ e = .unexpectedKeywords s.name (s.strays changes))) := by
  have ht := isClassOf_of_isCollected hs hplaces hbody hcreate
  obtain ⟨values, rfl, hvalues, rfl⟩ := ht.ordinary.eq_record_of_make hσ hmake
  have hlists : ∀ υ : Session, υ.types.get? t.identity.id = some t →
      Runs (fieldsOf (.record (σ.last + 1) t.identity values)) υ (.ok values) υ :=
    fun υ hυ => ht.ordinary.runs_fieldsOf_own hvalues (σ.last + 1) hυ
  rw [ht.schema_eq] at hvalues
  obtain ⟨r, hways, hruns⟩ := ht.exists_replaces hτ hvalues (hlists τ hτ) hchanges
  refine ⟨σ.last + 1, values, runs_pure _ τ, hlists τ hτ, ?_, ?_, ?_⟩
  · intro hfields hinstance
    rw [if_neg hinstance] at hruns
    have hno_stray : s.strays changes = [] := Schema.strays_eq_nil_iff.2 hfields
    have hself : receiver ∉ changes.map Prod.fst := fun hmem =>
      ht.receiver_notMem (hfields _ hmem)
    cases hways with
    | shadowed some_shadowed => exact absurd ⟨hinstance, hself⟩ some_shadowed
    | unexpected _ some_stray => exact absurd hno_stray some_stray
    | replaced _ _ =>
      refine ⟨τ.last + 1, _, Nat.ne_of_gt (Nat.lt_succ_of_le hlast), rfl, hruns, ?_, hlists _ hτ⟩
      refine ht.ordinary.runs_fieldsOf_own ?_ (τ.last + 1) hτ
      rw [Schema.keys_changed, hvalues, ht.schema_eq]
  · -- Under this name the call takes the record itself, so it would be given twice.
    intro hinstance
    rw [if_pos hinstance] at hruns
    cases hways with
    | shadowed _ => exact hruns
    | unexpected none_shadowed _ | replaced none_shadowed _ =>
      exact absurd hinstance none_shadowed.1
  · rintro ⟨n, hn, hstray⟩
    cases hways with
    | shadowed _ => exact ⟨_, _, hruns, .inl rfl⟩
    | unexpected _ _ => exact ⟨_, _, hruns, .inr rfl⟩
    | replaced _ no_stray => exact absurd (Schema.strays_eq_nil_iff.1 no_stray n hn) hstray

namespace Builder

/-- A block with one field other than `self` gives a class, and its record has the default. -/
theorem exists_record_oneField {n : String} (hn : FieldName.isAllowed n .identifier = true)
    (hself : n ≠ "self") :
    ∃ t σ o σ' v, Runs (createType (oneFieldSchema n) {}) {} (.ok t) σ ∧
      σ.types.get? t.identity.id = some t ∧
      Runs (make (.recordType t.identity.id) [] []) σ (.ok o) σ' ∧
      σ'.types.get? t.identity.id = some t ∧ Runs o.toValue σ' (.ok v) σ' ∧
      Runs (fieldsOf v) σ' (.ok [(n, .int 5)]) σ' := by
  have hbuild := build_oneField hn
  obtain ⟨t, σ, hcreate, -, hσ⟩ := (runs_createType (isNamed_of_build (by simp) hbuild) {}).2
    (by simpa [oneFieldSchema, Schema.keys, RecordType.receiver] using hself.symm)
  have ht := isClassOf_of_createType hbuild hcreate
  have hnone : (([] : List (String × Value)).map Prod.fst).Nodup := List.nodup_nil
  obtain ⟨o, σ', ho, v, hv, hlisted⟩ := ht.exists_runs_make_of_eq_nil hσ hnone rfl rfl
  obtain ⟨values, rfl, -, rfl⟩ := ht.ordinary.eq_record_of_make hσ ho
  exact ⟨t, σ, _, _, v, hcreate, hσ, ho, hσ, hv, hlisted⟩

/-- The number of a record is another one in the copy. -/
theorem replace_number :
    ∃ t σ o σ' v o' σ'' w, Runs (createType (oneFieldSchema "n") {}) {} (.ok t) σ ∧
      Runs (make (.recordType t.identity.id) [] []) σ (.ok o) σ' ∧ Runs o.toValue σ' (.ok v) σ' ∧
      Runs (replace v [("n", .int 7)]) σ' (.ok o') σ'' ∧ Runs o'.toValue σ'' (.ok w) σ'' ∧
      Runs (fieldsOf w) σ'' (.ok [("n", .int 7)]) σ'' ∧
      Runs (fieldsOf v) σ'' (.ok [("n", .int 5)]) σ'' := by
  have hn : FieldName.isAllowed "n" .identifier = true := by decide +kernel
  have hkeys : (oneFieldSchema "n").keys = ["n"] := rfl
  obtain ⟨t, σ, o, σ', v, hcreate, hσ, hmake, hσ', hv, hlisted⟩ :=
    exists_record_oneField hn (by decide)
  have hchanges : ([("n", Value.int 7)].map Prod.fst).Nodup := List.nodup_singleton _
  obtain ⟨cell, values, hv', hvalues, hreplace, -, -⟩ :=
    RecordType.replace_outcomes (isCollected_of_build (build_oneField hn)) (by rw [hkeys]; decide)
      (ClassBody.leavesAlone_of_members_eq_nil rfl _) hcreate hσ hmake hσ'
      (Nat.le_refl _) hchanges
  obtain rfl := Except.ok.inj (hv.unique hv').1
  obtain rfl := Except.ok.inj (hlisted.unique hvalues).1
  obtain ⟨copy, σ'', -, -, hreplaced, hcopy, hold⟩ := hreplace (by rw [hkeys]; simp) (by decide)
  exact ⟨t, σ, o, σ', _, _, σ'', _, hcreate, hmake, hv, hreplaced, runs_pure _ σ'', hcopy, hold⟩

/-- A field called `instance` has a value like any other, and no copy can have another one. -/
theorem instance_not_replaced :
    ((Builder.new (.text "P")).after (oneField "instance")).reply .build =
      .ok (.schema (oneFieldSchema "instance")) ∧
    ∃ t σ o σ' v, Runs (createType (oneFieldSchema "instance") {}) {} (.ok t) σ ∧
      Runs (make (.recordType t.identity.id) [] []) σ (.ok o) σ' ∧ Runs o.toValue σ' (.ok v) σ' ∧
      Runs (fieldsOf v) σ' (.ok [("instance", .int 5)]) σ' ∧
      Runs (replace v [("instance", .int 7)]) σ' (.error (.refused .wrongKind)) σ' := by
  have hn : FieldName.isAllowed "instance" .identifier = true := by decide +kernel
  obtain ⟨t, σ, o, σ', v, hcreate, -, hmake, -, hv, hlisted⟩ :=
    exists_record_oneField hn (by decide)
  exact ⟨build_oneField hn, t, σ, o, σ', v, hcreate, hmake, hv, hlisted, rfl⟩

end Builder

end RecordSchema
