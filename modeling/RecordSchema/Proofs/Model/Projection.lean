import RecordSchema.Model.Basic
import RecordSchema.Proofs.Record.Class
import RecordSchema.Proofs.Sequences
import RecordSchema.Proofs.TypeTerm.Primitive

/-!
# Models of schemas of primitive fields

A schema whose fields are annotated with the classes `int`, `float`, `str` and `bool` becomes a
model with a field for each of them (`Model.mirrors_of_ofSchema`), those with a name that begins
with an underscore and the one called `model_config` apart. A value that is exactly of the class of
its field, or `None` where that is admitted, is kept as it is, so filling the model with such values
goes wrong only by names (`Model.validate_of_suited`): a field that has to be given is missing, a
name is that of no field, or a field stands in the place of what the model calls.

A field has to be given if it is enforced, and also if its default is an ellipsis.
-/

set_option autoImplicit false

namespace RecordSchema

/-! ## Rules of primitive classes -/

namespace Primitive

/-- The rule of a model for the class. -/
def rule : Primitive → Rule
  | int => .integer
  | float => .real
  | str => .text
  | bool => .truth

/-- A value of exactly the class is kept. -/
theorem Has.check_eq {p : Primitive} {v : Value} (h : p.Has v) :
    p.rule.check v = .ok (v, .exact) := by
  cases h <;> rfl

theorem ofType_type (p : Primitive) : Rule.ofType p.type = .ok p.rule := by
  cases p <;> rfl

theorem ofType_orNone (p : Primitive) : Rule.ofType p.orNone = .ok (.optional p.rule) := by
  cases p <;> rfl

theorem resolution_type (p : Primitive) (scope : TypeTerm.Scope) :
    Model.resolution scope p.type = .ok (some p.type) := by
  cases p <;> rfl

theorem resolution_orNone (p : Primitive) (scope : TypeTerm.Scope) :
    Model.resolution scope p.orNone = .ok (some p.orNone) := by
  cases p <;> rfl

end Primitive

/-! ## Primitive fields -/

/-- A field that is annotated with a primitive class: its type in effect is the class, or the class
with `None` beside it. -/
structure Field.IsPrimitive (f : Field) (p : Primitive) : Prop where
  declared : f.declared = p.type
  effective : f.effective = if f.isNullable then p.orNone else p.type

/-- A value that suits a field: one of exactly the class it is annotated with, or `None` if the
field has to admit that. -/
def Field.Takes (f : Field) (v : Value) : Prop :=
  (∃ p : Primitive, f.declared = p.type ∧ p.Has v) ∨ (f.isNullable = true ∧ v = .none)

namespace Field.IsPrimitive

variable {f : Field} {p : Primitive}

/-- The rule of a model for the field. -/
def rule (f : Field) (p : Primitive) : Rule := if f.isNullable then .optional p.rule else p.rule

theorem ofType_effective (h : f.IsPrimitive p) : Rule.ofType f.effective = .ok (rule f p) := by
  rw [h.effective, rule]
  cases f.isNullable with
  | true => exact p.ofType_orNone
  | false => exact p.ofType_type

theorem resolution_effective (h : f.IsPrimitive p) (scope : TypeTerm.Scope) :
    Model.resolution scope f.effective = .ok (some f.effective) := by
  rw [h.effective]
  cases f.isNullable with
  | true => exact p.resolution_orNone scope
  | false => exact p.resolution_type scope

theorem not_isOfClass (h : f.IsPrimitive p) :
    Model.isOfClass f.effective (some f.effective) = false := by
  rw [h.effective]
  cases f.isNullable <;> rfl

/-- A value that suits the field is kept as it is. -/
theorem check_eq (h : f.IsPrimitive p) {v : Value} (hv : f.Takes v) :
    (rule f p).check v = .ok (v, .exact) := by
  rw [rule]
  rcases hv with ⟨q, hq, hhas⟩ | ⟨hnull, rfl⟩
  · obtain rfl := Primitive.type_injective (h.declared.symm.trans hq)
    cases f.isNullable with
    | true => cases hhas <;> rfl
    | false => exact hhas.check_eq
  · rw [hnull]
    rfl

end Field.IsPrimitive

/-- Blocks give fields annotated with primitive classes the types that go with them. -/
theorem Builder.isPrimitive_of_build {name strict : Value} {policy : NamePolicy}
    {calls : List Call} {s : Schema}
    (h : ((Builder.new name strict policy).after calls).reply .build = .ok (.schema s))
    {f : Field} (hf : f ∈ s.fields) {p : Primitive} (hp : f.declared = p.type) :
    f.IsPrimitive p := by
  obtain ⟨-, hrecords⟩ := records_of_build h
  obtain ⟨d, -, hd⟩ := exists_left_of_mem hrecords.fields hf
  -- The class was given as the annotation, for it does not stand for a missing one.
  have htype : d.type = p.type := by
    have hwritten := hd.declared_eq
    have heffective := hd.effective_eq
    rw [hp] at hwritten
    generalize d.type = type at hwritten heffective
    unfold Builder.written at hwritten
    split at hwritten
    · rw [← hwritten] at heffective
      unfold TypeTerm.effective at heffective
      split at heffective
      · cases p <;> cases heffective
      · cases p <;> cases heffective
    · exact hwritten.symm
  refine ⟨hp, ?_⟩
  -- It is widened exactly if the field admits `None`.
  have heffective := hd.effective_eq
  rw [htype] at heffective
  unfold TypeTerm.effective at heffective
  unfold Field.isNullable
  split at heffective
  · rename_i hnull
    rw [hnull]
    exact (Except.ok.inj (p.widen_type.symm.trans heffective)).symm
  · rename_i hnull
    rw [if_neg hnull]
    exact (Except.ok.inj heffective).symm

/-! ## Fields of the model -/

namespace Model

/-- Has the model a field for a field of the schema? -/
def hasField (f : Field) : Bool := !isPrivate f.name && f.name != configurationName

/-- The fields of a schema that its model has. -/
def shownFields (s : Schema) : List Field := s.fields.filter hasField

/-- Has a field to be given to the model? It has if it is enforced, and also if its default is an
ellipsis. -/
def isDemanded (f : Field) : Bool :=
  f.isEnforced || match f.initial with
    | .ellipsis => true
    | _ => false

/-- A field of a model that stands for a field of the schema, and keeps what suits that. -/
structure Mirrors (f : Field) (x : ModelField) : Prop where
  name_eq : x.name = f.name
  default_eq : x.default = if isDemanded f then none else some f.initial
  keeps : ∃ r, x.rule = some r ∧ ∀ v, f.Takes v → r.check v = .ok (v, .exact)

variable {s : Schema} {m : Model} {name extra : Value}

theorem isDemanded_eq_false_iff {f : Field} :
    isDemanded f = false ↔ f.isEnforced = false ∧ f.initial ≠ .ellipsis := by
  rw [isDemanded, Bool.or_eq_false_iff]
  refine and_congr_right fun _ => ?_
  split
  · rename_i hinitial
    exact ⟨nofun, fun hne => absurd hinitial hne⟩
  · rename_i hinitial
    exact ⟨fun _ => hinitial, fun _ => rfl⟩

/-- The default of a field in a model is its own, unless the field has to be given. -/
theorem defaultOf_eq (hs : s.keys.Nodup) {f : Field} (hf : f ∈ s.fields) :
    defaultOf s f = if isDemanded f then none else some f.initial := by
  have hlookup : Value.lookup f.name s.defaults = some f.initial := by
    rw [Schema.defaults_eq_map hs]
    exact Schema.lookup_map_of_nodup hs Field.initial hf
  unfold defaultOf
  rw [hlookup]
  cases henforced : f.isEnforced with
  | true => simp [isDemanded, henforced]
  | false =>
    simp only [Bool.false_eq_true, if_false]
    split
    · -- For a model an ellipsis as the default says that a value has to be given.
      rename_i hinitial
      have hdemanded : isDemanded f = true := by
        rw [isDemanded, Option.some.inj hinitial, Bool.or_true]
      rw [if_pos hdemanded]
    · rename_i hinitial
      rw [isDemanded_eq_false_iff.2 ⟨henforced, fun heq => hinitial (congrArg some heq)⟩]
      rfl

/-- What becomes of a primitive field that is seen: a field of the model, unless it is called like
the settings of the model. -/
theorem draft_eq {f : Field} {p : Primitive} (hf : f.IsPrimitive p) {d : Option Draft}
    (h : draft? s f (some f.effective) = .ok d) :
    d = if f.name = configurationName then none
      else some ⟨f.name, some f.effective, defaultOf s f⟩ := by
  unfold draft? at h
  by_cases hname : f.name = configurationName
  · simp only [hname, beq_self_eq_true, if_true] at h
    rw [if_pos hname]
    exact (Except.ok.inj h).symm
  · rw [if_neg hname]
    simp only [beq_eq_false_iff_ne.2 hname, hf.not_isOfClass, Bool.false_eq_true, if_false]
      at h
    split at h
    · cases h
    · split at h
      · cases h
      · exact (Except.ok.inj h).symm

/-- Drafts whose types are known become fields with the rules of their types. -/
theorem mirrors_of_ruled {fields : List Field} {xs : List ModelField}
    (hs : s.keys.Nodup) (hf : ∀ f ∈ fields, f ∈ s.fields ∧ ∃ p, f.IsPrimitive p)
    (h : ruled (fields.map fun f => ⟨f.name, some f.effective, defaultOf s f⟩) = .ok xs) :
    List.Forall₂ Mirrors fields xs := by
  have hknown : (fields.map fun f => (⟨f.name, some f.effective, defaultOf s f⟩ : Draft)).any
      (·.type.isNone) = false := by
    simp
  unfold ruled at h
  rw [hknown] at h
  simp only [Bool.false_eq_true, if_false] at h
  have hplaces := List.forall₂_map_left_iff.1 (mapM_eq_ok_iff.1 h)
  refine ((List.forall₂_and_left fields xs).2 ⟨hf, hplaces⟩).imp ?_
  rintro f x ⟨⟨hmem, p, hp⟩, hx⟩
  obtain ⟨r, hr, hx⟩ := bind_eq_ok_iff.1 hx
  rw [Option.getD_some, hp.ofType_effective] at hr
  rw [← Except.ok.inj hx]
  refine ⟨rfl, defaultOf_eq hs hmem, _, rfl, fun v hv => ?_⟩
  rw [← Except.ok.inj hr]
  exact hp.check_eq hv

/-- The drafts of fields that are seen are those of the fields that the model has. -/
theorem drafts_eq {fields : List Field} {drafts : List (Option Draft)}
    (hf : ∀ f ∈ fields, ∃ p, f.IsPrimitive p)
    (h : (fields.map fun f => (f, some f.effective)).mapM (fun p => draft? s p.1 p.2) =
      .ok drafts) :
    drafts.filterMap id = (fields.filter fun f => f.name != configurationName).map fun f =>
      ⟨f.name, some f.effective, defaultOf s f⟩ := by
  have hplaces := List.forall₂_map_left_iff.1 (mapM_eq_ok_iff.1 h)
  clear h
  induction hplaces with
  | nil => rfl
  | @cons f d fields drafts hd _ ih =>
    obtain ⟨p, hp⟩ := hf f (List.mem_cons_self ..)
    have hrest := ih fun g hg => hf g (List.mem_cons_of_mem _ hg)
    rw [draft_eq hp hd]
    -- A field that is called like the configuration of models is passed over.
    by_cases hname : f.name = configurationName
    · simpa [hname] using hrest
    · simpa [hname] using hrest

/-- The types of primitive fields are their types in effect, in any scope. -/
theorem resolutions_eq {fields : List Field} {types : List (Option Value)}
    {scope : TypeTerm.Scope} (hf : ∀ f ∈ fields, ∃ p, f.IsPrimitive p)
    (h : fields.mapM (fun f => resolution scope f.effective) = .ok types) :
    types = fields.map fun f => some f.effective := by
  refine Except.ok.inj (h.symm.trans (mapM_eq_ok_iff.2 ?_))
  refine List.forall₂_map_right_iff.2 (List.forall₂_same.2 fun f hmem => ?_)
  obtain ⟨p, hp⟩ := hf f hmem
  exact hp.resolution_effective scope

/-- A model is made only if no name that begins with an underscore has to be given, and its fields
are those of the schema that it has, in order. -/
theorem mirrors_of_ofSchema (hs : s.keys.Nodup) (hf : ∀ f ∈ s.fields, ∃ p, f.IsPrimitive p)
    (h : ofSchema s name extra = .ok m) :
    m.extra = extra ∧ (∀ f ∈ s.fields, isPrivate f.name = true → f.isEnforced = false) ∧
      List.Forall₂ Mirrors (shownFields s) m.fields := by
  have hlast : (Schema.putAll [] (s.fields.map fun f => (f.name, f))).map Prod.snd = s.fields := by
    rw [Schema.putAll_map_of_nodup hs, List.map_map]
    exact List.map_id'' (fun _ => rfl) s.fields
  obtain ⟨modelName, -, h⟩ := bind_eq_ok_iff.1 h
  simp only [hlast] at h
  obtain ⟨⟨⟩, hprivate, h⟩ := bind_eq_ok_iff.1 h
  obtain ⟨types, htypes, h⟩ := bind_eq_ok_iff.1 h
  obtain ⟨drafts, hdrafts, h⟩ := bind_eq_ok_iff.1 h
  obtain ⟨xs, hxs, h⟩ := bind_eq_ok_iff.1 h
  -- From here on the fields are followed through the steps: typed, drafted and ruled.
  have hvisible : ∀ f ∈ s.fields.filter fun f => !isPrivate f.name, ∃ p, f.IsPrimitive p :=
    fun f hf' => hf f (List.mem_of_mem_filter hf')
  rw [resolutions_eq hvisible htypes, ← List.map_prod_left_eq_zip] at hdrafts
  rw [drafts_eq hvisible hdrafts, List.filter_filter] at hxs
  have hshown : (s.fields.filter fun f => f.name != configurationName && !isPrivate f.name) =
      shownFields s := List.filter_congr fun f _ => Bool.and_comm _ _
  rw [hshown] at hxs
  have hmade : m = { name := modelName, extra, fields := xs } := by
    split at h
    · obtain ⟨-, -, h⟩ := bind_eq_ok_iff.1 h
      exact (Except.ok.inj h).symm
    · exact (Except.ok.inj h).symm
  subst hmade
  refine ⟨rfl, fun f hf' hname => ?_, mirrors_of_ruled hs (fun f hf' =>
    ⟨List.mem_of_mem_filter hf', hf f (List.mem_of_mem_filter hf')⟩) hxs⟩
  have hchecked := RecordType.eq_ok_of_forM hprivate hf'
  unfold checkPrivate at hchecked
  split at hchecked
  · cases hchecked
  · rename_i hfree
    simpa [hname] using hfree

/-! ## Filling the model -/

/-- The complaints about names: those that are missing, and those that are not allowed. -/
def nameComplaints (missing extra : List String) : List Complaint :=
  missing.map (fun n => ⟨.missing, [.key n]⟩) ++ extra.map fun n => ⟨.extraForbidden, [.key n]⟩

/-- The fields of the model that have to be given and are not. -/
def unmet (s : Schema) (given : List (String × Value)) : List String :=
  ((shownFields s).filter fun f => isDemanded f && decide (f.name ∉ given.map Prod.fst)).map
    (·.name)

/-- The names given that are no fields of the model. -/
def unknown (s : Schema) (given : List (String × Value)) : List String :=
  (given.map Prod.fst).filter fun n => n ∉ (shownFields s).map (·.name)

/-- The fields of the model, each with the value given for it or else with its default. -/
def shownValues (s : Schema) (given : List (String × Value)) : List (String × Value) :=
  (shownFields s).map fun f => (f.name, (Value.lookup f.name given).getD f.initial)

/-- Can the model call what it calls once it is filled? A field in its place holds the value given
or its default. -/
def isAnswered (s : Schema) (given : List (String × Value)) : Bool :=
  (shownFields s).all fun f =>
    f.name != hookName || answersNone ((Value.lookup f.name given).getD f.initial)

variable {given : List (String × Value)}

/-- A field keeps the value given for it, or else its default. -/
theorem fieldOutcome_eq {f : Field} {x : ModelField} (hx : Mirrors f x)
    (hgiven : ∀ v, Value.lookup f.name given = some v → f.Takes v) :
    fieldOutcome x given =
      ((Value.lookup f.name given).or (if isDemanded f then none else some f.initial)).elim
        (.error (.mismatches [⟨.missing, [.key f.name]⟩])) fun v => .ok (f.name, v) := by
  obtain ⟨r, hr, hkeeps⟩ := hx.keeps
  unfold fieldOutcome checked
  rw [hx.name_eq, hx.default_eq, hr]
  cases hv : Value.lookup f.name given with
  | some v => simp [hkeeps v (hgiven v hv)]
  | none => cases isDemanded f <;> rfl

/-- What the fields complain about is that they are missing. -/
theorem flatMap_complaints {fields : List Field} {xs : List ModelField}
    (h : List.Forall₂ Mirrors fields xs)
    (hgiven : ∀ f ∈ fields, ∀ v, Value.lookup f.name given = some v → f.Takes v) :
    (xs.flatMap fun x => match fieldOutcome x given with
      | .error (.mismatches complaints) => complaints
      | _ => []) =
    ((fields.filter fun f => isDemanded f && decide (f.name ∉ given.map Prod.fst)).map
      (·.name)).map fun n => ⟨.missing, [.key n]⟩ := by
  induction h with
  | nil => rfl
  | @cons f x fields xs hx _ ih =>
    have hrest := ih fun g hg => hgiven g (List.mem_cons_of_mem _ hg)
    have houtcome := fieldOutcome_eq hx (hgiven f (List.mem_cons_self ..))
    rw [List.flatMap_cons, hrest, houtcome]
    cases hv : Value.lookup f.name given with
    | some v =>
      have hmem : f.name ∈ given.map Prod.fst := Schema.isSome_lookup_iff.1 (by rw [hv]; rfl)
      rw [List.filter_cons_of_neg (by simp only [hmem]; simp)]
      rfl
    -- Only a field that is demanded and not given complains.
    | none =>
      have hmem := Schema.lookup_eq_none_iff.1 hv
      cases hd : isDemanded f with
      | false =>
        rw [List.filter_cons_of_neg (by simp [hd])]
        rfl
      | true =>
        rw [List.filter_cons_of_pos (by simp only [hd, hmem]; simp)]
        rfl

/-- Nothing that suits its field breaks a check off. -/
theorem break_eq_none (hm : List.Forall₂ Mirrors (shownFields s) m.fields)
    (hgiven : ∀ f ∈ shownFields s, ∀ v, Value.lookup f.name given = some v → f.Takes v) :
    m.break? given = none := by
  refine List.findSome?_eq_none_iff.2 fun x hx => ?_
  obtain ⟨f, hf, hmirrors⟩ := exists_left_of_mem hm hx
  rw [fieldOutcome_eq hmirrors (hgiven f hf)]
  cases (Value.lookup f.name given).or (if isDemanded f then none else some f.initial) <;> rfl

/-- Where nothing is missing, the model keeps the values given and the defaults of the others. -/
theorem filterMap_outcomes {fields : List Field} {xs : List ModelField}
    (h : List.Forall₂ Mirrors fields xs)
    (hgiven : ∀ f ∈ fields, ∀ v, Value.lookup f.name given = some v → f.Takes v)
    (hmet : ∀ f ∈ fields, isDemanded f = true → f.name ∈ given.map Prod.fst) :
    xs.filterMap (fun x => (fieldOutcome x given).toOption) =
      fields.map fun f => (f.name, (Value.lookup f.name given).getD f.initial) := by
  induction h with
  | nil => rfl
  | @cons f x fields xs hx _ ih =>
    have hrest := ih (fun g hg => hgiven g (List.mem_cons_of_mem _ hg))
      fun g hg => hmet g (List.mem_cons_of_mem _ hg)
    have houtcome := fieldOutcome_eq hx (hgiven f (List.mem_cons_self ..))
    rw [List.filterMap_cons, houtcome, hrest, List.map_cons]
    cases hv : Value.lookup f.name given with
    | some v => rfl
    | none =>
      have hmem := Schema.lookup_eq_none_iff.1 hv
      cases hd : isDemanded f with
      | true => exact absurd (hmet f (List.mem_cons_self ..) hd) hmem
      | false => rfl

theorem nameComplaints_eq_nil_iff {missing extra : List String} :
    nameComplaints missing extra = [] ↔ missing = [] ∧ extra = [] := by
  rw [nameComplaints, List.append_eq_nil_iff, List.map_eq_nil_iff, List.map_eq_nil_iff]

/-- All fields have rules, so the model can be filled. -/
theorem isDefined_of_mirrors (hm : List.Forall₂ Mirrors (shownFields s) m.fields) :
    m.isDefined = true := by
  refine List.all_eq_true.2 fun x hx => ?_
  obtain ⟨f, -, hmirrors⟩ := exists_left_of_mem hm hx
  obtain ⟨r, hr, -⟩ := hmirrors.keeps
  rw [hr]
  rfl

theorem names_eq (hm : List.Forall₂ Mirrors (shownFields s) m.fields) :
    m.fields.map (·.name) = (shownFields s).map (·.name) :=
  map_eq_map_of_forall₂ hm fun _ _ hx => hx.name_eq

/-- The complaints about values that suit the fields are those about names. -/
theorem complaints_eq (hm : List.Forall₂ Mirrors (shownFields s) m.fields)
    (hpolicy : m.policy = .forbid)
    (hgiven : ∀ f ∈ shownFields s, ∀ v, Value.lookup f.name given = some v → f.Takes v) :
    m.complaints given = nameComplaints (unmet s given) (unknown s given) := by
  have hextras : (m.extras given).map (fun g => (⟨.extraForbidden, [.key g.1]⟩ : Complaint)) =
      (unknown s given).map fun n => ⟨.extraForbidden, [.key n]⟩ := by
    rw [unknown, List.filter_map, List.map_map, extras]
    refine congrArg (List.map _) (List.filter_congr fun g _ => ?_)
    rw [Function.comp_apply, ← names_eq hm, Bool.eq_iff_iff]
    simp
  unfold complaints
  rw [hpolicy]
  exact congrArg₂ (· ++ ·) (flatMap_complaints hm hgiven) hextras

/-- Where nothing is missing, what is kept are the values of the fields. -/
theorem kept_eq (hm : List.Forall₂ Mirrors (shownFields s) m.fields) (hpolicy : m.policy = .forbid)
    (hgiven : ∀ f ∈ shownFields s, ∀ v, Value.lookup f.name given = some v → f.Takes v)
    (hmet : unmet s given = []) : m.kept given = shownValues s given := by
  unfold kept
  rw [filterMap_outcomes hm hgiven fun f hf hdemanded => ?_, hpolicy, List.append_nil, shownValues]
  by_contra hmem
  have hunmet : f.name ∈ unmet s given :=
    List.mem_map_of_mem (List.mem_filter.2 ⟨hf, by simp only [hdemanded, hmem]; simp⟩)
  rw [hmet] at hunmet
  cases hunmet

/-- What is called is what the one field of the name holds. -/
theorem isAnswered_eq (hs : s.keys.Nodup) {f : Field} (hf : f ∈ shownFields s)
    (hname : f.name = hookName) :
    isAnswered s given = answersNone ((Value.lookup f.name given).getD f.initial) := by
  have hshown : ((shownFields s).map (·.name)).Nodup := hs.sublist (List.filter_sublist.map _)
  rw [isAnswered, Bool.eq_iff_iff, List.all_eq_true]
  constructor
  · intro h
    simpa [hname] using h f hf
  · intro h g hg
    by_cases hother : g.name = hookName
    · -- The names are distinct, so there is no other field of the name.
      obtain rfl := List.inj_on_of_nodup_map hshown hg hf (hother.trans hname.symm)
      rw [h, Bool.or_true]
    · simp [hother]

theorem isAnswered_of_forall (h : ∀ f ∈ shownFields s, f.name ≠ hookName) :
    isAnswered s given = true :=
  List.all_eq_true.2 fun f hf => by simp [h f hf]

/-- The model calls what the field of the name holds, if there is one. -/
theorem hookAnswers_shownValues (hs : s.keys.Nodup)
    (hm : List.Forall₂ Mirrors (shownFields s) m.fields) :
    m.hookAnswers (shownValues s given) = isAnswered s given := by
  have hfield : m.fields.any (·.name == hookName) = (shownFields s).any (·.name == hookName) := by
    have hnames := congrArg (List.any · (· == hookName)) (names_eq hm)
    simpa only [List.any_map, Function.comp_def] using hnames
  rw [hookAnswers, hfield]
  by_cases hhook : ∃ f ∈ shownFields s, f.name = hookName
  · obtain ⟨f, hf, hname⟩ := hhook
    have hany : (shownFields s).any (·.name == hookName) = true :=
      List.any_eq_true.2 ⟨f, hf, by simp [hname]⟩
    have hvalue : Value.lookup hookName (shownValues s given) =
        some ((Value.lookup f.name given).getD f.initial) := by
      rw [← hname]
      exact Schema.lookup_map_of_nodup (hs.sublist (List.filter_sublist.map _))
        (fun f => (Value.lookup f.name given).getD f.initial) hf
    rw [isAnswered_eq hs hf hname, hany, hvalue]
    rfl
  · have hnone : ∀ f ∈ shownFields s, f.name ≠ hookName := fun f hf hname => hhook ⟨f, hf, hname⟩
    have hany : (shownFields s).any (·.name == hookName) = false := by simpa using hnone
    rw [isAnswered_of_forall hnone, hany]
    rfl

/-- Filling a model that forbids other names with values that suit the fields goes wrong only by
names. -/
theorem validate_of_suited (hs : s.keys.Nodup)
    (hm : List.Forall₂ Mirrors (shownFields s) m.fields) (hextra : m.extra = .text "forbid")
    (hnames : (given.map Prod.fst).Nodup)
    (hgiven : ∀ f ∈ s.fields, ∀ v, Value.lookup f.name given = some v → f.Takes v) :
    m.validate given = if unmet s given = [] ∧ unknown s given = [] then
        if isAnswered s given then .ok (shownValues s given) else .error (.refused .wrongKind)
      else .error (.invalidModel (nameComplaints (unmet s given) (unknown s given))) := by
  have hsuits : ∀ f ∈ shownFields s, ∀ v, Value.lookup f.name given = some v → f.Takes v :=
    fun f hf => hgiven f (List.mem_of_mem_filter hf)
  have hall : Schema.putAll [] given = given := Schema.putAll_of_nodup hnames
  have hpolicy : m.policy = .forbid := by
    rw [policy, hextra]
    rfl
  unfold validate
  simp only [hall, isDefined_of_mirrors hm, Bool.not_true, Bool.false_eq_true, if_false,
    break_eq_none hm hsuits, complaints_eq hm hpolicy hsuits]
  by_cases hnone : unmet s given = [] ∧ unknown s given = []
  · rw [if_pos hnone, nameComplaints_eq_nil_iff.2 hnone, kept_eq hm hpolicy hsuits hnone.1,
      ← hookAnswers_shownValues hs hm]
  · rw [if_neg hnone]
    obtain ⟨c, cs, hcons⟩ := List.exists_cons_of_ne_nil (mt nameComplaints_eq_nil_iff.1 hnone)
    rw [hcons]

end Model

end RecordSchema
