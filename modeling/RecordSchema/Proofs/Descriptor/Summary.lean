import RecordSchema.Proofs.Descriptor.Export

/-!
# What a descriptor tells of a schema

A descriptor puts together the names, types and defaults of the fields of a schema, the names that
are required and the names that admit `None`. For a schema from a block these fit together
(`Descriptor.Tells`): each name has one place, the two lists of names follow it and have nothing in
common, and which of the two a name is in was decided by its declaration alone.

Not every schema has a descriptor. Where the text of a type or a default cannot be printed, there is
none (`Schema.IsUnprintable`, `Builder.describe_of_build`).
-/

set_option autoImplicit false

namespace RecordSchema

/-- A descriptor tells of a schema what was declared. -/
structure Descriptor.Tells (d : Descriptor) (s : Schema) (ds : List Declaration) : Prop where
  /-- The names of the schema are those declared, in order. -/
  declared : s.keys.map Value.text = ds.map (·.name)
  fields : d.fields.map Prod.fst = s.keys
  defaults : d.defaults.map Prod.fst = s.keys.map Value.text
  required_ordered : d.required.Sublist (s.keys.map Value.text)
  required_distinct : d.required.Nodup
  nullable_ordered : d.nullable.Sublist (s.keys.map Value.text)
  nullable_distinct : d.nullable.Nodup
  disjoint : d.required.Disjoint d.nullable
  mem_required : ∀ v, v ∈ d.required ↔ ∃ n ∈ s.required, v = .text n
  /-- Where `None` is admitted for want of a default, `None` is the default. -/
  default_none : ∀ v ∈ d.nullable, (v, .none) ∈ d.defaults
  /-- A name in neither list was declared with a default. -/
  default_given : ∀ v ∈ s.keys.map Value.text, v ∉ d.required → v ∉ d.nullable →
    ∃ decl ∈ ds, decl.name = v ∧ decl.hasDefault = true

namespace Schema

/-- A type in effect has no text, or a default has no plain form, since it cannot be printed. -/
def IsUnprintable (s : Schema) : Prop :=
  (∃ p ∈ s.types, TypeTerm.renderFault? p.2 ≠ none) ∨ ∃ p ∈ s.defaults, plainFault? p.2 ≠ none

variable {s : Schema} {ds : List Declaration}

theorem describeFault?_eq_none_iff : s.describeFault? = none ↔ ¬ s.IsUnprintable := by
  rw [describeFault?, Option.or_eq_none_iff, List.findSome?_eq_none_iff,
    List.findSome?_eq_none_iff, IsUnprintable, not_or]
  simp only [not_exists, not_and, not_not]

/-! ## Required and nullable names -/

theorem mem_required_iff (hs : s.IsRegular) {f : Field} (hf : f ∈ s.fields) :
    f.name ∈ s.required ↔ f.isEnforced = true := by
  rw [hs.required]
  exact mem_map_filter_of_nodup hs.distinct hf _

theorem mem_nullable_iff (hs : s.IsRegular) {f : Field} (hf : f ∈ s.fields) :
    f.name ∈ s.nullable ↔ f.hasDefault = false ∧ f.isEnforced = false := by
  rw [nullable, mem_map_filter_of_nodup hs.distinct hf]
  simp [Field.isNullable, TypeTerm.isNullable]

/-- The names of the fields with a property keep the order of the fields. -/
theorem names_filter_sublist (s : Schema) (p : Field → Bool) :
    ((s.fields.filter p).map (·.name)).Sublist s.keys := List.filter_sublist.map _

theorem required_sublist (hs : s.IsRegular) : s.required.Sublist s.keys :=
  hs.required ▸ s.names_filter_sublist _

theorem nullable_sublist (s : Schema) : s.nullable.Sublist s.keys := s.names_filter_sublist _

/-- The keys that are required are the required names, in their order. -/
theorem keys_filter_isRequired (hs : s.IsRegular) : s.keys.filter s.isRequired = s.required := by
  rw [hs.required, keys, List.filter_map]
  exact congrArg (List.map _) (List.filter_congr fun f hf => hs.isRequired_eq hf)

/-- No name is required and nullable: what is enforced does not have to admit `None`. -/
theorem disjoint_required_nullable (hs : s.IsRegular) : s.required.Disjoint s.nullable := by
  intro n hrequired hnullable
  obtain ⟨f, hf, rfl⟩ := List.mem_map.1 ((required_sublist hs).subset hrequired)
  have henforced := (mem_required_iff hs hf).1 hrequired
  rw [((mem_nullable_iff hs hf).1 hnullable).2] at henforced
  cases henforced

/-- A nullable name has `None` for a default. -/
theorem none_mem_defaults (hs : s.IsRegular) {n : String} (hn : n ∈ s.nullable) :
    (n, .none) ∈ s.defaults := by
  obtain ⟨f, hf, rfl⟩ := List.mem_map.1 (s.nullable_sublist.subset hn)
  have hinitial : f.initial = .none := by
    simp [Field.initial, ((mem_nullable_iff hs hf).1 hn).1]
  rw [defaults_eq_map hs.distinct, ← hinitial]
  exact List.mem_map_of_mem hf

/-- A name that is neither required nor nullable was declared with a default. -/
theorem exists_given (h : s.Records ds) (hs : s.IsRegular) {n : String} (hn : n ∈ s.keys)
    (hrequired : n ∉ s.required) (hnullable : n ∉ s.nullable) :
    ∃ decl ∈ ds, decl.name = .text n ∧ decl.hasDefault = true := by
  obtain ⟨f, hf, rfl⟩ := List.mem_map.1 hn
  obtain ⟨decl, hdecl, hmakes⟩ := exists_left_of_mem h.fields hf
  refine ⟨decl, hdecl, hmakes.name_eq, ?_⟩
  rw [← hmakes.hasDefault_eq]
  rw [mem_required_iff hs hf, Bool.not_eq_true] at hrequired
  rw [mem_nullable_iff hs hf, not_and] at hnullable
  by_contra hdefault
  exact hnullable (Bool.eq_false_iff.2 hdefault) hrequired

end Schema

/-! ## The descriptor -/

namespace Descriptor

variable {s : Schema} {ds : List Declaration}

theorem mem_texts {names : List String} {n : String} :
    Value.text n ∈ names.map Value.text ↔ n ∈ names :=
  List.mem_map_of_injective fun _ _ => Value.text.inj

theorem required_ofSchema (hs : s.IsRegular) :
    (ofSchema s).required = s.required.map Value.text :=
  congrArg (List.map Value.text) (Schema.keys_filter_isRequired hs)

/-- The descriptor of a regular schema tells what the schema records. -/
theorem tells_ofSchema (h : s.Records ds) (hs : s.IsRegular) : (ofSchema s).Tells s ds where
  declared := h.keys
  fields := keys_fields_ofSchema hs.distinct
  defaults := keys_defaults_ofSchema hs.distinct
  required_ordered := by
    rw [required_ofSchema hs]
    exact (Schema.required_sublist hs).map _
  required_distinct := by
    rw [required_ofSchema hs]
    exact ((Schema.required_sublist hs).nodup hs.distinct).map fun _ _ => Value.text.inj
  nullable_ordered := s.nullable_sublist.map _
  nullable_distinct := (s.nullable_sublist.nodup hs.distinct).map fun _ _ => Value.text.inj
  disjoint := by
    rw [required_ofSchema hs]
    intro v hrequired hnullable
    obtain ⟨n, hn, rfl⟩ := List.mem_map.1 hrequired
    exact Schema.disjoint_required_nullable hs hn (mem_texts.1 hnullable)
  mem_required := by
    intro v
    rw [required_ofSchema hs, List.mem_map]
    exact exists_congr fun n => and_congr_right fun _ => eq_comm
  default_none := by
    intro v hv
    obtain ⟨n, hn, rfl⟩ := List.mem_map.1 hv
    exact List.mem_map_of_mem (Schema.none_mem_defaults hs hn)
  default_given := by
    intro v hv hrequired hnullable
    obtain ⟨n, hn, rfl⟩ := List.mem_map.1 hv
    rw [required_ofSchema hs, mem_texts] at hrequired
    exact Schema.exists_given h hs hn hrequired fun hmem => hnullable (mem_texts.2 hmem)

end Descriptor

namespace Builder

/-- **What the descriptor of a schema from a block tells.** There is a descriptor unless the text of
a type or a default cannot be printed, and it tells what was declared in the block by the calls that
were not refused. -/
theorem describe_of_build {name strict : Value} {policy : NamePolicy} {calls : List Call}
    {s : Schema}
    (h : ((Builder.new name strict policy).after calls).reply .build = .ok (.schema s)) :
    (s.IsUnprintable ∧ ∃ cause, s.describe = .error cause) ∨
    (¬ s.IsUnprintable ∧ ∃ d, s.describe = .ok d ∧
      d.Tells s ((Builder.new name strict policy).accepted calls)) := by
  obtain ⟨rfl, -, hkeeps⟩ := keeps_of_build h
  rw [Schema.describe]
  cases hfault : Schema.describeFault? _ with
  | none =>
    refine .inr ⟨Schema.describeFault?_eq_none_iff.1 hfault, _, rfl, ?_⟩
    exact Descriptor.tells_ofSchema hkeeps.records ⟨hkeeps.keys_nodup, hkeeps.required⟩
  | some cause =>
    refine .inl ⟨?_, cause, rfl⟩
    by_contra hprintable
    cases hfault.symm.trans (Schema.describeFault?_eq_none_iff.2 hprintable)

/-- A block with a field that is enforced, one that has to admit `None` and one with a default. -/
def mixedFields : List Call :=
  [.declare (.text "key") (.text "str") [(.text "enforce", .bool true)],
    .declare (.text "note") (.text "str") [],
    .declare (.text "count") (.text "int") [(.text "default", .int 5)]]

/-- The schema of that block. -/
def mixedSchema : Schema :=
  ⟨.text "P", [⟨"key", .missing, .text "str", .text "str", .bool true⟩,
    ⟨"note", .missing, .text "str", .text "str | None", .bool false⟩,
    ⟨"count", .int 5, .text "int", .text "int", .bool false⟩], ["key"]⟩

theorem build_mixedFields :
    ((Builder.new (.text "P")).after mixedFields).reply .build = .ok (.schema mixedSchema) := by
  have hkey : (FieldOptions.ofEntries [(.text "enforce", .bool true)] false (.text "key")).result =
      .ok ⟨.missing, true⟩ := by
    rw [FieldOptions.result_ofEntries_of_recognised (by simp; rfl)]
    rfl
  have hnote := FieldOptions.result_ofEntries_nil false (.text "note")
  have hcount := FieldOptions.result_ofEntries_default (.int 5) false (.text "count")
  -- Each declaration leaves the block open for the next one.
  rw [mixedFields, after_cons,
    call_declare_of_read (inPhase_open_new _ _ _) (by decide +kernel) rfl hkey rfl, after_cons,
    call_declare_of_read ⟨rfl, rfl, rfl⟩ (by decide +kernel) (by decide) hnote rfl, after_cons,
    call_declare_of_read ⟨rfl, rfl, rfl⟩ (by decide +kernel) (by decide) hcount rfl]
  rfl

/-- Each kind of field has its place in the descriptor. -/
theorem describe_mixedFields :
    ((Builder.new (.text "P")).after mixedFields).reply .build = .ok (.schema mixedSchema) ∧
    ∃ d, mixedSchema.describe = .ok d ∧
      d.Tells mixedSchema ((Builder.new (.text "P")).accepted mixedFields) ∧
      d.fields = [("key", "str"), ("note", "str | None"), ("count", "int")] ∧
      d.defaults = [(.text "key", .none), (.text "note", .none), (.text "count", .int 5)] ∧
      d.required = [.text "key"] ∧ d.nullable = [.text "note"] := by
  rcases describe_of_build build_mixedFields with ⟨-, cause, hcause⟩ | ⟨-, d, hd, htells⟩
  · cases hcause
  · obtain rfl := Schema.eq_of_describe hd
    exact ⟨build_mixedFields, _, hd, htells, rfl, rfl, rfl, rfl⟩

/-- A record that cannot be printed may be a default, and then there is no descriptor. -/
theorem describe_of_stray_default :
    ((Builder.new (.text "P")).after (classField strayRecord)).reply .build =
      .ok (.schema (classSchema strayRecord)) ∧
    (classSchema strayRecord).describe = .error .absentAttribute :=
  ⟨build_classField rfl, rfl⟩

end Builder

end RecordSchema
