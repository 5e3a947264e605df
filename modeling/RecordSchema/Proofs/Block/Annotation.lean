import RecordSchema.Proofs.Record.Making

/-!
# The annotation of a declaration

An annotation is any value, and a block hands it on unread, so a field should have the annotation of
its declaration to the letter (`Declaration.Annotates`). An annotation that is not given has a mark,
though, which is a value like any other. A declaration that is annotated with the mark makes a field
with the annotation in effect in the place of the written one. The two differ if the field has to
admit `None`, and only then is the annotation lost (`Builder.annotation_kept_iff`).

The field stays as it is whatever is called on the block later, since the accumulator only grows
(`Builder.Step.mem_fields`), and the schema of the block finds it under its name.
-/

set_option autoImplicit false

namespace RecordSchema

/-! ## Fields and annotations -/

namespace TypeTerm

/-- The mark of a missing annotation is paired with `None` like any token that is not a type. -/
theorem widen_missing : widen .missing = .ok (.orNone .missing) := rfl

end TypeTerm

namespace Builder

/-- Every annotation but the mark is kept as written. -/
theorem written_of_ne_missing {type : Value} (h : type ≠ .missing) (effective : Value) :
    written type effective = type := by
  unfold written
  split
  · exact absurd rfl h
  · rfl

/-- In the place of the mark stands the annotation in effect. -/
theorem written_missing (effective : Value) : written .missing effective = effective := rfl

end Builder

namespace Declaration

/-- A field has the annotation of a declaration: the very same as the one written, and in effect the
one that the default and the enforcement make of it. -/
structure Annotates (d : Declaration) (f : Field) : Prop where
  declared : f.declared = d.type
  effective : TypeTerm.effective d.type d.hasDefault d.isEnforced = .ok f.effective

/-- A declaration without a default and without enforcement that is annotated with the mark of a
missing annotation. -/
structure IsMarked (d : Declaration) : Prop where
  type_eq : d.type = .missing
  nullable : d.isNullable = true

section Makes

variable {d : Declaration} {f : Field}

/-- The annotation in effect is the one that is due, whatever the written one is. -/
theorem Makes.effective_of_declared (h : d.Makes f) :
    TypeTerm.effective d.type d.hasDefault d.isEnforced = .ok f.effective := by
  rw [← h.hasDefault_eq, ← h.isEnforced_eq]
  exact h.effective_eq

/-- A marked declaration makes a field whose annotation is the mark paired with `None`, as written
and in effect. -/
theorem Makes.of_isMarked (h : d.Makes f) (hd : d.IsMarked) :
    f.declared = .orNone .missing ∧ f.effective = .orNone .missing := by
  have hwiden := h.effective
  rw [if_pos hd.nullable, hd.type_eq, TypeTerm.widen_missing] at hwiden
  have heffective : f.effective = .orNone .missing := (Except.ok.inj hwiden).symm
  have hdeclared := h.declared_eq
  rw [hd.type_eq, Builder.written_missing] at hdeclared
  exact ⟨hdeclared.trans heffective, heffective⟩

/-- Any other declaration makes a field with its annotation. -/
theorem Makes.declared_of_not_isMarked (h : d.Makes f) (hd : ¬ d.IsMarked) :
    f.declared = d.type := by
  rw [h.declared_eq]
  by_cases htype : d.type = .missing
  · -- The mark is in effect as it is, since the field need not admit `None`.
    have hkept := h.effective
    rw [if_neg fun hnull => hd ⟨htype, hnull⟩] at hkept
    rw [htype, Builder.written_missing, hkept, htype]
  · exact Builder.written_of_ne_missing htype _

theorem Makes.annotates_iff (h : d.Makes f) : d.Annotates f ↔ ¬ d.IsMarked := by
  constructor
  · intro hkept hd
    have hmark := (h.of_isMarked hd).1
    rw [hkept.declared, hd.type_eq] at hmark
    cases hmark
  · intro hd
    exact ⟨h.declared_of_not_isMarked hd, h.effective_of_declared⟩

end Makes

end Declaration

/-! ## Fields of a block -/

namespace Builder

variable {b b' : Builder} {c : Call} {d : Declaration} {f : Field}

/-- A call that gives a field makes it as declared and adds it to the block. -/
theorem Step.of_field {r : Except Error Given} (h : Step b c b' r)
    (hc : c = .declare d.name d.type d.options) (hr : r = .ok (.field f)) :
    d.Makes f ∧ f ∈ b'.state.fields := by
  cases h with
  | make _ _ made =>
    cases hr
    cases hc
    exact ⟨(isOf_of_resolve made).1, List.mem_append_right _ (List.mem_singleton_self f)⟩
  | refuse _ | late _ _ | abort _ _ _ _ | spare _ _ _ _ | finish _ _ _ | again _ _
  | stuck _ _ _ => cases hr

/-- No call takes a field away. -/
theorem Step.mem_fields {r : Except Error Given} (h : Step b c b' r) (hf : f ∈ b.state.fields) :
    f ∈ b'.state.fields := by
  cases h with
  | make _ _ _ => exact List.mem_append_left _ hf
  | refuse _ | late _ _ | abort _ _ _ _ | spare _ _ _ _ | finish _ _ _ | again _ _
  | stuck _ _ _ => exact hf

theorem mem_fields_after (hf : f ∈ b.state.fields) (calls : List Call) :
    f ∈ (b.after calls).state.fields := by
  induction calls generalizing b with
  | nil => exact hf
  | cons c calls ih => exact ih ((step_call b c).mem_fields hf)

/-- The schema of a block finds the fields that the block accumulated. -/
theorem field_of_build {name strict : Value} {policy : NamePolicy} {calls : List Call} {s : Schema}
    (h : ((Builder.new name strict policy).after calls).reply .build = .ok (.schema s))
    (hf : f ∈ ((Builder.new name strict policy).after calls).state.fields) :
    s.field (.text f.name) = .ok f := by
  obtain ⟨houtcome, -, hkeeps⟩ := keeps_of_build h
  rw [houtcome]
  exact Schema.field_of_mem hkeeps.keys_nodup hf

/-- Whatever annotation a declaration has, the field that it makes has the annotation in effect that
is due for it, and it has the written annotation as well, unless this is the mark of a missing
annotation and there is neither a default nor enforcement. In that case the mark paired with `None`
stands for the written annotation. In any case the schema that the block gives later has the very
same field under the name declared. -/
theorem annotation_kept_iff {name strict : Value} {policy : NamePolicy} {calls : List Call}
    (h : ((Builder.new name strict policy).after calls).reply
      (.declare d.name d.type d.options) = .ok (.field f)) :
    (d.Annotates f ↔ ¬ d.IsMarked) ∧
    TypeTerm.effective d.type d.hasDefault d.isEnforced = .ok f.effective ∧
    (d.IsMarked → f.declared = .orNone .missing ∧ f.effective = .orNone .missing) ∧
    ∀ later s, ((Builder.new name strict policy).after
        (calls ++ .declare d.name d.type d.options :: later)).reply .build = .ok (.schema s) →
      s.field d.name = .ok f := by
  have hstep := step_call ((Builder.new name strict policy).after calls)
    (.declare d.name d.type d.options)
  obtain ⟨hmakes, hf⟩ := hstep.of_field rfl h
  refine ⟨hmakes.annotates_iff, hmakes.effective_of_declared, hmakes.of_isMarked,
    fun later s hbuild => ?_⟩
  have hafter := mem_fields_after hf later
  rw [← after_cons, ← after_append] at hafter
  rw [hmakes.name_eq]
  exact field_of_build hbuild hafter

/-- What a declaration in an open block comes to, if its options are read and its type can be
widened where it has to be. -/
theorem reply_declare_of_read (hb : b.InPhase .open) {n : String} {type default effective : Value}
    {options : List (Value × Value)} {enforce : Bool}
    (hn : FieldName.isAllowed n b.policy = true) (hnew : b.state.contains n = false)
    (hread : (FieldOptions.ofEntries options b.strict.truthy (.text n)).result =
      .ok ⟨default, enforce⟩)
    (htype : TypeTerm.effective type (isGiven default) enforce = .ok effective) :
    b.reply (.declare (.text n) type options) =
      .ok (.field ⟨n, default, written type effective, effective, .bool enforce⟩) := by
  rw [reply_declare_of_open hb, resolve_of_read hn hnew hread htype]
  rfl

/-- With a default even the mark of a missing annotation is kept. -/
theorem mark_kept_of_default :
    ((Builder.new (.text "P")).after []).reply
        (.declare (.text "n") .missing [(.text "default", .int 5)]) =
      .ok (.field ⟨"n", .int 5, .missing, .missing, .bool false⟩) ∧
    (Declaration.mk (.text "n") .missing [(.text "default", .int 5)]).Annotates
      ⟨"n", .int 5, .missing, .missing, .bool false⟩ ∧
    ∃ s, ((Builder.new (.text "P")).after
        ([] ++ [.declare (.text "n") .missing [(.text "default", .int 5)]])).reply .build =
        .ok (.schema s) ∧
      s.field (.text "n") = .ok ⟨"n", .int 5, .missing, .missing, .bool false⟩ := by
  have hallowed : FieldName.isAllowed "n" .identifier = true := by decide +kernel
  have hreply : ((Builder.new (.text "P")).after []).reply
      (.declare (.text "n") .missing [(.text "default", .int 5)]) =
        .ok (.field ⟨"n", .int 5, .missing, .missing, .bool false⟩) :=
    reply_declare_of_read (inPhase_open_new (.text "P") (.bool false) .identifier) hallowed rfl
      (FieldOptions.result_ofEntries_default (.int 5) false (.text "n")) rfl
  obtain ⟨hkept, -, -, hfound⟩ := annotation_kept_iff
    (d := ⟨.text "n", .missing, [(.text "default", .int 5)]⟩) hreply
  have hbuild := build_of_default hallowed .missing (show isGiven (.int 5) = true from rfl)
  exact ⟨hreply, hkept.2 fun hd => (nomatch hd.nullable), _, hbuild, hfound [] _ hbuild⟩

/-- Without a default and enforcement the mark is not kept. -/
theorem mark_lost :
    ((Builder.new (.text "P")).after []).reply (.declare (.text "n") .missing []) =
      .ok (.field ⟨"n", .missing, .orNone .missing, .orNone .missing, .bool false⟩) ∧
    ¬ (Declaration.mk (.text "n") .missing []).Annotates
      ⟨"n", .missing, .orNone .missing, .orNone .missing, .bool false⟩ :=
  ⟨reply_declare_of_read (inPhase_open_new (.text "P") (.bool false) .identifier)
    (by decide +kernel) rfl (FieldOptions.result_ofEntries_nil false (.text "n")) rfl,
    fun h => nomatch h.declared⟩

end Builder

end RecordSchema
