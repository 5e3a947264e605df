import RecordSchema.Proofs.Block.Phases

/-!
# What a failed declaration leaves behind

A declaration in an open block can fail in two ways. It is condemned, and then its block takes no
further call and never gives a schema; or the rules of values refuse something on the way, such as
the widening of its annotation, and then its block is as if the declaration had not been made and
still gives a schema (`aborted_or_same_of_failure`).
-/

set_option autoImplicit false

namespace RecordSchema

namespace Builder

/-- A block refuses whatever comes, after any further calls, by a fault of its state. -/
def Refuses (b : Builder) : Prop :=
  ∀ later c, ∃ e, (b.after later).reply c = .error e ∧ e.isState = true

/-- A block gives no schema, after any further calls. -/
def Barren (b : Builder) : Prop := ∀ later s, (b.after later).reply .build ≠ .ok (.schema s)

theorem not_refuses_of_open {b : Builder} (hb : b.InPhase .open) : ¬ b.Refuses := by
  intro h
  obtain ⟨e, he, -⟩ := h [] .build
  rw [after_nil, reply_build_of_open hb] at he
  cases he

theorem reply_after_aborted {b : Builder} (hb : b.InPhase .aborted) (later : List Call) (c : Call) :
    (b.after later).reply c = .error (Error.blockAborted b.name).raised := by
  rw [after_eq_self hb (by simp)]
  exact ((obeys_call b c).aborted hb).2

theorem barren_of_aborted {b : Builder} (hb : b.InPhase .aborted) : b.Barren := by
  intro later s h
  rw [reply_after_aborted hb] at h
  cases h

theorem refuses_iff_of_aborted {b : Builder} (hb : b.InPhase .aborted) :
    b.Refuses ↔ b.name.printFault? = none := by
  have hstate : (Error.blockAborted b.name).raised.isState = true ↔ b.name.printFault? = none := by
    rw [Error.isState_raised_iff, Error.isTellable_blockAborted]
    exact and_iff_right rfl
  rw [← hstate]
  constructor
  · intro h
    obtain ⟨e, he, hfault⟩ := h [] .build
    rw [reply_after_aborted hb] at he
    rwa [Except.error.inj he]
  · intro h later c
    exact ⟨_, reply_after_aborted hb later c, h⟩

/-- What a failed declaration makes of an open block: it is condemned and the block is aborted, or
the rules of values refuse something and the block is the same. -/
theorem aborted_or_same_of_failure {b : Builder} (hb : b.InPhase .open) {field type : Value}
    {options : List (Value × Value)} {e : Error}
    (hfail : b.reply (.declare field type options) = .error e) :
    (b.Condemns field options e ∧ (b.call (.declare field type options)).1.InPhase .aborted) ∨
      ¬ b.Condemns field options e ∧ (∃ cause, e = .refused cause) ∧
        (b.call (.declare field type options)).1 = b := by
  rcases (step_call b (.declare field type options)).of_open_declare hb with
    ⟨e', hr, hcond, hb'⟩ | ⟨cause, hr, hb'⟩ | ⟨f, hr, -⟩
  · have he : e' = e := Except.error.inj (hr.symm.trans hfail)
    rw [hb', ← he]
    exact Or.inl ⟨hcond, rfl, hb.2⟩
  · have he : .refused cause = e := Except.error.inj (hr.symm.trans hfail)
    -- No fault that condemns a declaration is a refusal.
    have hno : ¬ b.Condemns field options (.refused cause) := fun hcond => by cases hcond
    rw [hb', ← he]
    exact Or.inr ⟨hno, ⟨cause, rfl⟩, rfl⟩
  · exact absurd (hr.symm.trans hfail) (by simp)

/-- A declaration in an open block that fails is final exactly if it is condemned: exactly then
every later call is refused by a fault of the state, provided that the name of the block can be
printed, and no schema is given. Any other failure is a refusal by the rules of values; the block is
the same as before and still gives its schema. -/
theorem failure_final_iff {name strict : Value} {policy : NamePolicy} {calls : List Call}
    {field type : Value} {options : List (Value × Value)} {e : Error}
    (hopen : ((Builder.new name strict policy).after calls).InPhase .open)
    (hfail : ((Builder.new name strict policy).after calls).reply (.declare field type options) =
      .error e) :
    let b := (Builder.new name strict policy).after calls
    let b' := (b.call (.declare field type options)).1
    (b'.Refuses ↔ b.Condemns field options e ∧ name.printFault? = none) ∧
    (b'.Barren ↔ b.Condemns field options e) ∧
    (¬ b.Condemns field options e →
      (∃ cause, e = .refused cause) ∧ b' = b ∧
        b'.reply .build = .ok (.schema b.state.outcome)) := by
  intro b b'
  have hname : b'.name = name :=
    (step_call b (.declare field type options)).name_eq.trans (name_after _ calls)
  rcases aborted_or_same_of_failure hopen hfail with ⟨hcond, haborted⟩ | ⟨hno, hcause, hsame⟩
  · refine ⟨?_, iff_of_true (barren_of_aborted haborted) hcond, fun hno => absurd hcond hno⟩
    rw [refuses_iff_of_aborted haborted, hname, and_iff_right hcond]
  · have hbuild : b'.reply .build = .ok (.schema b.state.outcome) := by
      show (b.call _).1.reply .build = _
      rw [hsame]
      exact reply_build_of_open hopen
    refine ⟨iff_of_false ?_ fun h => hno h.1, iff_of_false (fun h => h [] _ hbuild) hno,
      fun _ => ⟨hcause, hsame, hbuild⟩⟩
    show ¬ (b.call _).1.Refuses
    rw [hsame]
    exact not_refuses_of_open hopen

/-- The annotation of a class variable cannot be widened, so without options a declaration with it
fails, whatever field it is for. -/
theorem reply_classVar {b : Builder} (hb : b.InPhase .open) {name : Value} {s : String}
    (hname : validateName name b.policy b.state.contains = .ok s) (inner : Value) :
    b.reply (.declare name (.classVar inner) []) = .error (.refused .wrongKind) := by
  rw [reply_declare_of_open hb,
    result_resolve_of_read (FieldOptions.result_ofEntries_nil _ _) hname]
  rfl

theorem validateName_a :
    validateName (.text "a") .identifier (Builder.new (.text "P")).state.contains = .ok "a" := by
  rw [validateName_eq_ok_iff]
  exact ⟨by decide +kernel, rfl⟩

/-- A block whose declaration failed for its annotation still gives a schema. -/
theorem failure_of_annotation_is_not_final :
    (Builder.new (.text "P")).InPhase .open ∧
    (Builder.new (.text "P")).reply (.declare (.text "a") (.classVar (.builtinClass "int")) []) =
      .error (.refused .wrongKind) ∧
    ((Builder.new (.text "P")).call
        (.declare (.text "a") (.classVar (.builtinClass "int")) [])).1.reply .build =
      .ok (.schema ⟨.text "P", [], []⟩) := by
  have hopen := inPhase_open_new (.text "P") (.bool false) .identifier
  have hreply := reply_classVar hopen validateName_a (.builtinClass "int")
  refine ⟨hopen, hreply, ?_⟩
  rcases aborted_or_same_of_failure hopen hreply with ⟨hcond, -⟩ | ⟨-, -, hsame⟩
  · cases hcond
  · rw [hsame]
    exact reply_build_of_open hopen

/-- That failure is no fault of the declaration, and the block can still give schemas. -/
theorem failure_of_annotation_not_condemned :
    (Builder.new (.text "P")).InPhase .open ∧
    ¬ (Builder.new (.text "P")).Condemns (.text "a") [] (.refused .wrongKind) ∧
    ¬ ((Builder.new (.text "P")).call
        (.declare (.text "a") (.classVar (.builtinClass "int")) [])).1.Barren := by
  have hopen := inPhase_open_new (.text "P") (.bool false) .identifier
  have hreply := reply_classVar hopen validateName_a (.builtinClass "int")
  have hno : ¬ (Builder.new (.text "P")).Condemns (.text "a") [] (.refused .wrongKind) :=
    fun hc => by cases hc
  exact ⟨hopen, hno, fun h => hno ((@failure_final_iff _ _ _ [] _ _ _ _ hopen hreply).2.1.1 h)⟩

end Builder

end RecordSchema
