import RecordSchema.Proofs.Report
import RecordSchema.Proofs.Text.Identifier
import RecordSchema.Schema.Field

/-!
# Names that a block accepts

A declaration gives a value for a name. The value is returned if it is a field name under the policy
of the block, and otherwise it is refused by its printed form. So there are two ways of refusing a
name: the fault of the name, or, for a value that cannot be printed, the fault of printing
(`FieldName.check_outcomes`). Every other fault of a name is that it is taken
(`validateName_eq_ok_iff`).
-/

set_option autoImplicit false

namespace RecordSchema

open Value

namespace FieldName

variable {name : Value} {policy : NamePolicy} {s : String}

theorem check_of_some (h : ofValue? name policy = some s) : check name policy = .ok s := by
  rw [check, h]

theorem check_of_none (h : ofValue? name policy = Option.none) :
    check name policy = .error (Error.invalidName policy name).raised := by
  rw [check, h]

theorem check_eq_ok_iff : check name policy = .ok s ↔ ofValue? name policy = some s := by
  cases hname : ofValue? name policy with
  | none =>
    rw [check_of_none hname]
    exact iff_of_false nofun nofun
  | some t => rw [check_of_some hname, Except.ok.injEq, Option.some_inj]

theorem check_eq_error_iff {e : Error} :
    check name policy = .error e ↔
      ofValue? name policy = Option.none ∧ (Error.invalidName policy name).raised = e := by
  cases hname : ofValue? name policy with
  | none => rw [check_of_none hname, Except.error.injEq, and_iff_right rfl]
  | some t =>
    rw [check_of_some hname]
    exact iff_of_false nofun nofun

theorem eq_text_of_ofValue? (h : ofValue? name policy = some s) : name = .text s :=
  (ofValue?_eq_some_iff.1 h).1

theorem isSome_ofValue?_text : (ofValue? (.text s) policy).isSome = isAllowed s policy := by
  rw [ofValue?]
  cases isAllowed s policy <;> rfl

end FieldName

theorem validateName_eq_ok_iff {name : Value} {policy : NamePolicy} {taken : String → Bool}
    {s : String} :
    validateName name policy taken = .ok s ↔
      FieldName.ofValue? name policy = some s ∧ taken s = false := by
  rw [validateName, bind_eq_ok_iff]
  constructor
  · rintro ⟨t, hcheck, ht⟩
    split at ht
    · cases ht
    · rename_i hfree
      obtain rfl : t = s := Except.ok.inj ht
      exact ⟨FieldName.check_eq_ok_iff.1 hcheck, Bool.eq_false_iff.2 hfree⟩
  · rintro ⟨hname, hfree⟩
    exact ⟨s, FieldName.check_of_some hname, by rw [if_neg (Bool.eq_false_iff.1 hfree)]⟩

/-! ## How a name is refused -/

section Refusal

variable {policy : NamePolicy} {name : Value} {cause : Refusal}

theorem Error.raised_invalidName_of_some (h : name.printFault? = some cause) :
    (invalidName policy name).raised = .refused cause := by
  simp [raised, shownValues, h]

theorem Error.raised_invalidName_of_none (h : name.printFault? = Option.none) :
    (invalidName policy name).raised = invalidName policy name :=
  raised_of_isTellable ((isTellable_invalidName policy name).2 h)

/-- The fault of a name comes about if the name can be printed. -/
theorem Error.raised_invalidName_eq_iff :
    (invalidName policy name).raised = invalidName policy name ↔
      name.printFault? = Option.none := by
  cases hfault : name.printFault? with
  | none => exact iff_of_true (raised_invalidName_of_none hfault) rfl
  | some fault =>
    rw [raised_invalidName_of_some hfault]
    exact iff_of_false nofun nofun

/-- A fault of printing comes about if it is the one that printing the name has. -/
theorem Error.raised_invalidName_eq_refused_iff :
    (invalidName policy name).raised = .refused cause ↔ name.printFault? = some cause := by
  cases hfault : name.printFault? with
  | none =>
    rw [raised_invalidName_of_none hfault]
    exact iff_of_false nofun nofun
  | some fault => rw [raised_invalidName_of_some hfault, Error.refused.injEq, Option.some_inj]

end Refusal

/-- A record of a class with one field that the record does not have: it cannot be printed. -/
def Builder.strayRecord : Value :=
  .record 0 { id := 0, title := "P", name := .builtin "P", keys := ["a"] } []

namespace FieldName

/-- **The grammar of field names.** In lower snake case it is what `IsSnakeCase` says, reserved
words apart, and it is part of the grammar of identifiers. Under either policy a value is returned
as it is if and only if it is a field name. A value that is not is refused by the fault of the name
if it can be printed, and by the fault of printing it if it cannot. -/
theorem check_outcomes (policy : NamePolicy) (v : Value) :
    (∀ s, (ofValue? (.text s) .lowerSnake).isSome = true ↔ IsSnakeCase s ∧ s ∉ reserved) ∧
    (∀ s, (ofValue? (.text s) .lowerSnake).isSome = true →
      (ofValue? (.text s) .identifier).isSome = true) ∧
    ((∃ s, check v policy = .ok s) ↔ (ofValue? v policy).isSome = true) ∧
    (∀ s, check v policy = .ok s → v = .text s) ∧
    (check v policy = .error (.invalidName policy v) ↔
      (ofValue? v policy).isSome = false ∧ v.printFault? = Option.none) ∧
    ∀ cause, check v policy = .error (.refused cause) ↔
      (ofValue? v policy).isSome = false ∧ v.printFault? = some cause := by
  refine ⟨fun s => ?_, fun s h => ?_, ?_, fun s h => ?_, ?_, fun cause => ?_⟩
  · rw [isSome_ofValue?_text, isAllowed_lowerSnake_iff]
  · rw [isSome_ofValue?_text] at h ⊢
    exact isAllowed_identifier h
  · simp only [check_eq_ok_iff]
    exact Option.isSome_iff_exists.symm
  · exact eq_text_of_ofValue? (check_eq_ok_iff.1 h)
  · rw [check_eq_error_iff, Error.raised_invalidName_eq_iff, Option.isSome_eq_false_iff,
      Option.isNone_iff_eq_none]
  · rw [check_eq_error_iff, Error.raised_invalidName_eq_refused_iff, Option.isSome_eq_false_iff,
      Option.isNone_iff_eq_none]

/-- A record that cannot be printed is no field name, and yet it is not refused by the fault of the
name. -/
theorem stray_name_refused :
    (ofValue? Builder.strayRecord .identifier).isSome = false ∧
    check Builder.strayRecord .identifier = .error (.refused .absentAttribute) ∧
    ¬ ∃ policy name, check Builder.strayRecord .identifier = .error (.invalidName policy name) := by
  have hcheck : check Builder.strayRecord .identifier = .error (.refused .absentAttribute) := rfl
  refine ⟨rfl, hcheck, ?_⟩
  rintro ⟨policy, name, hinvalid⟩
  cases hcheck.symm.trans hinvalid

end FieldName

end RecordSchema
