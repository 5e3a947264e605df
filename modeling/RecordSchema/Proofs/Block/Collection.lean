import RecordSchema.Proofs.Block.Emission

/-!
# Accumulators without blocks

A block fills its accumulator with fields that it has checked. An accumulator can also be filled by
hand, and then the names of its fields may be any, even repeated (`Accumulator.Reached`). Which of
them are required is noted as the fields come, and each field keeps for itself whether it is
enforced; every step keeps the two together (`Accumulator.Reached.required_eq`), and so they agree
in every schema that an accumulator gives (`Schema.IsCollected.required_eq`), those of blocks among
them (`Builder.isCollected_of_build`).
-/

set_option autoImplicit false

namespace RecordSchema

namespace Accumulator

variable {a a' : Accumulator} {f g : Field} {name : Value}

/-! ## What the two steps do -/

theorem eq_push_of_append (h : (a.append f).2.result = .ok g) : (a.append f).1 = a.push f := by
  cases hfinalized : a.finalized with
  | true => simp [append, hfinalized] at h
  | false =>
    cases htold : f.enforced.hasTruth with
    | true => exact (append_of_told hfinalized htold).1
    | false => simp [append, hfinalized, Value.truth, htold, Report.refuse] at h

theorem result_finalize (h : a.finalized = false) : a.finalize.result = .ok a.ended := by
  simp [finalize, h]
  rfl

theorem eq_ended_of_finalize (h : a.finalize.result = .ok a') : a' = a.ended := by
  cases hfinalized : a.finalized with
  | true => simp [finalize, hfinalized] at h
  | false =>
    rw [result_finalize hfinalized] at h
    exact (Except.ok.inj h).symm

theorem emit_of_finalized (h : a.finalized = true) : a.emit = .ok a.outcome := by
  simp [emit, finalFields, finalRequired, h]
  rfl

theorem eq_outcome_of_emit {s : Schema} (h : a.emit = .ok s) : s = a.outcome := by
  cases hfinalized : a.finalized with
  | true =>
    rw [emit_of_finalized hfinalized] at h
    exact (Except.ok.inj h).symm
  | false =>
    simp [emit, finalFields, hfinalized] at h

/-! ## Accumulators as they come about -/

/-- An accumulator that came about by adding fields and ending it. -/
inductive Reached (name : Value) : Accumulator → Prop where
  | new : Reached name { name }
  | append {a : Accumulator} {f g : Field} (before : Reached name a)
      (added : (a.append f).2.result = .ok g) : Reached name (a.append f).1
  | finalize {a a' : Accumulator} (before : Reached name a) (ended : a.finalize.result = .ok a') :
      Reached name a'

/-- The fields that are required are those that are enforced. -/
theorem Reached.required_eq (h : Reached name a) :
    a.required = (a.fields.filter (·.isEnforced)).map (·.name) := by
  induction h with
  | new => rfl
  | append _ added ih =>
    rw [eq_push_of_append added]
    exact required_push ih _
  | finalize _ ended ih =>
    rw [eq_ended_of_finalize ended]
    exact ih

end Accumulator

/-- A schema that an accumulator gives. -/
def Schema.IsCollected (s : Schema) : Prop :=
  ∃ name a, Accumulator.Reached name a ∧ a.emit = .ok s

theorem Schema.IsCollected.required_eq {s : Schema} (h : s.IsCollected) :
    s.required = (s.fields.filter (·.isEnforced)).map (·.name) := by
  obtain ⟨name, a, ha, hemit⟩ := h
  rw [Accumulator.eq_outcome_of_emit hemit]
  exact ha.required_eq

namespace Builder

/-! ## The accumulators of blocks -/

/-- A call leaves an accumulator that can be filled by hand. -/
theorem Step.reached {b b' : Builder} {c : Call} {r : Except Error Given} (h : Step b c b' r)
    {name : Value} (hb : Accumulator.Reached name b.state) : Accumulator.Reached name b'.state := by
  cases h with
  | make _ going made =>
    obtain ⟨hstate, hmade⟩ := Accumulator.append_of_told going (isOf_of_resolve made).1.told
    exact hstate ▸ .append hb hmade
  | finish _ _ going => exact .finalize hb (Accumulator.result_finalize going)
  | refuse _ | late _ _ | abort _ _ _ _ | spare _ _ _ _ | again _ _ | stuck _ _ _ => exact hb

theorem reached_after {b : Builder} {name : Value} (hb : Accumulator.Reached name b.state)
    (calls : List Call) : Accumulator.Reached name (b.after calls).state := by
  induction calls generalizing b with
  | nil => exact hb
  | cons c calls ih => exact ih ((step_call b c).reached hb)

/-- The schema that a block gives is one that its accumulator gives. -/
theorem isCollected_of_build {name strict : Value} {policy : NamePolicy} {calls : List Call}
    {s : Schema}
    (h : ((Builder.new name strict policy).after calls).reply .build = .ok (.schema s)) :
    s.IsCollected := by
  have hreached : Accumulator.Reached name ((Builder.new name strict policy).after calls).state :=
    reached_after .new calls
  have hsteady := steady_after (steady_new name strict policy) calls
  rw [eq_outcome_of_build hsteady h]
  generalize ((Builder.new name strict policy).after calls).state = a at hreached
  cases hfinalized : a.finalized with
  | true => exact ⟨name, a, hreached, Accumulator.emit_of_finalized hfinalized⟩
  | false =>
    exact ⟨name, a.ended, .finalize hreached (Accumulator.result_finalize hfinalized),
      Accumulator.emit_of_finalized rfl⟩

end Builder

end RecordSchema
