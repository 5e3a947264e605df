import RecordSchema.Error

/-!
# Results of reports and errors as they come about

What a report ends in does not hang on what it says on the way: the result of a sequence of reports
is the sequence of their results (`Report.result_bind`). An error comes about as itself
if the values that its words show can be printed (`Error.raised_of_isTellable`); otherwise the first
fault in printing them comes about in its place (`Error.raised_of_not_isTellable`).

`RefusedIff` is for what comes about unless the rules of values refuse it, and says exactly when
they do; it is kept from step to step.

Two kinds of error matter to a block: a fault of a declaration, which ends the block, and a fault of
its state, by which a block that is no longer open refuses a call.
-/

set_option autoImplicit false

namespace RecordSchema

/-! ## Sequences that may fail -/

section Sequences

variable {ε δ α β : Type}

@[simp] theorem ok_bind (a : α) (f : α → Except ε β) : (Except.ok a >>= f) = f a := rfl

@[simp] theorem error_bind (e : ε) (f : α → Except ε β) :
    ((Except.error e : Except ε α) >>= f) = .error e := rfl

theorem bind_eq_ok_iff {r : Except ε α} {f : α → Except ε β} {b : β} :
    (r >>= f) = .ok b ↔ ∃ a, r = .ok a ∧ f a = .ok b := by
  cases r with
  | ok a => simp
  | error e => simp

theorem bind_eq_error_iff {r : Except ε α} {f : α → Except ε β} {e : ε} :
    (r >>= f) = .error e ↔ r = .error e ∨ ∃ a, r = .ok a ∧ f a = .error e := by
  cases r with
  | ok a => simp
  | error e' => simp

/-- Where the second step always gives a result, both do exactly if the first does. -/
theorem exists_bind_eq_ok_iff {r : Except ε α} {f : α → Except ε β}
    (hf : ∀ a, ∃ b, f a = .ok b) : (∃ b, (r >>= f) = .ok b) ↔ ∃ a, r = .ok a := by
  constructor
  · rintro ⟨b, h⟩
    obtain ⟨a, ha, -⟩ := bind_eq_ok_iff.1 h
    exact ⟨a, ha⟩
  · rintro ⟨a, rfl⟩
    exact hf a

@[simp] theorem mapError_ok (f : ε → δ) (a : α) : (Except.ok a).mapError f = .ok a := rfl

@[simp] theorem mapError_error (f : ε → δ) (e : ε) :
    (Except.error e : Except ε α).mapError f = .error (f e) := rfl

@[simp] theorem mapError_eq_ok_iff {r : Except ε α} {f : ε → δ} {a : α} :
    r.mapError f = .ok a ↔ r = .ok a := by
  cases r <;> simp

@[simp] theorem mapError_eq_error_iff {r : Except ε α} {f : ε → δ} {d : δ} :
    r.mapError f = .error d ↔ ∃ e, r = .error e ∧ f e = d := by
  cases r <;> simp

theorem map_eq_ok_iff {r : Except ε α} {f : α → β} {b : β} :
    r.map f = .ok b ↔ ∃ a, r = .ok a ∧ f a = b := by
  cases r <;> simp [Except.map]

theorem map_eq_error_iff {r : Except ε α} {f : α → β} {e : ε} :
    r.map f = .error e ↔ r = .error e := by
  cases r <;> simp [Except.map]

end Sequences

/-! ## Reports -/

namespace Report

variable {α β : Type}

@[simp] theorem result_pure (a : α) : (Pure.pure a : Report α).result = .ok a := rfl

@[simp] theorem result_fail (e : Error) : (fail e : Report α).result = .error e.raised := rfl

@[simp] theorem result_ofExcept (r : Except Error α) : (ofExcept r).result = r := rfl

@[simp] theorem result_say (level : Level) (speaker : Speaker) (message : String) :
    (say level speaker message).result = .ok () := rfl

/-- The result of a sequence is the sequence of the results. -/
@[simp] theorem result_bind (r : Report α) (f : α → Report β) :
    (r >>= f).result = r.result >>= fun a => (f a).result := by
  show (Report.bind r f).result = _
  unfold Report.bind
  cases r.result with
  | ok a => rfl
  | error e => rfl

@[simp] theorem result_map (f : α → β) (r : Report α) :
    (f <$> r).result = r.result.map f := by
  show (r >>= fun a => Pure.pure (f a)).result = _
  rw [result_bind]
  cases r.result with
  | ok a => rfl
  | error e => rfl

end Report

/-! ## Errors -/

namespace Error

/-- A fault of the state of a block or of an accumulator: a call that comes out of turn. -/
def isState : Error → Bool
  | appendAfterFinalize .. | finalizeTwice .. | emitWhileOpen .. | declareAfterEnd ..
  | blockAborted .. => true
  | _ => false

/-- Can all values that the words of an error show be printed? -/
def isTellable (e : Error) : Prop := ∀ v ∈ e.shownValues, v.printFault? = none

theorem raised_of_isTellable {e : Error} (h : e.isTellable) : e.raised = e := by
  have hnone : e.shownValues.findSome? Value.printFault? = none :=
    List.findSome?_eq_none_iff.2 h
  simp [raised, hnone]

theorem raised_of_not_isTellable {e : Error} (h : ¬ e.isTellable) :
    ∃ cause, e.raised = .refused cause := by
  cases hfault : e.shownValues.findSome? Value.printFault? with
  | none => exact absurd (List.findSome?_eq_none_iff.1 hfault) h
  | some cause => exact ⟨cause, by simp [raised, hfault]⟩

theorem isState_raised_iff (e : Error) :
    e.raised.isState = true ↔ e.isState = true ∧ e.isTellable := by
  by_cases h : e.isTellable
  · rw [raised_of_isTellable h]
    exact ⟨fun he => ⟨he, h⟩, And.left⟩
  · obtain ⟨cause, hcause⟩ := raised_of_not_isTellable h
    rw [hcause]
    exact ⟨fun he => absurd he (by simp [isState]), fun he => absurd he.2 h⟩

/-- A fault of a state that shows one value comes about if the value can be printed. -/
theorem isState_raised_iff_of_shown {e : Error} {v : Value} (hstate : e.isState = true)
    (hshown : e.shownValues = [v]) : e.raised.isState = true ↔ v.printFault? = none := by
  rw [isState_raised_iff, isTellable, hshown]
  simp [hstate]

@[simp] theorem isTellable_blockAborted (block : Value) :
    (blockAborted block).isTellable ↔ block.printFault? = none := by
  simp [isTellable, shownValues]

@[simp] theorem isTellable_declareAfterEnd (block field : Value) :
    (declareAfterEnd block field).isTellable ↔
      block.printFault? = none ∧ field.printFault? = none := by
  simp [isTellable, shownValues]

@[simp] theorem isTellable_invalidName (policy : NamePolicy) (name : Value) :
    (invalidName policy name).isTellable ↔ name.printFault? = none := by
  simp [isTellable, shownValues]

@[simp] theorem isTellable_unknownOptions (words : List String) (field : Value) :
    (unknownOptions words field).isTellable ↔ field.printFault? = none := by
  simp [isTellable, shownValues]

/-- What can only be refused adds no fault of a declaration to what comes before it. -/
theorem bind_refused_eq_error_iff {α β : Type} {r : Except Error α} {f : α → Except Refusal β}
    {e : Error} (he : e.isDeclaration = true) :
    (r >>= fun a => (f a).mapError refused) = .error e ↔ r = .error e := by
  rw [bind_eq_error_iff]
  constructor
  · rintro (h | ⟨a, -, h⟩)
    · exact h
    · obtain ⟨cause, -, rfl⟩ := mapError_eq_error_iff.1 h
      cases he
  · exact Or.inl

end Error

/-! ## Refusals under a condition -/

/-- Something comes about unless it is refused, and it is refused exactly under a condition. -/
inductive RefusedIff {α : Type} (condition : Prop) : Except Error α → Prop where
  | refused (holds : condition) (cause : Refusal) : RefusedIff condition (.error (.refused cause))
  | ok (fails : ¬ condition) (a : α) : RefusedIff condition (.ok a)

namespace RefusedIff

variable {α β : Type} {condition : Prop} {r : Except Error α}

theorem exists_ok_iff (h : RefusedIff condition r) : (∃ a, r = .ok a) ↔ ¬ condition := by
  cases h with
  | refused holds cause => exact iff_of_false (fun ⟨_, h⟩ => by cases h) fun h => h holds
  | ok fails a => exact iff_of_true ⟨a, rfl⟩ fails

theorem congr {other : Prop} (h : RefusedIff condition r) (hiff : condition ↔ other) :
    RefusedIff other r :=
  propext hiff ▸ h

theorem map (h : RefusedIff condition r) (f : α → β) : RefusedIff condition (r.map f) := by
  cases h with
  | refused holds cause => exact .refused holds cause
  | ok fails a => exact .ok fails (f a)

/-- Of two steps the first is refused, or the second after what the first has come to. -/
theorem bind {f : α → Except Error β} {next : α → Prop} (h : RefusedIff condition r)
    (hf : ∀ a, r = .ok a → RefusedIff (next a) (f a)) :
    RefusedIff (condition ∨ ∃ a, r = .ok a ∧ next a) (r >>= f) := by
  cases h with
  | refused holds cause => exact .refused (.inl holds) cause
  | ok fails a =>
    refine (hf a rfl).congr ⟨fun hnext => .inr ⟨a, rfl, hnext⟩, ?_⟩
    rintro (holds | ⟨a', ha', hnext⟩)
    · exact absurd holds fails
    · exact Except.ok.inj ha' ▸ hnext

/-- What the rules of values refuse comes about as such a refusal. -/
theorem of_mapError {s : Except Refusal α} (h : (∃ cause, s = .error cause) ↔ condition) :
    RefusedIff condition (s.mapError .refused) := by
  cases s with
  | error cause => exact .refused (h.1 ⟨cause, rfl⟩) cause
  | ok a => exact .ok (fun holds => by obtain ⟨_, hs⟩ := h.2 holds; cases hs) a

end RefusedIff

end RecordSchema
