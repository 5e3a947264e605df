import RecordSchema.Proofs.Names

/-!
# Values that are alike

A text is alike to itself only, and so is a class. The union of an opaque token with `None` is alike
to unions of its own form, with alike tokens. A union is alike to unions, however they are written,
that have the same members (`SameMembers`), in any order. Being alike is not an equivalence: objects
that compare by rules of their own may be alike to two values that are not alike to each other.

What is left of elements that are given with repetitions (`distinct`) are elements of which none is
alike to an earlier one.
-/

set_option autoImplicit false

namespace RecordSchema.Value

variable {a b v w : Value}

/-! ## Alike to what -/

section

-- The proofs of this section compare form by form.
attribute [local simp] alike sameObject equal sameNumber magnitude?

theorem alike_text_right {s : String} : alike v (.text s) = true ↔ v = .text s := by
  cases v <;> simp [unionMembers?]

theorem alike_text_left {s : String} : alike (.text s) v = true ↔ v = .text s := by
  rw [@eq_comm _ v]
  cases v <;> simp

theorem alike_classToken_right {c : ClassName} :
    alike v (.classToken c) = true ↔ v = .classToken c := by
  cases v <;> simp [unionMembers?]

theorem alike_classToken_left {c : ClassName} :
    alike (.classToken c) v = true ↔ v = .classToken c := by
  rw [@eq_comm _ v]
  cases v <;> simp

theorem alike_noneClass_right : alike v noneClass = true ↔ v = noneClass := alike_classToken_right

theorem alike_noneClass_left : alike noneClass v = true ↔ v = noneClass := alike_classToken_left

theorem alike_none_left : alike .none v = true ↔ v = .none := by
  cases v <;> simp

theorem alike_orNone_left :
    alike (.orNone a) v = true ↔ ∃ b, v = .orNone b ∧ alike a b = true := by
  cases v <;> simp

theorem alike_orNone_right :
    alike v (.orNone b) = true ↔ ∃ a, v = .orNone a ∧ alike a b = true := by
  cases v <;> simp [unionMembers?]

theorem isNoneClass_eq_true_iff : v.isNoneClass = true ↔ v = noneClass := by
  cases v <;> simp [isNoneClass, noneClass, builtinClass]

/-! ## Unions -/

/-- Has the first list as many members as the second, each of them alike to one there? -/
def SameMembers (xs ys : List Value) : Prop :=
  xs.length = ys.length ∧ ∀ x ∈ xs, ∃ y ∈ ys, alike x y = true

theorem allIn_iff {xs ys : List Value} :
    allIn xs ys = true ↔ ∀ x ∈ xs, ∃ y ∈ ys, alike x y = true := by
  induction xs with
  | nil => simp [allIn]
  | cons x xs ih =>
    simp only [allIn, Bool.and_eq_true, ih, List.any_eq_true, List.forall_mem_cons, alike]

/-- A union is alike to unions with the same members. -/
theorem alike_union_left {xs : List Value} (h : v.unionMembers? = some xs) :
    alike v w = true ↔ ∃ ys, w.unionMembers? = some ys ∧ SameMembers xs ys := by
  unfold SameMembers
  cases v with
  | union members | pipe members =>
    obtain rfl := Option.some.inj h
    cases hw : w.unionMembers? <;> simp [hw, allIn_iff]
  | _ => cases h

theorem alike_union_right {ys : List Value} (h : w.unionMembers? = some ys) :
    alike v w = true ↔ ∃ xs, v.unionMembers? = some xs ∧ SameMembers xs ys := by
  cases hv : v.unionMembers? with
  | some xs =>
    rw [alike_union_left hv, h]
    simp only [Option.some.injEq, exists_eq_left']
  | none =>
    -- What is no union is alike to none.
    cases w with
    | union _ | pipe _ =>
      cases v <;> simp <;> cases hv
    | _ => cases h

end

/-! ## Elements without repetitions -/

/-- No element is alike to an earlier one. -/
def AllUnlike (items : List Value) : Prop := items.Pairwise fun a b => alike b a = false

theorem allUnlike_pair : AllUnlike [a, b] ↔ alike b a = false := List.pairwise_pair

theorem distinct_concat (items : List Value) (v : Value) :
    distinct (items ++ [v]) =
      if (distinct items).any (alike v) then distinct items else distinct items ++ [v] := by
  rw [distinct, List.foldl_append]
  rfl

theorem allUnlike_distinct (items : List Value) : AllUnlike (distinct items) := by
  induction items using List.reverseRecOn with
  | nil => exact .nil
  | append_singleton items v ih =>
    rw [distinct_concat]
    split
    · exact ih
    · next hnew =>
      refine List.pairwise_append.2 ⟨ih, List.pairwise_singleton _ _, fun a ha b hb => ?_⟩
      rw [List.mem_singleton.1 hb]
      simpa using mt (fun h => List.any_eq_true.2 ⟨a, ha, h⟩) hnew

theorem mem_of_mem_distinct {items : List Value} (h : v ∈ distinct items) : v ∈ items := by
  induction items using List.reverseRecOn with
  | nil => exact h
  | append_singleton items w ih =>
    rw [distinct_concat] at h
    split at h
    · exact List.mem_append_left _ (ih h)
    · rcases List.mem_append.1 h with h | h
      · exact List.mem_append_left _ (ih h)
      · exact List.mem_append_right _ h

theorem distinct_ne_nil {items : List Value} (h : items ≠ []) : distinct items ≠ [] := by
  induction items using List.reverseRecOn with
  | nil => exact absurd rfl h
  | append_singleton items w ih =>
    rw [distinct_concat]
    split
    · next hany =>
      obtain ⟨a, ha, -⟩ := List.any_eq_true.1 hany
      exact List.ne_nil_of_mem ha
    · exact List.append_ne_nil_of_right_ne_nil _ (List.cons_ne_nil _ _)

/-- Where there are no repetitions all elements stay. -/
theorem distinct_of_allUnlike {items : List Value} (h : AllUnlike items) :
    distinct items = items := by
  induction items using List.reverseRecOn with
  | nil => rfl
  | append_singleton items w ih =>
    obtain ⟨hitems, -, hnew⟩ := List.pairwise_append.1 h
    rw [distinct_concat, ih hitems, if_neg ?_]
    intro hany
    obtain ⟨a, ha, halike⟩ := List.any_eq_true.1 hany
    cases halike.symm.trans (hnew a ha w (List.mem_singleton_self w))

end RecordSchema.Value
