import RecordSchema.Name

/-!
# Identifiers and lower snake case

An identifier and a text in lower snake case are both told by their characters: a class for the
first and a class for the others. Lower snake case (`FieldName.IsSnakeCase`) is matched up to the
end of a text, though, and a line feed that a text ends in passes for its end. So it is recognised
in one more form, the line, which is a text in lower snake case and a line feed, and in no other
(`FieldName.snakeCase_recognised_iff`).

As names of fields such lines do not count, since no identifier has a line feed in it: what the
stricter policy takes is lower snake case and not reserved (`FieldName.isAllowed_lowerSnake_iff`).
Under either policy it is texts that are field names, and nothing else
(`FieldName.ofValue?_eq_some_iff`).
-/

set_option autoImplicit false

namespace RecordSchema.Text

/-! ## Identifiers -/

/-- A character of neither class is in no identifier. -/
theorem notMem_of_isIdentifierChars {cs : List Char} {c : Char}
    (hstart : isIdentifierStart c = false) (hcontinue : isIdentifierContinue c = false)
    (h : isIdentifierChars cs = true) : c ∉ cs := by
  cases cs with
  | nil => cases h
  | cons d cs =>
    obtain ⟨hd, hcs⟩ := Bool.and_eq_true_iff.1 h
    intro hc
    rcases List.mem_cons.1 hc with rfl | hc
    · cases hstart.symm.trans hd
    · cases hcontinue.symm.trans (List.all_eq_true.1 hcs c hc)

end RecordSchema.Text

namespace RecordSchema.FieldName

open RecordSchema.Text

/-! ## Lower snake case -/

/-- A letter from `a` to `z`. -/
def IsLetter (c : Char) : Prop := 'a' ≤ c ∧ c ≤ 'z'

/-- A letter from `a` to `z`, a digit from `0` to `9`, or an underscore. -/
def IsSnake (c : Char) : Prop := IsLetter c ∨ ('0' ≤ c ∧ c ≤ '9') ∨ c = '_'

/-- A text in lower snake case: a letter, and then letters, digits and underscores to the end. -/
def IsSnakeCase (s : String) : Prop :=
  ∃ c rest, s.toList = c :: rest ∧ IsLetter c ∧ ∀ d ∈ rest, IsSnake d

/-- A line of lower snake case: such a text and the line feed that ends the line. -/
def IsSnakeLine (s : String) : Prop := ∃ t, IsSnakeCase t ∧ s = t ++ "\n"

theorem isAsciiLower_iff {c : Char} : isAsciiLower c = true ↔ IsLetter c := by
  simp [isAsciiLower, IsLetter]

theorem isSnakeChar_iff {c : Char} : isSnakeChar c = true ↔ IsSnake c := by
  simp [isSnakeChar, IsSnake, isAsciiLower_iff, isAsciiDigit, or_assoc]

theorem not_isSnake_lineFeed : ¬ IsSnake '\n' := by
  rw [← isSnakeChar_iff]
  decide

/-- What follows the first letter: characters of lower snake case, and then the end or a line feed
and the end. -/
theorem isSnakeTail_iff {cs : List Char} :
    isSnakeTail cs = true ↔
      ∃ body : List Char, (∀ d ∈ body, IsSnake d) ∧ (cs = body ∨ cs = body ++ ['\n']) := by
  -- The cases are those of the match, in which a line feed counts only if it comes last.
  induction cs using isSnakeTail.induct with
  | case1 => exact iff_of_true rfl ⟨[], List.forall_mem_nil _, .inl rfl⟩
  | case2 => exact iff_of_true rfl ⟨[], List.forall_mem_nil _, .inr rfl⟩
  | case3 c rest hend ih =>
    rw [isSnakeTail, Bool.and_eq_true, isSnakeChar_iff, ih]
    · constructor
      · rintro ⟨hc, body, hbody, hrest⟩
        refine ⟨c :: body, List.forall_mem_cons.2 ⟨hc, hbody⟩, ?_⟩
        rcases hrest with rfl | rfl
        · exact .inl rfl
        · exact .inr rfl
      · rintro ⟨body, hbody, hcs⟩
        cases body with
        | nil =>
          rcases hcs with hcs | hcs
          · cases hcs
          · obtain ⟨rfl, rfl⟩ := List.cons.inj hcs
            exact absurd rfl (hend rfl)
        | cons d body =>
          obtain ⟨hd, htail⟩ := List.forall_mem_cons.1 hbody
          rcases hcs with hcs | hcs
          · obtain ⟨rfl, rfl⟩ := List.cons.inj hcs
            exact ⟨hd, rest, htail, .inl rfl⟩
          · obtain ⟨rfl, rfl⟩ := List.cons.inj hcs
            exact ⟨hd, body, htail, .inr rfl⟩
    · exact hend

/-- Lower snake case is recognised in the texts that are in it and in the lines of it. -/
theorem isLowerSnake_iff {s : String} : isLowerSnake s = true ↔ IsSnakeCase s ∨ IsSnakeLine s := by
  unfold isLowerSnake
  constructor
  · intro h
    cases hs : s.toList with
    | nil =>
      rw [hs] at h
      cases h
    | cons c rest =>
      rw [hs, isSnakeChars, Bool.and_eq_true, isAsciiLower_iff, isSnakeTail_iff] at h
      obtain ⟨hc, body, hbody, hrest⟩ := h
      -- Nothing may stand behind the word but one line feed.
      rcases hrest with rfl | rfl
      · exact .inl ⟨c, rest, hs, hc, hbody⟩
      · refine .inr ⟨String.ofList (c :: body), ⟨c, body, String.toList_ofList, hc, hbody⟩, ?_⟩
        rw [← String.toList_inj, hs, String.toList_append, String.toList_ofList]
        rfl
  · rintro (⟨c, rest, hs, hc, hrest⟩ | ⟨t, ⟨c, rest, ht, hc, hrest⟩, rfl⟩)
    · rw [hs, isSnakeChars, Bool.and_eq_true, isAsciiLower_iff, isSnakeTail_iff]
      exact ⟨hc, rest, hrest, .inl rfl⟩
    · rw [String.toList_append, ht, List.cons_append, isSnakeChars, Bool.and_eq_true,
        isAsciiLower_iff, isSnakeTail_iff]
      exact ⟨hc, rest, hrest, .inr rfl⟩

/-- No line is itself in lower snake case. -/
theorem IsSnakeLine.not_isSnakeCase {s : String} (h : IsSnakeLine s) : ¬ IsSnakeCase s := by
  obtain ⟨t, ⟨c, rest, ht, -, -⟩, rfl⟩ := h
  rintro ⟨d, later, hs, -, hlater⟩
  rw [String.toList_append, ht, List.cons_append] at hs
  obtain ⟨-, rfl⟩ := List.cons.inj hs
  -- The line feed comes after the first letter, so it would have to be a character of the class.
  apply not_isSnake_lineFeed
  exact hlater '\n' (List.mem_append_right rest (List.mem_singleton_self _))

/-- **Lower snake case is recognised in the texts that are in it and in no others, lines apart.**
What is recognised is a text in lower snake case or a line of it, and the lines are where this goes
wrong. -/
theorem snakeCase_recognised_iff (s : String) :
    (isLowerSnake s = true ↔ IsSnakeCase s ∨ IsSnakeLine s) ∧
    ((isLowerSnake s = true ↔ IsSnakeCase s) ↔ ¬ IsSnakeLine s) := by
  refine ⟨isLowerSnake_iff, ?_⟩
  rw [isLowerSnake_iff]
  constructor
  · intro hexact hline
    exact hline.not_isSnakeCase (hexact.1 (.inr hline))
  · intro hline
    exact or_iff_left hline

/-- A letter and a line feed. -/
theorem line_recognised_as_snakeCase : isLowerSnake "a\n" = true ∧ ¬ IsSnakeCase "a\n" := by
  have hline : IsSnakeLine "a\n" :=
    ⟨"a", ⟨'a', [], rfl, ⟨by decide, by decide⟩, List.forall_mem_nil _⟩, rfl⟩
  exact ⟨rfl, hline.not_isSnakeCase⟩

/-! ## Names in lower snake case -/

theorem IsLetter.isIdentifierStart {c : Char} (h : IsLetter c) : isIdentifierStart c = true := by
  simp [Text.isIdentifierStart, isAsciiLower_iff.2 h]

theorem IsSnake.isIdentifierContinue {c : Char} (h : IsSnake c) :
    isIdentifierContinue c = true := by
  have hchar : isSnakeChar c = true := isSnakeChar_iff.2 h
  simp only [isSnakeChar, Bool.or_eq_true] at hchar
  rcases hchar with (hchar | hchar) | hchar <;> simp [Text.isIdentifierContinue, hchar]

theorem IsSnakeCase.isIdentifier {s : String} (h : IsSnakeCase s) : isIdentifier s = true := by
  obtain ⟨c, rest, hs, hc, hrest⟩ := h
  rw [Text.isIdentifier, hs, isIdentifierChars, Bool.and_eq_true]
  exact ⟨hc.isIdentifierStart, List.all_eq_true.2 fun d hd => (hrest d hd).isIdentifierContinue⟩

theorem IsSnakeLine.not_isIdentifier {s : String} (h : IsSnakeLine s) :
    ¬ isIdentifier s = true := by
  obtain ⟨t, -, rfl⟩ := h
  intro hidentifier
  refine notMem_of_isIdentifierChars (c := '\n') (by decide +kernel) (by decide +kernel)
    hidentifier ?_
  rw [String.toList_append]
  exact List.mem_append_right _ (List.mem_singleton_self _)

/-- A text that begins with a letter does not stand between underscores. -/
theorem IsSnakeCase.not_isDunder {s : String} (h : IsSnakeCase s) : isDunder s = false := by
  obtain ⟨c, rest, hs, hc, -⟩ := h
  have hne : c ≠ '_' := by
    rintro rfl
    exact absurd hc.1 (by decide)
  simp [isDunder, hs, hne]

/-- The stricter policy takes the texts in lower snake case that are not reserved. -/
theorem isAllowed_lowerSnake_iff {s : String} :
    isAllowed s .lowerSnake = true ↔ IsSnakeCase s ∧ s ∉ reserved := by
  have hreserved : isReserved s = false ↔ s ∉ reserved := by
    simp [isReserved]
  simp only [isAllowed, Bool.and_eq_true, Bool.not_eq_true']
  constructor
  · rintro ⟨⟨⟨hidentifier, hfree⟩, -⟩, hsnake⟩
    -- A line of lower snake case is recognised as well, but it is no identifier.
    rcases isLowerSnake_iff.1 hsnake with hcase | hline
    · exact ⟨hcase, hreserved.1 hfree⟩
    · exact absurd hidentifier hline.not_isIdentifier
  · rintro ⟨hcase, hfree⟩
    exact ⟨⟨⟨hcase.isIdentifier, hreserved.2 hfree⟩, hcase.not_isDunder⟩,
      isLowerSnake_iff.2 (.inl hcase)⟩

/-- What is accepted as lower snake case is accepted as an identifier. -/
theorem isAllowed_identifier {s : String} {policy : NamePolicy}
    (h : isAllowed s policy = true) : isAllowed s .identifier = true := by
  unfold isAllowed at h ⊢
  rw [Bool.and_eq_true] at h
  rw [h.1]
  rfl

/-- The values that are field names are the texts that the policy allows, and each names itself. -/
theorem ofValue?_eq_some_iff {v : Value} {policy : NamePolicy} {s : String} :
    ofValue? v policy = some s ↔ v = .text s ∧ isAllowed s policy = true := by
  cases v with
  | text t =>
    by_cases ht : isAllowed t policy = true
    · rw [ofValue?, if_pos ht, Option.some_inj, Value.text.injEq]
      constructor
      · rintro rfl
        exact ⟨rfl, ht⟩
      · exact And.left
    · rw [ofValue?, if_neg ht, Value.text.injEq]
      refine iff_of_false nofun ?_
      rintro ⟨rfl, hs⟩
      exact ht hs
  | _ => exact iff_of_false nofun nofun

end RecordSchema.FieldName
