import RecordSchema.Proofs.TypeTerm.Text
import RecordSchema.Proofs.TypeTerm.Primitive

/-!
# Spellings of optional types

There are four ways to write into a text that a type has `None` beside it, and they can be used on a
text one after another (`spelled`). The column of a class is found behind any number of
alternatives, or behind one `Optional`, but behind nothing else (`Recognised`, `column_spelled`).

`Optional` and alternatives do not mix: the brackets are looked for once, at the ends of the text
and without the name of a module, and what stands between bars is not read again.
-/

set_option autoImplicit false

namespace RecordSchema.TypeTerm

open RecordSchema.Text

/-- A way to write that a type has `None` beside it. -/
inductive Spelling where
  | optional
  | typingOptional
  | noneAfter
  | noneBefore
deriving DecidableEq

namespace Spelling

/-- What is written before the type. -/
def opening : Spelling → String
  | optional => "Optional["
  | typingOptional => "typing.Optional["
  | noneAfter => ""
  | noneBefore => "None | "

/-- What is written after it. -/
def closing : Spelling → String
  | optional => "]"
  | typingOptional => "]"
  | noneAfter => " | None"
  | noneBefore => ""

def around (w : Spelling) (text : String) : String := w.opening ++ text ++ w.closing

/-- Is `None` written as one of several alternatives? -/
def isAlternative : Spelling → Bool
  | optional => false
  | typingOptional => false
  | noneAfter => true
  | noneBefore => true

end Spelling

/-- A text for a type with `None` beside it, in spellings around one another, the
outermost first. -/
def spelled (ws : List Spelling) (text : String) : String := ws.foldr Spelling.around text

/-- Alternatives alone, or one `Optional` alone. -/
def Recognised (ws : List Spelling) : Prop :=
  (∀ w ∈ ws, w.isAlternative = true) ∨ ws = [.optional]

instance (ws : List Spelling) : Decidable (Recognised ws) :=
  inferInstanceAs (Decidable (_ ∨ _))

section Spelled

variable {w : Spelling} {ws : List Spelling} {text : String}

@[simp] theorem spelled_nil : spelled [] text = text := rfl

@[simp] theorem toList_spelled_cons :
    (spelled (w :: ws) text).toList =
      w.opening.toList ++ (spelled ws text).toList ++ w.closing.toList := by
  simp [spelled, Spelling.around]

/-! ## Alternatives alone -/

theorem toList_spelled_noneAfter :
    (spelled (.noneAfter :: ws) text).toList = (spelled ws text).toList ++ " | None".toList := by
  simp [Spelling.opening, Spelling.closing]

theorem toList_spelled_noneBefore :
    (spelled (.noneBefore :: ws) text).toList = "None | ".toList ++ (spelled ws text).toList := by
  simp [Spelling.opening, Spelling.closing]

theorem beginsOptional_none_append (cs : List Char) :
    beginsOptional ("None | ".toList ++ cs) = false := by
  rw [Bool.eq_false_iff, ne_eq, beginsOptional_iff]
  simp [isBlank, List.cons_prefix_cons]

/-- The alternatives are taken off again, however many there are. -/
theorem partsBesideNone_spelled (hws : ∀ w ∈ ws, w.isAlternative = true) :
    partsBesideNone (spelled ws text).toList = partsBesideNone text.toList := by
  induction ws with
  | nil => rfl
  | cons w ws ih =>
    rw [List.forall_mem_cons] at hws
    rw [← ih hws.2]
    cases w with
    | optional => cases hws.1
    | typingOptional => cases hws.1
    | noneAfter => rw [toList_spelled_noneAfter, partsBesideNone_append]
    | noneBefore => rw [toList_spelled_noneBefore, partsBesideNone_none_append]

theorem beginsOptional_spelled (htext : beginsOptional text.toList = false)
    (hws : ∀ w ∈ ws, w.isAlternative = true) : beginsOptional (spelled ws text).toList = false := by
  induction ws with
  | nil => exact htext
  | cons w ws ih =>
    rw [List.forall_mem_cons] at hws
    cases w with
    | optional => cases hws.1
    | typingOptional => cases hws.1
    | noneAfter =>
      have hnone : " | None".toList = ' ' :: '|' :: " None".toList := by decide
      rw [toList_spelled_noneAfter, hnone, beginsOptional_append]
      exact ih hws.2
    | noneBefore => rw [toList_spelled_noneBefore, beginsOptional_none_append]

theorem column_of_withoutNone {p : Primitive} (h : withoutNone text = p.name) :
    column (.text text) = p.column := by
  rw [column, h]
  cases p <;> rfl

theorem column_spelled_of_alternatives (p : Primitive) (hws : ∀ w ∈ ws, w.isAlternative = true) :
    column (.text (spelled ws p.name)) = p.column := by
  have hbegins : beginsOptional p.name.toList = false := by cases p <;> decide
  have hparts : partsBesideNone p.name.toList = [p.name.toList] := by cases p <;> decide
  have hone : withoutNone (spelled ws p.name) = p.name := by
    rw [withoutNone_of_one (beginsOptional_spelled hbegins hws)
      ((partsBesideNone_spelled hws).trans hparts), String.ofList_toList]
  exact column_of_withoutNone hone

/-! ## Anything with brackets -/

/-- A character that does not get lost at the ends of a text, and is in no name of a class that has
a column. -/
def IsForeign (c : Char) : Prop :=
  isBlank c = false ∧ ∀ word ∈ ["int", "float", "str", "bool"], c ∉ word.toList

instance : DecidablePred IsForeign := fun _ => inferInstanceAs (Decidable (_ ∧ _))

theorem ofTypeName_of_isForeign {cs : List Char} {c : Char} (hc : IsForeign c) (h : c ∈ cs) :
    ColumnType.ofTypeName (String.ofList (trimChars cs)) = .object := by
  refine ofTypeName_of_mem (c := c) ?_ hc.2
  rw [String.toList_ofList]
  exact mem_trimChars h hc.1

/-- Of all that is written around a class, something is foreign. -/
theorem exists_isForeign (w : Spelling) (ws : List Spelling) (text : String) :
    ∃ c ∈ (spelled (w :: ws) text).toList, IsForeign c := by
  rw [toList_spelled_cons]
  cases w with
  | optional => exact ⟨'O', by simp [Spelling.opening], by decide⟩
  | typingOptional => exact ⟨'O', by simp [Spelling.opening], by decide⟩
  | noneAfter => exact ⟨'N', by simp [Spelling.closing], by decide⟩
  | noneBefore => exact ⟨'N', by simp [Spelling.opening], by decide⟩

theorem mem_spelled_of_optional (hw : w ∈ ws) (hopt : w.isAlternative = false) :
    '[' ∈ (spelled ws text).toList := by
  induction ws with
  | nil => cases hw
  | cons v ws ih =>
    rw [toList_spelled_cons]
    rcases List.mem_cons.1 hw with rfl | hw
    · cases w with
      | optional => simp [Spelling.opening]
      | typingOptional => simp [Spelling.opening]
      | noneAfter => cases hopt
      | noneBefore => cases hopt
    · have := ih hw
      simp [this]

theorem insideOptional?_eq_some {cs inner : List Char} (h : insideOptional? cs = some inner) :
    cs = "Optional[".toList ++ inner ++ [']'] := by
  unfold insideOptional? at h
  split at h
  · cases h
  · next rest hrest =>
    split at h
    · next inner' hinner =>
      split at h
      · cases h
      · -- The brackets are the two ends of what is left.
        rw [after?_eq_some_iff.1 hrest, ← List.reverse_reverse rest, hinner, ← Option.some.inj h]
        simp
    · cases h

/-- A text with a bracket has no column of its own, if what stands inside an `Optional` around all
of it is not the name of a class with a column. -/
theorem column_of_bracket (hbracket : '[' ∈ text.toList)
    (hinner : ∀ inner, insideOptional? (trimChars text.toList) = some inner →
      ∃ c ∈ inner, IsForeign c) :
    column (.text text) = .object := by
  have hforeign : IsForeign '[' := by decide
  rw [column]
  unfold withoutNone
  dsimp only
  split
  · next inner hinside =>
    obtain ⟨c, hc, hc'⟩ := hinner inner hinside
    exact ofTypeName_of_isForeign hc' hc
  · split
    · next one hone =>
      -- The part with the bracket is not `None`, so it is the one that is left.
      obtain ⟨part, hpart, hin⟩ := exists_mem_parts (show '[' ≠ '|' by decide) hforeign.1
        (mem_trimChars hbracket hforeign.1)
      have hne : part ≠ "None".toList := by
        intro heq
        rw [heq] at hin
        exact absurd hin (by decide)
      have hmem : part ∈
          ((splitAt '|' (trimChars text.toList)).map trimChars).filter (· != "None".toList) :=
        List.mem_filter.2 ⟨hpart, bne_iff_ne.2 hne⟩
      rw [hone, List.mem_singleton] at hmem
      refine ofTypeName_of_mem (c := '[') ?_ hforeign.2
      rwa [String.toList_ofList, ← hmem]
    · exact ofTypeName_of_isForeign hforeign hbracket

/-- The brackets are found only if an `Optional` is the outermost spelling. -/
theorem insideOptional?_spelled {inner : List Char}
    (h : insideOptional? (trimChars (spelled (w :: ws) text).toList) = some inner) :
    w = .optional ∧ inner = (spelled ws text).toList := by
  have heq := insideOptional?_eq_some h
  have hstart : "Optional[".toList <+: (spelled (w :: ws) text).toList.dropWhile isBlank := by
    have htrim : "Optional[".toList <+: trimChars (spelled (w :: ws) text).toList :=
      ⟨inner ++ [']'], by rw [heq, List.append_assoc]⟩
    exact htrim.trans (isPrefix_trimEnd _)
  rw [toList_spelled_cons] at heq hstart
  cases w with
  | optional =>
    refine ⟨rfl, ?_⟩
    have hclosing : Spelling.optional.closing.toList = [']'] := by decide
    rw [hclosing, trimChars_concat (by decide)] at heq
    have hfront := List.append_cancel_right heq
    simpa [Spelling.opening, isBlank] using hfront.symm
  | typingOptional =>
    -- The name of the module stands in front.
    exact absurd hstart (by simp [Spelling.opening, isBlank, List.cons_prefix_cons])
  | noneAfter =>
    -- There is no bracket at the end.
    have hclosing : Spelling.noneAfter.closing.toList = " | Non".toList ++ ['e'] := by decide
    rw [hclosing, ← List.append_assoc, trimChars_concat (by decide)] at heq
    have hlast : ['e'] = [']'] := List.append_inj_right' heq rfl
    cases hlast
  | noneBefore =>
    -- `None` stands in front.
    exact absurd hstart (by simp [Spelling.opening, isBlank, List.cons_prefix_cons])

/-- Behind anything but alternatives alone, or one `Optional` alone, no class is found. -/
theorem column_spelled_of_not_recognised (hws : ¬ Recognised ws) :
    column (.text (spelled ws text)) = .object := by
  rw [Recognised, not_or] at hws
  obtain ⟨hopt, hone⟩ := hws
  simp only [not_forall, Bool.not_eq_true] at hopt
  obtain ⟨v, hv, hvopt⟩ := hopt
  refine column_of_bracket (mem_spelled_of_optional hv hvopt) fun inner hinner => ?_
  cases ws with
  | nil => cases hv
  | cons w rest =>
    -- What stands inside is spelled with at least one more of them, so it is no name.
    obtain ⟨rfl, rfl⟩ := insideOptional?_spelled hinner
    cases rest with
    | nil => exact absurd rfl hone
    | cons w' rest => exact exists_isForeign w' rest text

end Spelled

/-- **The column of an optional type that is spelled in a text.** Around the name of a class that
has a column, alternatives make no difference, and one `Optional` makes none; with any other
spellings of the same type around it the column is the one of objects. -/
theorem column_spelled (ws : List Spelling) (p : Primitive) :
    column (.text p.name) = p.column ∧
    column (.text (spelled ws p.name)) = if Recognised ws then p.column else .object := by
  have hbare : column (.text (spelled [] p.name)) = p.column :=
    column_spelled_of_alternatives p (List.forall_mem_nil _)
  refine ⟨hbare, ?_⟩
  by_cases hws : Recognised ws
  · rw [if_pos hws]
    rcases hws with halternatives | rfl
    · exact column_spelled_of_alternatives p halternatives
    · exact column_of_withoutNone (by cases p <;> decide)
  · rw [if_neg hws]
    exact column_spelled_of_not_recognised hws

/-- One `Optional` and one alternative are too much already. -/
theorem optional_or_none_not_recognised :
    spelled [.noneAfter, .optional] "int" = "Optional[int] | None" ∧
    column (.text "Optional[int] | None") = .object ∧
    column (.text "int") = .int64 ∧
    column (.text "Optional[int]") = .int64 :=
  ⟨by decide, rfl, rfl, rfl⟩

end RecordSchema.TypeTerm
