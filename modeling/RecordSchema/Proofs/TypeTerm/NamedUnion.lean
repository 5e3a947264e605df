import RecordSchema.Proofs.TypeTerm.Text
import RecordSchema.Proofs.Text.Identifier

/-!
# Unions of names, widened

A text can be a union written out: names between bars, with or without blanks around each
(`IsNamedUnion`). `None` can be any of the names, but it is recognised only as the last one
(`IsNamedUnion.textAdmitsNone_iff`). So a union is widened to itself exactly if `None` comes last in
it, and a union that has `None` in another place is given it a second time (`widen_namedUnion`).
-/

set_option autoImplicit false

namespace RecordSchema.TypeTerm

open RecordSchema.Text

/-- An identifier, or several with dots between them. -/
def IsDotted (name : String) : Prop :=
  ∀ part ∈ splitAt '.' name.toList, isIdentifierChars part = true

/-- A text is a union of names: without the blanks around it, each part between bars is a name. -/
structure IsNamedUnion (s : String) (names : List String) : Prop where
  parts_eq : parts s.toList = names.map String.toList
  several : 2 ≤ names.length
  dotted : ∀ name ∈ names, IsDotted name

/-! ## Names have no brackets -/

theorem IsDotted.notMem {name : String} (h : IsDotted name) : '[' ∉ name.toList := by
  intro hbracket
  obtain ⟨part, hpart, hin⟩ := exists_part_of_mem (show '[' ≠ '.' by decide) hbracket
  exact notMem_of_isIdentifierChars (by decide +kernel) (by decide +kernel) (h part hpart) hin

/-! ## The last part -/

/-- Of several parts it is the last that decides whether a text ends in `None`. -/
theorem endsInNone_iff_getLast? {cs : List Char} (h : '|' ∈ cs) :
    endsInNone cs = true ↔ (parts cs).getLast? = some "None".toList := by
  obtain ⟨front, last, rfl, hlast⟩ := exists_last_separator h
  have hno : endsInNone last = false := by
    -- There is no bar left for `None` to come after.
    refine Bool.eq_false_iff.2 fun hends => ?_
    obtain ⟨front', last', rfl, -⟩ := endsInNone_iff.1 hends
    exact hlast (by simp)
  rw [endsInNone_append, hno, Bool.or_false, parts_append, parts_of_notMem hlast,
    List.getLast?_concat, isNoneChars, beq_iff_eq, Option.some_inj]

namespace IsNamedUnion

variable {s : String} {names : List String}

theorem bar (h : IsNamedUnion s names) : '|' ∈ s.toList := by
  by_contra hbar
  have hone : names.length = 1 := by
    simpa [parts_of_notMem hbar] using (congrArg List.length h.parts_eq).symm
  have := h.several
  omega

theorem notMem (h : IsNamedUnion s names) : '[' ∉ s.toList := by
  intro hbracket
  obtain ⟨part, hpart, hin⟩ := exists_mem_parts (show '[' ≠ '|' by decide) rfl hbracket
  rw [h.parts_eq] at hpart
  obtain ⟨name, hname, rfl⟩ := List.mem_map.1 hpart
  exact (h.dotted name hname).notMem hin

theorem beginsOptional_eq (h : IsNamedUnion s names) : beginsOptional s.toList = false := by
  have hprefix : ∀ word : List Char, '[' ∈ word → ¬ word <+: s.toList.dropWhile isBlank := by
    intro word hword hstarts
    exact h.notMem ((List.dropWhile_sublist isBlank).subset (hstarts.subset hword))
  refine Bool.eq_false_iff.2 fun hbegins => ?_
  rcases beginsOptional_iff.1 hbegins with hstarts | hstarts
  · exact hprefix _ (by decide) hstarts
  · exact hprefix _ (by decide) hstarts

/-- A union is recognised as one that admits `None` exactly if `None` comes last in it. -/
theorem textAdmitsNone_iff (h : IsNamedUnion s names) :
    textAdmitsNone s = true ↔ names.getLast? = some "None" := by
  have hnone : isNoneChars s.toList = false :=
    Bool.eq_false_iff.2 fun hnone => notMem_of_isNoneChars hnone h.bar
  have hlast : (names.map String.toList).getLast? = some "None".toList ↔
      names.getLast? = some "None" := by
    rw [List.getLast?_map, Option.map_eq_some_iff]
    constructor
    · rintro ⟨name, hname, heq⟩
      rwa [String.toList_inj.1 heq] at hname
    · intro hname
      exact ⟨"None", hname, rfl⟩
  unfold textAdmitsNone
  dsimp only
  rw [hnone, h.beginsOptional_eq, Bool.false_or, Bool.or_false, endsInNone_iff_getLast? h.bar,
    h.parts_eq, hlast]

/-- `None` after a bar is one more name. -/
theorem append_none (h : IsNamedUnion s names) :
    IsNamedUnion (s ++ " | None") (names ++ ["None"]) where
  parts_eq := by
    rw [String.toList_append, parts_append_none, h.parts_eq, List.map_append, List.map_singleton]
  several := by
    have := h.several
    rw [List.length_append]
    omega
  dotted := by
    intro name hname
    rcases List.mem_append.1 hname with hname | hname
    · exact h.dotted name hname
    · rw [List.mem_singleton.1 hname]
      intro part hpart
      rw [List.mem_singleton.1 hpart]
      decide

end IsNamedUnion

/-- **A union of names is widened to itself exactly if `None` is the last of the names.** The type
in effect of a field that has to admit `None` is then a union of the same names; otherwise it has
`None` as one more name, also if `None` was among the names before. -/
theorem widen_namedUnion {s : String} {names : List String} (h : IsNamedUnion s names) :
    (widen (.text s) = .ok (.text s) ↔ names.getLast? = some "None") ∧
    ∃ w, effective (.text s) false false = .ok (.text w) ∧
      IsNamedUnion w (if names.getLast? = some "None" then names else names ++ ["None"]) := by
  have hwiden : widen (.text s) =
      .ok (if textAdmitsNone s then .text s else .text (s ++ " | None")) := rfl
  have heffective : effective (.text s) false false = widen (.text s) := rfl
  rw [heffective, hwiden]
  by_cases hlast : names.getLast? = some "None"
  · rw [if_pos (h.textAdmitsNone_iff.2 hlast), if_pos hlast]
    exact ⟨iff_of_true rfl hlast, s, rfl, h⟩
  · rw [if_neg (mt h.textAdmitsNone_iff.1 hlast), if_neg hlast]
    refine ⟨iff_of_false ?_ hlast, s ++ " | None", rfl, h.append_none⟩
    intro hsame
    simpa using congrArg String.length (Value.text.inj (Except.ok.inj hsame))

/-- With `None` at both ends, and blanks of several kinds around the names. -/
theorem widen_namedUnion_bothEnds :
    IsNamedUnion "None|a.B\t| None\n" ["None", "a.B", "None"] ∧
    widen (.text "None|a.B\t| None\n") = .ok (.text "None|a.B\t| None\n") := by
  have hunion : IsNamedUnion "None|a.B\t| None\n" ["None", "a.B", "None"] :=
    ⟨by decide, by decide, by unfold IsDotted; decide⟩
  exact ⟨hunion, (widen_namedUnion hunion).1.2 rfl⟩

/-- A union that begins with `None` is not widened to itself: it has `None` twice afterwards. -/
theorem leading_none_added_again :
    IsNamedUnion "None | int" ["None", "int"] ∧
    widen (.text "None | int") = .ok (.text "None | int | None") ∧
    widen (.text "None | int") ≠ .ok (.text "None | int") ∧
    IsNamedUnion "None | int | None" ["None", "int", "None"] := by
  have hunion : IsNamedUnion "None | int" ["None", "int"] :=
    ⟨by decide, by decide, by unfold IsDotted; decide⟩
  refine ⟨hunion, rfl, ?_, hunion.append_none⟩
  intro hsame
  exact absurd (Value.text.inj (Except.ok.inj hsame)) (by decide)

end RecordSchema.TypeTerm
