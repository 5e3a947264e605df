import RecordSchema.Proofs.TypeTerm.Text
import RecordSchema.Proofs.TypeTerm.Union

/-!
# Annotations and their texts, widened

An annotation that admits `None` keeps its text when it is widened, and any other gets `None` as a
last alternative (`render_of_widens`). A text is widened by what it looks like, so it is widened to
the text of the widened annotation exactly if it is recognised as what the annotation is
(`commutes_iff`). For unions that comes down to where `None` stands: a union shows its members
in their order, and only at its end is `None` recognised (`textAdmitsNone_render`).
-/

set_option autoImplicit false

namespace RecordSchema.TypeTerm

open RecordSchema.Text RecordSchema.Value

/-- An annotation that `None` conforms to. -/
inductive AdmitsNone : Value → Prop where
  | text {s : String} (recognised : textAdmitsNone s = true) : AdmitsNone (.text s)
  | none : AdmitsNone .none
  | noneClass : AdmitsNone Value.noneClass
  | orNone (inner : Value) : AdmitsNone (.orNone inner)
  | union {t : Value} {members : List Value} (of : t.unionMembers? = some members)
      (member : Value.noneClass ∈ members) : AdmitsNone t

section Rendering

variable {t w : Value} {members : List Value}

theorem renderAll_eq_map (members : List Value) : renderAll members = members.map render := by
  induction members with
  | nil => rfl
  | cons m members ih => rw [renderAll, ih, List.map_cons]

theorem render_of_union (h : t.unionMembers? = some members) :
    render t = " | ".intercalate (members.map render) := by
  cases t with
  | union _ | pipe _ =>
    obtain rfl := Option.some.inj h
    rw [render, renderAll_eq_map]
  | _ => cases h

theorem renderFault?_of_union (h : t.unionMembers? = some members) :
    renderFault? t = renderFaultIn members := by
  cases t with
  | union _ | pipe _ =>
    obtain rfl := Option.some.inj h
    rfl
  | _ => cases h

theorem renderFaultIn_append (xs ys : List Value) :
    renderFaultIn (xs ++ ys) = (renderFaultIn xs).or (renderFaultIn ys) := by
  induction xs with
  | nil => rfl
  | cons x xs ih => rw [List.cons_append, renderFaultIn, renderFaultIn, ih, Option.or_assoc]

theorem render_noneClass : render Value.noneClass = "None" := rfl

theorem admitsNone_text_iff {s : String} : AdmitsNone (.text s) ↔ textAdmitsNone s = true := by
  constructor
  · intro h
    cases h with
    | text recognised => exact recognised
    | union of => cases of
  · exact .text

theorem admitsNone_union_iff (h : t.unionMembers? = some members) :
    AdmitsNone t ↔ Value.noneClass ∈ members := by
  constructor
  · intro hadmits
    cases hadmits with
    | union of member => exact Option.some.inj (of.symm.trans h) ▸ member
    | _ => cases h
  · exact .union h

/-- A value that is no union and takes `None` beside it does not admit `None`. -/
theorem not_admitsNone_of_single (hnoText : ∀ s, t ≠ .text s) (hnone : t ≠ .none)
    (hclass : t ≠ Value.noneClass) (hnoOrNone : ∀ inner, t ≠ .orNone inner)
    (hunion : t.unionMembers? = .none) : ¬ AdmitsNone t := by
  intro h
  cases h with
  | text => exact hnoText _ rfl
  | none => exact hnone rfl
  | noneClass => exact hclass rfl
  | orNone inner => exact hnoOrNone inner rfl
  | union of => cases of.symm.trans hunion

/-- `None` at the end of a union is added at the end of its text. -/
theorem render_union_append_noneClass (hne : members ≠ []) :
    render (.union (members ++ [Value.noneClass])) =
      " | ".intercalate (members.map render) ++ " | None" := by
  rw [render_of_union rfl, List.map_append,
    String.intercalate_append_of_ne_nil (mt List.map_eq_nil_iff.1 hne) (by simp),
    List.map_singleton, String.intercalate_singleton, render_noneClass, String.append_assoc]
  rfl

/-- An annotation that admits `None` keeps its text when it is widened, and any other has `None`
added at its end. -/
theorem render_of_widens (ht : Proper t) (h : Widens t w) :
    (AdmitsNone t ∧ render w = render t) ∨
      ¬ AdmitsNone t ∧ render w = render t ++ " | None" := by
  cases h with
  | textKept admits => exact .inl ⟨.text admits, rfl⟩
  | text refuses =>
    refine .inr ⟨fun hadmits => ?_, rfl⟩
    cases refuses.symm.trans (admitsNone_text_iff.1 hadmits)
  | orNone inner => exact .inl ⟨.orNone inner, rfl⟩
  | none => exact .inl ⟨.none, rfl⟩
  | noneClass => exact .inl ⟨.noneClass, rfl⟩
  | unionKept of admits =>
    exact .inl ⟨.union of admits, by rw [render_of_union of, render_of_union rfl]⟩
  | @union _ members of refuses =>
    refine .inr ⟨mt (admitsNone_union_iff of).1 refuses, ?_⟩
    obtain ⟨-, hseveral, -⟩ := ht.of_union of
    rw [render_of_union of]
    exact render_union_append_noneClass (List.ne_nil_of_length_pos (by omega))
  | paired takes noNone noClass noUnion =>
    refine .inr ⟨not_admitsNone_of_single ?_ noNone noClass ?_ noUnion, ?_⟩
    · rintro s rfl
      cases takes
    · rintro inner rfl
      cases takes
    · -- The pair is written as a union of two members.
      have hpair := render_union_append_noneClass (List.cons_ne_nil t [])
      rwa [List.map_singleton, String.intercalate_singleton] at hpair
  | wrapped refuses noText noOrNone =>
    refine .inr ⟨not_admitsNone_of_single noText ?_ ?_ noOrNone ?_, rfl⟩
    · rintro rfl
      cases refuses
    · rintro rfl
      cases refuses
    · cases t with
      | union _ | pipe _ => cases refuses
      | _ => rfl

/-- Widening makes no difference to what goes wrong with the text. -/
theorem renderFault?_of_widens (h : Widens t w) : renderFault? w = renderFault? t := by
  cases h with
  | unionKept of => rw [renderFault?_of_union of, renderFault?_of_union rfl]
  | union of =>
    rw [renderFault?_of_union of, renderFault?_of_union rfl, renderFaultIn_append]
    exact Option.or_none
  | paired => exact Option.or_none
  | _ => rfl

/-! ## The text widened, and the text of what is widened -/

/-- The text of an annotation is widened to the text of what the annotation is widened to. -/
def Commutes (t w : Value) : Prop := widen (.text (render t)) = .ok (.text (render w))

theorem append_none_ne (s : String) : s ++ " | None" ≠ s := by
  intro h
  simpa using congrArg String.length h

/-- Text and annotation are widened alike exactly if they admit `None` alike. -/
theorem commutes_iff (ht : Proper t) (h : widen t = .ok w) :
    Commutes t w ↔ (textAdmitsNone (render t) = true ↔ AdmitsNone t) := by
  unfold Commutes widen
  dsimp only
  rw [Except.ok.injEq]
  rcases render_of_widens ht (widens_of_widen ht h) with ⟨hadmits, hw⟩ | ⟨hrefuses, hw⟩
  · -- The text stays, so it is right to keep it.
    rw [hw, iff_true_right hadmits]
    split
    · next hrecognised => exact iff_of_true rfl hrecognised
    · next hrecognised =>
      exact iff_of_false (fun heq => append_none_ne _ (Value.text.inj heq)) hrecognised
  · -- The text gets `None`, so it is right to add it.
    rw [hw, iff_false_right hrefuses]
    split
    · next hrecognised =>
      exact iff_of_false (fun heq => append_none_ne _ (Value.text.inj heq).symm)
        (not_not_intro hrecognised)
    · next hrecognised => exact iff_of_true rfl hrecognised

/-- A union is recognised by the text of its last member, or by how that of the first begins. -/
theorem textAdmitsNone_render {first last : Value} {between : List Value}
    (h : t.unionMembers? = some (first :: (between ++ [last]))) :
    textAdmitsNone (render t) =
      (endsAsNone (render last) || beginsOptional (render first).toList) := by
  rw [render_of_union h, List.map_cons, List.map_append, List.map_singleton]
  exact textAdmitsNone_intercalate _ _ _

theorem exists_ends {α : Type} {l : List α} (h : 2 ≤ l.length) :
    ∃ first between last, l = first :: (between ++ [last]) := by
  match l, h with
  | first :: second :: rest, _ =>
    exact ⟨first, (second :: rest).dropLast, (second :: rest).getLast (List.cons_ne_nil _ _),
      by rw [List.dropLast_append_getLast]⟩

/-- Where only `None` itself has a text that admits it, a union is widened like its text exactly if
`None` comes last in it, or not at all. -/
theorem commutes_union_iff (ht : Proper t) (h : widen t = .ok w)
    (hof : t.unionMembers? = some members)
    (htexts : ∀ m ∈ members, m ≠ Value.noneClass → textAdmitsNone (render m) = false) :
    Commutes t w ↔ (Value.noneClass ∈ members → members.getLast? = some Value.noneClass) := by
  rw [commutes_iff ht h, admitsNone_union_iff hof]
  obtain ⟨-, hseveral, -⟩ := ht.of_union hof
  obtain ⟨first, between, last, rfl⟩ := exists_ends hseveral
  have hlast : (first :: (between ++ [last])).getLast? = some last := by
    rw [← List.cons_append, List.getLast?_concat]
  have hfirst : beginsOptional (render first).toList = false := by
    by_cases hnone : first = Value.noneClass
    · rw [hnone]
      rfl
    · exact (Bool.or_eq_false_iff.1 (htexts first (by simp) hnone)).2
  -- What is left to compare is whether `None` is a member and whether it is the last one.
  rw [textAdmitsNone_render hof, hfirst, Bool.or_false, hlast, Option.some_inj]
  by_cases hnone : last = Value.noneClass
  · have hmember : Value.noneClass ∈ first :: (between ++ [last]) := by simp [hnone]
    have hends : endsAsNone (render last) = true := by
      rw [hnone]
      rfl
    exact iff_of_true (iff_of_true hends hmember) fun _ => hnone
  · have hends : endsAsNone (render last) = false :=
      (Bool.or_eq_false_iff.1 (htexts last (by simp) hnone)).1
    rw [hends, iff_false_left Bool.false_ne_true]
    exact ⟨fun hmember h => absurd h hmember, fun h hmember => hnone (h hmember)⟩

end Rendering

end RecordSchema.TypeTerm
