import RecordSchema.Proofs.TypeTerm.Text
import RecordSchema.Proofs.TypeTerm.Union

/-!
# Columns of annotations

A union has a column of its own kind only if it is an optional type: one member beside `None`
(`OptionalOf`). Every other union is kept as objects.

Annotations that are alike have the same column (`column_of_alike`), although being alike is no
equivalence: two annotations that are alike to a third are alike to each other if that one has a
column of its own kind (`joins_of_column`), for it is built from texts and classes alone.
-/

set_option autoImplicit false

namespace RecordSchema.TypeTerm

open RecordSchema.Value

/-! ## Optional types -/

/-- The members of an optional type: one value and `None`, in either order. -/
structure OptionalOf (members : List Value) (m : Value) : Prop where
  ne : m ≠ noneClass
  members_eq : members = [m, noneClass] ∨ members = [noneClass, m]

section Unions

variable {v m : Value} {xs ys members : List Value}

theorem column_of_union (h : v.unionMembers? = some members) :
    column v = column (.union members) := by
  cases v with
  | union _ => rw [Option.some.inj h]
  | pipe _ =>
    obtain rfl := Option.some.inj h
    rfl
  | _ => cases h

theorem columnsBesideNone_cons_of_ne (h : m ≠ noneClass) (rest : List Value) :
    columnsBesideNone (m :: rest) = column m :: columnsBesideNone rest := by
  rw [columnsBesideNone, if_neg (mt isNoneClass_eq_true_iff.1 h)]

theorem columnsBesideNone_noneClass (rest : List Value) :
    columnsBesideNone (noneClass :: rest) = columnsBesideNone rest := by
  rw [columnsBesideNone, if_pos (isNoneClass_eq_true_iff.2 rfl)]

theorem columnsBesideNone_append (xs ys : List Value) :
    columnsBesideNone (xs ++ ys) = columnsBesideNone xs ++ columnsBesideNone ys := by
  induction xs with
  | nil => rfl
  | cons x xs ih =>
    by_cases hx : x = noneClass
    · rw [hx, List.cons_append, columnsBesideNone_noneClass, columnsBesideNone_noneClass, ih]
    · rw [List.cons_append, columnsBesideNone_cons_of_ne hx, columnsBesideNone_cons_of_ne hx, ih,
        List.cons_append]

theorem column_of_columnsBesideNone {c : ColumnType} (h : columnsBesideNone members = [c]) :
    column (.union members) = c := by
  rw [column, h]

theorem OptionalOf.column (h : OptionalOf members m) : column (.union members) = column m := by
  refine column_of_columnsBesideNone ?_
  rcases h.members_eq with rfl | rfl
  · rw [columnsBesideNone_cons_of_ne h.ne, columnsBesideNone_noneClass]
    rfl
  · rw [columnsBesideNone_noneClass, columnsBesideNone_cons_of_ne h.ne]
    rfl

theorem column_of_forall_ne (h : ∀ c, columnsBesideNone members ≠ [c]) :
    TypeTerm.column (.union members) = .object := by
  rw [TypeTerm.column]
  split
  · next c hc => exact absurd hc (h c)
  · rfl

theorem length_columnsBesideNone_of_notMem (h : noneClass ∉ members) :
    (columnsBesideNone members).length = members.length := by
  induction members with
  | nil => rfl
  | cons m rest ih =>
    rw [List.mem_cons, not_or] at h
    rw [columnsBesideNone_cons_of_ne (Ne.symm h.1), List.length_cons, List.length_cons, ih h.2]

/-- `None` is a member of a union once at most. -/
theorem notMem_of_allUnlike_cons (h : AllUnlike (noneClass :: members)) : noneClass ∉ members :=
  fun hmem => by cases (alike_noneClass_left.2 rfl).symm.trans ((List.pairwise_cons.1 h).1 _ hmem)

theorem length_le_length_columnsBesideNone (h : AllUnlike members) :
    members.length ≤ (columnsBesideNone members).length + 1 := by
  induction members with
  | nil => exact Nat.zero_le _
  | cons m rest ih =>
    by_cases hm : m = noneClass
    · subst hm
      rw [columnsBesideNone_noneClass,
        length_columnsBesideNone_of_notMem (notMem_of_allUnlike_cons h)]
      exact Nat.le_refl _
    · have hrest := ih (List.pairwise_cons.1 h).2
      rw [columnsBesideNone_cons_of_ne hm, List.length_cons, List.length_cons]
      omega

/-- A union is an optional type, or it is kept as objects. -/
theorem optionalOf_or_object (hunlike : AllUnlike members) (hseveral : 2 ≤ members.length) :
    (∃ m, OptionalOf members m) ∨
      (∀ m, ¬ OptionalOf members m) ∧ TypeTerm.column (.union members) = .object := by
  by_cases hoptional : ∃ m, OptionalOf members m
  · exact .inl hoptional
  rw [not_exists] at hoptional
  refine .inr ⟨hoptional, column_of_forall_ne fun c hc => ?_⟩
  have hlength := length_le_length_columnsBesideNone hunlike
  rw [hc, List.length_singleton] at hlength
  -- Two members of which one has a column are that one and `None`.
  match members, hseveral, hlength with
  | [a, b], _, _ =>
    by_cases ha : a = noneClass
    · subst ha
      have hb : b ≠ noneClass := fun hb =>
        notMem_of_allUnlike_cons hunlike (hb ▸ List.mem_singleton_self b)
      exact hoptional b ⟨hb, .inr rfl⟩
    · by_cases hb : b = noneClass
      · subst hb
        exact hoptional a ⟨ha, .inl rfl⟩
      · rw [columnsBesideNone_cons_of_ne ha, columnsBesideNone_cons_of_ne hb] at hc
        cases hc
  | _ :: _ :: _ :: _, _, hlength => simp at hlength

end Unions

/-! ## Annotations that are alike -/

section Alike

variable {xs ys : List Value} {x y : Value}

theorem OptionalOf.mem (h : OptionalOf xs x) : x ∈ xs ∧ noneClass ∈ xs := by
  rcases h.members_eq with rfl | rfl <;> simp

theorem OptionalOf.of_mem (hlength : xs.length = 2) (hx : x ∈ xs) (hne : x ≠ noneClass)
    (hnone : noneClass ∈ xs) : OptionalOf xs x := by
  refine ⟨hne, ?_⟩
  match xs, hlength with
  | [a, b], _ =>
    simp only [List.mem_cons, List.not_mem_nil, or_false] at hx hnone
    rcases hx with rfl | rfl
    · rcases hnone with rfl | rfl
      · exact absurd rfl hne
      · exact .inl rfl
    · rcases hnone with rfl | rfl
      · exact .inr rfl
      · exact absurd rfl hne

theorem OptionalOf.length (h : OptionalOf xs x) : xs.length = 2 := by
  rcases h.members_eq with rfl | rfl <;> rfl

theorem ne_noneClass_of_alike (h : alike x y = true) : x ≠ noneClass ↔ y ≠ noneClass := by
  constructor
  · rintro hx rfl
    exact hx (alike_noneClass_right.1 h)
  · rintro hy rfl
    exact hy (alike_noneClass_left.1 h)

/-- What has the members of an optional type is one. -/
theorem OptionalOf.of_sameMembers (h : OptionalOf xs x) (hsame : SameMembers xs ys) :
    ∃ y, OptionalOf ys y ∧ alike x y = true := by
  obtain ⟨hlength, hmembers⟩ := hsame
  obtain ⟨y, hy, hxy⟩ := hmembers x h.mem.1
  obtain ⟨n, hn, hnone⟩ := hmembers noneClass h.mem.2
  rw [alike_noneClass_left.1 hnone] at hn
  exact ⟨y, .of_mem (hlength ▸ h.length) hy ((ne_noneClass_of_alike hxy).1 h.ne) hn, hxy⟩

/-- What has as many members, each of them in an optional type, is one too, unless all are alike to
the member that is not `None`. -/
theorem OptionalOf.to_sameMembers (h : OptionalOf ys y) (hunlike : AllUnlike xs)
    (hsame : SameMembers xs ys) :
    (∃ x, OptionalOf xs x ∧ alike x y = true) ∨
      ∃ p q, xs = [p, q] ∧ alike p y = true ∧ alike q y = true := by
  obtain ⟨hlength, hmembers⟩ := hsame
  rw [h.length] at hlength
  have hmember : ∀ x ∈ xs, alike x y = true ∨ x = noneClass := by
    intro x hx
    obtain ⟨z, hz, hxz⟩ := hmembers x hx
    have hzs : z = y ∨ z = noneClass := by
      rcases h.members_eq with rfl | rfl
      · simpa using hz
      · simpa [or_comm] using hz
    rcases hzs with rfl | rfl
    · exact .inl hxz
    · exact .inr (alike_noneClass_right.1 hxz)
  -- `None` is not there twice, so one of the two is alike to the other member.
  match xs, hlength with
  | [p, q], _ =>
    rcases hmember p (by simp) with hp | rfl
    · rcases hmember q (by simp) with hq | rfl
      · exact .inr ⟨p, q, rfl, hp, hq⟩
      · exact .inl ⟨p, ⟨(ne_noneClass_of_alike hp).2 h.ne, .inl rfl⟩, hp⟩
    · rcases hmember q (by simp) with hq | rfl
      · exact .inl ⟨q, ⟨(ne_noneClass_of_alike hq).2 h.ne, .inr rfl⟩, hq⟩
      · exact absurd (List.mem_singleton_self _) (notMem_of_allUnlike_cons hunlike)

theorem OptionalOf.sameMembers (hx : OptionalOf xs x) (hy : OptionalOf ys y)
    (h : alike x y = true) : SameMembers xs ys := by
  refine ⟨hx.length.trans hy.length.symm, fun v hv => ?_⟩
  have hvs : v = x ∨ v = noneClass := by
    rcases hx.members_eq with rfl | rfl
    · simpa using hv
    · simpa [or_comm] using hv
  rcases hvs with rfl | rfl
  · exact ⟨y, hy.mem.1, h⟩
  · exact ⟨noneClass, hy.mem.2, alike_noneClass_left.2 rfl⟩

/-- Annotations that are alike to a value are alike to each other. -/
def Joins (y : Value) : Prop :=
  ∀ {v w : Value}, Proper v → Proper w → alike v y = true → alike w y = true → alike v w = true

/-- A union with the members of an optional type is an optional type, if the member beside `None`
joins what is alike to it: two such members would be alike to each other. -/
theorem OptionalOf.of_joins (h : OptionalOf ys y) (hjoins : Joins y) (hunlike : AllUnlike xs)
    (heach : ∀ x ∈ xs, Proper x) (hsame : SameMembers xs ys) :
    ∃ x, OptionalOf xs x ∧ alike x y = true := by
  rcases h.to_sameMembers hunlike hsame with hoptional | ⟨p, q, rfl, hp, hq⟩
  · exact hoptional
  · have hqp := hjoins (heach q (by simp)) (heach p (by simp)) hq hp
    cases hqp.symm.trans (allUnlike_pair.1 hunlike)

/-- Annotations of which two are alike to one with a column of its own kind are alike. -/
theorem joins_of_column {y : Value} (hy : Proper y) (hcolumn : column y ≠ .object) : Joins y := by
  intro v w hv hw hvy hwy
  induction hy generalizing v w with
  | orNone _ ih =>
    obtain ⟨v, rfl, hvy⟩ := alike_orNone_right.1 hvy
    obtain ⟨w, rfl, hwy⟩ := alike_orNone_right.1 hwy
    exact alike_orNone_left.2 ⟨w, rfl, ih hcolumn hv.of_orNone hw.of_orNone hvy hwy⟩
  | @union y members of several unlike _ _ ih =>
    rw [column_of_union of] at hcolumn
    obtain ⟨m, hm⟩ | ⟨-, hobject⟩ := optionalOf_or_object unlike several
    · rw [hm.column] at hcolumn
      have hjoins : Joins m := ih m hm.mem.1 hcolumn
      -- Both are optional types, with members beside `None` that are alike to the one here.
      obtain ⟨vs, hvs, hvsame⟩ := (alike_union_right of).1 hvy
      obtain ⟨ws, hws, hwsame⟩ := (alike_union_right of).1 hwy
      obtain ⟨hvunlike, -, hveach⟩ := hv.of_union hvs
      obtain ⟨hwunlike, -, hweach⟩ := hw.of_union hws
      obtain ⟨x, hx, hxm⟩ := hm.of_joins hjoins hvunlike (fun a ha => (hveach a ha).1) hvsame
      obtain ⟨z, hz, hzm⟩ := hm.of_joins hjoins hwunlike (fun a ha => (hweach a ha).1) hwsame
      have hxz := hjoins (hveach x hx.mem.1).1 (hweach z hz.mem.1).1 hxm hzm
      exact (alike_union_left hvs).2 ⟨ws, hws, hx.sameMembers hz hxz⟩
    · exact absurd hobject hcolumn
  | @single y noUnion noOrNone =>
    cases y with
    | text s =>
      rw [alike_text_right.1 hvy, alike_text_right.1 hwy]
      exact alike_text_right.2 rfl
    | classToken c =>
      rw [alike_classToken_right.1 hvy, alike_classToken_right.1 hwy]
      exact alike_classToken_right.2 rfl
    | orNone inner => exact absurd rfl (noOrNone inner)
    | union _ | pipe _ => cases noUnion
    | _ => exact absurd rfl hcolumn

/-- Annotations alike of which one is a single value have the same column. -/
theorem column_of_alike_single {v w : Value} (noUnion : v.unionMembers? = .none)
    (noOrNone : ∀ inner, v ≠ .orNone inner) (h : alike v w = true) : column v = column w := by
  cases w with
  | text s => rw [alike_text_right.1 h]
  | classToken c => rw [alike_classToken_right.1 h]
  | orNone inner =>
    obtain ⟨a, ha, -⟩ := alike_orNone_right.1 h
    exact absurd ha (noOrNone a)
  | union _ | pipe _ =>
    obtain ⟨xs, hxs, -⟩ := (alike_union_right rfl).1 h
    cases hxs.symm.trans noUnion
  | _ =>
    -- All that is left is kept as objects.
    cases v with
    | text s => cases alike_text_left.1 h
    | classToken c => cases alike_classToken_left.1 h
    | orNone inner => exact absurd rfl (noOrNone inner)
    | union _ | pipe _ => cases noUnion
    | _ => rfl

/-- Annotations that are alike have the same column. -/
theorem column_of_alike {v w : Value} (hv : Proper v) (hw : Proper w)
    (h : alike v w = true) : column v = column w := by
  induction hv generalizing w with
  | orNone _ ih =>
    obtain ⟨w, rfl, h⟩ := alike_orNone_left.1 h
    show column _ = column w
    exact ih hw.of_orNone h
  | @union v xs of several unlike _ each ih =>
    obtain ⟨ys, hys, hsame⟩ := (alike_union_left of).1 h
    obtain ⟨hunlike, hseveral, heach⟩ := hw.of_union hys
    rw [column_of_union of, column_of_union hys]
    obtain ⟨x, hx⟩ | ⟨hxs, hobject⟩ := optionalOf_or_object unlike several
    · obtain ⟨y, hy, hxy⟩ := hx.of_sameMembers hsame
      rw [hx.column, hy.column]
      exact ih x hx.mem.1 (heach y hy.mem.1).1 hxy
    · obtain ⟨y, hy⟩ | ⟨-, hobject'⟩ := optionalOf_or_object hunlike hseveral
      · -- Only the other is an optional type: then its member is kept as an object too.
        rw [hobject, hy.column]
        by_contra hcolumn
        have hjoins : Joins y := joins_of_column (heach y hy.mem.1).1 (Ne.symm hcolumn)
        obtain ⟨x, hx, -⟩ := hy.of_joins hjoins unlike each hsame
        exact hxs x hx
      · rw [hobject, hobject']
  | single noUnion noOrNone => exact column_of_alike_single noUnion noOrNone h

end Alike

/-! ## Widening -/

theorem column_union_append (members : List Value) :
    column (.union (members ++ [noneClass])) = column (.union members) := by
  rw [column, column, columnsBesideNone_append, columnsBesideNone_noneClass]
  simp [columnsBesideNone]

theorem column_of_member {v m : Value} (hnoText : ∀ s, v ≠ .text s) (h : member v = .ok m) :
    column m = column v := by
  rcases member_cases h with ⟨s, hs, -⟩ | ⟨-, rfl⟩
  · exact absurd hs (hnoText s)
  · cases v <;> rfl

/-- The union with `None` keeps the column. -/
theorem column_of_unionOfMembers {m w : Value} (hm : Proper m)
    (h : unionOfMembers [m, noneClass] = .ok w) : column w = column m := by
  cases hof : m.unionMembers? with
  | some members =>
    rw [column_of_union hof]
    obtain ⟨-, rfl⟩ | ⟨-, rfl⟩ := union_noneClass hm hof h
    · rfl
    · exact column_union_append members
  | none =>
    obtain ⟨rfl, rfl⟩ | ⟨hne, rfl⟩ := single_noneClass hof h
    · rfl
    · exact OptionalOf.column ⟨hne, .inl rfl⟩

/-- Widening keeps the column. -/
theorem column_of_widens {t w : Value} (h : Widens t w) : column w = column t := by
  cases h with
  | textKept => rfl
  | text refuses => exact column_text_append refuses
  | orNone => rfl
  | none => rfl
  | noneClass => rfl
  | unionKept of => exact (column_of_union of).symm
  | union of => rw [column_of_union of, column_union_append]
  | paired _ _ noClass => exact OptionalOf.column ⟨noClass, .inl rfl⟩
  | wrapped => rfl

end RecordSchema.TypeTerm
