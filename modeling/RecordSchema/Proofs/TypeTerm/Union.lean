import RecordSchema.Proofs.Sequences
import RecordSchema.Proofs.Value.Alike
import RecordSchema.TypeTerm.Widening

/-!
# Unions as they are built

A union has at least two members, none of which is a union or alike to an earlier one; annotations
whose unions are like that are proper (`Proper`). Unions of proper annotations are proper
(`IsUnionOf.proper`), however they are written.

A field's type is widened in one of four ways (`Widens`): a text and a union with an opaque token by
rules of their own, and what a typing construct takes by a union with `None`, in which `None` comes
last if it is not yet there (`union_noneClass`).
-/

set_option autoImplicit false

namespace RecordSchema.TypeTerm

open RecordSchema.Value

/-- A proper annotation: its unions have at least two members, none of them a union or alike to an
earlier one. -/
inductive Proper : Value → Prop where
  | orNone {inner : Value} (of : Proper inner) : Proper (.orNone inner)
  | union {v : Value} {members : List Value} (of : v.unionMembers? = some members)
      (several : 2 ≤ members.length) (unlike : AllUnlike members)
      (flat : ∀ m ∈ members, m.unionMembers? = .none) (each : ∀ m ∈ members, Proper m) :
      Proper v
  | single {v : Value} (noUnion : v.unionMembers? = .none) (noOrNone : ∀ inner, v ≠ .orNone inner) :
      Proper v

theorem proper_noneClass : Proper noneClass := .single rfl nofun

section Flattened

variable {v w : Value} {members : List Value}

theorem flattened_of_union (h : v.unionMembers? = some members) : flattened v = members := by
  cases v with
  | union _ | pipe _ => exact Option.some.inj h
  | _ => cases h

theorem flattened_of_single (h : v.unionMembers? = .none) : flattened v = [v] := by
  cases v with
  | union _ | pipe _ => cases h
  | _ => rfl

theorem Proper.of_union (h : Proper v) (hof : v.unionMembers? = some members) :
    AllUnlike members ∧ 2 ≤ members.length ∧
      ∀ m ∈ members, Proper m ∧ m.unionMembers? = .none := by
  cases h with
  | orNone => cases hof
  | union of several unlike flat each =>
    obtain rfl := Option.some.inj (of.symm.trans hof)
    exact ⟨unlike, several, fun m hm => ⟨each m hm, flat m hm⟩⟩
  | single noUnion => cases hof.symm.trans noUnion

theorem Proper.of_orNone (h : Proper (.orNone v)) : Proper v := by
  cases h with
  | orNone of => exact of
  | union of => cases of
  | single _ noOrNone => exact absurd rfl (noOrNone v)

/-- The members of a proper annotation are proper and no unions. -/
theorem Proper.flattened (h : Proper v) :
    ∀ m ∈ flattened v, Proper m ∧ m.unionMembers? = .none := by
  intro m hm
  cases hv : v.unionMembers? with
  | some members =>
    rw [flattened_of_union hv] at hm
    exact (h.of_union hv).2.2 m hm
  | none =>
    rw [flattened_of_single hv, List.mem_singleton] at hm
    exact hm ▸ ⟨h, hv⟩

end Flattened

theorem Proper.flattened_ne_nil {v : Value} (h : Proper v) :
    TypeTerm.flattened v ≠ [] := by
  cases h with
  | orNone => exact List.cons_ne_nil _ _
  | union of several =>
    rw [flattened_of_union of]
    exact List.ne_nil_of_length_pos (by omega)
  | single noUnion =>
    rw [flattened_of_single noUnion]
    exact List.cons_ne_nil _ _

/-- The union of members: the only one that is left without repetitions, or a union of several. -/
inductive IsUnionOf (members : List Value) : Value → Prop where
  | one {v : Value} (left : distinct members = [v]) : IsUnionOf members v
  | several {v : Value} (left : v.unionMembers? = some (distinct members))
      (notOne : ∀ one, distinct members ≠ [one]) : IsUnionOf members v

section Built

variable {values members : List Value} {a b v w : Value}

/-- A union of proper annotations is proper. -/
theorem IsUnionOf.proper (h : IsUnionOf (values.flatMap flattened) w) (hne : values ≠ [])
    (hvalues : ∀ v ∈ values, Proper v) : Proper w := by
  have hmembers : ∀ m ∈ distinct (values.flatMap flattened),
      Proper m ∧ m.unionMembers? = .none := by
    intro m hm
    obtain ⟨v, hv, hm⟩ := List.mem_flatMap.1 (mem_of_mem_distinct hm)
    exact (hvalues v hv).flattened m hm
  cases h with
  | one left => exact (hmembers w (left ▸ List.mem_singleton_self w)).1
  | several left notOne =>
    refine .union left ?_ (allUnlike_distinct _) (fun m hm => (hmembers m hm).2)
      fun m hm => (hmembers m hm).1
    obtain ⟨v, hv⟩ := List.exists_mem_of_ne_nil values hne
    obtain ⟨m, hm⟩ := List.exists_mem_of_ne_nil _ (hvalues v hv).flattened_ne_nil
    have hfull : values.flatMap flattened ≠ [] :=
      List.ne_nil_of_mem (List.mem_flatMap.2 ⟨v, hv, hm⟩)
    -- No members are left only if there were none.
    match hd : distinct (values.flatMap flattened) with
    | [] => exact absurd hd (distinct_ne_nil hfull)
    | [only] => exact absurd hd (notOne only)
    | _ :: _ :: _ => simp

theorem isUnionOf_of_unionOfMembers (h : unionOfMembers values = .ok w) :
    IsUnionOf (values.flatMap flattened) w := by
  unfold unionOfMembers at h
  dsimp only at h
  split at h
  · cases h
  · split at h
    · next one hone => exact Except.ok.inj h ▸ .one hone
    · next hseveral => exact Except.ok.inj h ▸ .several rfl hseveral

theorem eq_of_unionOfMembers_one (h : unionOfMembers values = .ok w)
    (hone : distinct (values.flatMap flattened) = [v]) : w = v := by
  unfold unionOfMembers at h
  dsimp only at h
  rw [hone] at h
  split at h
  · cases h
  · exact (Except.ok.inj h).symm

theorem eq_of_unionOfMembers_several (h : unionOfMembers values = .ok w)
    (hdistinct : distinct (values.flatMap flattened) = members) (hseveral : 2 ≤ members.length) :
    w = .union members := by
  unfold unionOfMembers at h
  dsimp only at h
  rw [hdistinct] at h
  split at h
  · cases h
  · match members, hseveral with
    | _ :: _ :: _, _ => exact (Except.ok.inj h).symm

theorem unionOf_eq_ok_iff :
    unionOf values = .ok w ↔
      values ≠ [] ∧ ∃ ms, List.Forall₂ (fun v m => member v = .ok m) values ms ∧
        unionOfMembers ms = .ok w := by
  simp only [← mapM_eq_ok_iff]
  unfold unionOf
  cases values with
  | nil => simp [throw, throwThe, MonadExceptOf.throw]
  | cons v rest =>
    show ((v :: rest).mapM member >>= unionOfMembers) = .ok w ↔ _
    rw [bind_eq_ok_iff]
    simp

/-- What stands inside a typing construct is the value itself, the class for `None`, or a name that
is resolved later for a text. -/
theorem member_cases (h : member v = .ok w) :
    (∃ s, v = .text s ∧ w = .forwardRef s) ∨ (∀ s, v ≠ .text s) ∧ w = withNoneClass v := by
  unfold member at h
  split at h
  · cases h
  · cases v with
    | text s =>
      obtain ⟨-, -, hw⟩ := map_eq_ok_iff.1 h
      exact .inl ⟨s, rfl, hw.symm⟩
    | _ => exact .inr ⟨nofun, (Except.ok.inj h).symm⟩

theorem withNoneClass_of_ne (h : v ≠ .none) : withNoneClass v = v := by
  cases v with
  | none => exact absurd rfl h
  | _ => rfl

theorem withNoneClass_ne_none (v : Value) : withNoneClass v ≠ .none := by
  cases v <;> exact nofun

/-- What stands inside a typing construct is neither a text nor `None` itself. -/
theorem ne_of_member (h : member v = .ok w) : (∀ s, w ≠ .text s) ∧ w ≠ .none := by
  rcases member_cases h with ⟨s, -, rfl⟩ | ⟨hnoText, rfl⟩
  · exact ⟨nofun, nofun⟩
  · refine ⟨fun s hs => ?_, withNoneClass_ne_none v⟩
    cases v with
    | none => cases hs
    | _ => exact hnoText s hs

/-- What is neither a text nor `None` stands inside a typing construct as it is. -/
theorem eq_of_member (hnoText : ∀ s, v ≠ .text s) (hne : v ≠ .none) (h : member v = .ok w) :
    w = v := by
  rcases member_cases h with ⟨s, hs, -⟩ | ⟨-, rfl⟩
  · exact absurd hs (hnoText s)
  · exact withNoneClass_of_ne hne

/-- What stands inside a typing construct can stand there once more. -/
theorem member_of_member (h : member v = .ok w) : member w = .ok w := by
  rcases member_cases h with ⟨s, -, rfl⟩ | ⟨-, hw⟩
  · rfl
  · by_cases hnone : v = .none
    · rw [hw, hnone]
      rfl
    · rw [withNoneClass_of_ne hnone] at hw
      rwa [hw] at h ⊢

/-- The union of what stands for an annotation with `None` is made of it as it is. -/
theorem unionOf_noneClass {m : Value} (hm : member v = .ok m)
    (hmade : unionOfMembers [m, noneClass] = .ok w) : unionOf [m, noneClass] = .ok w :=
  unionOf_eq_ok_iff.2 ⟨List.cons_ne_nil _ _, [m, noneClass],
    .cons (member_of_member hm) (.cons rfl .nil), hmade⟩

theorem proper_of_member (hv : Proper v) (h : member v = .ok w) : Proper w := by
  rcases member_cases h with ⟨s, rfl, rfl⟩ | ⟨-, rfl⟩
  · exact .single rfl nofun
  · cases v with
    | none => exact proper_noneClass
    | _ => exact hv

theorem proper_of_unionOf (h : unionOf values = .ok w) (hvalues : ∀ v ∈ values, Proper v) :
    Proper w := by
  obtain ⟨hne, ms, hms, hw⟩ := unionOf_eq_ok_iff.1 h
  refine (isUnionOf_of_unionOfMembers hw).proper ?_ fun m hm => ?_
  · rintro rfl
    cases hms
    exact hne rfl
  · obtain ⟨v, hv, hm⟩ := exists_left_of_mem hms hm
    exact proper_of_member (hvalues v hv) hm

theorem proper_withNoneClass (hv : Proper v) : Proper (withNoneClass v) := by
  cases v with
  | none => exact proper_noneClass
  | _ => exact hv

theorem proper_of_bar (h : bar a b = .ok w) (ha : Proper a) (hb : Proper b) :
    Proper w := by
  unfold bar at h
  split at h
  · exact proper_of_unionOf h (by simp [ha, hb])
  · split at h
    · have happend : flattened (withNoneClass a) ++ flattened (withNoneClass b) =
          [withNoneClass a, withNoneClass b].flatMap flattened := by simp
      have hunion : IsUnionOf ([withNoneClass a, withNoneClass b].flatMap flattened) w := by
        rw [happend] at h
        split at h
        · next only honly => exact Except.ok.inj h ▸ .one honly
        · next hseveral => exact Except.ok.inj h ▸ .several rfl hseveral
      exact hunion.proper (List.cons_ne_nil _ _)
        (by simp [proper_withNoneClass ha, proper_withNoneClass hb])
    · cases h

end Built

/-! ## Widening -/

/-- An annotation and what it is widened to. -/
inductive Widens : Value → Value → Prop where
  | textKept {s : String} (admits : textAdmitsNone s = true) : Widens (.text s) (.text s)
  | text {s : String} (refuses : textAdmitsNone s = false) :
      Widens (.text s) (.text (s ++ " | None"))
  | orNone (inner : Value) : Widens (.orNone inner) (.orNone inner)
  | none : Widens .none noneClass
  | noneClass : Widens noneClass noneClass
  | unionKept {t : Value} {members : List Value} (of : t.unionMembers? = some members)
      (admits : Value.noneClass ∈ members) : Widens t (.union members)
  | union {t : Value} {members : List Value} (of : t.unionMembers? = some members)
      (refuses : Value.noneClass ∉ members) : Widens t (.union (members ++ [Value.noneClass]))
  | paired {t : Value} (takes : widensByUnion t = true) (noNone : t ≠ .none)
      (noClass : t ≠ Value.noneClass) (noUnion : t.unionMembers? = .none) :
      Widens t (.union [t, Value.noneClass])
  | wrapped {t : Value} (refuses : widensByUnion t = false) (noText : ∀ s, t ≠ .text s)
      (noOrNone : ∀ inner, t ≠ .orNone inner) : Widens t (.orNone t)

section Widening

variable {m t w : Value} {members : List Value}

theorem widen_of_takes (h : widensByUnion t = true) : widen t = optional t := by
  unfold widen
  split
  · cases h
  · cases h
  · rw [if_pos h]

/-- In a union `None` comes last if it is not there yet; otherwise the union stays. -/
theorem union_noneClass (hm : Proper m) (hof : m.unionMembers? = some members)
    (h : unionOfMembers [m, noneClass] = .ok w) :
    (noneClass ∈ members ∧ w = .union members) ∨
      noneClass ∉ members ∧ w = .union (members ++ [noneClass]) := by
  obtain ⟨hunlike, hseveral, -⟩ := hm.of_union hof
  have hflat : [m, noneClass].flatMap flattened = members ++ [noneClass] := by
    simp [flattened_of_union hof, flattened_of_single (v := noneClass) rfl]
  have hany : members.any (alike noneClass) = true ↔ noneClass ∈ members := by
    simp [alike_noneClass_left]
  -- The members are told apart already, so `None` is the only one to be added.
  have hdistinct : distinct ([m, noneClass].flatMap flattened) =
      if members.any (alike noneClass) then members else members ++ [noneClass] := by
    rw [hflat, distinct_concat, distinct_of_allUnlike hunlike]
  by_cases hmem : noneClass ∈ members
  · rw [if_pos (hany.2 hmem)] at hdistinct
    exact .inl ⟨hmem, eq_of_unionOfMembers_several h hdistinct hseveral⟩
  · rw [if_neg (mt hany.1 hmem)] at hdistinct
    refine .inr ⟨hmem, eq_of_unionOfMembers_several h hdistinct ?_⟩
    rw [List.length_append]
    omega

/-- A value that is no union stands before `None`, and `None` stands alone. -/
theorem single_noneClass (hof : m.unionMembers? = .none)
    (h : unionOfMembers [m, noneClass] = .ok w) :
    (m = noneClass ∧ w = noneClass) ∨ m ≠ noneClass ∧ w = .union [m, noneClass] := by
  have hflat : [m, noneClass].flatMap flattened = [m, noneClass] := by
    simp [flattened_of_single hof, flattened_of_single (v := noneClass) rfl]
  by_cases hm : m = noneClass
  · subst hm
    exact .inl ⟨rfl, eq_of_unionOfMembers_one h rfl⟩
  · refine .inr ⟨hm, eq_of_unionOfMembers_several h ?_ (Nat.le_refl 2)⟩
    rw [hflat]
    refine distinct_of_allUnlike (allUnlike_pair.2 ?_)
    exact Bool.eq_false_iff.2 (mt alike_noneClass_left.1 hm)

/-- An annotation that is widened is widened in one of these ways. -/
theorem widens_of_widen (ht : Proper t) (h : widen t = .ok w) : Widens t w := by
  unfold widen at h
  split at h
  · next s =>
    rw [← Except.ok.inj h]
    split
    · next admits => exact .textKept admits
    · next refuses => exact .text (Bool.eq_false_iff.2 refuses)
  · exact Except.ok.inj h ▸ .orNone _
  · next noText noOrNone =>
    split at h
    · next takes =>
      -- A construct takes it: `None` becomes its class, and a union gets one more member.
      obtain ⟨m, hm, h⟩ := bind_eq_ok_iff.1 h
      obtain ⟨s, rfl, -⟩ | ⟨-, rfl⟩ := member_cases hm
      · exact absurd rfl (noText s)
      by_cases hnone : t = .none
      · subst hnone
        obtain ⟨-, rfl⟩ | ⟨hne, -⟩ := single_noneClass rfl h
        · exact .none
        · exact absurd rfl hne
      rw [withNoneClass_of_ne hnone] at h
      cases hof : t.unionMembers? with
      | some members =>
        obtain ⟨admits, rfl⟩ | ⟨refuses, rfl⟩ := union_noneClass ht hof h
        · exact .unionKept hof admits
        · exact .union hof refuses
      | none =>
        obtain ⟨rfl, rfl⟩ | ⟨hne, rfl⟩ := single_noneClass hof h
        · exact .noneClass
        · exact .paired takes hnone hne hof
    · next refuses =>
      exact Except.ok.inj h ▸ .wrapped (Bool.eq_false_iff.2 refuses) noText noOrNone

end Widening

end RecordSchema.TypeTerm
