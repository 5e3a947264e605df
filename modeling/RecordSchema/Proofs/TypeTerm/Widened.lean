import RecordSchema.Proofs.TypeTerm.Text
import RecordSchema.Proofs.TypeTerm.Union

/-!
# What is widened, and what it is widened to

A union takes types that can be keys. Whether an annotation is widened by a union is decided before,
by its form alone, so there are classes and constructs that no union takes and that are not paired
with `None` either (`Resists`). These are refused, and nothing else is (`widen_of_resists`,
`exists_widen`).

What an annotation is widened to admits `None` in a way that widening recognises (`IsWidened`): a
text with `None` after its last bar, a pair with `None`, the class of `None`, or a union that has it
as a member. It is widened to itself (`widen_of_isWidened`), so widening is idempotent.
-/

set_option autoImplicit false

namespace RecordSchema.TypeTerm

open RecordSchema.Text RecordSchema.Value

variable {m t w : Value} {members : List Value}

/-! ## Unions of what can be a key -/

theorem allHashable_append (xs ys : List Value) :
    allHashable (xs ++ ys) = (allHashable xs && allHashable ys) := by
  induction xs with
  | nil => rfl
  | cons x xs ih => rw [List.cons_append, allHashable, allHashable, ih, Bool.and_assoc]

/-- A union can be a key if its members can. -/
theorem hashable_of_union (h : t.unionMembers? = some members) :
    t.hashable = allHashable members := by
  cases t with
  | union _ | pipe _ =>
    obtain rfl := Option.some.inj h
    rw [hashable]
  | _ => cases h

theorem allHashable_flattened (v : Value) : allHashable (flattened v) = v.hashable := by
  cases hof : v.unionMembers? with
  | some members => rw [flattened_of_union hof, hashable_of_union hof]
  | none =>
    rw [flattened_of_single hof, allHashable, allHashable]
    exact Bool.and_true _

theorem allHashable_flatMap (values : List Value) :
    allHashable (values.flatMap flattened) = allHashable values := by
  induction values with
  | nil => rfl
  | cons v values ih =>
    rw [List.flatMap_cons, allHashable_append, allHashable_flattened, ih, allHashable]

theorem unionOfMembers_of_keyless (h : allHashable members = false) :
    unionOfMembers members = .error .wrongKind := by
  unfold unionOfMembers
  dsimp only
  rw [allHashable_flatMap, h]
  rfl

theorem exists_unionOfMembers (h : allHashable members = true) :
    ∃ w, unionOfMembers members = .ok w := by
  unfold unionOfMembers
  dsimp only
  rw [allHashable_flatMap, h]
  split
  · next hnot => cases hnot
  · split
    · exact ⟨_, rfl⟩
    · exact ⟨_, rfl⟩

/-- Something and `None` make a union if it can be a key. -/
theorem allHashable_noneClass (m : Value) : allHashable [m, noneClass] = m.hashable := by
  rw [allHashable, allHashable, allHashable]
  exact Bool.and_true _

/-! ## Annotations that are refused -/

/-- An annotation that is widened by a union, although no union takes it: one that qualifies a name
as a class variable or as set only once, one of the classes that others are made generic by, with
or without arguments, notes on such a class or on a bare qualifier, and a construct with a part that
can be no key. -/
inductive Resists : Value → Prop where
  | classVar (inner : Value) : Resists (.classVar inner)
  | setOnce (args : List Value) : Resists (.alias .typing "Final" args)
  | genericBase {t : Value} (base : isGenericBase t = true) : Resists t
  | generic {name : String} (args : List Value) (base : name = "Generic" ∨ name = "Protocol") :
      Resists (.alias .typing name args)
  | noted {base : Value} (notes : List Value)
      (unfit : isGenericBase base = true ∨ isQualifier base = true) :
      Resists (.annotated base notes)
  | keyless {t : Value} (construct : hasOrigin t = true) (keyless : t.hashable = false) : Resists t

theorem widensByUnion_iff :
    widensByUnion t = true ↔ t = .none ∨ t.isClass = true ∨ hasOrigin t = true := by
  cases t <;> simp [widensByUnion]

theorem isClass_of_isGenericBase (h : isGenericBase t = true) : t.isClass = true := by
  cases t with
  | classToken c => rfl
  | _ => cases h

/-- Of the classes only those two are no types. -/
theorem isNoType_classToken (c : ClassName) :
    isNoType (.classToken c) = isGenericBase (.classToken c) := Bool.or_false _

/-- What resists is tried by a union, and is no type or can be no key. -/
theorem Resists.cases (h : Resists t) :
    widensByUnion t = true ∧ (isNoType t = true ∨ hasOrigin t = true ∧ t.hashable = false) := by
  cases h with
  | classVar | setOnce => exact ⟨rfl, .inl rfl⟩
  | genericBase base =>
    refine ⟨widensByUnion_iff.2 (.inr (.inl (isClass_of_isGenericBase base))), .inl ?_⟩
    cases t with
    | classToken c => rwa [isNoType_classToken]
    | _ => cases base
  | generic args base =>
    rcases base with rfl | rfl
    · exact ⟨rfl, .inl rfl⟩
    · exact ⟨rfl, .inl rfl⟩
  | noted notes unfit => exact ⟨rfl, .inl (by rw [isNoType, Bool.or_eq_true]; exact unfit)⟩
  | keyless construct keyless =>
    exact ⟨widensByUnion_iff.2 (.inr (.inr construct)), .inr ⟨construct, keyless⟩⟩

/-- What is tried by a union and is no type resists. -/
theorem resists_of_isNoType (htakes : widensByUnion t = true) (h : isNoType t = true) :
    Resists t := by
  cases t with
  | classVar inner => exact .classVar inner
  | «alias» family name args =>
    cases family with
    | typing =>
      rw [isNoType] at h
      simp only [List.contains_cons, List.contains_nil, Bool.or_false, Bool.or_eq_true,
        beq_iff_eq] at h
      rcases h with rfl | rfl | rfl
      · exact .generic args (.inl rfl)
      · exact .generic args (.inr rfl)
      · exact .setOnce args
    | _ => cases h
  | annotated base notes =>
    rw [isNoType, Bool.or_eq_true] at h
    exact .noted notes h
  | classToken c =>
    rw [isNoType_classToken] at h
    exact .genericBase h
  | handle id kind shown =>
    cases kind with
    | object className =>
      have hform : isForm (.handle id (.object className) shown) = true := by
        simp only [isNoType, Bool.or_eq_true, Bool.and_eq_true] at h
        exact (h.resolve_left nofun).1
      simp only [isForm, Bool.or_eq_true, beq_iff_eq] at hform
      -- A form without arguments has no origin.
      rcases hform with rfl | rfl
      · cases htakes
      · cases htakes
    | _ => cases h
  | bareClassVar | tuple => cases htakes
  | _ => cases h

theorem member_of_isNoType (h : isNoType t = true) : member t = .error .wrongKind := by
  rw [member, if_pos h]

/-- A type that is tried by a union stands beside `None` as it is. -/
theorem member_of_type (htakes : widensByUnion t = true) (htype : ¬ isNoType t = true) :
    member t = .ok (withNoneClass t) := by
  rw [member, if_neg htype]
  cases t with
  | text => cases htakes
  | _ => rfl

theorem member_of_takes (htakes : widensByUnion t = true) (ht : ¬ Resists t) :
    member t = .ok (withNoneClass t) :=
  member_of_type htakes (mt (resists_of_isNoType htakes) ht)

theorem optional_of_resists (h : Resists t) : optional t = .error .wrongKind := by
  obtain ⟨htakes, hcause⟩ := h.cases
  unfold optional
  by_cases hno : isNoType t = true
  · rw [member_of_isNoType hno, error_bind]
  · obtain ⟨construct, keyless⟩ := hcause.resolve_left hno
    have hne : t ≠ .none := by
      rintro rfl
      cases construct
    rw [member_of_type htakes hno, withNoneClass_of_ne hne, ok_bind, unionOfMembers_of_keyless]
    rw [allHashable_noneClass, keyless]

theorem widen_of_resists (h : Resists t) : widen t = .error .wrongKind := by
  rw [widen_of_takes h.cases.1]
  exact optional_of_resists h

/-- What is widened by a union can be a key, unless it is refused. -/
theorem hashable_of_takes (h : widensByUnion t = true) (ht : ¬ Resists t) : t.hashable = true := by
  rcases widensByUnion_iff.1 h with rfl | hclass | horigin
  · rfl
  · cases t with
    | classToken | recordClass | anyType => rfl
    | handle _ kind _ =>
      cases kind with
      | classObject => rfl
      | _ => cases hclass
    | _ => cases hclass
  · by_contra hkeyless
    exact ht (.keyless horigin (Bool.eq_false_iff.2 hkeyless))

/-- Everything that does not resist is widened. -/
theorem exists_widen (ht : ¬ Resists t) : ∃ w, widen t = .ok w := by
  by_cases htakes : widensByUnion t = true
  · have hkeys : allHashable [withNoneClass t, noneClass] = true := by
      rw [allHashable_noneClass]
      cases t with
      | none => rfl
      | _ => exact hashable_of_takes htakes ht
    rw [widen_of_takes htakes, optional, member_of_takes htakes ht]
    exact exists_unionOfMembers hkeys
  · unfold widen
    split
    · exact ⟨_, rfl⟩
    · exact ⟨_, rfl⟩
    · exact ⟨_, if_neg htakes⟩

theorem not_resists_of_widen (h : widen t = .ok w) : ¬ Resists t := by
  intro ht
  cases h.symm.trans (widen_of_resists ht)

/-- An opaque token is paired with `None`. -/
theorem widen_of_opaque (h : widensByUnion t = false) (hnoText : ∀ s, t ≠ .text s)
    (hnoOrNone : ∀ inner, t ≠ .orNone inner) : widen t = .ok (.orNone t) := by
  unfold widen
  split
  · exact absurd rfl (hnoText _)
  · exact absurd rfl (hnoOrNone _)
  · rw [h]
    rfl

/-! ## Annotations that are widened already -/

/-- What an annotation is widened to. -/
inductive IsWidened : Value → Prop where
  | text {s : String} (admits : textAdmitsNone s = true) : IsWidened (.text s)
  | orNone (inner : Value) : IsWidened (.orNone inner)
  | noneClass : IsWidened Value.noneClass
  | union {members : List Value} (admits : Value.noneClass ∈ members)
      (keys : allHashable members = true) : IsWidened (.union members)

/-- However a text ends, `None` behind one more bar is recognised. -/
theorem textAdmitsNone_append (s : String) : textAdmitsNone (s ++ " | None") = true := by
  have htext : (s ++ " | None").toList = (s.toList ++ [' ']) ++ '|' :: " None".toList := by
    rw [String.toList_append, List.append_assoc]
    rfl
  have hends : endsInNone (s ++ " | None").toList = true := by
    rw [htext, endsInNone_append]
    rfl
  unfold textAdmitsNone
  dsimp only
  rw [hends, Bool.or_true, Bool.true_or]

/-- A union with `None` is widened, whether `None` was there before or not. -/
theorem isWidened_of_unionOfMembers (hm : Proper m)
    (h : unionOfMembers [m, noneClass] = .ok w) : IsWidened w := by
  -- A union is refused if one of its members has no key.
  have hkeys : m.hashable = true := by
    by_contra hkeyless
    rw [unionOfMembers_of_keyless] at h
    · cases h
    · rw [allHashable_noneClass]
      exact Bool.eq_false_iff.2 hkeyless
  cases hof : m.unionMembers? with
  | some members =>
    rw [hashable_of_union hof] at hkeys
    rcases union_noneClass hm hof h with ⟨admits, rfl⟩ | ⟨-, rfl⟩
    · exact .union admits hkeys
    · refine .union (List.mem_append_right _ (List.mem_singleton_self _)) ?_
      rw [allHashable_append, hkeys]
      rfl
  | none =>
    rcases single_noneClass hof h with ⟨-, rfl⟩ | ⟨-, rfl⟩
    · exact .noneClass
    · refine .union (List.mem_cons_of_mem _ (List.mem_singleton_self _)) ?_
      rw [allHashable_noneClass, hkeys]

theorem isWidened_of_widen (ht : Proper t) (h : widen t = .ok w) : IsWidened w := by
  by_cases htakes : widensByUnion t = true
  · rw [widen_of_takes htakes] at h
    obtain ⟨m, hm, hw⟩ := bind_eq_ok_iff.1 h
    exact isWidened_of_unionOfMembers (proper_of_member ht hm) hw
  · unfold widen at h
    split at h
    · rw [← Except.ok.inj h]
      split
      · next admits => exact .text admits
      · exact .text (textAdmitsNone_append _)
    · exact Except.ok.inj h ▸ .orNone _
    · rw [if_neg htakes] at h
      exact Except.ok.inj h ▸ .orNone _

/-- An annotation that is widened by a union and is widened already stands as it is
beside `None`. -/
theorem IsWidened.member_eq (h : IsWidened w) (htakes : widensByUnion w = true) :
    TypeTerm.member w = .ok w := by
  cases h with
  | text | orNone => cases htakes
  | noneClass | union => rfl

/-- What is widened already stays as it is. -/
theorem widen_of_isWidened (hw : Proper w) (h : IsWidened w) : widen w = .ok w := by
  cases h with
  | text admits => rw [widen, if_pos admits]
  | orNone inner => rfl
  | noneClass => rfl
  | @union members admits keys =>
    have htakes : ¬ Resists (.union members) := by
      intro hresists
      cases hresists with
      | genericBase base => cases base
      | keyless _ keyless =>
        rw [hashable_of_union rfl, keys] at keyless
        cases keyless
    obtain ⟨w, hw'⟩ := exists_widen htakes
    rw [hw']
    obtain ⟨m, hm, hmade⟩ := bind_eq_ok_iff.1 ((widen_of_takes rfl).symm.trans hw')
    obtain rfl := Except.ok.inj hm
    -- `None` is a member, so the union gets no other.
    rcases union_noneClass hw rfl hmade with ⟨-, rfl⟩ | ⟨refuses, -⟩
    · rfl
    · exact absurd admits refuses

/-- Widening a second time makes no difference. -/
theorem widen_of_widen (ht : Proper t) (hw : Proper w) (h : widen t = .ok w) : widen w = .ok w :=
  widen_of_isWidened hw (isWidened_of_widen ht h)

end RecordSchema.TypeTerm
