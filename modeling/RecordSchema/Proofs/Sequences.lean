import RecordSchema.Proofs.Report
import Mathlib.Data.List.Forall2

/-!
# Lists gone through in order

A function that can fail, applied to each element of a list, gives a list that belongs to the first
one place by place (`mapM_eq_ok_iff`), or fails where it fails first (`mapM_eq_error_iff`).
Relations of two lists place by place are put together from what holds of each place.
-/

set_option autoImplicit false

namespace RecordSchema

section Traversals

variable {ε α β γ : Type}

theorem mapM_eq_ok_iff {f : α → Except ε β} {l : List α} {r : List β} :
    l.mapM f = .ok r ↔ List.Forall₂ (fun a b => f a = .ok b) l r := by
  induction l generalizing r with
  | nil =>
    rw [List.mapM_nil, List.forall₂_nil_left_iff]
    exact ⟨fun h => (Except.ok.inj h).symm, fun h => h ▸ rfl⟩
  | cons a l ih =>
    rw [List.mapM_cons, bind_eq_ok_iff]
    constructor
    · rintro ⟨b, hb, h⟩
      obtain ⟨bs, hbs, h⟩ := bind_eq_ok_iff.1 h
      rw [← Except.ok.inj h]
      exact .cons hb (ih.1 hbs)
    · intro h
      cases h with
      | cons hb hbs => exact ⟨_, hb, bind_eq_ok_iff.2 ⟨_, ih.2 hbs, rfl⟩⟩

/-- A list fails at the first element that does. -/
theorem mapM_eq_error_iff {f : α → Except ε β} {l : List α} {e : ε} :
    l.mapM f = .error e ↔
      ∃ before a after, l = before ++ a :: after ∧ (∀ c ∈ before, ∃ b, f c = .ok b) ∧
        f a = .error e := by
  induction l with
  | nil =>
    refine iff_of_false (fun h => by cases h) ?_
    rintro ⟨before, a, after, hl, -⟩
    exact absurd hl (by simp)
  | cons c l ih =>
    rw [List.mapM_cons, bind_eq_error_iff]
    constructor
    · -- The head fails, or it is passed and the rest fails.
      rintro (hc | ⟨b, hb, h⟩)
      · exact ⟨[], c, l, rfl, by simp, hc⟩
      · have hl : l.mapM f = .error e := by
          rcases bind_eq_error_iff.1 h with hl | ⟨bs, -, h⟩
          · exact hl
          · cases h
        obtain ⟨before, a, after, rfl, hbefore, ha⟩ := ih.1 hl
        refine ⟨c :: before, a, after, rfl, fun d hd => ?_, ha⟩
        rcases List.mem_cons.1 hd with rfl | hd
        · exact ⟨b, hb⟩
        · exact hbefore d hd
    · rintro ⟨before, a, after, hl, hbefore, ha⟩
      cases before with
      | nil =>
        obtain ⟨rfl, rfl⟩ := List.cons.inj hl
        exact Or.inl ha
      | cons d before =>
        obtain ⟨rfl, rfl⟩ := List.cons.inj hl
        obtain ⟨b, hb⟩ := hbefore c (List.mem_cons_self ..)
        have hrest := ih.2 ⟨before, a, after, rfl,
          fun d hd => hbefore d (List.mem_cons_of_mem c hd), ha⟩
        exact Or.inr ⟨b, hb, bind_eq_error_iff.2 (Or.inl hrest)⟩

theorem exists_mapM_eq_ok_iff {f : α → Except ε β} {l : List α} :
    (∃ r, l.mapM f = .ok r) ↔ ∀ a ∈ l, ∃ b, f a = .ok b := by
  cases h : l.mapM f with
  | ok r =>
    refine iff_of_true ⟨r, rfl⟩ fun a ha => ?_
    obtain ⟨i, hi, rfl⟩ := List.getElem_of_mem ha
    have hr := List.forall₂_iff_get.1 (mapM_eq_ok_iff.1 h)
    exact ⟨_, hr.2 i hi (hr.1 ▸ hi)⟩
  | error e =>
    obtain ⟨before, a, after, rfl, -, ha⟩ := mapM_eq_error_iff.1 h
    refine iff_of_false (fun ⟨r, hr⟩ => by cases hr) fun hall => ?_
    obtain ⟨b, hb⟩ := hall a (by simp)
    cases ha.symm.trans hb

theorem map_eq_map_of_forall₂ {R : α → β → Prop} {l : List α} {r : List β}
    (h : List.Forall₂ R l r) {f : α → γ} {g : β → γ} (hfg : ∀ a b, R a b → g b = f a) :
    r.map g = l.map f := by
  induction h with
  | nil => rfl
  | cons hab _ ih => rw [List.map_cons, List.map_cons, hfg _ _ hab, ih]

/-! ## Place by place -/

/-- A test that comes out alike for what is related leaves related lists. -/
theorem forall₂_filter {R : α → β → Prop} {l : List α} {r : List β} (h : List.Forall₂ R l r)
    {p : α → Bool} {q : β → Bool} (hpq : ∀ a b, R a b → q b = p a) :
    List.Forall₂ R (l.filter p) (r.filter q) :=
  List.rel_filter (fun a b hab => by simp only [hpq a b hab]) h

/-- What is related to something, each element by itself, is related to a list. -/
theorem exists_forall₂ {R : α → β → Prop} {as : List α} (h : ∀ a ∈ as, ∃ b, R a b) :
    ∃ bs, List.Forall₂ R as bs := by
  induction as with
  | nil => exact ⟨[], .nil⟩
  | cons a as ih =>
    obtain ⟨b, hb⟩ := h a (List.mem_cons_self ..)
    obtain ⟨bs, hbs⟩ := ih fun a' ha' => h a' (List.mem_cons_of_mem _ ha')
    exact ⟨b :: bs, .cons hb hbs⟩

theorem exists_left_of_mem {R : α → β → Prop} {as : List α} {bs : List β}
    (h : List.Forall₂ R as bs) {b : β} (hb : b ∈ bs) : ∃ a ∈ as, R a b := by
  induction h with
  | nil => cases hb
  | cons hab _ ih =>
    rcases List.mem_cons.1 hb with rfl | hb
    · exact ⟨_, List.mem_cons_self .., hab⟩
    · obtain ⟨a, ha, hab⟩ := ih hb
      exact ⟨a, List.mem_cons_of_mem _ ha, hab⟩

theorem forall₂_of_zip {R : α → β → Prop} {xs : List α} {ys : List β}
    (hlength : xs.length = ys.length) (h : ∀ p ∈ xs.zip ys, R p.1 p.2) : List.Forall₂ R xs ys :=
  List.forall₂_iff_zip.2 ⟨hlength, fun {a b} hab => h (a, b) hab⟩

/-- What is related, with what holds on the right. -/
theorem forall₂_and_right {R : α → β → Prop} {P : β → Prop} {xs : List α} {ys : List β}
    (h : List.Forall₂ R xs ys) (hP : ∀ y ∈ ys, P y) :
    List.Forall₂ (fun x y => R x y ∧ P y) xs ys :=
  (((List.forall₂_and_left ys xs).2 ⟨hP, h.flip⟩).flip).imp fun _ _ hxy => ⟨hxy.2, hxy.1⟩

/-- What is related by way of a list between is related. -/
theorem forall₂_chain {R : α → β → Prop} {S : β → γ → Prop} {T : α → γ → Prop}
    (hT : ∀ a b c, R a b → S b c → T a c) {xs : List α} {ys : List β} {zs : List γ}
    (h : List.Forall₂ R xs ys) (h' : List.Forall₂ S ys zs) : List.Forall₂ T xs zs := by
  induction h generalizing zs with
  | nil =>
    cases h'
    exact .nil
  | cons hab _ ih =>
    cases h' with
    | cons hbc hrest => exact .cons (hT _ _ _ hab hbc) (ih hrest)

/-- What two lists have to do with a third, place by place. -/
theorem forall₂_zip {R : α → β → Prop} {S : α → γ → Prop} {T : α × β → γ → Prop}
    (hT : ∀ a b c, R a b → S a c → T (a, b) c) {xs : List α} {ys : List β} {zs : List γ}
    (h : List.Forall₂ R xs ys) (h' : List.Forall₂ S xs zs) : List.Forall₂ T (xs.zip ys) zs := by
  induction h generalizing zs with
  | nil =>
    cases h'
    exact .nil
  | cons hab _ ih =>
    cases h' with
    | cons hac hrest => exact .cons (hT _ _ _ hab hac) (ih hrest)

end Traversals

end RecordSchema
