import RecordSchema.Json.Writer
import Mathlib.Data.String.Basic
import Mathlib.Data.List.Nodup

/-!
# Sorting keys

The canonical layout sorts what stands under keys by runs and insertion. On elements that are
compared by a key in a linear order, what comes out is ordered by the key and has the same elements
(`sortByRuns_spec`). Insertion by halving keeps between its bounds the place at which the element
belongs (`Brackets`), which each comparison narrows down. Whatever the comparison says, no element
is lost (`sortByRuns_perm`).

Under distinct keys there is only one order, so what is sorted does not depend on the order in which
it was listed (`sortedByKey_congr`).
-/

set_option autoImplicit false

namespace RecordSchema.Json

section Order

variable {α κ : Type} [LinearOrder κ] {less : α → α → Bool} {key : α → κ} {P : α → Prop}

/-- A comparison goes by a key on some elements. -/
def GoesBy (less : α → α → Bool) (key : α → κ) (P : α → Prop) : Prop :=
  ∀ a b, P a → P b → (less a b = true ↔ key a < key b)

/-- Elements in the order of their keys. -/
def Ordered (key : α → κ) (xs : List α) : Prop := xs.Pairwise fun a b => key a ≤ key b

/-! ## Insertion -/

/-- An element belongs behind the first `low` elements and before those from `high` on. -/
structure Brackets (key : α → κ) (x : α) (xs : List α) (low high : Nat) : Prop where
  le : low ≤ high
  bound : high ≤ xs.length
  before : ∀ y ∈ xs.take low, key y ≤ key x
  after : ∀ y ∈ xs.drop high, key x < key y

/-- A comparison with an element between the bounds narrows them down. -/
theorem Brackets.narrow {x : α} {xs : List α} {low high middle : Nat}
    (h : Brackets key x xs low high) (hxs : Ordered key xs) (hlow : low ≤ middle)
    (hhigh : middle < high) (hm : middle < xs.length) :
    (key x < key xs[middle] → Brackets key x xs low middle) ∧
    (key xs[middle] ≤ key x → Brackets key x xs (middle + 1) high) := by
  have hsplit : xs = xs.take middle ++ xs[middle] :: xs.drop (middle + 1) := by
    rw [← List.drop_eq_getElem_cons hm, List.take_append_drop]
  have hordered := hxs
  unfold Ordered at hordered
  rw [hsplit, List.pairwise_append, List.pairwise_cons] at hordered
  -- What is behind the middle is not less than it, and what is before it not greater.
  obtain ⟨-, ⟨hbehind, -⟩, hcross⟩ := hordered
  constructor
  · intro hless
    refine ⟨hlow, hm.le, h.before, fun y hy => ?_⟩
    rw [List.drop_eq_getElem_cons hm, List.mem_cons] at hy
    rcases hy with rfl | hy
    · exact hless
    · exact lt_of_lt_of_le hless (hbehind y hy)
  · intro hle
    refine ⟨hhigh, h.bound, fun y hy => ?_, h.after⟩
    rw [List.take_succ_eq_append_getElem hm, List.mem_append, List.mem_singleton] at hy
    rcases hy with hy | rfl
    · exact (hcross y hy _ (List.mem_cons_self ..)).trans hle
    · exact hle

/-- The list with an element at a place. -/
def insertedAt (x : α) (xs : List α) (place : Nat) : List α := xs.take place ++ x :: xs.drop place

theorem insertedAt_perm (x : α) (xs : List α) (place : Nat) :
    (insertedAt x xs place).Perm (x :: xs) := by
  unfold insertedAt
  refine List.perm_middle.trans (List.Perm.cons x ?_)
  rw [List.take_append_drop]

theorem ordered_insertedAt {x : α} {xs : List α} {place : Nat} (hxs : Ordered key xs)
    (h : Brackets key x xs place place) : Ordered key (insertedAt x xs place) := by
  have hordered := hxs
  unfold Ordered at hordered
  rw [← List.take_append_drop place xs, List.pairwise_append] at hordered
  obtain ⟨hbefore, hafter, hcross⟩ := hordered
  refine List.pairwise_append.2 ⟨hbefore, List.pairwise_cons.2 ⟨?_, hafter⟩, ?_⟩
  · exact fun y hy => (h.after y hy).le
  · intro y hy z hz
    rcases List.mem_cons.1 hz with rfl | hz
    · exact h.before y hy
    · exact hcross y hy z hz

theorem insertIdx_eq_insertedAt (x : α) {xs : List α} {place : Nat} (h : place ≤ xs.length) :
    xs.insertIdx place x = insertedAt x xs place := by
  induction place generalizing xs with
  | zero => rfl
  | succ place ih =>
    cases xs with
    | nil => cases h
    | cons y ys =>
      rw [List.insertIdx_succ_cons, ih (Nat.le_of_succ_le_succ h)]
      rfl

theorem toList_insertIdxIfInBounds (x : α) {sorted : Array α} {place : Nat}
    (h : place ≤ sorted.size) :
    (sorted.insertIdxIfInBounds place x).toList = insertedAt x sorted.toList place := by
  obtain ⟨xs⟩ := sorted
  rw [List.insertIdxIfInBounds_toArray]
  exact insertIdx_eq_insertedAt x h

/-- Insertion by halving puts an element where it belongs. -/
theorem exists_insertHalving (hless : GoesBy less key P) {x : α} (hx : P x) {sorted : Array α}
    (hP : ∀ y ∈ sorted.toList, P y) (hsorted : Ordered key sorted.toList) :
    ∀ fuel low high, high - low < fuel → Brackets key x sorted.toList low high →
      ∃ place, Brackets key x sorted.toList place place ∧
        (insertHalving less x sorted fuel low high).toList = insertedAt x sorted.toList place := by
  intro fuel
  induction fuel with
  | zero => intro low high hfuel; omega
  | succ fuel ih =>
    intro low high hfuel h
    have hsize : high ≤ sorted.size := by simpa using h.bound
    unfold insertHalving
    by_cases hlt : low < high
    · rw [if_pos hlt]
      have hm : low + (high - low) / 2 < sorted.size := by omega
      have hm' : low + (high - low) / 2 < sorted.toList.length := by simpa using hm
      obtain ⟨hleft, hright⟩ := h.narrow hsorted (Nat.le_add_right _ _) (by omega) hm'
      have hy := hless x sorted[low + (high - low) / 2] hx (hP _ (by simp))
      simp only [Array.getElem?_eq_getElem hm]
      -- Either half is shorter, and the element belongs to it.
      cases hc : less x sorted[low + (high - low) / 2] with
      | true =>
        simp only [if_true]
        exact ih _ _ (by omega) (hleft (by simpa using hy.1 hc))
      | false =>
        simp only [Bool.false_eq_true, if_false]
        refine ih _ _ (by omega) (hright ?_)
        rw [hc, Bool.false_eq_true, false_iff, not_lt] at hy
        simpa using hy
    · rw [if_neg hlt]
      have heq : low = high := Nat.le_antisymm h.le (Nat.not_lt.1 hlt)
      subst heq
      exact ⟨low, h, toList_insertIdxIfInBounds x hsize⟩

/-- Inserting elements one by one. -/
theorem insertAll_spec (hless : GoesBy less key P) {sorted : Array α} {xs : List α}
    (hP : ∀ y ∈ sorted.toList, P y) (hxs : ∀ x ∈ xs, P x) (hsorted : Ordered key sorted.toList) :
    let result := (xs.foldl
      (fun sorted x => insertHalving less x sorted (sorted.size + 1) 0 sorted.size) sorted).toList
    Ordered key result ∧ result.Perm (sorted.toList ++ xs) := by
  intro result
  induction xs generalizing sorted with
  | nil => exact ⟨hsorted, .of_eq (List.append_nil _).symm⟩
  | cons x xs ih =>
    -- Halving starts from the whole, with fuel for more steps than there are places.
    have hwhole : Brackets key x sorted.toList 0 sorted.size :=
      ⟨Nat.zero_le _, Nat.le_refl _, by simp, by simp [← Array.length_toList]⟩
    obtain ⟨place, hplace, hinserted⟩ := exists_insertHalving hless (hxs x (List.mem_cons_self ..))
      hP hsorted (sorted.size + 1) 0 sorted.size (by omega) hwhole
    have hperm := insertedAt_perm x sorted.toList place
    have hordered := ordered_insertedAt hsorted hplace
    rw [← hinserted] at hperm hordered
    have hP' : ∀ y ∈ (insertHalving less x sorted (sorted.size + 1) 0 sorted.size).toList, P y := by
      intro y hy
      rcases List.mem_cons.1 (hperm.mem_iff.1 hy) with rfl | hy
      · exact hxs _ (List.mem_cons_self ..)
      · exact hP y hy
    obtain ⟨hresult, hall⟩ := ih hP' (fun y hy => hxs y (List.mem_cons_of_mem _ hy)) hordered
    refine ⟨hresult, hall.trans ?_⟩
    exact (hperm.append_right xs).trans List.perm_middle.symm

/-! ## Runs -/

/-- A run in which each element compares with the one before it is ordered throughout. -/
theorem pairwise_run {R : α → α → Prop} (trans : ∀ a b c, R a b → R b c → R a c)
    (next : α → α → Bool) (before : α) (xs : List α)
    (hnext : ∀ a ∈ before :: xs, ∀ b ∈ before :: xs, next a b = true → R a b) :
    (before :: xs.take (runLength next before xs)).Pairwise R := by
  induction xs generalizing before with
  | nil => exact List.pairwise_singleton R before
  | cons x xs ih =>
    unfold runLength
    by_cases hx : next before x = true
    · rw [if_pos hx, List.take_succ_cons]
      have hrest := ih x fun a ha b hb =>
        hnext a (List.mem_cons_of_mem _ ha) b (List.mem_cons_of_mem _ hb)
      have hfirst : R before x :=
        hnext before (List.mem_cons_self ..) x (List.mem_cons_of_mem _ (List.mem_cons_self ..)) hx
      -- The first is before all the others, by way of the second.
      refine List.pairwise_cons.2 ⟨fun z hz => ?_, hrest⟩
      rcases List.mem_cons.1 hz with rfl | hz
      · exact hfirst
      · exact trans _ _ _ hfirst ((List.pairwise_cons.1 hrest).1 z hz)
    · rw [if_neg hx, List.take_zero]
      exact List.pairwise_singleton R before

/-- Sorting keeps the elements and brings them in the order of their keys. -/
theorem sortByRuns_spec (hless : GoesBy less key P) {xs : List α} (hxs : ∀ x ∈ xs, P x) :
    Ordered key (sortByRuns less xs) ∧ (sortByRuns less xs).Perm xs := by
  match xs with
  | [] => exact ⟨.nil, .nil⟩
  | [x] => exact ⟨List.pairwise_singleton _ x, .refl _⟩
  | first :: second :: rest =>
    -- Whichever way the run goes, it is ordered once it is turned round where it descends.
    have hfinish : ∀ (n : Nat) (run : List α), Ordered key run →
        run.Perm ((first :: second :: rest).take n) →
        let sorted := (((first :: second :: rest).drop n).foldl (fun sorted x =>
          insertHalving less x sorted (sorted.size + 1) 0 sorted.size) run.toArray).toList
        Ordered key sorted ∧ sorted.Perm (first :: second :: rest) := by
      intro n run hrun hperm sorted
      obtain ⟨hordered, hall⟩ := insertAll_spec hless
        (fun y hy => hxs y (List.mem_of_mem_take (hperm.mem_iff.1 hy)))
        (fun y hy => hxs y (List.mem_of_mem_drop hy)) hrun
      refine ⟨hordered, hall.trans ?_⟩
      exact (hperm.append_right _).trans (.of_eq (List.take_append_drop n _))
    have hnext : ∀ a ∈ first :: second :: rest, ∀ b ∈ first :: second :: rest,
        (less b a = true ↔ key b < key a) := fun a ha b hb => hless b a (hxs b hb) (hxs a ha)
    unfold sortByRuns
    cases hdescends : less second first with
    | true =>
      have hrun := pairwise_run (R := fun a b => key b ≤ key a) (fun a b c hab hbc => hbc.trans hab)
        (fun a b => less b a) first (second :: rest)
        fun a ha b hb h => ((hnext a ha b hb).1 h).le
      simp only [hdescends, if_true]
      refine hfinish _ _ (List.pairwise_reverse.2 ?_) (List.reverse_perm _)
      simpa [runLength, hdescends] using hrun
    | false =>
      have hrun := pairwise_run (R := fun a b => key a ≤ key b) (fun a b c hab hbc => hab.trans hbc)
        (fun a b => !less b a) first (second :: rest)
        fun a ha b hb h => not_lt.1 fun hlt => by simp [(hnext a ha b hb).2 hlt] at h
      simp only [hdescends, Bool.false_eq_true, if_false]
      refine hfinish _ _ ?_ (.refl _)
      unfold Ordered
      simpa [runLength, hdescends] using hrun

end Order

/-! ## Any comparison -/

section Elements

variable {α : Type} (less : α → α → Bool)

/-- Insertion by halving puts an element somewhere. -/
theorem exists_place_insertHalving (x : α) (sorted : Array α) :
    ∀ fuel low high, low ≤ high → high ≤ sorted.size → ∃ place ≤ sorted.size,
      (insertHalving less x sorted fuel low high).toList = insertedAt x sorted.toList place := by
  intro fuel
  induction fuel with
  | zero =>
    intro low high hle hhigh
    exact ⟨low, by omega, toList_insertIdxIfInBounds x (by omega)⟩
  | succ fuel ih =>
    intro low high hle hhigh
    unfold insertHalving
    by_cases hlt : low < high
    · rw [if_pos hlt]
      have hm : low + (high - low) / 2 < sorted.size := by omega
      simp only [Array.getElem?_eq_getElem hm]
      split
      · exact ih _ _ (by omega) (by omega)
      · exact ih _ _ (by omega) (by omega)
    · rw [if_neg hlt]
      exact ⟨low, by omega, toList_insertIdxIfInBounds x (by omega)⟩

theorem insertAll_perm (sorted : Array α) (xs : List α) :
    (xs.foldl (fun sorted x => insertHalving less x sorted (sorted.size + 1) 0 sorted.size)
      sorted).toList.Perm (sorted.toList ++ xs) := by
  induction xs generalizing sorted with
  | nil => exact .of_eq (List.append_nil _).symm
  | cons x xs ih =>
    obtain ⟨place, -, hplace⟩ := exists_place_insertHalving less x sorted (sorted.size + 1) 0
      sorted.size (Nat.zero_le _) (Nat.le_refl _)
    have hone := insertedAt_perm x sorted.toList place
    rw [← hplace] at hone
    refine (ih _).trans ?_
    exact (hone.append_right xs).trans List.perm_middle.symm

/-- Sorting keeps the elements, even if the comparison is no order. -/
theorem sortByRuns_perm (xs : List α) : (sortByRuns less xs).Perm xs := by
  match xs with
  | [] => exact .nil
  | [x] => exact .refl _
  | first :: second :: rest =>
    have hfinish : ∀ (n : Nat) (run : List α), run.Perm ((first :: second :: rest).take n) →
        (((first :: second :: rest).drop n).foldl (fun sorted x =>
          insertHalving less x sorted (sorted.size + 1) 0 sorted.size) run.toArray).toList.Perm
          (first :: second :: rest) := by
      intro n run hrun
      refine (insertAll_perm less _ _).trans ?_
      exact (hrun.append_right _).trans (.of_eq (List.take_append_drop n _))
    -- A run that descends is turned round.
    refine hfinish _ _ ?_
    split
    · exact List.reverse_perm _
    · exact .refl _

end Elements

/-! ## Entries under texts -/

section Entries

variable {α : Type}

/-- Entries that can be sorted stay. -/
theorem perm_of_sortedByKey {entries sorted : List (Value × α)}
    (h : sortedByKey entries = .ok sorted) : sorted.Perm entries := by
  unfold sortedByKey at h
  split at h
  · obtain rfl := Except.ok.inj h
    exact .refl _
  · obtain rfl := Except.ok.inj h
    exact .refl _
  · split at h
    · obtain rfl := Except.ok.inj h
      exact sortByRuns_perm _ _
    · split at h
      · cases h
      · cases h

/-- The text that an entry stands under. -/
def keyText (e : Value × α) : String :=
  match e.1 with
  | .text s => s
  | _ => ""

/-- All entries stand under texts. -/
def UnderTexts (entries : List (Value × α)) : Prop := ∀ e ∈ entries, ∃ s, e.1 = .text s

theorem keyLess?_of_texts {a b : Value × α} (ha : ∃ s, a.1 = .text s) (hb : ∃ s, b.1 = .text s) :
    keyLess? a.1 b.1 = some (decide (keyText a < keyText b)) := by
  obtain ⟨s, hs⟩ := ha
  obtain ⟨t, ht⟩ := hb
  simp [keyText, hs, ht, keyLess?]

/-- Entries under texts can be sorted. -/
theorem exists_sortedByKey {entries : List (Value × α)} (h : UnderTexts entries) :
    ∃ sorted, sortedByKey entries = .ok sorted ∧ sorted.Perm entries ∧ Ordered keyText sorted := by
  match entries with
  | [] => exact ⟨[], rfl, .refl _, .nil⟩
  | [e] => exact ⟨[e], rfl, .refl _, List.pairwise_singleton _ e⟩
  | first :: second :: rest =>
    have hless : GoesBy (fun a b : Value × α => (keyLess? a.1 b.1).getD false) keyText
        fun e => ∃ s, e.1 = .text s := by
      intro a b ha hb
      simp [keyLess?_of_texts ha hb]
    obtain ⟨hordered, hperm⟩ := sortByRuns_spec hless h
    have hall : (second :: rest).all (fun e => (keyLess? first.1 e.1).isSome) = true := by
      refine List.all_eq_true.2 fun e he => ?_
      rw [keyLess?_of_texts (h first (List.mem_cons_self ..)) (h e (List.mem_cons_of_mem _ he))]
      rfl
    refine ⟨_, ?_, hperm, hordered⟩
    rw [sortedByKey, if_pos hall]
    exact fun h => by cases h

theorem keyText_inj {a b : Value × α} (ha : ∃ s, a.1 = .text s) (hb : ∃ s, b.1 = .text s)
    (h : keyText a = keyText b) : a.1 = b.1 := by
  obtain ⟨s, hs⟩ := ha
  obtain ⟨t, ht⟩ := hb
  simp only [keyText, hs, ht] at h
  rw [hs, ht, h]

/-- Entries under distinct texts have one order. -/
theorem eq_of_ordered {xs ys : List (Value × α)} (h : UnderTexts xs)
    (hnodup : (xs.map Prod.fst).Nodup) (hperm : xs.Perm ys) (hxs : Ordered keyText xs)
    (hys : Ordered keyText ys) : xs = ys := by
  refine hperm.eq_of_pairwise (fun a b ha hb hab hba => ?_) hxs hys
  have hb' := hperm.mem_iff.2 hb
  exact List.inj_on_of_nodup_map hnodup ha hb'
    (keyText_inj (h a ha) (h b hb') (le_antisymm hab hba))

/-- Under distinct texts it does not matter how the entries were listed. -/
theorem sortedByKey_congr {entries entries' : List (Value × α)} (h : UnderTexts entries)
    (hnodup : (entries.map Prod.fst).Nodup) (hperm : entries.Perm entries') :
    sortedByKey entries = sortedByKey entries' := by
  have h' : UnderTexts entries' := fun e he => h e (hperm.mem_iff.2 he)
  obtain ⟨xs, hxs, hxp, hxo⟩ := exists_sortedByKey h
  obtain ⟨ys, hys, hyp, hyo⟩ := exists_sortedByKey h'
  have hdistinct : (xs.map Prod.fst).Nodup := (hxp.map Prod.fst).nodup_iff.2 hnodup
  have heq := eq_of_ordered (fun e he => h e (hxp.mem_iff.1 he)) hdistinct
    (hxp.trans (hperm.trans hyp.symm)) hxo hyo
  rw [hxs, hys, heq]

end Entries

end RecordSchema.Json
