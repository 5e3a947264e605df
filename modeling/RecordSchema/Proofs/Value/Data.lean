import RecordSchema.Proofs.Sequences
import RecordSchema.Value.Equality
import Mathlib.Data.List.Nodup

/-!
# Data and when they are the same

Data are built from `None`, truth values, integers that can be written, texts, lists, tuples and
mappings from distinct texts (`Value.IsData`). Two of them are the same if they differ at most in
the order of the entries of mappings and in what is a list and what a tuple (`Value.Same`); a truth
value is never the same as a number. Being the same is an equivalence, and data without tuples that
are the same are equal values (`Value.Same.equal`).
-/

set_option autoImplicit false

namespace RecordSchema.Value

/-- A value built from scalars, lists, mappings from distinct texts and, if allowed, tuples. -/
inductive IsData (tuples : Bool) : Value → Prop where
  | none : IsData tuples .none
  | bool (b : Bool) : IsData tuples (.bool b)
  | int {n : Int} (writable : Numeral.isWritable n = true) : IsData tuples (.int n)
  | text (s : String) : IsData tuples (.text s)
  | list (label : Nat) {items : List Value} (each : ∀ v ∈ items, IsData tuples v) :
      IsData tuples (.list label items)
  | tuple {items : List Value} (allowed : tuples = true) (each : ∀ v ∈ items, IsData tuples v) :
      IsData tuples (.tuple items)
  | mapping {entries : List (Value × Value)} (texts : ∀ e ∈ entries, ∃ s, e.1 = .text s)
      (distinct : (entries.map Prod.fst).Nodup) (each : ∀ e ∈ entries, IsData tuples e.2) :
      IsData tuples (.mapping entries)

/-- The items of a list or of a tuple. -/
def sequence? : Value → Option (List Value)
  | .list _ items => some items
  | .tuple items => some items
  | _ => Option.none

/-- Two values are the same up to the order of entries and up to list versus tuple. -/
inductive Same : Value → Value → Prop where
  | none : Same .none .none
  | bool (b : Bool) : Same (.bool b) (.bool b)
  | int (n : Int) : Same (.int n) (.int n)
  | text (s : String) : Same (.text s) (.text s)
  /-- Lists or tuples with the same items, place by place. -/
  | sequence {v w : Value} {xs ys : List Value} (left : v.sequence? = some xs)
      (right : w.sequence? = some ys) (length : xs.length = ys.length)
      (items : ∀ p ∈ xs.zip ys, Same p.1 p.2) : Same v w
  /-- Mappings with the same keys, in any order, and the same under each key. -/
  | mapping {xs ys : List (Value × Value)} (keys : (xs.map Prod.fst).Perm (ys.map Prod.fst))
      (under : ∀ x ∈ xs, ∀ y ∈ ys, x.1 = y.1 → Same x.2 y.2) : Same (.mapping xs) (.mapping ys)

/-! ## Data -/

section Data

variable {tuples : Bool} {v : Value}

theorem IsData.of_items {xs : List Value} (hv : IsData tuples v) (h : v.sequence? = some xs) :
    ∀ x ∈ xs, IsData tuples x := by
  cases hv with
  | list _ each | tuple _ each =>
    rw [← Option.some.inj h]
    exact each
  | none | bool _ | int _ | text _ | mapping _ _ _ => cases h

/-- What is data without tuples is data. -/
theorem IsData.weaken (h : IsData false v) : IsData tuples v := by
  induction h with
  | none => exact .none
  | bool b => exact .bool b
  | int writable => exact .int writable
  | text s => exact .text s
  | list label _ ih => exact .list label ih
  | tuple allowed _ _ => cases allowed
  | mapping texts distinct _ ih => exact .mapping texts distinct ih

end Data

/-! ## The same value -/

theorem Same.of_forall₂ {v w : Value} {xs ys : List Value} (hv : v.sequence? = some xs)
    (hw : w.sequence? = some ys) (h : List.Forall₂ Same xs ys) : Same v w :=
  .sequence hv hw h.length_eq fun _ hp => (List.forall₂_iff_zip.1 h).2 hp

theorem Same.refl {tuples : Bool} {v : Value} (hv : IsData tuples v) : Same v v := by
  induction hv with
  | none => exact .none
  | bool b => exact .bool b
  | @int n _ => exact .int n
  | text s => exact .text s
  | list _ _ ih | tuple _ _ ih =>
    exact .of_forall₂ rfl rfl (List.forall₂_same.2 ih)
  | @mapping entries _ distinct _ ih =>
    refine .mapping (.refl _) fun x hx y hy hxy => ?_
    rw [List.inj_on_of_nodup_map distinct hx hy hxy]
    exact ih y hy

theorem Same.symm {v w : Value} (h : Same v w) : Same w v := by
  induction h with
  | none => exact .none
  | bool b => exact .bool b
  | int n => exact .int n
  | text s => exact .text s
  | sequence hv hw hlength _ ih => exact .of_forall₂ hw hv (forall₂_of_zip hlength ih).flip
  | mapping keys _ ih => exact .mapping keys.symm fun y hy x hx hyx => ih x hx y hy hyx.symm

theorem Same.trans {u v w : Value} (h : Same u v) (h' : Same v w) : Same u w := by
  induction h generalizing w with
  | none | bool _ | int _ | text _ => exact h'
  | @sequence u v xs ys hu hv hlength _ ih =>
    cases h' with
    | sequence hv' hw hlength' items =>
      rw [Option.some.inj (hv.symm.trans hv')] at hlength ih
      have hfirst : List.Forall₂ (fun a b => ∀ c, Same b c → Same a c) xs _ :=
        forall₂_of_zip hlength fun p hp c hc => ih p hp hc
      have hsecond := forall₂_of_zip hlength' items
      exact .of_forall₂ hu hw (forall₂_chain (fun a b c hab hbc => hab c hbc) hfirst hsecond)
    | none | bool _ | int _ | text _ | mapping _ _ => cases hv
  | @mapping xs ys keys _ ih =>
    cases h' with
    | sequence hv' _ _ _ => cases hv'
    | @mapping _ zs keys' under =>
      refine .mapping (keys.trans keys') fun x hx z hz hxz => ?_
      -- The key is in the mapping between too.
      obtain ⟨y, hy, hyx⟩ := List.mem_map.1 (keys.mem_iff.1 (List.mem_map_of_mem hx))
      exact ih x hx y hy hyx.symm (under y hy z hz (hyx.trans hxz))

/-! ## Equality -/

theorem sameNumber_int (n : Int) : sameNumber (.int n) (.int n) = true := by
  simp [sameNumber, magnitude?, Magnitude.equal, Ratio.equal]

/-- Equal values are alike. -/
theorem alike_of_equal {v w : Value} (h : equal v w = true) : alike v w = true := by
  rw [alike, h, Bool.or_true]

theorem alikeAll_of_forall₂ {xs ys : List Value}
    (h : List.Forall₂ (fun x y => alike x y = true) xs ys) : alikeAll xs ys = true := by
  induction h with
  | nil => rfl
  | cons hxy _ ih =>
    rw [alikeAll, ih, Bool.and_true]
    exact hxy

theorem entriesIn_of_forall {xs ys : List (Value × Value)}
    (h : ∀ x ∈ xs, ∃ y ∈ ys, alike x.1 y.1 = true ∧ alike x.2 y.2 = true) :
    entriesIn xs ys = true := by
  induction xs with
  | nil => rfl
  | cons x xs ih =>
    obtain ⟨k, v⟩ := x
    obtain ⟨y, hy, hk, hv⟩ := h (k, v) (List.mem_cons_self ..)
    rw [entriesIn, ih fun x' hx' => h x' (List.mem_cons_of_mem _ hx'), Bool.and_true]
    exact List.any_eq_true.2 ⟨y, hy, Bool.and_eq_true_iff.2 ⟨hk, hv⟩⟩

/-- Lists are equal if their items are, one by one. -/
theorem equal_of_sequence {v w : Value} {xs ys : List Value} (hv : IsData false v)
    (hw : IsData false w) (hxs : v.sequence? = some xs) (hys : w.sequence? = some ys)
    (h : List.Forall₂ (fun x y => Value.equal x y = true) xs ys) : Value.equal v w = true := by
  cases hv with
  | list _ _ =>
    cases hw with
    | list _ _ =>
      rw [← Option.some.inj hxs, ← Option.some.inj hys] at h
      exact alikeAll_of_forall₂ (h.imp fun _ _ => alike_of_equal)
    | tuple allowed _ => cases allowed
    | none | bool _ | int _ | text _ | mapping _ _ _ => cases hys
  | tuple allowed _ => cases allowed
  | none | bool _ | int _ | text _ | mapping _ _ _ => cases hxs

/-- Mappings from the same texts are equal if what is under each of them is. -/
theorem equal_of_mapping {xs ys : List (Value × Value)} (htexts : ∀ x ∈ xs, ∃ s, x.1 = .text s)
    (keys : (xs.map Prod.fst).Perm (ys.map Prod.fst))
    (h : ∀ x ∈ xs, ∀ y ∈ ys, x.1 = y.1 → Value.equal x.2 y.2 = true) :
    Value.equal (.mapping xs) (.mapping ys) = true := by
  have hlength : xs.length = ys.length := by simpa using keys.length_eq
  have hentries : entriesIn xs ys = true := by
    refine entriesIn_of_forall fun x hx => ?_
    obtain ⟨y, hy, hyx⟩ := List.mem_map.1 (keys.mem_iff.1 (List.mem_map_of_mem hx))
    obtain ⟨s, hs⟩ := htexts x hx
    refine ⟨y, hy, ?_, alike_of_equal (h x hx y hy hyx.symm)⟩
    rw [hyx, hs]
    simp [alike, Value.equal]
  simp [Value.equal, hlength, hentries]

/-- Data without tuples that are the same are equal. -/
theorem Same.equal {v w : Value} (h : Same v w) (hv : IsData false v) (hw : IsData false w) :
    Value.equal v w = true := by
  induction h with
  | none => rfl
  | bool b => cases b <;> rfl
  | int n => exact sameNumber_int n
  | text s => simp [Value.equal]
  | @sequence v w xs ys hxs hys hlength _ ih =>
    have hitems : List.Forall₂ (fun x y => Value.equal x y = true) xs ys := by
      refine forall₂_of_zip hlength fun p hp => ?_
      obtain ⟨hx, hy⟩ := List.of_mem_zip hp
      exact ih p hp (hv.of_items hxs _ hx) (hw.of_items hys _ hy)
    exact equal_of_sequence hv hw hxs hys hitems
  | @mapping xs ys keys _ ih =>
    cases hv with
    | mapping texts _ each =>
      cases hw with
      | mapping _ _ each' =>
        exact equal_of_mapping texts keys fun x hx y hy hxy =>
          ih x hx y hy hxy (each x hx) (each' y hy)

end RecordSchema.Value
