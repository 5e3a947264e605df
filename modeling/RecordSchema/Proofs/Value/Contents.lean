import RecordSchema.Proofs.Value.Alike
import RecordSchema.Proofs.Value.Data
import RecordSchema.Value.Kind
import RecordSchema.Value.Sharing

/-!
# Contents of values

Copies of a value differ from it at most in the labels of the storage of lists and records, so they
have the same contents (`Value.contents_copied`). Every value is alike to itself
(`Value.alike_self`), and plain values, which hold no objects, are alike to whatever has their
contents (`Value.IsPlain.alike_of_contents_eq`). An object need not be, for it may go by its
storage; but one that stands by itself and has a hash is not copied at all
(`Value.copied_of_isSingle`).
-/

set_option autoImplicit false

namespace RecordSchema.Value

/-! ## Values and themselves -/

theorem literalsIn_of_forall {xs ys : List Value}
    (h : ∀ x ∈ xs, ∃ y ∈ ys, alike x y = true ∧ literalKind x = literalKind y) :
    literalsIn xs ys = true := by
  induction xs with
  | nil => rfl
  | cons x xs ih =>
    obtain ⟨y, hy, halike, hkind⟩ := h x (List.mem_cons_self ..)
    rw [literalsIn, ih fun x' hx' => h x' (List.mem_cons_of_mem _ hx'), Bool.and_true]
    exact List.any_eq_true.2 ⟨y, hy, Bool.and_eq_true_iff.2 ⟨halike, beq_iff_eq.2 hkind⟩⟩

theorem alikeAll_self {items : List Value} (h : ∀ v ∈ items, alike v v = true) :
    alikeAll items items = true := alikeAll_of_forall₂ (List.forall₂_same.2 h)

theorem allIn_self {items : List Value} (h : ∀ v ∈ items, alike v v = true) :
    allIn items items = true := allIn_iff.2 fun v hv => ⟨v, hv, h v hv⟩

-- A value is compared by its parts, so the induction is on these, and on lists and entries of them.
mutual

/-- Every value is alike to itself. -/
theorem alike_self : (v : Value) → alike v v = true
  | .none | .missing | .anyType | .ellipsis | .bareClassVar => rfl
  | .bool b => by cases b <;> rfl
  | .int n => alike_of_equal (sameNumber_int n)
  | .real x => by
    -- The mark of no number is unequal to itself, but the same object.
    cases x with
    | finite _ _ _ =>
      simp [alike, equal, sameNumber, magnitude?, Magnitude.equal, Binary64.ratio?, Ratio.equal]
    | infinite _ => simp [alike, equal, sameNumber, magnitude?, Magnitude.equal]
    | nan _ => simp [alike, sameObject]
  | .decimal d => by
    cases d with
    | finite _ _ _ | infinite _ => simp [alike, equal, sameNumber, magnitude?, Magnitude.equal]
    | nan _ _ _ _ => simp [alike, sameObject]
  | .text _ | .bytes _ | .date _ | .clock _ | .token _ | .classToken _ | .typeVar _ _
  | .forwardRef _ | .recordClass _ | .handle _ _ _ => by simp [alike, equal]
  | .moment _ => by simp [alike, equal, Calendar.Moment.equal]
  | .record _ _ _ => by simp [alike, sameObject]
  | .list _ items => by
    have hitems := alikeAll_self (forall_alike_self items)
    simp [alike, equal, hitems]
  | .tuple items => by
    have hitems := alikeAll_self (forall_alike_self items)
    simp [alike, equal, hitems]
  | .set items | .frozenSet items => by
    have hitems := allIn_self (forall_alike_self items)
    simp [alike, equal, hitems]
  | .union members | .pipe members => by
    have hmembers := allIn_self (forall_alike_self members)
    simp [alike, equal, unionMembers?, hmembers]
  | .mapping entries => by
    have hentries := entriesIn_of_forall fun e he => ⟨e, he, forall_alike_entry entries e he⟩
    simp [alike, equal, hentries]
  | .alias _ _ items => by
    have hitems := alikeAll_self (forall_alike_self items)
    simp [alike, equal, hitems]
  | .literal items => by
    have hitems := literalsIn_of_forall fun v hv => ⟨v, hv, forall_alike_self items v hv, rfl⟩
    simp [alike, equal, hitems]
  | .annotated base notes => by
    have hnotes := alikeAll_self (forall_alike_self notes)
    refine alike_of_equal ?_
    rw [equal, hnotes, Bool.and_true]
    exact alike_self base
  | .callable parameters result => by
    have hparameters := alikeAll_self (forall_alike_self parameters)
    refine alike_of_equal ?_
    rw [equal, hparameters, Bool.true_and]
    exact alike_self result
  | .classVar inner | .orNone inner => by
    refine alike_of_equal ?_
    rw [equal]
    exact alike_self inner

theorem forall_alike_self : (items : List Value) → ∀ v ∈ items, alike v v = true
  | [] => fun _ hv => absurd hv List.not_mem_nil
  | item :: rest => List.forall_mem_cons.2 ⟨alike_self item, forall_alike_self rest⟩

theorem forall_alike_entry : (entries : List (Value × Value)) →
    ∀ e ∈ entries, alike e.1 e.1 = true ∧ alike e.2 e.2 = true
  | [] => fun _ he => absurd he List.not_mem_nil
  | (k, v) :: rest =>
    List.forall_mem_cons.2 ⟨⟨alike_self k, alike_self v⟩, forall_alike_entry rest⟩

end

/-! ## Values without labels -/

mutual

/-- A value without the labels of the storage of lists and records. -/
def contents : Value → Value
  | .list _ items => .list 0 (contentsAll items)
  | .tuple items => .tuple (contentsAll items)
  | .mapping entries => .mapping (contentsEntries entries)
  | .record _ c attributes => .record 0 c (contentsFields attributes)
  | v => v

def contentsAll : List Value → List Value
  | [] => []
  | v :: rest => contents v :: contentsAll rest

def contentsEntries : List (Value × Value) → List (Value × Value)
  | [] => []
  | (k, v) :: rest => (k, contents v) :: contentsEntries rest

def contentsFields : List (String × Value) → List (String × Value)
  | [] => []
  | (n, v) :: rest => (n, contents v) :: contentsFields rest

end

mutual

/-- A copy has the contents of what was copied. -/
theorem contents_copied (depth : CopyDepth) (next : Nat) :
    (v : Value) → (v.copied depth next).1.contents = v.contents
  | .list cell items => by
    rw [copied]
    split
    · simp only [contents, contentsAll_copiedAll]
    · rfl
  | .tuple items => by
    simp only [copied, contents, contentsAll_copiedAll]
  | .mapping entries => by
    simp only [copied, contents, contentsEntries_copiedEntries]
  | .record cell c attributes => by
    rw [copied]
    split
    · simp only [contents, contentsFields_copiedFields]
    · rfl
  | .none | .bool _ | .int _ | .real _ | .text _ | .bytes _ | .set _ | .frozenSet _ | .date _
  | .clock _ | .moment _ | .decimal _ | .token _ | .missing | .classToken _ | .anyType | .ellipsis
  | .union _ | .pipe _ | .alias _ _ _ | .literal _ | .annotated _ _ | .callable _ _ | .bareClassVar
  | .classVar _ | .typeVar _ _ | .forwardRef _ | .orNone _ | .recordClass _ | .handle _ _ _ => rfl

theorem contentsAll_copiedAll (depth : CopyDepth) (next : Nat) :
    (items : List Value) → contentsAll (copiedAll depth next items).1 = contentsAll items
  | [] => rfl
  | v :: rest => by
    simp only [copiedAll, contentsAll, contents_copied, contentsAll_copiedAll]

theorem contentsEntries_copiedEntries (depth : CopyDepth) (next : Nat) :
    (entries : List (Value × Value)) →
      contentsEntries (copiedEntries depth next entries).1 = contentsEntries entries
  | [] => rfl
  | (k, v) :: rest => by
    simp only [copiedEntries, contentsEntries, contents_copied, contentsEntries_copiedEntries]

theorem contentsFields_copiedFields (depth : CopyDepth) (next : Nat) :
    (fields : List (String × Value)) →
      contentsFields (copiedFields depth next fields).1 = contentsFields fields
  | [] => rfl
  | (n, v) :: rest => by
    simp only [copiedFields, contentsFields, contents_copied, contentsFields_copiedFields]

end

theorem contentsAll_eq_map (items : List Value) : contentsAll items = items.map contents := by
  induction items with
  | nil => rfl
  | cons v rest ih => rw [contentsAll, ih, List.map_cons]

theorem contentsEntries_eq_map (entries : List (Value × Value)) :
    contentsEntries entries = entries.map fun e => (e.1, e.2.contents) := by
  induction entries with
  | nil => rfl
  | cons e rest ih => rw [contentsEntries, ih, List.map_cons]

/-! ## Plain values -/

/-- A value built from scalars, classes and collections. -/
inductive IsPlain : Value → Prop where
  | none : IsPlain .none
  | bool (b : Bool) : IsPlain (.bool b)
  | int (n : Int) : IsPlain (.int n)
  | real (x : Binary64) : IsPlain (.real x)
  | text (s : String) : IsPlain (.text s)
  | bytes (octets : List UInt8) : IsPlain (.bytes octets)
  | date (d : Calendar.Date) : IsPlain (.date d)
  | clock (c : Calendar.Clock) : IsPlain (.clock c)
  | moment (m : Calendar.Moment) : IsPlain (.moment m)
  | decimal (d : Decimal) : IsPlain (.decimal d)
  | classToken (c : ClassName) : IsPlain (.classToken c)
  | list (label : Nat) {items : List Value} (each : ∀ v ∈ items, IsPlain v) :
      IsPlain (.list label items)
  | tuple {items : List Value} (each : ∀ v ∈ items, IsPlain v) : IsPlain (.tuple items)
  | set {items : List Value} (each : ∀ v ∈ items, IsPlain v) : IsPlain (.set items)
  | frozenSet {items : List Value} (each : ∀ v ∈ items, IsPlain v) : IsPlain (.frozenSet items)
  | mapping {entries : List (Value × Value)} (keys : ∀ e ∈ entries, IsPlain e.1)
      (each : ∀ e ∈ entries, IsPlain e.2) : IsPlain (.mapping entries)

/-- Items that are alike to whatever has their contents. -/
theorem alikeAll_of_contentsAll_eq {xs ys : List Value}
    (h : ∀ x ∈ xs, ∀ w : Value, w.contents = x.contents → alike x w = true)
    (hys : contentsAll ys = contentsAll xs) : alikeAll xs ys = true := by
  rw [contentsAll_eq_map, contentsAll_eq_map] at hys
  have hplaces : List.Forall₂ (fun x y => contents y = contents x) xs ys := by
    refine List.forall₂_iff_get.2
      ⟨by simpa using (congrArg List.length hys).symm, fun i hi hi' => ?_⟩
    have hplace := congrArg (·[i]?) hys
    simpa [List.getElem?_eq_getElem hi, List.getElem?_eq_getElem hi'] using hplace
  refine alikeAll_of_forall₂ (((List.forall₂_and_left _ _).2 ⟨h, hplaces⟩).imp ?_)
  rintro x y ⟨halike, hsame⟩
  exact halike y hsame

/-- A plain value is alike to whatever has its contents. -/
theorem IsPlain.alike_of_contents_eq {v w : Value} (hv : v.IsPlain)
    (h : w.contents = v.contents) : alike v w = true := by
  -- What has the contents of a scalar or of a set is that itself.
  induction hv generalizing w with
  | list label each ih =>
    cases w <;> simp only [contents, reduceCtorEq, Value.list.injEq, true_and] at h
    exact alike_of_equal (by rw [equal]; exact alikeAll_of_contentsAll_eq ih h)
  | tuple each ih =>
    cases w <;> simp only [contents, reduceCtorEq, Value.tuple.injEq] at h
    exact alike_of_equal (by rw [equal]; exact alikeAll_of_contentsAll_eq ih h)
  | @mapping entries keys each ihKeys ih =>
    cases w <;> simp only [contents, reduceCtorEq, Value.mapping.injEq] at h
    rename_i others
    rw [contentsEntries_eq_map, contentsEntries_eq_map] at h
    have hentries : entriesIn entries others = true := by
      refine entriesIn_of_forall fun x hx => ?_
      obtain ⟨y, hy, hyx⟩ := List.mem_map.1 (h ▸ List.mem_map_of_mem hx)
      obtain ⟨hkey, hvalue⟩ := Prod.mk.inj hyx
      exact ⟨y, hy, ihKeys x hx (congrArg contents hkey), ih x hx hvalue⟩
    have hlength : entries.length = others.length := by
      simpa using (congrArg List.length h).symm
    simp [alike, equal, hentries, hlength]
  | none =>
    cases w <;> simp only [contents, reduceCtorEq] at h
    rfl
  | _ =>
    cases w <;> simp only [contents, reduceCtorEq] at h
    rw [h]
    exact alike_self _

/-! ## Objects that stand by themselves -/

/-- Is a value a scalar or an object with a hash that is known for what it is, rather than a
collection, a record, a data class, or what only goes by its printed form? -/
def isSingle : Value → Bool
  | .list _ _ | .tuple _ | .mapping _ | .set _ | .frozenSet _ | .orNone _ | .record _ _ _
  | .handle _ _ _ => false
  | v => v.hashable

/-- Such an object is left as it is. -/
theorem copied_of_isSingle {v : Value} (hv : v.isSingle = true) (depth : CopyDepth) (next : Nat) :
    (v.copied depth next).1 = v := by
  cases v <;> first | rfl | cases hv

/-! ## Copies -/

/-- A copy of a value: it has the same contents, and objects that stand by themselves are shared. -/
structure IsCopy (v w : Value) : Prop where
  contents_eq : w.contents = v.contents
  eq_of_isSingle : v.isSingle = true → w = v

theorem IsCopy.refl (v : Value) : IsCopy v v := ⟨rfl, fun _ => rfl⟩

theorem IsCopy.trans {u v w : Value} (h : IsCopy u v) (h' : IsCopy v w) : IsCopy u w where
  contents_eq := h'.contents_eq.trans h.contents_eq
  eq_of_isSingle := fun hu => by
    have hv := h.eq_of_isSingle hu
    exact (h'.eq_of_isSingle (hv ▸ hu)).trans hv

theorem isCopy_copied (v : Value) (depth : CopyDepth) (next : Nat) :
    IsCopy v (v.copied depth next).1 where
  contents_eq := contents_copied depth next v
  eq_of_isSingle := fun hv => copied_of_isSingle hv depth next

/-- A value that is alike to all copies of it. -/
def IsKept (v : Value) : Prop := v.IsPlain ∨ v.isSingle = true

theorem IsCopy.alike_of_isKept {v w : Value} (h : IsCopy v w) (hv : v.IsKept) :
    alike v w = true := by
  rcases hv with hplain | hsingle
  · exact hplain.alike_of_contents_eq h.contents_eq
  · rw [h.eq_of_isSingle hsingle]
    exact alike_self v

end RecordSchema.Value
