import RecordSchema.Model.Output
import RecordSchema.Proofs.Sequences
import RecordSchema.Proofs.Value.Contents

/-!
# What filled models give out

A value that holds no data class is given out as it is (`Value.dumped_of_holds`). Copies hold data
classes where the values do that they are copies of (`Value.IsCopy.holds_eq`), and plain values hold
none (`Value.IsPlain.isGivenOut`).
-/

set_option autoImplicit false

namespace RecordSchema.Value

variable {p q : Value → Bool} {v w : Value}

/-! ## What collections hold -/

mutual

/-- A value without a property is without any that is stronger. -/
theorem holds_mono (h : ∀ v, q v = false → p v = false) :
    (v : Value) → holds q v = false → holds p v = false
  | .list _ items | .tuple items | .set items | .frozenSet items => by
    simpa only [holds] using anyHolds_mono h items
  | .mapping entries => by
    simpa only [holds] using anyEntryHolds_mono h entries
  | .none | .bool _ | .int _ | .real _ | .text _ | .bytes _ | .date _ | .clock _ | .moment _
  | .decimal _ | .token _ | .missing | .classToken _ | .anyType | .ellipsis | .union _ | .pipe _
  | .alias _ _ _ | .literal _ | .annotated _ _ | .callable _ _ | .bareClassVar | .classVar _
  | .typeVar _ _ | .forwardRef _ | .orNone _ | .recordClass _ | .record _ _ _ | .handle _ _ _ => h _

theorem anyHolds_mono (h : ∀ v, q v = false → p v = false) :
    (items : List Value) → anyHolds q items = false → anyHolds p items = false
  | [] => fun _ => rfl
  | v :: rest => by
    simp only [anyHolds, Bool.or_eq_false_iff]
    exact And.imp (holds_mono h v) (anyHolds_mono h rest)

theorem anyEntryHolds_mono (h : ∀ v, q v = false → p v = false) :
    (entries : List (Value × Value)) → anyEntryHolds q entries = false →
      anyEntryHolds p entries = false
  | [] => fun _ => rfl
  | (_, v) :: rest => by
    simp only [anyEntryHolds, Bool.or_eq_false_iff]
    exact And.imp (holds_mono h v) (anyEntryHolds_mono h rest)

end

mutual

/-- Storage has no part in whether data classes are held. -/
theorem holds_contents : (v : Value) → holds isDataClass v.contents = holds isDataClass v
  | .list _ items | .tuple items => by
    simp only [contents, holds, anyHolds_contentsAll items]
  | .mapping entries => by
    simp only [contents, holds, anyEntryHolds_contentsEntries entries]
  | .set _ | .frozenSet _ | .record _ _ _ | .none | .bool _ | .int _ | .real _ | .text _ | .bytes _
  | .date _ | .clock _ | .moment _ | .decimal _ | .token _ | .missing | .classToken _ | .anyType
  | .ellipsis | .union _ | .pipe _ | .alias _ _ _ | .literal _ | .annotated _ _ | .callable _ _
  | .bareClassVar | .classVar _ | .typeVar _ _ | .forwardRef _ | .orNone _ | .recordClass _
  | .handle _ _ _ => rfl

theorem anyHolds_contentsAll :
    (items : List Value) → anyHolds isDataClass (contentsAll items) = anyHolds isDataClass items
  | [] => rfl
  | v :: rest => by simp only [contentsAll, anyHolds, holds_contents v, anyHolds_contentsAll rest]

theorem anyEntryHolds_contentsEntries : (entries : List (Value × Value)) →
    anyEntryHolds isDataClass (contentsEntries entries) = anyEntryHolds isDataClass entries
  | [] => rfl
  | (_, v) :: rest => by
    simp only [contentsEntries, anyEntryHolds, holds_contents v, anyEntryHolds_contentsEntries rest]

end

theorem IsCopy.holds_eq (h : IsCopy v w) : holds isDataClass w = holds isDataClass v := by
  rw [← holds_contents w, h.contents_eq, holds_contents]

/-! ## Values without data classes -/

mutual

/-- What holds no data class is given out as it is. -/
theorem dumped_of_holds : (v : Value) → holds isDataClass v = false → dumped v = .ok v
  | .list _ items | .tuple items => fun h => by
    rw [dumped, dumpedAll_of_holds items h]
    rfl
  | .set items | .frozenSet items => fun h => by
    rw [holds] at h
    rw [dumped, h]
    rfl
  | .mapping entries => fun h => by
    rw [dumped, dumpedEntries_of_holds entries h]
    rfl
  | .orNone _ => nofun
  | .none | .bool _ | .int _ | .real _ | .text _ | .bytes _ | .date _ | .clock _ | .moment _
  | .decimal _ | .token _ | .missing | .classToken _ | .anyType | .ellipsis | .union _ | .pipe _
  | .alias _ _ _ | .literal _ | .annotated _ _ | .callable _ _ | .bareClassVar | .classVar _
  | .typeVar _ _ | .forwardRef _ | .recordClass _ | .record _ _ _ | .handle _ _ _ => fun _ => rfl

theorem dumpedAll_of_holds :
    (items : List Value) → anyHolds isDataClass items = false → dumpedAll items = .ok items
  | [] => fun _ => rfl
  | v :: rest => fun h => by
    obtain ⟨hv, hrest⟩ := Bool.or_eq_false_iff.1 h
    rw [dumpedAll, dumped_of_holds v hv, dumpedAll_of_holds rest hrest]
    rfl

theorem dumpedEntries_of_holds : (entries : List (Value × Value)) →
    anyEntryHolds isDataClass entries = false → dumpedEntries entries = .ok entries
  | [] => fun _ => rfl
  | (_, v) :: rest => fun h => by
    obtain ⟨hv, hrest⟩ := Bool.or_eq_false_iff.1 h
    rw [dumpedEntries, dumped_of_holds v hv, dumpedEntries_of_holds rest hrest]
    rfl

end

theorem dumpedFields_of_holds {values : List (String × Value)}
    (h : ∀ x ∈ values, holds isDataClass x.2 = false) : dumpedFields values = .ok values := by
  refine mapM_eq_ok_iff.2 (List.forall₂_same.2 fun x hx => ?_)
  rw [dumped_of_holds x.2 (h x hx)]
  rfl

/-! ## Values that are known to be given out as they are -/

/-- Is a value a data class, or an object that may turn out to be one: a record, whose class may
have members of its own, or what only goes by its printed form? -/
def isForeign : Value → Bool
  | .orNone _ | .record _ _ _ | .handle _ _ _ => true
  | _ => false

/-- A value that holds no such object. -/
def IsGivenOut (v : Value) : Prop := holds isForeign v = false

instance (v : Value) : Decidable v.IsGivenOut :=
  inferInstanceAs (Decidable (holds isForeign v = false))

theorem IsGivenOut.holds_eq (h : v.IsGivenOut) : holds isDataClass v = false := by
  refine holds_mono (fun u hu => ?_) v h
  cases u <;> first | rfl | cases hu

theorem anyHolds_eq_false {items : List Value} (h : ∀ v ∈ items, holds p v = false) :
    anyHolds p items = false := by
  induction items with
  | nil => rfl
  | cons v rest ih =>
    rw [anyHolds, h v (List.mem_cons_self ..), ih fun w hw => h w (List.mem_cons_of_mem _ hw),
      Bool.false_or]

theorem anyEntryHolds_eq_false {entries : List (Value × Value)}
    (h : ∀ e ∈ entries, holds p e.2 = false) : anyEntryHolds p entries = false := by
  induction entries with
  | nil => rfl
  | cons e rest ih =>
    rw [anyEntryHolds, h e (List.mem_cons_self ..), ih fun w hw => h w (List.mem_cons_of_mem _ hw),
      Bool.false_or]

theorem IsPlain.isGivenOut (h : v.IsPlain) : v.IsGivenOut := by
  induction h with
  | list label each ih => exact anyHolds_eq_false ih
  | tuple each ih | set each ih | frozenSet each ih => exact anyHolds_eq_false ih
  | mapping keys each _ ih => exact anyEntryHolds_eq_false ih
  | _ => rfl

end RecordSchema.Value
