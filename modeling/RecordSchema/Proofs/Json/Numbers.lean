import RecordSchema.Proofs.Json.Grammar
import RecordSchema.Proofs.Json.Scalars
import RecordSchema.Proofs.Number.Shortest
import Mathlib.Data.List.DropRight

/-!
# The texts of numbers are numbers

The text of an integer is a number by the grammar of JSON (`isNumber_intText`), and so is the
shortest text of a finite number of the binary format (`isNumber_real`): there the digits begin with
one that is no zero, wherever the decimal point comes to stand.
-/

set_option autoImplicit false

namespace RecordSchema.Json

open RecordSchema.Text

/-! ## Significant digits -/

/-- Digits of which the first is no zero. -/
inductive IsSignificant : List Char → Prop where
  | digits {c : Char} {cs : List Char} (first : '1' ≤ c ∧ c ≤ '9')
      (others : ∀ d ∈ cs, '0' ≤ d ∧ d ≤ '9') : IsSignificant (c :: cs)

namespace IsSignificant

variable {cs ds : List Char}

theorem isWhole (h : IsSignificant cs) : IsWhole cs := by
  obtain ⟨first, others⟩ := h
  exact .digits first others

theorem isDigits (h : IsSignificant cs) : IsDigits cs := by
  obtain ⟨first, others⟩ := h
  refine ⟨List.cons_ne_nil _ _, fun d hd => ?_⟩
  rcases List.mem_cons.1 hd with rfl | hd
  · exact ⟨Char.le_trans (by decide) first.1, first.2⟩
  · exact others d hd

/-- Any digits may follow. -/
theorem append (h : IsSignificant cs) (hds : ∀ d ∈ ds, '0' ≤ d ∧ d ≤ '9') :
    IsSignificant (cs ++ ds) := by
  obtain ⟨first, others⟩ := h
  refine .digits first fun d hd => ?_
  rcases List.mem_append.1 hd with hd | hd
  · exact others d hd
  · exact hds d hd

/-- What significant digits begin with is significant. -/
theorem of_isPrefix (h : IsSignificant ds) (hne : cs ≠ []) (hcs : cs <+: ds) :
    IsSignificant cs := by
  obtain ⟨first, others⟩ := h
  cases cs with
  | nil => exact absurd rfl hne
  | cons c cs =>
    obtain ⟨rfl, hrest⟩ := List.cons_prefix_cons.1 hcs
    exact .digits first fun d hd => others d (hrest.subset hd)

end IsSignificant

/-- The digits of a number other than zero are significant. -/
theorem isSignificant_toDigits {n : Nat} (hn : n ≠ 0) : IsSignificant (Nat.toDigits 10 n) := by
  have h := isNumeral_toDigits n
  obtain ⟨c, cs, heq⟩ := List.exists_cons_of_ne_nil h.ne_nil
  have hdigits := h.digits
  have hleading := h.leading
  rw [heq] at hdigits hleading ⊢
  refine .digits ⟨?_, (hdigits c (List.mem_cons_self ..)).2⟩
    fun d hd => hdigits d (List.mem_cons_of_mem _ hd)
  -- A digit that is no zero is at least one.
  have hlow : 0x30 ≤ c.toNat := (hdigits c (List.mem_cons_self ..)).1
  have hne : c.toNat ≠ 0x30 := by
    intro hzero
    have hc : c = '0' := Char.toNat_inj.1 hzero
    exact hn (hleading (congrArg some hc))
  show 0x31 ≤ c.toNat
  omega

/-- Without the zeros at their end significant digits are significant still. -/
theorem IsSignificant.dropZeros {cs : List Char} (h : IsSignificant cs) :
    IsSignificant (Binary64.dropZeros cs).1 := by
  have hkept : (Binary64.dropZeros cs).1 = cs.rdropWhile (· == '0') := rfl
  rw [hkept]
  refine h.of_isPrefix (fun hnil => ?_) (List.rdropWhile_prefix _ _)
  -- If all were dropped, the first digit would be a zero.
  obtain @⟨c, _, first, -⟩ := h
  have hzero := List.rdropWhile_eq_nil_iff.1 hnil c (List.mem_cons_self ..)
  rw [beq_iff_eq] at hzero
  subst hzero
  exact absurd first.1 (by decide)

theorem isDigits_zero : IsDigits ['0'] := ⟨List.cons_ne_nil _ _, by simp⟩

theorem digits_replicate_zero (n : Nat) :
    ∀ c ∈ List.replicate n '0', '0' ≤ c ∧ c ≤ '9' := by
  intro c hc
  rw [List.eq_of_mem_replicate hc]
  decide

theorem isDigits_fixedDigits {width : Nat} (hwidth : width ≠ 0) (n : Nat) :
    IsDigits (fixedDigits 10 width n) := by
  have hdigit : ∀ d < 10, '0' ≤ digitChar d ∧ digitChar d ≤ '9' := by decide
  have hall : ∀ width n, ∀ c ∈ fixedDigits 10 width n, '0' ≤ c ∧ c ≤ '9' := by
    intro width
    induction width with
    | zero => exact fun n c hc => absurd hc List.not_mem_nil
    | succ width ih =>
      intro n c hc
      rcases List.mem_append.1 hc with hc | hc
      · exact ih _ c hc
      · rw [List.mem_singleton.1 hc]
        exact hdigit _ (Nat.mod_lt _ (by decide))
  refine ⟨fun hnil => ?_, hall width n⟩
  cases width with
  | zero => exact hwidth rfl
  | succ width => exact List.append_ne_nil_of_right_ne_nil _ (List.cons_ne_nil _ _) hnil

/-! ## Integers -/

/-- The digits of a natural number. -/
theorem isMagnitude_toDigits (n : Nat) : IsMagnitude (Nat.toDigits 10 n) := by
  have hwhole : IsWhole (Nat.toDigits 10 n) := by
    by_cases hn : n = 0
    · subst hn
      exact .zero
    · exact (isSignificant_toDigits hn).isWhole
  have h := IsMagnitude.parts hwhole .absent .absent
  rwa [List.append_nil, List.append_nil] at h

/-- The text of an integer is a number. -/
theorem isNumber_intText (n : Int) : IsNumber (intText n).toList := by
  cases n with
  | ofNat n =>
    rw [intText, Nat.toList_repr]
    exact .positive (isMagnitude_toDigits n)
  | negSucc n =>
    rw [intText, String.toList_ofList, Nat.toList_repr]
    exact .negative (isMagnitude_toDigits (n + 1))

/-! ## Numbers with a point or an exponent -/

open Binary64

/-- A whole part and digits behind the point. -/
theorem isMagnitude_point {whole fraction : List Char} (hwhole : IsWhole whole)
    (hfraction : IsDigits fraction) : IsMagnitude (whole ++ '.' :: fraction) := by
  have h := IsMagnitude.parts hwhole (.point hfraction) .absent
  rwa [List.append_nil] at h

/-- Wherever the decimal point is put among significant digits or beside them. -/
theorem isMagnitude_positional {digits : List Char} (h : IsSignificant digits) (point : Int) :
    IsMagnitude (positional digits point) := by
  unfold positional
  split
  · exact isMagnitude_point .zero h.isDigits
  · next k hk =>
    split
    · next hlt =>
      -- Both sides of the point get digits.
      have hsplit := List.take_append_drop k digits
      have hleft : digits.take k ≠ [] := by
        rw [Ne, List.take_eq_nil_iff]
        rintro (hzero | hnil)
        · exact hk hzero
        · rw [hnil] at hlt
          exact absurd hlt (Nat.not_lt_zero _)
      have hright : digits.drop k ≠ [] := by
        rw [Ne, List.drop_eq_nil_iff]
        omega
      refine isMagnitude_point (h.of_isPrefix hleft (List.take_prefix _ _)).isWhole
        ⟨hright, fun c hc => h.isDigits.digits c (List.mem_of_mem_drop hc)⟩
    · -- Zeros fill up to the point, and one stands behind it.
      exact isMagnitude_point (h.append (digits_replicate_zero _)).isWhole isDigits_zero
  · next k =>
    -- Zeros stand between the point and the digits.
    refine isMagnitude_point .zero ⟨List.append_ne_nil_of_right_ne_nil _ h.isDigits.ne_nil, ?_⟩
    intro c hc
    rcases List.mem_append.1 hc with hc | hc
    · exact digits_replicate_zero _ c hc
    · exact h.isDigits.digits c hc

/-- Significant digits, the first in front of the point, with an exponent. -/
theorem isMagnitude_withExponent {digits : List Char} (h : IsSignificant digits)
    (exponent : Int) : IsMagnitude (withExponent digits exponent) := by
  have hexponent : IsExponent ('e' :: (if exponent < 0 then '-' else '+') ::
      fixedDigits 10 (if exponent.natAbs < 10 then 2 else (Nat.repr exponent.natAbs).length)
        exponent.natAbs) := by
    refine .signed (.inl rfl) ?_ (isDigits_fixedDigits ?_ _)
    · split
      · exact .inr rfl
      · exact .inl rfl
    · split
      · decide
      · rw [← String.length_toList, Nat.toList_repr]
        exact List.length_pos_iff.2 (isNumeral_toDigits _).ne_nil |>.ne'
  obtain @⟨c, cs, first, others⟩ := h
  have hwhole : IsWhole [c] := .digits first fun _ hd => absurd hd List.not_mem_nil
  -- A single digit has no point behind it.
  cases cs with
  | nil => exact .parts hwhole .absent hexponent
  | cons d cs => exact .parts hwhole (.point ⟨List.cons_ne_nil _ _, others⟩) hexponent

theorem isMagnitude_magnitudeChars {m : Nat} {e : Int} (he : -1074 ≤ e) :
    IsMagnitude (magnitudeChars m e) := by
  unfold magnitudeChars
  split
  · exact isMagnitude_point .zero isDigits_zero
  · next hm =>
    have hdigits : IsSignificant (Nat.repr (shortest m e).1).toList := by
      rw [Nat.toList_repr]
      exact isSignificant_toDigits (shortest_ne_zero hm he)
    simp only
    split
    · exact isMagnitude_positional hdigits.dropZeros _
    · exact isMagnitude_withExponent hdigits.dropZeros _

/-- The text of a finite number of the format is a number. -/
theorem isNumber_real {x : Binary64} (hgrid : x.OnGrid) (hfinite : x.IsFinite) :
    IsNumber (real x).toList := by
  cases x with
  | finite negative m e =>
    have hmagnitude : IsMagnitude (magnitudeChars m e) := isMagnitude_magnitudeChars hgrid
    show IsNumber (text (finite negative m e)).toList
    unfold text
    rw [String.toList_ofList]
    cases negative with
    | true => exact .negative hmagnitude
    | false => exact .positive hmagnitude
  | infinite _ | nan _ => exact absurd hfinite id

end RecordSchema.Json
