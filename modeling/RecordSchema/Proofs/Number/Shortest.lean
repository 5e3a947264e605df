import RecordSchema.Number.Shortest
import Mathlib.Data.Nat.Digits.Defs

/-!
# The digits of a binary number

All numbers of the format are multiples of the least one above zero (`OnGrid`), and rounding yields
no others (`onGrid_ofDecimal`). The digits that are found for such a number are zero for zero only
(`shortest_ne_zero`): a zero does not read back as another number, and the last grid that is looked
at is fine enough for the number.
-/

set_option autoImplicit false

namespace RecordSchema.Binary64

open RecordSchema.Text

/-! ## The format -/

/-- A number is none beside the finite ones. -/
def IsFinite : Binary64 → Prop
  | finite .. => True
  | infinite _ => False
  | nan _ => False

/-- A number is a multiple of the least number above zero, if it is finite. -/
def OnGrid : Binary64 → Prop
  | finite _ _ exponent => -1074 ≤ exponent
  | infinite _ => True
  | nan _ => True

theorem onGrid_ofRatio (negative : Bool) (num den : Nat) : (ofRatio negative num den).OnGrid := by
  have hdone : ∀ (m : Nat) (q : Int), -1074 ≤ q →
      (if 971 < q then infinite negative else finite negative m q).OnGrid := by
    intro m q hq
    split
    · trivial
    · exact hq
  unfold ofRatio
  split
  · exact Int.le_refl _
  · have hguess : -1074 ≤ max (-1074) ((bitLength num : Int) - bitLength den - 53) :=
      Int.le_max_left _ _
    generalize max (-1074) ((bitLength num : Int) - bitLength den - 53) = guess at hguess
    simp only
    -- The exponent is the guess or one more, and one more again where the mantissa is rounded up
    -- to the next power of two.
    generalize hq : (if Nat.pow 2 53 ≤ (overPower num den guess).1 / (overPower num den guess).2
      then guess + 1 else guess) = q
    have hle : -1074 ≤ q := by
      rw [← hq]
      split
      · omega
      · exact hguess
    split
    · exact hdone _ _ (by omega)
    · exact hdone _ _ hle

theorem onGrid_ofScaled (negative : Bool) (n count : Nat) (exponent : Int) :
    (ofScaled negative n count exponent).OnGrid := by
  unfold ofScaled
  split
  · exact Int.le_refl _
  · split
    · trivial
    · split
      · exact Int.le_refl _
      · split
        · exact onGrid_ofRatio _ _ _
        · exact onGrid_ofRatio _ _ _

/-- Decimal digits are read as a number of the format. -/
theorem onGrid_ofDecimal (negative : Bool) (digits : List Nat) (exponent : Int) :
    (ofDecimal negative digits exponent).OnGrid :=
  onGrid_ofScaled _ _ _ _

/-! ## The grids -/

/-- The zeros behind the point are counted up to the first other digit, or as far as the fuel
goes. -/
theorem leadingZeros_cases (den fuel num : Nat) :
    den ≤ num * 10 ^ (leadingZeros den fuel num + 1) ∨ leadingZeros den fuel num = fuel := by
  induction fuel generalizing num with
  | zero => exact .inr rfl
  | succ fuel ih =>
    unfold leadingZeros
    split
    · -- One zero more, and ten times the number is left to look at.
      rcases ih (num * 10) with h | h
      · refine .inl (Nat.le_trans h (Nat.le_of_eq ?_))
        rw [Nat.mul_assoc, ← Nat.pow_succ']
      · exact .inr (by rw [h])
    · next h =>
      refine .inl ?_
      rw [Nat.zero_add, Nat.pow_one]
      exact Nat.not_lt.1 h

/-- A number with so many digits is not less than the power of ten with as many. -/
theorem pow_length_repr_le {n : Nat} (hn : n ≠ 0) : 10 ^ ((Nat.repr n).length - 1) ≤ n := by
  by_contra h
  rw [Nat.not_le] at h
  cases hlength : (Nat.repr n).length - 1 with
  | zero =>
    rw [hlength, Nat.pow_zero] at h
    omega
  | succ k =>
    have := Nat.repr_length n _ (by omega) h
    omega

/-- The nearer neighbour is not zero where the number is not below the unit of the grid. -/
theorem gridNeighbours_ne_zero {num den : Nat} {scale : Int} (hden : 0 < den)
    (hwhole : ∀ e : Nat, scale = e → den * 10 ^ e ≤ num)
    (hpart : ∀ e, scale = .negSucc e → den ≤ num * 10 ^ (e + 1)) :
    (gridNeighbours num den scale).headD 0 ≠ 0 := by
  have hhead : ∀ n d, 0 < d → d ≤ n → ∀ b : Bool,
      (if b then [n / d, n / d + 1] else [n / d + 1, n / d]).headD 0 ≠ 0 := by
    intro n d hd hle b
    have hpos := Nat.div_pos hle hd
    cases b with
    | true => exact Nat.pos_iff_ne_zero.1 hpos
    | false => exact Nat.succ_ne_zero _
  cases scale with
  | ofNat e =>
    exact hhead num (den * 10 ^ e) (Nat.mul_pos hden (Nat.pow_pos (by decide))) (hwhole e rfl) _
  | negSucc e => exact hhead (num * 10 ^ (e + 1)) den hden (hpart e rfl) _

/-- With one digit more than the number has in front of the point, or with one more than there are
zeros behind it, the grid is fine enough. -/
theorem gridNeighbours_pointPlace_ne_zero {num den digits places : Nat} (hden : 0 < den)
    (hplaces : places ≤ 400) (hbound : den ≤ num * 10 ^ places) (hdigits : 0 < digits) :
    (gridNeighbours num den (pointPlace num den - digits)).headD 0 ≠ 0 := by
  unfold pointPlace
  split
  · next hle =>
    -- There are digits in front of the point.
    have hquotient : num / den ≠ 0 := Nat.pos_iff_ne_zero.1 (Nat.div_pos hle hden)
    have hpow := pow_length_repr_le hquotient
    generalize (Nat.repr (num / den)).length = k at hpow
    refine gridNeighbours_ne_zero hden (fun e he => ?_) fun e he => ?_
    · calc
        den * 10 ^ e ≤ den * 10 ^ (k - 1) :=
          Nat.mul_le_mul_left _ (Nat.pow_le_pow_right (by decide) (by omega))
        _ ≤ den * (num / den) := Nat.mul_le_mul_left _ hpow
        _ ≤ num := Nat.mul_div_le num den
    · exact Nat.le_trans hle (Nat.le_mul_of_pos_right _ (Nat.pow_pos (by decide)))
  · -- The first digit comes behind zeros.
    generalize hz : leadingZeros den 400 num = z
    have hzeros : den ≤ num * 10 ^ (z + 1) := by
      have hcases := leadingZeros_cases den 400 num
      rw [hz] at hcases
      rcases hcases with h | h
      · exact h
      · exact Nat.le_trans hbound (Nat.mul_le_mul_left _ (Nat.pow_le_pow_right (by decide)
          (by omega)))
    refine gridNeighbours_ne_zero hden (fun e he => ?_) fun e he => ?_
    · omega
    · exact Nat.le_trans hzeros (Nat.mul_le_mul_left _ (Nat.pow_le_pow_right (by decide)
        (by omega)))

/-! ## The digits -/

/-- What is found reads back, or comes from the last grid. -/
theorem shortestFrom_ne_zero {m num den : Nat} {e point : Int} (hm : m ≠ 0) (more : Nat) :
    ∀ digits, (gridNeighbours num den (point - ↑(digits + more))).headD 0 ≠ 0 →
      (shortestFrom m e num den point digits more).1 ≠ 0 := by
  induction more with
  | zero =>
    intro digits hlast
    exact hlast
  | succ more ih =>
    -- The last grid stays the same while digits are added.
    intro digits hlast
    unfold shortestFrom
    simp only
    split
    · next c hc =>
      intro hzero
      have hreads := List.find?_some hc
      -- A zero is read as zero.
      rw [show c = 0 from hzero] at hreads
      simp only [ofScaled, if_true, beq_iff_eq, finite.injEq] at hreads
      exact hm hreads.2.1.symm
    · refine ih (digits + 1) ?_
      rwa [show digits + 1 + more = digits + (more + 1) by omega]

/-- Three binary places are less than one decimal place. -/
theorem two_pow_le_ten_pow (k : Nat) : 2 ^ (k + 1) ≤ 10 ^ (k / 3 + 1) :=
  calc
    2 ^ (k + 1) ≤ 2 ^ (3 * (k / 3 + 1)) := Nat.pow_le_pow_right (by decide) (by omega)
    _ = (2 ^ 3) ^ (k / 3 + 1) := Nat.pow_mul ..
    _ ≤ 10 ^ (k / 3 + 1) := Nat.pow_le_pow_left (by decide) _

/-- A number of the format other than zero has digits other than zero. -/
theorem shortest_ne_zero {m : Nat} {e : Int} (hm : m ≠ 0) (he : -1074 ≤ e) :
    (shortest m e).1 ≠ 0 := by
  have hpos : 0 < m := Nat.pos_iff_ne_zero.2 hm
  cases e with
  | ofNat k =>
    have hnum : 1 ≤ m * 2 ^ k * 10 ^ 0 := Nat.mul_pos (Nat.mul_pos hpos (Nat.pow_pos (by decide)))
      (by decide)
    apply shortestFrom_ne_zero hm 16 1
    exact gridNeighbours_pointPlace_ne_zero (by decide) (Nat.zero_le _) hnum (by decide)
  | negSucc k =>
    have hden : 2 ^ (k + 1) ≤ m * 10 ^ (k / 3 + 1) :=
      Nat.le_trans (two_pow_le_ten_pow k) (Nat.le_mul_of_pos_left _ hpos)
    apply shortestFrom_ne_zero hm 16 1
    exact gridNeighbours_pointPlace_ne_zero (Nat.pow_pos (by decide)) (by omega) hden (by decide)

end RecordSchema.Binary64
