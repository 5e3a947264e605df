import Mathlib.Algebra.Group.Nat.Defs
import Mathlib.Data.List.Basic
import RecordSchema.Text.Quoted

/-!
# Quoted text is unambiguous

A character between quotes is written by itself, by a mark after a backslash, or by a number of
fixed width after a backslash (`Written`). No way of writing a character is the beginning of another
(`Written.unique`), and none begins with the quote itself, so a quoted text tells where it ends and
what it quotes, whatever stands behind it (`eq_of_quotedChars_append`).
-/

set_option autoImplicit false

namespace RecordSchema.Text

/-! ## Numbers of fixed width -/

theorem length_fixedDigits (base width n : Nat) : (fixedDigits base width n).length = width := by
  induction width generalizing n with
  | zero => rfl
  | succ width ih => rw [fixedDigits, List.length_append, ih, List.length_singleton]

theorem digitChar_inj : ∀ m < 16, ∀ n < 16, digitChar m = digitChar n → m = n := by decide

/-- Hexadecimal digits of fixed width tell the number. -/
theorem fixedDigits_inj {width m n : Nat} (hm : m < 16 ^ width) (hn : n < 16 ^ width)
    (h : fixedDigits 16 width m = fixedDigits 16 width n) : m = n := by
  induction width generalizing m n with
  | zero => omega
  | succ width ih =>
    rw [Nat.pow_succ] at hm hn
    obtain ⟨hhigh, hlow⟩ := List.append_inj' h rfl
    have hquotient := ih (Nat.div_lt_of_lt_mul (Nat.mul_comm .. ▸ hm))
      (Nat.div_lt_of_lt_mul (Nat.mul_comm .. ▸ hn)) hhigh
    have hremainder := digitChar_inj _ (Nat.mod_lt m (by decide)) _ (Nat.mod_lt n (by decide))
      (List.singleton_inj.1 hlow)
    omega

theorem mem_fixedDigits {width n : Nat} {c : Char} (h : c ∈ fixedDigits 16 width n) :
    ∃ m < 16, c = digitChar m := by
  induction width generalizing n with
  | zero => cases h
  | succ width ih =>
    rcases List.mem_append.1 h with h | h
    · exact ih h
    · exact ⟨n % 16, Nat.mod_lt n (by decide), List.mem_singleton.1 h⟩

/-! ## Characters between quotes -/

/-- What holds of both quotes holds of either. -/
theorem forall_quotes {p : Char → Prop} (single : p '\'') (double : p '"') :
    ∀ quote ∈ ['\'', '"'], p quote :=
  List.forall_mem_cons.2 ⟨single, List.forall_mem_singleton.2 double⟩

/-- The letters before a number, with the width of the number. -/
def numberWidths : List (Char × Nat) := [('x', 2), ('u', 4), ('U', 8)]

/-- The character that a mark after a backslash stands for. -/
def marked : Char → Char
  | 't' => '\t'
  | 'n' => '\n'
  | 'r' => '\r'
  | mark => mark

/-- The ways of writing a character between quotes. -/
inductive Written (quote c : Char) : List Char → Prop where
  | own (no_quote : c ≠ quote) (no_backslash : c ≠ '\\') : Written quote c [c]
  | mark (m : Char) (no_letter : m ∉ numberWidths.map Prod.fst) (stands : c = marked m) :
      Written quote c ['\\', m]
  | number (letter : Char) (width : Nat) (mem : (letter, width) ∈ numberWidths)
      (fits : c.toNat < 16 ^ width) :
      Written quote c ('\\' :: letter :: fixedDigits 16 width c.toNat)

section Written

variable {quote c d : Char} {xs ys rest rest' : List Char}

/-- Characters are written in these ways, between single quotes and between double ones. -/
theorem written_quotedChar (hquote : quote ∈ ['\'', '"']) (c : Char) :
    Written quote c (quotedChar quote c) := by
  unfold quotedChar
  split
  · next hself =>
    -- The quote and the backslash are marks of themselves.
    have hmark : c ∉ numberWidths.map Prod.fst ∧ c = marked c := by
      rcases Bool.or_eq_true_iff.1 hself with h | h
      · obtain rfl := eq_of_beq h
        revert c hquote
        exact forall_quotes (by decide) (by decide)
      · obtain rfl := eq_of_beq h
        decide
    exact .mark c hmark.1 hmark.2
  · next hself =>
    simp only [Bool.or_eq_true, beq_iff_eq, not_or] at hself
    split
    · next h => exact .mark 't' (by decide) (eq_of_beq h)
    split
    · next h => exact .mark 'n' (by decide) (eq_of_beq h)
    split
    · next h => exact .mark 'r' (by decide) (eq_of_beq h)
    split
    · exact .own hself.1 hself.2
    split
    · next h => exact .number 'x' 2 (by decide) h
    split
    · next h => exact .number 'u' 4 (by decide) h
    · refine .number 'U' 8 (by decide) ?_
      have hvalid : c.toNat < 0xd800 ∨ 0xdfff < c.toNat ∧ c.toNat < 0x110000 := c.valid
      omega

/-- No way of writing a character is the beginning of another. -/
theorem Written.unique (hc : Written quote c xs) (hd : Written quote d ys)
    (h : xs ++ rest = ys ++ rest') : c = d ∧ rest = rest' := by
  cases hc with
  | own _ no_backslash =>
    cases hd with
    | own _ _ => exact List.cons.inj h
    | mark _ _ _ | number _ _ _ _ => exact absurd (List.cons.inj h).1 no_backslash
  | mark m no_letter stands =>
    cases hd with
    | own _ no_backslash => exact absurd (List.cons.inj h).1.symm no_backslash
    | mark m' _ stands' =>
      obtain ⟨rfl, hrest⟩ := List.cons.inj (List.cons.inj h).2
      exact ⟨stands.trans stands'.symm, hrest⟩
    | number letter _ mem _ =>
      obtain ⟨rfl, -⟩ := List.cons.inj (List.cons.inj h).2
      exact absurd (List.mem_map_of_mem mem) no_letter
  | number letter width mem fits =>
    cases hd with
    | own _ no_backslash => exact absurd (List.cons.inj h).1.symm no_backslash
    | mark m no_letter _ =>
      obtain ⟨rfl, -⟩ := List.cons.inj (List.cons.inj h).2
      exact absurd (List.mem_map_of_mem mem) no_letter
    | number letter' width' mem' fits' =>
      obtain ⟨rfl, hdigits⟩ := List.cons.inj (List.cons.inj h).2
      -- The letter tells the width, so the digits end at the same place.
      have hwidth : width = width' := by
        simp only [numberWidths, List.mem_cons, Prod.mk.injEq, List.not_mem_nil,
          or_false] at mem mem'
        rcases mem with ⟨rfl, rfl⟩ | ⟨rfl, rfl⟩ | ⟨rfl, rfl⟩ <;> simpa [eq_comm] using mem'
      subst hwidth
      obtain ⟨hnumber, hrest⟩ := List.append_inj hdigits (by simp only [length_fixedDigits])
      exact ⟨Char.toNat_inj.1 (fixedDigits_inj fits fits' hnumber), hrest⟩

/-- What is written does not begin with the quote. -/
theorem Written.exists_eq_cons (h : Written quote c xs) (hquote : quote ≠ '\\') :
    ∃ x tail, xs = x :: tail ∧ x ≠ quote := by
  cases h with
  | own no_quote _ => exact ⟨_, _, rfl, no_quote⟩
  | mark _ _ _ | number _ _ _ _ => exact ⟨_, _, rfl, hquote.symm⟩

end Written

/-! ## Quoted texts -/

/-- The characters of a text, as they are written between quotes. -/
def written (quote : Char) (cs : List Char) : List Char := cs.flatMap (quotedChar quote)

theorem quoteFor_mem (cs : List Char) : quoteFor cs ∈ ['\'', '"'] := by
  unfold quoteFor
  split <;> decide

theorem quotedChars_append (cs rest : List Char) :
    quotedChars cs ++ rest = quoteFor cs :: (written (quoteFor cs) cs ++ quoteFor cs :: rest) := by
  simp [quotedChars, written]

/-- Written characters tell what they stand for, and where they end. -/
theorem eq_of_written_append {quote : Char} (hquote : quote ∈ ['\'', '"']) {cs ds : List Char}
    {rest rest' : List Char}
    (h : written quote cs ++ quote :: rest = written quote ds ++ quote :: rest') :
    cs = ds ∧ rest = rest' := by
  have hbackslash : quote ≠ '\\' := by
    rintro rfl
    revert hquote
    decide
  have hwritten := written_quotedChar hquote
  -- The quote that ends one text cannot be taken for a character of the other.
  have hends : ∀ (c : Char) (cs after behind : List Char),
      written quote (c :: cs) ++ after ≠ quote :: behind := by
    intro c cs after behind heq
    obtain ⟨x, tail, hx, hne⟩ := (hwritten c).exists_eq_cons hbackslash
    simp only [written, List.flatMap_cons, hx, List.cons_append] at heq
    exact hne (List.cons.inj heq).1
  induction cs generalizing ds with
  | nil =>
    cases ds with
    | nil => exact ⟨rfl, (List.cons.inj h).2⟩
    | cons d ds => exact absurd h.symm (hends d ds _ _)
  | cons c cs ih =>
    cases ds with
    | nil => exact absurd h (hends c cs _ _)
    | cons d ds =>
      simp only [written, List.flatMap_cons, List.append_assoc] at h
      obtain ⟨rfl, hbehind⟩ := (hwritten c).unique (hwritten d) h
      obtain ⟨rfl, hrest⟩ := ih hbehind
      exact ⟨rfl, hrest⟩

/-- A quoted text tells what it quotes and where it ends. -/
theorem eq_of_quotedChars_append {cs ds rest rest' : List Char}
    (h : quotedChars cs ++ rest = quotedChars ds ++ rest') : cs = ds ∧ rest = rest' := by
  rw [quotedChars_append, quotedChars_append] at h
  obtain ⟨hquote, h⟩ := List.cons.inj h
  rw [← hquote] at h
  exact eq_of_written_append (quoteFor_mem cs) h

end RecordSchema.Text
