import RecordSchema.Text.Utf8
import Mathlib.Logic.Basic

/-!
# Texts through UTF-8

Octets that encode characters are decoded to these characters (`decode?_encode`). A character takes
one to four octets, and the decoder tells from the first one how many; its checks against overlong
forms and surrogates let through what the encoder writes.
-/

set_option autoImplicit false

namespace RecordSchema.Text.Utf8

/-! ## Octets as numbers -/

theorem toNat_ofNat {n : Nat} (h : n < 256) : (UInt8.ofNat n).toNat = n := by
  rw [UInt8.toNat_ofNat']
  exact Nat.mod_eq_of_lt h

theorem ofNat_lt_iff {n : Nat} (h : n < 256) (o : UInt8) : UInt8.ofNat n < o ↔ n < o.toNat := by
  rw [UInt8.lt_iff_toNat_lt, toNat_ofNat h]

theorem ofNat_le_iff {n : Nat} (h : n < 256) (o : UInt8) : UInt8.ofNat n ≤ o ↔ n ≤ o.toNat := by
  rw [UInt8.le_iff_toNat_le, toNat_ofNat h]

theorem le_ofNat_iff {n : Nat} (h : n < 256) (o : UInt8) : o ≤ UInt8.ofNat n ↔ o.toNat ≤ n := by
  rw [UInt8.le_iff_toNat_le, toNat_ofNat h]

theorem ofNat_beq {n : Nat} (h : n < 256) (o : UInt8) :
    (UInt8.ofNat n == o) = decide (n = o.toNat) := by
  rw [beq_eq_decide, decide_eq_decide, ← UInt8.toNat_inj, toNat_ofNat h]

theorem between_iff {n : Nat} (h : n < 256) (low high : UInt8) :
    (decide (low ≤ UInt8.ofNat n) && decide (UInt8.ofNat n ≤ high)) =
      decide (low.toNat ≤ n ∧ n ≤ high.toNat) := by
  simp [le_ofNat_iff h, ofNat_le_iff h]

/-- A leading octet of several is not that of one. -/
theorem not_ofNat_lt {n : Nat} (h : n < 256) (hn : 0x80 ≤ n) : ¬ UInt8.ofNat n < 0x80 := by
  rw [ofNat_lt_iff h]
  exact Nat.not_lt.2 hn

/-- An octet within the limits of a continuation adds its low six bits. -/
theorem continuation?_ofNat {n : Nat} {low high : UInt8} (hlow : low.toNat ≤ n)
    (hhigh : n ≤ high.toNat) : continuation? low high (UInt8.ofNat n) = some (n % 64) := by
  have hn : n < 256 := Nat.lt_of_le_of_lt hhigh high.toNat_lt
  unfold continuation?
  rw [toNat_ofNat hn, if_pos]
  simp [le_ofNat_iff hn, ofNat_le_iff hn, hlow, hhigh]

theorem continuation?_any {n : Nat} (h : 0x80 ≤ n) (h' : n ≤ 0xBF) :
    continuation? 0x80 0xBF (UInt8.ofNat n) = some (n % 64) :=
  continuation?_ofNat h h'

/-- The limits of the first continuation are narrower behind two leading octets, the least one and
one more. -/
theorem continuation?_first {n a : Nat} (hn : n < 256) (ha : 0x80 ≤ a) (ha' : a ≤ 0xBF)
    (least most low high : UInt8) (hlow : n = least.toNat → low.toNat ≤ a)
    (hhigh : n = most.toNat → a ≤ high.toNat) :
    continuation? (if UInt8.ofNat n == least then low else 0x80)
      (if UInt8.ofNat n == most then high else 0xBF) (UInt8.ofNat a) = some (a % 64) := by
  refine continuation?_ofNat ?_ ?_
  · rw [ofNat_beq hn]
    split
    · next heq => exact hlow (of_decide_eq_true heq)
    · exact ha
  · rw [ofNat_beq hn]
    split
    · next heq => exact hhigh (of_decide_eq_true heq)
    · exact ha'

/-! ## One character -/

section Leading

variable {n a b c : Nat} (rest : List UInt8)

theorem decode?_one (h : n < 0x80) :
    decode? (UInt8.ofNat n :: rest) = (decode? rest).map (Char.ofNat n :: ·) := by
  have hn : n < 256 := by omega
  have hone : UInt8.ofNat n < 0x80 := (ofNat_lt_iff hn _).2 h
  conv => lhs; unfold decode?
  rw [if_pos hone, toNat_ofNat hn]

theorem decode?_two (h : 0xC2 ≤ n) (h' : n ≤ 0xDF) (ha : 0x80 ≤ a) (ha' : a ≤ 0xBF) :
    decode? (UInt8.ofNat n :: UInt8.ofNat a :: rest) =
      (decode? rest).map (Char.ofNat (join (n % 32) (a % 64)) :: ·) := by
  have hn : n < 256 := by omega
  have hone : ¬ UInt8.ofNat n < 0x80 := not_ofNat_lt hn (by omega)
  conv => lhs; unfold decode?
  rw [if_neg hone]
  simp only [between_iff hn]
  rw [if_pos (by simpa using ⟨h, h'⟩)]
  simp only [continuation?_any ha ha', toNat_ofNat hn]
  cases decode? rest <;> rfl

theorem decode?_three (h : 0xE0 ≤ n) (h' : n ≤ 0xEF) (ha : 0x80 ≤ a) (ha' : a ≤ 0xBF)
    (hoverlong : n = 0xE0 → 0xA0 ≤ a) (hsurrogate : n = 0xED → a ≤ 0x9F)
    (hb : 0x80 ≤ b) (hb' : b ≤ 0xBF) :
    decode? (UInt8.ofNat n :: UInt8.ofNat a :: UInt8.ofNat b :: rest) =
      (decode? rest).map (Char.ofNat (join (join (n % 16) (a % 64)) (b % 64)) :: ·) := by
  have hn : n < 256 := by omega
  have hone : ¬ UInt8.ofNat n < 0x80 := not_ofNat_lt hn (by omega)
  conv => lhs; unfold decode?
  rw [if_neg hone]
  simp only [between_iff hn]
  rw [if_neg (by simp; omega), if_pos (by simpa using ⟨h, h'⟩)]
  simp only [continuation?_first hn ha ha' 0xE0 0xED 0xA0 0x9F hoverlong hsurrogate,
    continuation?_any hb hb', toNat_ofNat hn]
  cases decode? rest <;> rfl

theorem decode?_four (h : 0xF0 ≤ n) (h' : n ≤ 0xF4) (ha : 0x80 ≤ a) (ha' : a ≤ 0xBF)
    (hoverlong : n = 0xF0 → 0x90 ≤ a) (hbeyond : n = 0xF4 → a ≤ 0x8F)
    (hb : 0x80 ≤ b) (hb' : b ≤ 0xBF) (hc : 0x80 ≤ c) (hc' : c ≤ 0xBF) :
    decode? (UInt8.ofNat n :: UInt8.ofNat a :: UInt8.ofNat b :: UInt8.ofNat c :: rest) =
      (decode? rest).map
        (Char.ofNat (join (join (join (n % 8) (a % 64)) (b % 64)) (c % 64)) :: ·) := by
  have hn : n < 256 := by omega
  have hone : ¬ UInt8.ofNat n < 0x80 := not_ofNat_lt hn (by omega)
  conv => lhs; unfold decode?
  rw [if_neg hone]
  simp only [between_iff hn]
  rw [if_neg (by simp; omega), if_neg (by simp; omega), if_pos (by simpa using ⟨h, h'⟩)]
  simp only [continuation?_first hn ha ha' 0xF0 0xF4 0x90 0x8F hoverlong hbeyond,
    continuation?_any hb hb', continuation?_any hc hc', toNat_ofNat hn]
  cases decode? rest <;> rfl

end Leading

/-- The octets of a character are decoded to it. -/
theorem decode?_encodeChar (c : Char) (rest : List UInt8) :
    decode? (String.utf8EncodeChar c ++ rest) = (decode? rest).map (c :: ·) := by
  have hvalid : c.toNat < 0xD800 ∨ 0xDFFF < c.toNat ∧ c.toNat < 0x110000 := c.valid
  have hof : ∀ n, n = c.toNat → Char.ofNat n = c := by
    rintro n rfl
    exact Char.ofNat_toNat c
  unfold String.utf8EncodeChar
  rw [show c.val.toNat = c.toNat from rfl]
  dsimp only
  -- One case for each number of octets, which join to the number of the character again.
  split
  · rw [List.cons_append, List.nil_append, decode?_one rest (by omega), hof _ rfl]
  split
  · rw [List.cons_append, List.cons_append, List.nil_append,
      decode?_two rest (by omega) (by omega) (by omega) (by omega), hof]
    unfold join
    omega
  split
  · rw [List.cons_append, List.cons_append, List.cons_append, List.nil_append,
      decode?_three rest (by omega) (by omega) (by omega) (by omega) (by omega) (by omega)
        (by omega) (by omega), hof]
    unfold join
    omega
  · rw [List.cons_append, List.cons_append, List.cons_append, List.cons_append, List.nil_append,
      decode?_four rest (by omega) (by omega) (by omega) (by omega) (by omega) (by omega)
        (by omega) (by omega) (by omega) (by omega), hof]
    unfold join
    omega

/-! ## Texts -/

/-- What is encoded is decoded. -/
theorem decode?_encode (cs : List Char) : decode? (encode cs) = some cs := by
  induction cs with
  | nil => rfl
  | cons c cs ih =>
    rw [show encode (c :: cs) = String.utf8EncodeChar c ++ encode cs from rfl,
      decode?_encodeChar, ih]
    rfl

end RecordSchema.Text.Utf8
