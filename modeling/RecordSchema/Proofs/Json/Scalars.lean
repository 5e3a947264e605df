import RecordSchema.Json.Reader
import RecordSchema.Json.Writer

/-!
# Reading back scalars

The text of a scalar says what the scalar was. Every character of a string is read back from what
stands for it (`stringChars_stringChar`), so a string is read back up to its closing quote
(`readString_string`). The digits of an integer have its value and begin with a zero only if it is
zero (`IsNumeral`), so an integer is read back provided that what follows does not belong to a
number (`readNumber_intText`).
-/

set_option autoImplicit false

namespace RecordSchema.Json

open RecordSchema.Text

/-! ## Strings -/

/-- Four hexadecimal digits that stand for a control character are read as its number. -/
theorem fourDigits?_fixedDigits {n : Nat} (hn : n < 0x20) {rest : List Char} (hrest : rest ≠ []) :
    fourDigits? (fixedDigits 16 4 n ++ rest) = some (n, rest) := by
  have hdigits : ∀ m < 0x20, ∃ a b c d, fixedDigits 16 4 m = [a, b, c, d] ∧
      ([a, b, c, d].mapM (digitIn? 16)).map (ofDigits 16) = some m := by
    intro m hm
    refine ⟨_, _, _, _, rfl, ?_⟩
    revert m
    decide
  obtain ⟨a, b, c, d, heq, hvalue⟩ := hdigits n hn
  have hne : rest.isEmpty = false := by simpa using hrest
  rw [heq]
  show (if rest.isEmpty then none else _) = _
  rw [hne, hvalue]
  rfl

/-- A control character is read back from its number, whatever follows. -/
theorem unicodeEscape_fixedDigits {c : Char} (hc : c.toNat < 0x20) {rest : List Char}
    (hrest : rest ≠ []) : unicodeEscape (fixedDigits 16 4 c.toNat ++ rest) = .ok (c, rest) := by
  have hhigh : isHighSurrogate c.toNat = false := by simp [isHighSurrogate]; omega
  have hlow : isLowSurrogate c.toNat = false := by simp [isLowSurrogate]; omega
  have hchar : unitChar c.toNat = c := by simp [unitChar, hhigh, hlow]
  unfold unicodeEscape
  rw [fourDigits?_fixedDigits hc hrest]
  simp only [hhigh, hchar]
  split <;> rfl

section Characters

variable {start fuel : Nat} {rest : List Char}

/-- What is read behind a character goes behind it. -/
def readBehind (c : Char) (read : Except Fault (List Char × List Char)) :
    Except Fault (List Char × List Char) := read.map fun r => (c :: r.1, r.2)

theorem bind_eq_readBehind (c : Char) (read : Except Fault (List Char × List Char)) :
    (read >>= fun r => pure (c :: r.1, r.2)) = readBehind c read := by
  cases read <;> rfl

theorem stringChars_escape {e d : Char} (he : escaped? e = some d) :
    stringChars start (fuel + 1) ('\\' :: e :: rest) =
      readBehind d (stringChars start fuel rest) := by
  have hu : e ≠ 'u' := by
    rintro rfl
    cases he
  rw [← bind_eq_readBehind, stringChars]
  · simp only [Char.reduceBEq, Bool.false_eq_true, if_false, if_true, he]
  · exact hu

theorem stringChars_number {c : Char} (hc : c.toNat < 0x20) (hrest : rest ≠ []) :
    stringChars start (fuel + 1) ('\\' :: 'u' :: fixedDigits 16 4 c.toNat ++ rest) =
      readBehind c (stringChars start fuel rest) := by
  rw [← bind_eq_readBehind, List.cons_append, List.cons_append, stringChars.eq_def]
  simp only [Char.reduceBEq, Bool.false_eq_true, if_false, if_true,
    unicodeEscape_fixedDigits hc hrest]
  rfl

theorem stringChars_plain {c : Char} (hquote : c ≠ '"') (hescape : c ≠ '\\')
    (hc : ¬ c.toNat < 0x20) :
    stringChars start (fuel + 1) (c :: rest) = readBehind c (stringChars start fuel rest) := by
  rw [← bind_eq_readBehind, stringChars.eq_def]
  simp only [beq_eq_false_iff_ne.2 hquote, beq_eq_false_iff_ne.2 hescape, hc, Bool.false_eq_true,
    if_false]

/-- One character of a string is read from what stands for it. -/
theorem stringChars_stringChar (c : Char) (hrest : rest ≠ []) :
    stringChars start (fuel + 1) (stringChar c ++ rest) =
      readBehind c (stringChars start fuel rest) := by
  unfold stringChar
  -- Seven characters have an escape of their own; the others stand as numbers or as themselves.
  by_cases hquote : c = '"'
  · subst hquote
    exact stringChars_escape rfl
  by_cases hescape : c = '\\'
  · subst hescape
    exact stringChars_escape rfl
  by_cases hn : c = '\n'
  · subst hn
    exact stringChars_escape rfl
  by_cases hr : c = '\r'
  · subst hr
    exact stringChars_escape rfl
  by_cases ht : c = '\t'
  · subst ht
    exact stringChars_escape rfl
  by_cases hb : c = '\x08'
  · subst hb
    exact stringChars_escape rfl
  by_cases hf : c = '\x0c'
  · subst hf
    exact stringChars_escape rfl
  simp only [beq_eq_false_iff_ne.2 hquote, beq_eq_false_iff_ne.2 hescape, beq_eq_false_iff_ne.2 hn,
    beq_eq_false_iff_ne.2 hr, beq_eq_false_iff_ne.2 ht, beq_eq_false_iff_ne.2 hb,
    beq_eq_false_iff_ne.2 hf, Bool.or_self, Bool.false_eq_true, if_false]
  by_cases hc : c.toNat < 0x20
  · rw [if_pos hc]
    exact stringChars_number hc hrest
  · rw [if_neg hc]
    exact stringChars_plain hquote hescape hc

/-- The characters of a string are read back up to the closing quote. -/
theorem stringChars_flatMap (cs after : List Char) (hfuel : cs.length < fuel) :
    stringChars start fuel (cs.flatMap stringChar ++ '"' :: after) = .ok (cs, after) := by
  induction cs generalizing fuel with
  | nil =>
    cases fuel with
    | zero => cases hfuel
    | succ fuel => rfl
  | cons c cs ih =>
    cases fuel with
    | zero => cases hfuel
    | succ fuel =>
      have hrest : cs.flatMap stringChar ++ '"' :: after ≠ [] := by simp
      rw [List.flatMap_cons, List.append_assoc, stringChars_stringChar c hrest,
        ih (Nat.lt_of_succ_lt_succ hfuel)]
      rfl

end Characters

/-- No character of a string is written as nothing. -/
theorem length_le_flatMap_stringChar (cs : List Char) :
    cs.length ≤ (cs.flatMap stringChar).length := by
  have hone : ∀ c, 1 ≤ (stringChar c).length := by
    intro c
    unfold stringChar
    repeat' split
    all_goals simp
  induction cs with
  | nil => exact Nat.zero_le _
  | cons c cs ih =>
    have := hone c
    rw [List.flatMap_cons, List.length_append, List.length_cons]
    omega

/-- A string is read back behind its opening quote. -/
theorem readString_string (s : String) (after : List Char) :
    readString (s.toList.flatMap stringChar ++ '"' :: after) = .ok (s, after) := by
  have hlength := length_le_flatMap_stringChar s.toList
  have hfuel : s.toList.length < (s.toList.flatMap stringChar ++ '"' :: after).length + 1 := by
    rw [List.length_append]
    omega
  unfold readString
  rw [stringChars_flatMap s.toList after hfuel]
  show Except.ok (String.ofList s.toList, after) = _
  rw [String.ofList_toList]

/-- What is written for a string has no carriage return in it. -/
theorem return_notMem_string (s : String) : '\r' ∉ (string s).toList := by
  have hdigits : ∀ n < 0x20, '\r' ∉ fixedDigits 16 4 n := by decide
  have hone : ∀ c, '\r' ∉ stringChar c := by
    intro c
    by_cases hc : c = '\r'
    · subst hc
      decide
    · unfold stringChar
      have hc' : '\r' ≠ c := Ne.symm hc
      repeat' split
      all_goals simp_all
  simp [string, hone]

/-! ## Numbers -/

/-- The digits of a number in base ten: they have its value, and they begin with a zero only if it
is zero. -/
structure IsNumeral (n : Nat) (ds : List Char) : Prop where
  digits : ∀ c ∈ ds, '0' ≤ c ∧ c ≤ '9'
  value : ofDigits 10 (ds.filterMap (digitIn? 10)) = n
  ne_nil : ds ≠ []
  leading : ds.head? = some '0' → n = 0

theorem ofDigits_concat (ds : List Nat) (d : Nat) :
    ofDigits 10 (ds ++ [d]) = ofDigits 10 ds * 10 + d := by
  simp [ofDigits, List.foldl_append]

theorem isNumeral_toDigits (n : Nat) : IsNumeral n (Nat.toDigits 10 n) := by
  have hdigit : ∀ d < 10, '0' ≤ Nat.digitChar d ∧ Nat.digitChar d ≤ '9' ∧
      digitIn? 10 (Nat.digitChar d) = some d ∧ (Nat.digitChar d = '0' → d = 0) := by decide
  -- The last digit is split off as long as there are others.
  induction n using Nat.strongRecOn with
  | ind n ih =>
    by_cases hn : n < 10
    · rw [Nat.toDigits_of_lt_base hn]
      obtain ⟨hlow, hhigh, hvalue, hzero⟩ := hdigit n hn
      refine ⟨?_, ?_, by simp, fun hhead => hzero (Option.some.inj hhead)⟩
      · simp [hlow, hhigh]
      · simp [hvalue, ofDigits]
    · rw [Nat.toDigits_of_base_le (by omega) (by omega)]
      obtain ⟨hlow, hhigh, hvalue, -⟩ := hdigit (n % 10) (by omega)
      have hfront := ih (n / 10) (by omega)
      refine ⟨?_, ?_, by simp, ?_⟩
      · intro c hc
        rcases List.mem_append.1 hc with hc | hc
        · exact hfront.digits c hc
        · rw [List.mem_singleton.1 hc]
          exact ⟨hlow, hhigh⟩
      · rw [List.filterMap_append, List.filterMap_cons_some hvalue, List.filterMap_nil,
          ofDigits_concat, hfront.value]
        omega
      · intro hhead
        rw [List.head?_append, Option.or_of_isSome (List.isSome_head?.2 hfront.ne_nil)] at hhead
        have := hfront.leading hhead
        omega

/-- What may stand behind a number: nothing that could belong to it. -/
def Ends (rest : List Char) : Prop :=
  ∀ c, rest.head? = some c → ¬ ('0' ≤ c ∧ c ≤ '9') ∧ c ≠ '.' ∧ c ≠ 'e' ∧ c ≠ 'E'

theorem spanDigits_append {ds rest : List Char} (hds : ∀ c ∈ ds, '0' ≤ c ∧ c ≤ '9')
    (hrest : Ends rest) : spanDigits (ds ++ rest) = (ds, rest) := by
  have hall : ∀ c ∈ ds, (decide ('0' ≤ c) && decide (c ≤ '9')) = true := by simpa using hds
  have hstop : rest.takeWhile (fun c => decide ('0' ≤ c) && decide (c ≤ '9')) = [] ∧
      rest.dropWhile (fun c => decide ('0' ≤ c) && decide (c ≤ '9')) = rest := by
    cases rest with
    | nil => exact ⟨rfl, rfl⟩
    | cons c rest =>
      have hc : (decide ('0' ≤ c) && decide (c ≤ '9')) = false := by
        rw [← Bool.not_eq_true, Bool.and_eq_true, decide_eq_true_eq, decide_eq_true_eq]
        exact (hrest c rfl).1
      constructor
      · exact List.takeWhile_cons_of_neg (by simp [hc])
      · exact List.dropWhile_cons_of_neg (by simp [hc])
  unfold spanDigits
  rw [List.takeWhile_append_of_pos hall, List.dropWhile_append_of_pos hall, hstop.1, hstop.2,
    List.append_nil]

theorem fractionPart_of_ends {rest : List Char} (h : Ends rest) :
    fractionPart rest = ([], rest) := by
  unfold fractionPart
  split
  · exact absurd rfl (h _ rfl).2.1
  · rfl

theorem exponentPart?_of_ends {rest : List Char} (h : Ends rest) : exponentPart? rest = none := by
  cases rest with
  | nil => rfl
  | cons c rest =>
    obtain ⟨-, -, he, hE⟩ := h c rfl
    simp [exponentPart?, he, hE]

/-- The sign in front of a number and what follows it. -/
def signPart : List Char → Bool × List Char
  | '-' :: rest => (true, rest)
  | cs => (false, cs)

/-- The whole part of a number and what follows it. -/
def wholePart : List Char → List Char × List Char
  | '0' :: rest => (['0'], rest)
  | body => spanDigits body

/-- A number by its parts. -/
theorem readNumber_eq (cs : List Char) :
    readNumber cs =
      if (wholePart (signPart cs).2).1.isEmpty then faultAt "Expecting value" cs
      else
        let (whole, rest) := wholePart (signPart cs).2
        let (fraction, rest) := fractionPart rest
        let exponent := exponentPart? rest
        let values (ds : List Char) : List Nat := ds.filterMap (digitIn? 10)
        if fraction.isEmpty && exponent.isNone then
          if Numeral.maxDigits < whole.length then .error .longNumber
          else .ok (.int (Numeral.signed (signPart cs).1 (ofDigits 10 (values whole))), rest)
        else
          let (power, rest) := exponent.getD (0, rest)
          let digits := whole ++ fraction
          .ok (.real (.ofDecimal (signPart cs).1 (values digits) (power - fraction.length)),
            rest) := rfl

theorem wholePart_toDigits (n : Nat) {rest : List Char} (hrest : Ends rest) :
    wholePart (Nat.toDigits 10 n ++ rest) = (Nat.toDigits 10 n, rest) := by
  have h := isNumeral_toDigits n
  by_cases hn : n = 0
  · subst hn
    rw [Nat.toDigits_zero]
    rfl
  · unfold wholePart
    split
    · rename_i heq
      have hhead := congrArg List.head? heq
      rw [List.head?_append, Option.or_of_isSome (List.isSome_head?.2 h.ne_nil)] at hhead
      exact absurd (h.leading hhead) hn
    · exact spanDigits_append h.digits hrest

theorem signPart_toDigits (n : Nat) (rest : List Char) :
    signPart (Nat.toDigits 10 n ++ rest) = (false, Nat.toDigits 10 n ++ rest) := by
  have h := isNumeral_toDigits n
  unfold signPart
  split
  · rename_i heq
    -- A minus sign is no digit.
    have hhead := congrArg List.head? heq
    rw [List.head?_append, Option.or_of_isSome (List.isSome_head?.2 h.ne_nil)] at hhead
    exact absurd (h.digits _ (List.mem_of_mem_head? hhead)) (by decide)
  · rfl

/-- Digits that are not too many are read as the number that they denote. -/
theorem readNumber_of_digits {cs rest : List Char} {negative : Bool} {n : Nat}
    (hsign : signPart cs = (negative, Nat.toDigits 10 n ++ rest))
    (hn : (Nat.toDigits 10 n).length ≤ Numeral.maxDigits) (hrest : Ends rest) :
    readNumber cs = .ok (.int (Numeral.signed negative n), rest) := by
  have h := isNumeral_toDigits n
  have hne : (Nat.toDigits 10 n).isEmpty = false := List.isEmpty_eq_false_iff.2 h.ne_nil
  rw [readNumber_eq, hsign]
  simp only [wholePart_toDigits n hrest, hne, fractionPart_of_ends hrest,
    exponentPart?_of_ends hrest, Bool.false_eq_true, if_false, List.isEmpty_nil, Option.isNone_none,
    Bool.and_self, if_true, h.value, if_neg (Nat.not_lt.2 hn)]

/-- An integer that is not too long is read back. -/
theorem readNumber_intText {n : Int} (hn : Numeral.isWritable n = true) {rest : List Char}
    (hrest : Ends rest) : readNumber ((intText n).toList ++ rest) = .ok (.int n, rest) := by
  have hlength : (Nat.toDigits 10 n.natAbs).length ≤ Numeral.maxDigits := by
    rw [← Nat.toList_repr, String.length_toList]
    simpa [Numeral.isWritable] using hn
  cases n with
  | ofNat n =>
    rw [intText, Nat.toList_repr]
    exact readNumber_of_digits (signPart_toDigits n rest) hlength hrest
  | negSucc n =>
    have hsign : signPart ('-' :: Nat.toDigits 10 (n + 1) ++ rest) =
        (true, Nat.toDigits 10 (n + 1) ++ rest) := rfl
    rw [intText, String.toList_ofList, Nat.toList_repr]
    exact readNumber_of_digits hsign hlength hrest

end RecordSchema.Json
