import RecordSchema.Json.Reader
import RecordSchema.Proofs.Readers.Basic
import Mathlib.Data.List.TakeWhile

/-!
# Faults of JSON texts

A JSON text is malformed or has a number too long to be read, and the latter only where a long run
of digits is in it (`Json.hasLongNumber_of_decode`). The readers are gone through one by one, from
the parts of strings and numbers up to values.
-/

set_option autoImplicit false

namespace RecordSchema.Json

open RecordSchema.Text

/-- A number too long to be read is a fault of texts with a long run of digits. -/
def faults : Faults Fault where
  inText cs e := e = .longNumber → HasLongNumber cs
  mono hrest h he := (h he).mono hrest.isInfix

variable {α : Type} {cs rest : List Char}

theorem reads_malformed (message : String) (left : Nat) :
    faults.Reads cs (.error (.malformed message left) : Except Fault (α × List Char)) := by
  intro h
  cases h

theorem reads_faultAt (message : String) (at' : List Char) :
    faults.Reads cs (faultAt message at' : Except Fault (α × List Char)) :=
  reads_malformed message at'.length

theorem suffix_skipBlanks (cs : List Char) : skipBlanks cs <:+ cs := List.dropWhile_suffix _

/-- What stands behind a sign that comes after blanks. -/
theorem suffix_of_sign {c : Char} {after : List Char} (h : skipBlanks cs = c :: after) :
    after <:+ cs :=
  suffix_of_cons_suffix (h ▸ suffix_skipBlanks cs)

theorem suffix_skipBlanks_of_sign {c : Char} {after : List Char} (h : skipBlanks cs = c :: after) :
    skipBlanks after <:+ cs :=
  (suffix_skipBlanks after).trans (suffix_of_sign h)

/-! ## Strings -/

theorem suffix_fourDigits {n : Nat} (h : fourDigits? cs = some (n, rest)) : rest <:+ cs := by
  unfold fourDigits? at h
  split at h
  · rename_i a b c d after
    split at h
    · cases h
    · obtain ⟨m, -, hm⟩ := Option.map_eq_some_iff.1 h
      rw [← (Prod.mk.inj hm).2]
      exact ⟨[a, b, c, d], rfl⟩
  · cases h

theorem reads_unicodeEscape (cs : List Char) : faults.Reads cs (unicodeEscape cs) := by
  unfold unicodeEscape
  dsimp only
  split
  · exact reads_malformed _ _
  · rename_i n rest hn
    have hrest := suffix_fourDigits hn
    split
    · -- Half of a pair takes the escape behind it along if that is the other half.
      rename_i low
      split
      · split
        · exact reads_malformed _ _
        · rename_i m after hm
          have hlow : low <:+ cs := (List.suffix_append ['\\', 'u'] low).trans hrest
          split
          · exact .ok ((suffix_fourDigits hm).trans hlow)
          · exact .ok hrest
      · exact .ok hrest
    · exact .ok hrest

theorem reads_stringChars (start fuel : Nat) (cs : List Char) :
    faults.Reads cs (stringChars start fuel cs) := by
  induction fuel generalizing cs with
  | zero => exact reads_malformed _ _
  | succ fuel ih =>
    cases cs with
    | nil => exact reads_malformed _ _
    | cons c rest =>
      have hrest : rest <:+ c :: rest := List.suffix_cons c rest
      unfold stringChars
      split
      · exact .ok hrest
      split
      · -- An escape: four digits, or one character.
        split
        · exact reads_malformed _ _
        · rename_i digits
          refine .mono ((List.suffix_cons 'u' digits).trans hrest) ?_
          refine (reads_unicodeEscape digits).bind fun d rest _ => ?_
          exact (ih rest).bind fun ds after _ => .ok (List.suffix_refl after)
        · rename_i e after _
          split
          · refine .mono ((List.suffix_cons e after).trans hrest) ?_
            exact (ih after).bind fun ds after _ => .ok (List.suffix_refl after)
          · exact reads_faultAt _ _
      split
      · exact reads_faultAt _ _
      · exact .mono hrest ((ih rest).bind fun ds after _ => .ok (List.suffix_refl after))

theorem reads_readString (rest : List Char) : faults.Reads rest (readString rest) :=
  (reads_stringChars _ _ rest).bind fun _ after _ => .ok (List.suffix_refl after)

/-! ## Numbers -/

theorem suffix_afterWord {word : String} (h : afterWord? word cs = some rest) : rest <:+ cs := by
  unfold afterWord? at h
  split at h
  · rw [← Option.some.inj h]
    exact List.drop_suffix _ _
  · cases h

theorem suffix_spanDigits (cs : List Char) : (spanDigits cs).2 <:+ cs := List.dropWhile_suffix _

theorem suffix_fractionPart (cs : List Char) : (fractionPart cs).2 <:+ cs := by
  unfold fractionPart
  split
  · rename_i rest
    have hspan := suffix_spanDigits rest
    split
    · exact List.suffix_refl _
    · rename_i ds after _ hafter
      rw [hafter] at hspan
      exact hspan.trans (List.suffix_cons _ _)
  · exact List.suffix_refl _

theorem suffix_exponentPart {power : Int} (h : exponentPart? cs = some (power, rest)) :
    rest <:+ cs := by
  unfold exponentPart? at h
  split at h
  · rename_i c body
    split at h
    · have hspan := suffix_spanDigits (Numeral.takeSign body).2
      dsimp only at h
      split at h
      · cases h
      · rename_i ds after _ hafter
        rw [hafter] at hspan
        rw [← (Prod.mk.inj (Option.some.inj h)).2]
        exact (hspan.trans (suffix_takeSign body)).trans (List.suffix_cons c body)
    · cases h
  · cases h

theorem isDecimal_of_span {c : Char} (h : ('0' ≤ c && c ≤ '9') = true) : isDecimal c = true := by
  rw [Bool.and_eq_true, decide_eq_true_eq, decide_eq_true_eq] at h
  have hlow : 0x30 ≤ c.toNat := h.1
  have hhigh : c.toNat ≤ 0x39 := h.2
  have hdigit : digitIn? 10 c = some (c.toNat - 0x30) := by
    simp only [digitIn?, hlow, hhigh, decide_true, Bool.and_self, if_true]
    rw [if_pos (by omega)]
  rw [isDecimal, hdigit, Option.isSome_some]

theorem reads_readNumber (cs : List Char) : faults.Reads cs (readNumber cs) := by
  unfold readNumber
  split
  rename_i negative body hsign
  -- The sign, the whole part and the fraction each leave an end of what comes before them.
  have hbody : body <:+ cs := by
    split at hsign
    · exact (Prod.mk.inj hsign).2 ▸ List.suffix_cons _ _
    · exact (Prod.mk.inj hsign).2 ▸ List.suffix_refl _
  split
  rename_i whole rest hdigits
  have hwhole : whole ++ rest = body ∧ ∀ c ∈ whole, isDecimal c = true := by
    split at hdigits
    · obtain ⟨rfl, rfl⟩ := Prod.mk.inj hdigits
      exact ⟨rfl, fun c hc => List.mem_singleton.1 hc ▸ rfl⟩
    · obtain ⟨rfl, rfl⟩ := Prod.mk.inj hdigits
      refine ⟨List.takeWhile_append_dropWhile, fun c hc => ?_⟩
      have hspan := List.mem_takeWhile_imp hc
      exact isDecimal_of_span hspan
  have hrest : rest <:+ cs := List.IsSuffix.trans ⟨whole, hwhole.1⟩ hbody
  split
  · exact reads_faultAt _ _
  have hfraction := (suffix_fractionPart rest).trans hrest
  split
  rename_i fraction after hafter
  rw [hafter] at hfraction
  dsimp only
  -- Only a number without fraction and power is an integer, and only integers can be too long.
  split
  · split
    · rename_i hlong
      intro _
      refine HasLongNumber.mono ?_ hbody.isInfix
      exact ⟨whole, whole.length, ⟨[], rest, hwhole.1⟩, digitRun_of_forall hwhole.2, hlong⟩
    · exact .ok hfraction
  · refine .ok ?_
    cases hpower : exponentPart? after with
    | none => exact hfraction
    | some power => exact (suffix_exponentPart hpower).trans hfraction

/-! ## Values -/

section Fuel

variable {fuel : Nat}

/-- A value with one more step: a string, an object, a list, a word, or else a number. -/
theorem reads_readValue_succ (hitems : ∀ cs, faults.Reads cs (readItems fuel cs))
    (hmembers : ∀ cs, faults.Reads cs (readMembers fuel cs)) (cs : List Char) :
    faults.Reads cs (readValue (fuel + 1) cs) := by
  cases cs with
  | nil => exact reads_faultAt _ _
  | cons c rest =>
    have hrest : rest <:+ c :: rest := List.suffix_cons c rest
    have hstart := suffix_skipBlanks rest
    unfold readValue
    split
    · exact .mono hrest ((reads_readString rest).bind fun s after _ => .ok (List.suffix_refl _))
    split
    · refine .mono hrest ?_
      dsimp only
      split
      · exact .ok (suffix_of_sign ‹_›)
      · exact .mono hstart ((hmembers _).bind fun entries after _ => .ok (List.suffix_refl _))
    split
    · refine .mono hrest ?_
      dsimp only
      split
      · exact .ok (suffix_of_sign ‹_›)
      · exact .mono hstart ((hitems _).bind fun items after _ => .ok (List.suffix_refl _))
    -- Six words, the two infinities last, and else a number.
    split
    · exact .ok (suffix_afterWord ‹_›)
    · exact .ok (suffix_afterWord ‹_›)
    · exact .ok (suffix_afterWord ‹_›)
    · exact .ok (suffix_afterWord ‹_›)
    · split
      · exact .ok (suffix_afterWord ‹_›)
      · exact .ok (suffix_afterWord ‹_›)
      · exact reads_readNumber _

theorem reads_readItems_succ (hvalue : ∀ cs, faults.Reads cs (readValue fuel cs))
    (hitems : ∀ cs, faults.Reads cs (readItems fuel cs)) (cs : List Char) :
    faults.Reads cs (readItems (fuel + 1) cs) := by
  unfold readItems
  refine (hvalue cs).bind fun v rest _ => ?_
  dsimp only
  split
  · exact .ok (suffix_of_sign ‹_›)
  · rename_i after hafter
    refine .mono (suffix_skipBlanks_of_sign hafter) ?_
    exact (hitems _).bind fun vs last _ => .ok (List.suffix_refl last)
  · exact reads_faultAt _ _

theorem reads_readMembers_succ (hvalue : ∀ cs, faults.Reads cs (readValue fuel cs))
    (hmembers : ∀ cs, faults.Reads cs (readMembers fuel cs)) (cs : List Char) :
    faults.Reads cs (readMembers (fuel + 1) cs) := by
  unfold readMembers
  split
  · rename_i rest
    refine .mono (List.suffix_cons _ rest) ((reads_readString rest).bind fun k rest _ => ?_)
    dsimp only
    split
    · rename_i after hafter
      refine .mono (suffix_skipBlanks_of_sign hafter) ((hvalue _).bind fun v rest _ => ?_)
      -- Behind the value the object ends or goes on, as a list does behind an item.
      dsimp only
      split
      · exact .ok (suffix_of_sign ‹_›)
      · rename_i after hafter
        refine .mono (suffix_skipBlanks_of_sign hafter) ?_
        exact (hmembers _).bind fun more last _ => .ok (List.suffix_refl last)
      · exact reads_faultAt _ _
    · exact reads_faultAt _ _
  · exact reads_faultAt _ _

end Fuel

/-- The readers of values, of the items of lists and of the members of objects, with one fuel for
all of them. -/
theorem reads_values (fuel : Nat) :
    (∀ cs, faults.Reads cs (readValue fuel cs)) ∧ (∀ cs, faults.Reads cs (readItems fuel cs)) ∧
      ∀ cs, faults.Reads cs (readMembers fuel cs) := by
  induction fuel with
  | zero =>
    refine ⟨fun cs => ?_, fun cs => reads_faultAt _ _, fun cs => reads_faultAt _ _⟩
    unfold readValue
    exact reads_faultAt _ _
  | succ fuel ih =>
    obtain ⟨hvalue, hitems, hmembers⟩ := ih
    exact ⟨reads_readValue_succ hitems hmembers, reads_readItems_succ hvalue hitems,
      reads_readMembers_succ hvalue hmembers⟩

/-- A text in which a number is too long to be read has a long run of digits. -/
theorem hasLongNumber_of_decode (h : decode cs = .error .longNumber) : HasLongNumber cs := by
  unfold decode at h
  split at h
  · cases h
  · have hvalue := ((reads_values (2 * cs.length + 2)).1 (skipBlanks cs)).mono
      (suffix_skipBlanks cs)
    rcases bind_eq_error_iff.1 h with hfault | ⟨⟨v, rest⟩, -, hrest⟩
    · exact Ensures.of_eq_error hvalue hfault rfl
    · dsimp only at hrest
      split at hrest
      · cases hrest
      · cases hrest

end RecordSchema.Json
