import RecordSchema.Proofs.Json.Scalars
import RecordSchema.Proofs.Names
import RecordSchema.Proofs.Sequences

/-!
# Texts that denote values

A text denotes a value (`Denotes`) if the reader, given enough fuel, takes just this text from the
front of any characters that do not go on with a number, and gives the value. The texts of scalars
do; items between brackets and members between braces do if each of them does, whatever blanks stand
between them (`denotes_list`, `denotes_mapping`). The length of a text is fuel enough for it.

A text denotes one value only (`Denotes.unique`).
-/

set_option autoImplicit false

namespace RecordSchema.Json

open RecordSchema.Text

/-- The characters with which the text of a value can begin. -/
def starters : List Char :=
  ['"', '-', '0', '1', '2', '3', '4', '5', '6', '7', '8', '9', '[', '\x7b', 'n', 't', 'f']

/-- A text denotes a value. -/
structure Denotes (cs : List Char) (v : Value) : Prop where
  reads : ∀ fuel rest, cs.length ≤ fuel → Ends rest → readValue fuel (cs ++ rest) = .ok (v, rest)
  begins : ∃ c tail, cs = c :: tail ∧ c ∈ starters
  /-- There is no carriage return in the text. -/
  plain : '\r' ∉ cs

/-- Line feeds and spaces. -/
def Gap (cs : List Char) : Prop := ∀ c ∈ cs, c = ' ' ∨ c = '\n'

theorem ends_nil : Ends [] := fun _ h => by cases h

theorem Denotes.unique {cs : List Char} {v w : Value} (hv : Denotes cs v) (hw : Denotes cs w) :
    v = w := by
  have h := (hv.reads cs.length [] (Nat.le_refl _) ends_nil).symm.trans
    (hw.reads cs.length [] (Nat.le_refl _) ends_nil)
  exact congrArg Prod.fst (Except.ok.inj h)

/-! ## Scalars -/

section Words

variable {word : String} {rest : List Char}

theorem afterWord?_append (word : String) (rest : List Char) :
    afterWord? word (word.toList ++ rest) = some rest := by
  unfold afterWord?
  rw [← String.length_toList, List.take_left, List.drop_left]
  simp

theorem afterWord?_eq_none (word : String) {cs : List Char} (h : ¬ word.toList <+: cs) :
    afterWord? word cs = none := by
  unfold afterWord?
  rw [if_neg]
  intro heq
  apply h
  rw [← eq_of_beq heq]
  exact List.take_prefix _ _

/-- A word that begins with another character is not there. -/
theorem afterWord?_of_ne (word : String) {w c : Char} {ws : List Char}
    (hword : word.toList = w :: ws) (hc : c ≠ w) : afterWord? word (c :: rest) = none := by
  refine afterWord?_eq_none word fun h => ?_
  rw [hword, List.cons_prefix_cons] at h
  exact hc h.1.symm

end Words

theorem readValue_null (fuel : Nat) (rest : List Char) :
    readValue (fuel + 1) ("null".toList ++ rest) = .ok (.none, rest) := by
  have hword := afterWord?_append "null" rest
  rw [show "null".toList = 'n' :: ['u', 'l', 'l'] from rfl, List.cons_append] at hword ⊢
  rw [readValue, hword]
  rfl

theorem readValue_bool (b : Bool) (fuel : Nat) (rest : List Char) :
    readValue (fuel + 1) ((if b then "true" else "false").toList ++ rest) =
      .ok (.bool b, rest) := by
  cases b with
  | true =>
    have hword := afterWord?_append "true" rest
    rw [show "true".toList = 't' :: ['r', 'u', 'e'] from rfl, List.cons_append] at hword
    show readValue (fuel + 1) ('t' :: ('r' :: 'u' :: 'e' :: rest)) = _
    rw [readValue, afterWord?_of_ne "null" rfl (by decide)]
    simp only [List.cons_append, List.nil_append] at hword
    rw [hword]
    rfl
  | false =>
    have hword := afterWord?_append "false" rest
    rw [show "false".toList = 'f' :: ['a', 'l', 's', 'e'] from rfl, List.cons_append] at hword
    show readValue (fuel + 1) ('f' :: ('a' :: 'l' :: 's' :: 'e' :: rest)) = _
    rw [readValue, afterWord?_of_ne "null" rfl (by decide), afterWord?_of_ne "true" rfl (by decide)]
    simp only [List.cons_append, List.nil_append] at hword
    rw [hword]
    rfl

/-- Digits and the minus sign begin no word but one. -/
theorem readValue_of_number {fuel : Nat} {c : Char} {rest : List Char}
    (h : ('0' ≤ c ∧ c ≤ '9') ∨ (c = '-' ∧ ∃ d, rest.head? = some d ∧ '0' ≤ d ∧ d ≤ '9')) :
    readValue (fuel + 1) (c :: rest) = readNumber (c :: rest) := by
  have hstart : ∀ w ∈ ['"', '\x7b', '[', 'n', 't', 'f', 'N', 'I'],
      ¬ ('0' ≤ w ∧ w ≤ '9') ∧ w ≠ '-' := by simp
  have hne : ∀ w ∈ ['"', '\x7b', '[', 'n', 't', 'f', 'N', 'I'], c ≠ w := by
    rintro w hw rfl
    rcases h with hdigit | ⟨hminus, -⟩
    · exact (hstart c hw).1 hdigit
    · exact (hstart c hw).2 hminus
  -- One word begins with the sign of a number too, but with a letter behind it.
  have hminus : afterWord? "-Infinity" (c :: rest) = none := by
    refine afterWord?_eq_none _ fun hprefix => ?_
    rw [show "-Infinity".toList = '-' :: 'I' :: ['n', 'f', 'i', 'n', 'i', 't', 'y'] from rfl,
      List.cons_prefix_cons] at hprefix
    rcases h with hdigit | ⟨-, d, hd, hdigit⟩
    · rw [← hprefix.1] at hdigit
      exact absurd hdigit (by decide)
    · obtain ⟨tail, rfl⟩ := List.head?_eq_some_iff.1 hd
      rw [List.cons_prefix_cons] at hprefix
      rw [← hprefix.2.1] at hdigit
      exact absurd hdigit (by decide)
  rw [readValue, afterWord?_of_ne "null" rfl (hne _ (by decide)),
    afterWord?_of_ne "true" rfl (hne _ (by decide)),
    afterWord?_of_ne "false" rfl (hne _ (by decide)),
    afterWord?_of_ne "NaN" rfl (hne _ (by decide)),
    afterWord?_of_ne "Infinity" rfl (hne _ (by decide)), hminus]
  · simp only [beq_eq_false_iff_ne.2 (hne '"' (by decide)),
      beq_eq_false_iff_ne.2 (hne '\x7b' (by decide)), beq_eq_false_iff_ne.2 (hne '[' (by decide)),
      Bool.false_eq_true, if_false]

theorem exists_fuel {cs : List Char} {fuel : Nat} (hcs : cs ≠ []) (hfuel : cs.length ≤ fuel) :
    ∃ n, fuel = n + 1 := by
  have hpos := List.length_pos_of_ne_nil hcs
  exact ⟨fuel - 1, by omega⟩

theorem denotes_null : Denotes "null".toList .none where
  reads := by
    intro fuel rest hfuel _
    obtain ⟨n, rfl⟩ := exists_fuel (by decide) hfuel
    exact readValue_null n rest
  begins := ⟨'n', _, rfl, by decide⟩
  plain := by decide

theorem denotes_bool (b : Bool) :
    Denotes (if b then "true" else "false").toList (.bool b) where
  reads := by
    intro fuel rest hfuel _
    obtain ⟨n, rfl⟩ := exists_fuel (by cases b <;> decide) hfuel
    exact readValue_bool b n rest
  begins := by
    cases b with
    | true => exact ⟨'t', _, rfl, by decide⟩
    | false => exact ⟨'f', _, rfl, by decide⟩
  plain := by cases b <;> decide

/-- The text of an integer is a digit, or a minus sign and a digit, with further digits. -/
theorem intText_begins (n : Int) :
    ∃ c tail, (intText n).toList = c :: tail ∧ (∀ d ∈ tail, '0' ≤ d ∧ d ≤ '9') ∧
      (('0' ≤ c ∧ c ≤ '9') ∨ (c = '-' ∧ tail ≠ [])) := by
  cases n with
  | ofNat n =>
    have h := isNumeral_toDigits n
    obtain ⟨c, tail, heq⟩ := List.exists_cons_of_ne_nil h.ne_nil
    rw [intText, Nat.toList_repr]
    refine ⟨c, tail, heq, fun d hd => h.digits d ?_, Or.inl (h.digits c ?_)⟩
    · rw [heq]
      exact List.mem_cons_of_mem _ hd
    · rw [heq]
      exact List.mem_cons_self ..
  | negSucc n =>
    have h := isNumeral_toDigits (n + 1)
    rw [intText, String.toList_ofList, Nat.toList_repr]
    exact ⟨'-', _, rfl, h.digits, Or.inr ⟨rfl, h.ne_nil⟩⟩

theorem mem_starters_of_digit {c : Char} (h : '0' ≤ c ∧ c ≤ '9') : c ∈ starters := by
  have hvalue : ∀ n < 0x3a, 0x30 ≤ n → Char.ofNat n ∈ starters := by decide
  have hlow : 0x30 ≤ c.toNat := h.1
  have hhigh : c.toNat ≤ 0x39 := h.2
  rw [← Char.ofNat_toNat c]
  exact hvalue c.toNat (by omega) hlow

theorem denotes_int {n : Int} (hn : Numeral.isWritable n = true) :
    Denotes (intText n).toList (.int n) := by
  obtain ⟨c, tail, heq, htail, hc⟩ := intText_begins n
  constructor
  · intro fuel rest hfuel hrest
    -- It begins with a digit or a minus sign, and so it is read as a number.
    have hread := readNumber_intText hn hrest
    rw [heq, List.cons_append] at hread ⊢
    obtain ⟨m, rfl⟩ := exists_fuel (by simp [heq]) hfuel
    rw [readValue_of_number, hread]
    rcases hc with hdigit | ⟨hminus, hne⟩
    · exact Or.inl hdigit
    · obtain ⟨d, tail, rfl⟩ := List.exists_cons_of_ne_nil hne
      exact Or.inr ⟨hminus, d, rfl, htail d (List.mem_cons_self ..)⟩
  · refine ⟨c, tail, heq, ?_⟩
    rcases hc with hdigit | ⟨rfl, -⟩
    · exact mem_starters_of_digit hdigit
    · decide
  · rw [heq, List.mem_cons, not_or]
    constructor
    · rintro rfl
      rcases hc with hdigit | ⟨hminus, -⟩
      · exact absurd hdigit (by decide)
      · exact absurd hminus (by decide)
    · intro hmem
      exact absurd (htail _ hmem) (by decide)

theorem denotes_string (s : String) : Denotes (string s).toList (.text s) where
  reads := by
    intro fuel rest hfuel _
    obtain ⟨n, rfl⟩ := exists_fuel (by simp [string]) hfuel
    rw [string, String.toList_ofList, List.cons_append, List.cons_append, List.append_assoc,
      readValue]
    simp only [List.singleton_append, readString_string]
    rfl
  begins := ⟨'"', _, by rw [string, String.toList_ofList]; rfl, by decide⟩
  plain := return_notMem_string s

/-! ## Blanks -/

section Blanks

variable {gap cs : List Char}

/-- Blanks before something that is none are skipped. -/
theorem skipBlanks_gap (hgap : Gap gap) {c : Char} {tail : List Char}
    (hc : isJsonBlank c = false) : skipBlanks (gap ++ c :: tail) = c :: tail := by
  have hall : ∀ d ∈ gap, isJsonBlank d = true := by
    intro d hd
    rcases hgap d hd with rfl | rfl <;> rfl
  unfold skipBlanks
  rw [List.dropWhile_append_of_pos hall, List.dropWhile_cons_of_neg (by simp [hc])]

theorem not_blank_of_mem_starters :
    ∀ c ∈ starters, isJsonBlank c = false ∧ c ≠ ']' ∧ c ≠ '\x7d' := by
  simp [starters, isJsonBlank]

/-- What comes behind a value does not belong to a number. -/
theorem ends_cons {c : Char} (tail : List Char) (hc : c ∈ [' ', '\n', ',', ']', '\x7d']) :
    Ends (c :: tail) := by
  have hends : ∀ d ∈ [' ', '\n', ',', ']', '\x7d'],
      ¬ ('0' ≤ d ∧ d ≤ '9') ∧ d ≠ '.' ∧ d ≠ 'e' ∧ d ≠ 'E' := by simp
  intro d hd
  rw [← Option.some.inj hd]
  exact hends c hc

theorem ends_gap (hgap : Gap gap) {c : Char} (tail : List Char) (hc : c ∈ [',', ']', '\x7d']) :
    Ends (gap ++ c :: tail) := by
  cases gap with
  | nil => exact ends_cons tail (List.mem_cons_of_mem _ (List.mem_cons_of_mem _ hc))
  | cons b gap =>
    refine ends_cons _ ?_
    rcases hgap b (List.mem_cons_self ..) with rfl | rfl <;> decide

theorem Gap.plain (hgap : Gap gap) : '\r' ∉ gap := by
  intro h
  rcases hgap _ h with h | h <;> cases h

end Blanks

/-! ## Parts of collections -/

/-- Texts one after another, with a comma and blanks between them. -/
def joined (gap : List Char) (texts : List (List Char)) : List Char :=
  List.intercalate (',' :: gap) texts

theorem joined_cons_cons (gap text next : List Char) (texts : List (List Char)) :
    joined gap (text :: next :: texts) = text ++ ',' :: (gap ++ joined gap (next :: texts)) := by
  simp [joined, List.intercalate_cons_cons]

theorem exists_joined_eq_cons (gap : List Char) {text tail : List Char} {c : Char}
    (texts : List (List Char)) (h : text = c :: tail) :
    ∃ more, joined gap (text :: texts) = c :: more := by
  subst h
  cases texts with
  | nil => exact ⟨tail, by simp [joined]⟩
  | cons next texts => exact ⟨_, by rw [joined_cons_cons, List.cons_append]⟩

theorem return_notMem_joined {gap : List Char} (hgap : Gap gap) {texts : List (List Char)}
    (h : ∀ text ∈ texts, '\r' ∉ text) : '\r' ∉ joined gap texts := by
  induction texts with
  | nil => exact List.not_mem_nil
  | cons text texts ih =>
    have hfirst := h text (List.mem_cons_self ..)
    cases texts with
    | nil => simpa [joined] using hfirst
    | cons next texts =>
      have hrest := ih fun t ht => h t (List.mem_cons_of_mem _ ht)
      rw [joined_cons_cons]
      simp [hfirst, hrest, hgap.plain]

section Parts

variable {β : Type} {D : List Char → β → Prop}
  {read : Nat → List Char → Except Fault (List β × List Char)} {closing : Char}

/-- A reader of the parts of a collection from the first one on. It takes what denotes a part, and
behind it the closing sign, or a comma and more parts. -/
structure ReadsParts (D : List Char → β → Prop)
    (read : Nat → List Char → Except Fault (List β × List Char)) (closing : Char) : Prop where
  begins : ∀ {text b}, D text b → ∃ c tail, text = c :: tail ∧ isJsonBlank c = false
  last : ∀ {text b n rest after}, D text b → text.length ≤ n → Ends rest →
    skipBlanks rest = closing :: after → read (n + 1) (text ++ rest) = .ok ([b], after)
  more : ∀ {text b n rest next bs after}, D text b → text.length ≤ n → Ends rest →
    skipBlanks rest = ',' :: next → read n (skipBlanks next) = .ok (bs, after) →
      read (n + 1) (text ++ rest) = .ok (b :: bs, after)

/-- The parts are read one by one up to the closing sign. -/
theorem ReadsParts.read_joined (hread : ReadsParts D read closing)
    (hclosing : closing ∈ [']', '\x7d']) {before after : List Char} (hbefore : Gap before)
    (hafter : Gap after) {texts : List (List Char)} {bs : List β} (h : List.Forall₂ D texts bs)
    (hne : texts ≠ []) (fuel : Nat) (rest : List Char)
    (hfuel : (joined before texts).length + after.length + 1 ≤ fuel) :
    read fuel (joined before texts ++ (after ++ closing :: rest)) = .ok (bs, rest) := by
  have hblank : isJsonBlank closing = false := by
    rcases List.mem_pair.1 hclosing with rfl | rfl <;> rfl
  induction h generalizing fuel with
  | nil => exact absurd rfl hne
  | @cons text b texts bs hb h ih =>
    obtain ⟨n, rfl⟩ : ∃ n, fuel = n + 1 := ⟨fuel - 1, by omega⟩
    -- The closing sign follows on the last part, a comma on the others.
    cases h with
    | nil =>
      rw [joined, List.intercalate_singleton] at hfuel ⊢
      exact hread.last hb (by omega) (ends_gap hafter rest (List.mem_cons_of_mem _ hclosing))
        (skipBlanks_gap hafter hblank)
    | @cons next b' texts bs hb' h =>
      rw [joined_cons_cons, List.length_append, List.length_cons, List.length_append] at hfuel
      have hnext := ih (by simp) n (by omega)
      obtain ⟨c, tail, heq, hc⟩ := hread.begins hb'
      obtain ⟨more, hmore⟩ := exists_joined_eq_cons before texts heq
      have hskip : skipBlanks (before ++ (joined before (next :: texts) ++
          (after ++ closing :: rest))) =
          joined before (next :: texts) ++ (after ++ closing :: rest) := by
        rw [hmore, List.cons_append]
        exact skipBlanks_gap hbefore hc
      rw [joined_cons_cons, List.append_assoc, List.cons_append, List.append_assoc]
      exact hread.more hb (by omega) (ends_cons _ (by decide)) rfl (hskip.symm ▸ hnext)

end Parts

/-! ## Lists -/

section Lists

variable {before after : List Char}

theorem plain_of_denotes {texts : List (List Char)} {values : List Value}
    (h : List.Forall₂ Denotes texts values) : ∀ text ∈ texts, '\r' ∉ text := by
  intro text htext
  obtain ⟨v, -, hv⟩ := exists_left_of_mem h.flip htext
  exact hv.plain

/-- The items of a list are texts of values. -/
theorem readsParts_readItems : ReadsParts Denotes readItems ']' where
  begins := by
    intro text v hv
    obtain ⟨c, tail, heq, hc⟩ := hv.begins
    exact ⟨c, tail, heq, (not_blank_of_mem_starters c hc).1⟩
  last := by
    intro text v n rest after hv hn hrest hskip
    rw [readItems, hv.reads n rest hn hrest, ok_bind]
    simp only [hskip]
    rfl
  more := by
    intro text v n rest next vs after hv hn hrest hskip hnext
    rw [readItems, hv.reads n rest hn hrest, ok_bind]
    simp only [hskip, hnext]
    rfl

/-- A list without items. -/
theorem denotes_nil : Denotes ['[', ']'] (.ofList []) where
  reads := by
    intro fuel rest hfuel _
    obtain ⟨n, rfl⟩ := exists_fuel (by simp) hfuel
    rw [List.cons_append, readValue]
    rfl
  begins := ⟨'[', _, rfl, by decide⟩
  plain := by decide

/-- Texts of values between brackets denote the list of the values. -/
theorem denotes_list (hbefore : Gap before) (hafter : Gap after) {texts : List (List Char)}
    {values : List Value} (h : List.Forall₂ Denotes texts values) (hne : texts ≠ []) :
    Denotes ('[' :: (before ++ (joined before texts ++ (after ++ [']'])))) (.ofList values) where
  reads := by
    intro fuel rest hfuel _
    obtain ⟨n, rfl⟩ := exists_fuel (by simp) hfuel
    simp only [List.length_cons, List.length_append, List.length_nil] at hfuel
    have hitems :=
      readsParts_readItems.read_joined (by decide) hbefore hafter h hne n rest (by omega)
    cases h with
    | nil => exact absurd rfl hne
    | @cons text v texts values hv _ =>
      obtain ⟨c, tail, heq, hc⟩ := hv.begins
      obtain ⟨more, hmore⟩ := exists_joined_eq_cons before texts heq
      obtain ⟨hblank, hbracket, -⟩ := not_blank_of_mem_starters c hc
      rw [hmore] at hitems ⊢
      simp only [List.cons_append, List.append_assoc, List.nil_append] at hitems ⊢
      rw [readValue]
      simp only [Char.reduceBEq, Bool.false_eq_true, if_false, if_true,
        skipBlanks_gap hbefore hblank]
      split
      · rename_i heq'
        exact absurd (List.cons.inj heq').1 hbracket
      · rw [hitems]
        rfl
  begins := ⟨'[', _, rfl, by decide⟩
  plain := by
    have hall := return_notMem_joined hbefore (plain_of_denotes h)
    simp [hbefore.plain, hafter.plain, hall]

end Lists

/-! ## Mappings -/

/-- The text of a member: a string, a colon with blanks behind it, and the text of what stands under
the string. -/
def DenotesMember (blanks text : List Char) (entry : Value × Value) : Prop :=
  ∃ s value, entry.1 = .text s ∧ text = (string s).toList ++ ':' :: (blanks ++ value) ∧
    Denotes value entry.2

theorem DenotesMember.begins {blanks text : List Char} {entry : Value × Value}
    (h : DenotesMember blanks text entry) : ∃ tail, text = '"' :: tail := by
  obtain ⟨s, value, -, htext, -⟩ := h
  rw [htext, string, String.toList_ofList]
  exact ⟨_, rfl⟩

/-- Entries under distinct texts are taken over one by one. -/
theorem ofPairs_of_nodup {pairs : List (Value × Value)} (htexts : ∀ e ∈ pairs, ∃ s, e.1 = .text s)
    (hnodup : (pairs.map Prod.fst).Nodup) : Value.ofPairs pairs = pairs := by
  induction pairs using List.reverseRecOn with
  | nil => rfl
  | append_singleton pairs p ih =>
    rw [List.map_append, List.map_singleton, ← List.concat_eq_append, List.nodup_concat] at hnodup
    have hrest := ih (fun e he => htexts e (List.mem_append_left _ he)) hnodup.2
    have hnew : ∀ e ∈ pairs, Value.alike p.1 e.1 = false := by
      intro e he
      obtain ⟨s, hs⟩ := htexts p (by simp)
      obtain ⟨t, ht⟩ := htexts e (List.mem_append_left _ he)
      rw [hs, ht, Value.alike_text, beq_eq_false_iff_ne]
      rintro rfl
      exact hnodup.1 (hs ▸ ht ▸ List.mem_map_of_mem he)
    unfold Value.ofPairs at hrest ⊢
    rw [List.foldl_append, hrest]
    exact Value.setEntry_of_forall hnew p.2

section Mappings

variable {before after blanks : List Char}

theorem plain_of_denotesMember (hblanks : Gap blanks) {texts : List (List Char)}
    {entries : List (Value × Value)} (h : List.Forall₂ (DenotesMember blanks) texts entries) :
    ∀ text ∈ texts, '\r' ∉ text := by
  intro text htext
  obtain ⟨entry, -, s, value, -, rfl, hv⟩ := exists_left_of_mem h.flip htext
  have hs := return_notMem_string s
  simp [hs, hblanks.plain, hv.plain]

theorem texts_of_denotesMember {texts : List (List Char)} {entries : List (Value × Value)}
    (h : List.Forall₂ (DenotesMember blanks) texts entries) :
    ∀ e ∈ entries, ∃ s, e.1 = .text s := by
  intro e he
  obtain ⟨text, -, s, -, hs, -⟩ := exists_left_of_mem h he
  exact ⟨s, hs⟩

/-- What follows the opening quote of a member is read as its key and the value under it. -/
theorem readMembers_member (hblanks : Gap blanks) {text : List Char} {entry : Value × Value}
    (h : DenotesMember blanks text entry) {n : Nat} (hn : text.length ≤ n) {rest : List Char}
    (hrest : Ends rest) :
    readMembers (n + 1) (text ++ rest) =
      (match skipBlanks rest with
        | '\x7d' :: after => pure ([entry], after)
        | ',' :: after => do
          let (more, after) ← readMembers n (skipBlanks after)
          return (entry :: more, after)
        | other => faultAt "Expecting ',' delimiter" other) := by
  obtain ⟨k, v⟩ := entry
  obtain ⟨s, value, rfl, htext, hv⟩ := h
  rw [htext] at hn ⊢
  obtain ⟨c, tail, heq, hc⟩ := hv.begins
  simp only [List.length_append, List.length_cons] at hn
  have hread := hv.reads n rest (by omega) hrest
  have hskip : skipBlanks (blanks ++ (value ++ rest)) = value ++ rest := by
    rw [heq, List.cons_append]
    exact skipBlanks_gap hblanks (not_blank_of_mem_starters c hc).1
  rw [string, String.toList_ofList]
  simp only [List.cons_append, List.append_assoc, List.nil_append]
  rw [readMembers, readString_string, ok_bind]
  -- The colon behind the key is no blank.
  show (readValue n (skipBlanks (blanks ++ (value ++ rest))) >>= _) = _
  rw [hskip, hread]
  rfl

/-- The members of a mapping are keys with texts of values. -/
theorem readsParts_readMembers (hblanks : Gap blanks) :
    ReadsParts (DenotesMember blanks) readMembers '\x7d' where
  begins := by
    intro text entry hm
    obtain ⟨tail, heq⟩ := hm.begins
    exact ⟨'"', tail, heq, by decide⟩
  last := by
    intro text entry n rest after hm hn hrest hskip
    rw [readMembers_member hblanks hm hn hrest]
    simp only [hskip]
    rfl
  more := by
    intro text entry n rest next entries after hm hn hrest hskip hnext
    rw [readMembers_member hblanks hm hn hrest]
    simp only [hskip, hnext]
    rfl

/-- A mapping without entries. -/
theorem denotes_empty : Denotes ['\x7b', '\x7d'] (.mapping []) where
  reads := by
    intro fuel rest hfuel _
    obtain ⟨n, rfl⟩ := exists_fuel (by simp) hfuel
    rw [List.cons_append, readValue]
    rfl
  begins := ⟨'\x7b', _, rfl, by decide⟩
  plain := by decide

/-- Texts of members between braces denote the mapping of their entries. -/
theorem denotes_mapping (hbefore : Gap before) (hafter : Gap after) (hblanks : Gap blanks)
    {texts : List (List Char)} {entries : List (Value × Value)}
    (h : List.Forall₂ (DenotesMember blanks) texts entries) (hne : texts ≠ [])
    (hnodup : (entries.map Prod.fst).Nodup) :
    Denotes ('\x7b' :: (before ++ (joined before texts ++ (after ++ ['\x7d']))))
      (.mapping entries) where
  reads := by
    intro fuel rest hfuel _
    obtain ⟨n, rfl⟩ := exists_fuel (by simp) hfuel
    simp only [List.length_cons, List.length_append, List.length_nil] at hfuel
    have hmembers := (readsParts_readMembers hblanks).read_joined (by decide) hbefore hafter h hne n
      rest (by omega)
    have hpairs := ofPairs_of_nodup (texts_of_denotesMember h) hnodup
    cases h with
    | nil => exact absurd rfl hne
    | @cons text entry texts entries hm _ =>
      obtain ⟨tail, heq⟩ := hm.begins
      obtain ⟨more, hmore⟩ := exists_joined_eq_cons before texts heq
      rw [hmore] at hmembers ⊢
      simp only [List.cons_append, List.append_assoc, List.nil_append] at hmembers ⊢
      rw [readValue]
      simp only [Char.reduceBEq, Bool.false_eq_true, if_false, if_true,
        skipBlanks_gap hbefore (show isJsonBlank '"' = false by decide)]
      split
      · rename_i heq'
        exact absurd (List.cons.inj heq').1 (by decide)
      · rw [hmembers, ok_bind]
        simp only [hpairs]
        rfl
  begins := ⟨'\x7b', _, rfl, by decide⟩
  plain := by
    have hall := return_notMem_joined hbefore (plain_of_denotesMember hblanks h)
    simp [hbefore.plain, hafter.plain, hall]

end Mappings

end RecordSchema.Json
