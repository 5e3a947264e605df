import RecordSchema.Proofs.Text.Quoted
import RecordSchema.Proofs.Value.Alike
import RecordSchema.TypeTerm.Construction
import RecordSchema.TypeTerm.Rendering

/-!
# Literal types as text

The text of a literal type of texts is their quoted list, without the module prefix wherever it
stands (`Strips`), and so also inside the quotes. The prefix is taken out of each text by itself, as
if it had never been there (`Strips.written`), unless a tab makes the beginning of one: its escape
ends in the first letter of the prefix. So the texts between the quotes are told apart exactly if
they differ without the prefix (`render_literal_eq_iff`), and those without the prefix are told
apart always (`withoutPrefix_eq_self`).
-/

set_option autoImplicit false

namespace RecordSchema.TypeTerm

open RecordSchema.Text

/-- The characters of the module prefix. -/
def modulePrefix : List Char := ['t', 'y', 'p', 'i', 'n', 'g', '.']

theorem toList_modulePrefix : "typing.".toList = modulePrefix := by decide

/-! ## Taking the prefix out -/

/-- Characters with and without the prefix, from the left. -/
inductive Strips : List Char → List Char → Prop where
  | nil : Strips [] []
  | word {cs ds : List Char} (rest : Strips cs ds) : Strips (modulePrefix ++ cs) ds
  | keep {c : Char} {cs ds : List Char} (no_word : ¬ modulePrefix <+: c :: cs)
      (rest : Strips cs ds) : Strips (c :: cs) (c :: ds)

theorem removeWord_append {word : List Char} (hword : word ≠ []) (fuel : Nat) (cs : List Char) :
    removeWord word (fuel + 1) (word ++ cs) = removeWord word fuel cs := by
  obtain ⟨c, tail, rfl⟩ := List.exists_cons_of_ne_nil hword
  rw [List.cons_append, removeWord, ← List.cons_append, List.take_left', List.drop_left']
  · simp
  · rfl
  · rfl

theorem Strips.removeWord_eq {cs ds : List Char} (h : Strips cs ds) {fuel : Nat}
    (hfuel : cs.length ≤ fuel) : removeWord modulePrefix fuel cs = ds := by
  induction h generalizing fuel with
  | nil => cases fuel <;> rfl
  | @word cs ds _ ih =>
    cases fuel with
    | zero => cases hfuel
    | succ fuel =>
      rw [removeWord_append (by decide)]
      refine ih ?_
      simp only [List.length_append, modulePrefix, List.length_cons] at hfuel
      omega
  | keep no_word _ ih =>
    cases fuel with
    | zero => cases hfuel
    | succ fuel =>
      rw [removeWord, if_neg, ih (Nat.le_of_succ_le_succ hfuel)]
      exact fun h => no_word (List.prefix_iff_eq_take.2 (beq_iff_eq.1 h).symm)

theorem exists_strips (cs : List Char) : ∃ ds, Strips cs ds := by
  -- The induction is on the length, since the prefix goes at once.
  induction hn : cs.length using Nat.strongRecOn generalizing cs with
  | ind n ih =>
    by_cases hword : modulePrefix <+: cs
    · obtain ⟨rest, rfl⟩ := hword
      have hlength : rest.length < n := by
        rw [← hn, List.length_append]
        exact Nat.lt_add_of_pos_left (by decide)
      obtain ⟨ds, hds⟩ := ih _ hlength rest rfl
      exact ⟨ds, .word hds⟩
    · cases cs with
      | nil => exact ⟨[], .nil⟩
      | cons c cs =>
        obtain ⟨ds, hds⟩ := ih cs.length (hn ▸ Nat.lt_succ_self _) cs rfl
        exact ⟨c :: ds, .keep hword hds⟩

/-- A text without the prefix. -/
theorem withoutPrefix_eq_iff {s t : String} : withoutPrefix s = t ↔ Strips s.toList t.toList := by
  have hremoved {ds : List Char} (h : Strips s.toList ds) :
      removeWord modulePrefix s.length s.toList = ds :=
    h.removeWord_eq (Nat.le_of_eq String.length_toList)
  unfold withoutPrefix
  rw [toList_modulePrefix]
  constructor
  · rintro rfl
    obtain ⟨ds, hds⟩ := exists_strips s.toList
    rwa [hremoved hds, String.toList_ofList]
  · intro h
    rw [hremoved h, String.ofList_toList]

theorem strips_withoutPrefix (s : String) : Strips s.toList (withoutPrefix s).toList :=
  withoutPrefix_eq_iff.1 rfl

theorem toList_withoutPrefix {s : String} {ds : List Char} (h : Strips s.toList ds) :
    (withoutPrefix s).toList = ds := by
  have htext : Strips s.toList (String.ofList ds).toList := by rwa [String.toList_ofList]
  rw [withoutPrefix_eq_iff.2 htext, String.toList_ofList]

/-- Characters without the prefix stay as they are. -/
theorem strips_self {cs : List Char} (h : ¬ modulePrefix <:+: cs) : Strips cs cs := by
  induction cs with
  | nil => exact .nil
  | cons c cs ih =>
    exact .keep (fun hword => h hword.isInfix) (ih fun hwithin => h (List.infix_cons hwithin))

theorem withoutPrefix_eq_self {s : String} (h : ¬ "typing.".toList <:+: s.toList) :
    withoutPrefix s = s :=
  withoutPrefix_eq_iff.2 (strips_self (toList_modulePrefix ▸ h))

/-! ## Characters around the prefix -/

section Strips

variable {c : Char} {cs ds xs xs' ys ys' : List Char}

theorem not_prefix_of_ne (hc : c ≠ 't') : ¬ modulePrefix <+: c :: cs := fun h =>
  hc (List.cons_prefix_cons.1 h).1.symm

/-- Characters other than the first of the prefix are passed over. -/
theorem Strips.pass (h : Strips ys ys') (hxs : ∀ x ∈ xs, x ≠ 't') :
    Strips (xs ++ ys) (xs ++ ys') := by
  induction xs with
  | nil => exact h
  | cons x xs ih =>
    exact .keep (not_prefix_of_ne (hxs x (List.mem_cons_self ..)))
      (ih fun x' hx' => hxs x' (List.mem_cons_of_mem _ hx'))

/-- What begins characters before one that it does not have begins them alone. -/
theorem prefix_of_prefix_append_cons {word : List Char} (hc : c ∉ word)
    (h : word <+: xs ++ c :: ys) : word <+: xs := by
  have hmiddle : xs ++ [c] <+: xs ++ c :: ys := by simp
  rcases List.prefix_or_prefix_of_prefix h hmiddle with hshort | hlong
  · rcases List.prefix_concat_iff.1 hshort with rfl | hshort
    · exact absurd (by simp) hc
    · exact hshort
  · exact absurd (hlong.subset (by simp)) hc

/-- A character that the prefix does not have keeps apart what is before and behind it. -/
theorem Strips.append_cons (h : Strips xs xs') (hc : c ∉ modulePrefix) (h' : Strips ys ys') :
    Strips (xs ++ c :: ys) (xs' ++ c :: ys') := by
  induction h with
  | nil =>
    refine .keep (not_prefix_of_ne ?_) h'
    rintro rfl
    exact hc (by decide)
  | word _ ih =>
    rw [List.append_assoc]
    exact .word ih
  | keep no_word _ ih =>
    exact .keep (fun hword => no_word (prefix_of_prefix_append_cons hc hword)) ih

theorem Strips.mem_iff (h : Strips xs xs') (hc : c ∉ modulePrefix) : c ∈ xs ↔ c ∈ xs' := by
  induction h with
  | nil => rfl
  | word _ ih => simp [hc, ih]
  | keep _ _ ih => simp [ih]

theorem Strips.quoteFor_eq (h : Strips xs xs') : quoteFor xs = quoteFor xs' := by
  have hcontains {q : Char} (hq : q ∉ modulePrefix) : xs.contains q = xs'.contains q := by
    rw [Bool.eq_iff_iff, List.contains_iff_mem, List.contains_iff_mem, h.mem_iff hq]
  rw [quoteFor, quoteFor, hcontains (q := '\'') (by decide), hcontains (q := '"') (by decide)]

end Strips

/-! ## Quoted texts without the prefix -/

/-- A tab and all of the prefix but its first letter. -/
def tabbedPrefix : List Char := '\t' :: modulePrefix.tail

theorem toList_tabbedPrefix : "\typing.".toList = tabbedPrefix := by decide

section Quoted

variable {quote c : Char} {cs ds : List Char}

theorem written_cons (quote c : Char) (cs : List Char) :
    written quote (c :: cs) = quotedChar quote c ++ written quote cs := List.flatMap_cons

/-- The prefix is written as it is. -/
theorem written_modulePrefix (hquote : quote ∈ ['\'', '"']) (cs : List Char) :
    written quote (modulePrefix ++ cs) = modulePrefix ++ written quote cs := by
  have hself : ∀ quote ∈ ['\'', '"'], written quote modulePrefix = modulePrefix :=
    forall_quotes (by decide) (by decide)
  rw [written, List.flatMap_append]
  exact congrArg (· ++ _) (hself quote hquote)

/-- What begins written characters without a backslash begins the characters. -/
theorem prefix_of_prefix_written (hquote : quote ∈ ['\'', '"']) {word : List Char}
    (hword : '\\' ∉ word) (h : word <+: written quote cs) : word <+: cs := by
  induction word generalizing cs with
  | nil => exact List.nil_prefix
  | cons x word ih =>
    rw [List.mem_cons, not_or] at hword
    cases cs with
    | nil => exact absurd (List.prefix_nil.1 h) (List.cons_ne_nil _ _)
    | cons c cs =>
      rw [written_cons] at h
      have hways := written_quotedChar hquote c
      generalize quotedChar quote c = xs at hways h
      cases hways with
      | own _ _ =>
        obtain ⟨rfl, htail⟩ := List.cons_prefix_cons.1 h
        exact List.cons_prefix_cons.2 ⟨rfl, ih hword.2 htail⟩
      -- Otherwise a backslash comes first, and that is not in the word.
      | mark _ _ _ | number _ _ _ _ =>
        exact absurd (List.cons_prefix_cons.1 h).1.symm hword.1

/-- The prefix is taken out between quotes as it would be without them. -/
theorem Strips.written (hquote : quote ∈ ['\'', '"']) (h : Strips cs ds)
    (htab : ¬ tabbedPrefix <:+: cs) : Strips (written quote cs) (written quote ds) := by
  induction h with
  | nil => exact .nil
  | word _ ih =>
    rw [written_modulePrefix hquote]
    exact .word (ih fun hwithin => htab (hwithin.trans (List.suffix_append _ _).isInfix))
  | @keep c cs ds no_word _ ih =>
    have hrest := ih fun hwithin => htab (List.infix_cons hwithin)
    rw [written_cons, written_cons]
    have hways := written_quotedChar hquote c
    generalize quotedChar quote c = xs at hways
    cases hways with
    | own no_quote no_backslash =>
      -- The prefix has no backslash, so it would have begun what is written already.
      refine .keep (fun hword => no_word ?_) hrest
      obtain ⟨hc, htail⟩ := List.cons_prefix_cons.1 hword
      exact List.cons_prefix_cons.2 ⟨hc, prefix_of_prefix_written hquote (by decide) htail⟩
    | mark m no_letter stands =>
      refine .keep (not_prefix_of_ne (by decide)) (.keep (fun hword => ?_) hrest)
      -- The first letter of the prefix is the mark of a tab.
      obtain ⟨rfl, htail⟩ := List.cons_prefix_cons.1 hword
      have hword := prefix_of_prefix_written hquote (by decide) htail
      exact htab (List.cons_prefix_cons.2 ⟨stands.symm, hword⟩).isInfix
    | number letter width mem fits =>
      -- Neither the letter before a number nor a digit begins the prefix.
      have hletters : 't' ∉ numberWidths.map Prod.fst := by decide
      have hdigits : ∀ m < 16, digitChar m ≠ 't' := by decide
      refine .keep (not_prefix_of_ne (by decide)) (.keep (not_prefix_of_ne ?_) (hrest.pass ?_))
      · rintro rfl
        exact hletters (List.mem_map_of_mem mem)
      · intro x hx
        obtain ⟨m, hm, rfl⟩ := mem_fixedDigits hx
        exact hdigits m hm

end Quoted

/-! ## Lists of quoted texts -/

/-- The texts behind the first of a quoted list, with the closing bracket. -/
def listed : List String → List Char
  | [] => [']']
  | s :: texts => ',' :: ' ' :: (quotedChars s.toList ++ listed texts)

theorem listed_inj {xs ys : List String} (h : listed xs = listed ys) : xs = ys := by
  induction xs generalizing ys with
  | nil =>
    cases ys with
    | nil => rfl
    | cons y ys => exact absurd (List.cons.inj h).1 (by decide)
  | cons x xs ih =>
    cases ys with
    | nil => exact absurd (List.cons.inj h).1 (by decide)
    | cons y ys =>
      obtain ⟨hfirst, hrest⟩ :=
        eq_of_quotedChars_append (List.cons.inj (List.cons.inj h).2).2
      rw [String.toList_inj.1 hfirst, ih hrest]

/-- No tab makes the beginning of the prefix. -/
def Untabbed (s : String) : Prop := ¬ "\typing.".toList <:+: s.toList

/-- The prefix is taken out of a quoted text by itself. -/
theorem strips_quotedChars {s : String} (hs : Untabbed s) {rest rest' : List Char}
    (h : Strips rest rest') :
    Strips (quotedChars s.toList ++ rest) (quotedChars (withoutPrefix s).toList ++ rest') := by
  have hstrips := strips_withoutPrefix s
  have hquote := quoteFor_mem s.toList
  have hkept : ∀ q ∈ ['\'', '"'], q ∉ modulePrefix ∧ q ≠ 't' :=
    forall_quotes (by decide) (by decide)
  rw [quotedChars_append, quotedChars_append, ← hstrips.quoteFor_eq]
  refine .keep (not_prefix_of_ne (hkept _ hquote).2) ?_
  exact (hstrips.written hquote (toList_tabbedPrefix ▸ hs)).append_cons (hkept _ hquote).1 h

theorem strips_listed {texts : List String} (h : ∀ s ∈ texts, Untabbed s) :
    Strips (listed texts) (listed (texts.map withoutPrefix)) := by
  induction texts with
  | nil => exact .keep (not_prefix_of_ne (by decide)) .nil
  | cons s texts ih =>
    obtain ⟨hs, htexts⟩ := List.forall_mem_cons.1 h
    exact .keep (not_prefix_of_ne (by decide))
      (.keep (not_prefix_of_ne (by decide)) (strips_quotedChars hs (ih htexts)))

/-! ## Literal types -/

theorem flatMap_texts {f : Value → List Value} (hf : ∀ s, f (.text s) = [.text s])
    (texts : List String) : (texts.map Value.text).flatMap f = texts.map .text := by
  induction texts with
  | nil => rfl
  | cons s texts ih => rw [List.map_cons, List.flatMap_cons, hf, ih, List.singleton_append]

theorem allHashable_texts (texts : List String) :
    Value.allHashable (texts.map .text) = true := by
  induction texts with
  | nil => rfl
  | cons s texts ih => exact ih

/-- A text that is not among others is not like any of them. -/
theorem any_alike_texts {s : String} {kept : List String} (hs : s ∉ kept) :
    (kept.map Value.text).any (fun w =>
      Value.alike (.text s) w && Value.literalKind (.text s) == Value.literalKind w) = false := by
  rw [List.any_eq_false]
  intro w hw halike
  obtain ⟨t, ht, rfl⟩ := List.mem_map.1 hw
  obtain rfl := Value.text.inj (Value.alike_text_left.1 (Bool.and_eq_true_iff.1 halike).1)
  exact hs ht

/-- Distinct texts are all kept, behind those that are kept before. -/
theorem foldl_texts {kept texts : List String} (h : (kept ++ texts).Nodup) :
    (texts.map Value.text).foldl (fun kept v =>
        if kept.any (fun w => Value.alike v w && Value.literalKind v == Value.literalKind w)
        then kept else kept ++ [v]) (kept.map .text) = (kept ++ texts).map .text := by
  induction texts generalizing kept with
  | nil => simp
  | cons s texts ih =>
    have hs : s ∉ kept := fun hmem =>
      List.disjoint_of_nodup_append h hmem (List.mem_cons_self ..)
    rw [List.append_cons] at h ⊢
    rw [List.map_cons, List.foldl_cons, any_alike_texts hs, ← ih h]
    simp

/-- The type of distinct texts holds them in their order. -/
theorem literalOf_texts {texts : List String} (h : texts.Nodup) :
    literalOf (texts.map .text) = .literal (texts.map .text) := by
  have hkept := @foldl_texts [] texts h
  unfold literalOf
  rw [flatMap_texts fun _ => rfl]
  simp only [allHashable_texts, if_true]
  exact congrArg Value.literal hkept

/-- A list of quoted texts, with the closing bracket. -/
theorem toList_commas_quoted (s : String) (texts : List String) :
    (Value.commas ((s :: texts).map quoted)).toList ++ [']'] =
      quotedChars s.toList ++ listed texts := by
  induction texts generalizing s with
  | nil => simp [Value.commas, quoted, listed]
  | cons t texts ih =>
    have hrest := ih t
    simp only [Value.commas, List.map_cons, String.intercalate_cons_cons, String.toList_append,
      List.append_assoc] at hrest ⊢
    rw [hrest]
    simp [quoted, listed]

theorem toList_shown_literal (s : String) (texts : List String) :
    (Value.shown (.literal ((s :: texts).map .text))).toList =
      modulePrefix ++ ("Literal".toList ++ '[' :: (quotedChars s.toList ++ listed texts)) := by
  have hshown : ∀ texts : List String,
      Value.arguments (texts.map .text) (Value.shownAll (texts.map .text)) = texts.map quoted := by
    intro texts
    induction texts with
    | nil => rfl
    | cons s texts ih => exact congrArg (quoted s :: ·) ih
  rw [← toList_commas_quoted, ← hshown]
  show ("typing.Literal[" ++ Value.commas _ ++ "]").toList = _
  simp only [String.toList_append, List.append_assoc]
  rfl

/-- The text of a literal type is the list of its texts without the prefix. -/
theorem render_literal {s : String} {texts : List String} (h : ∀ t ∈ s :: texts, Untabbed t) :
    (render (.literal ((s :: texts).map .text))).toList =
      "Literal".toList ++ '[' ::
        (quotedChars (withoutPrefix s).toList ++ listed (texts.map withoutPrefix)) := by
  obtain ⟨hs, htexts⟩ := List.forall_mem_cons.1 h
  have hopening : Strips "Literal".toList "Literal".toList := strips_self (by decide +kernel)
  have hlisted := hopening.append_cons (c := '[') (by decide)
    (strips_quotedChars hs (strips_listed htexts))
  refine toList_withoutPrefix ?_
  rw [toList_shown_literal]
  exact .word hlisted

/-- Literal types of texts are told apart exactly if their texts are without the prefix. -/
theorem render_literal_eq_iff {xs ys : List String} (hxs : xs ≠ []) (hys : ys ≠ [])
    (h : ∀ s ∈ xs ++ ys, Untabbed s) :
    render (.literal (xs.map .text)) = render (.literal (ys.map .text)) ↔
      xs.map withoutPrefix = ys.map withoutPrefix := by
  obtain ⟨x, xs, rfl⟩ := List.exists_cons_of_ne_nil hxs
  obtain ⟨y, ys, rfl⟩ := List.exists_cons_of_ne_nil hys
  rw [List.forall_mem_append] at h
  rw [← String.toList_inj, render_literal h.1, render_literal h.2, List.append_cancel_left_eq,
    List.cons_inj_right]
  constructor
  · intro heq
    obtain ⟨hfirst, hrest⟩ := eq_of_quotedChars_append heq
    rw [List.map_cons, List.map_cons, String.toList_inj.1 hfirst, listed_inj hrest]
  · intro heq
    obtain ⟨hfirst, hrest⟩ := List.cons.inj heq
    rw [hfirst, hrest]

end RecordSchema.TypeTerm
