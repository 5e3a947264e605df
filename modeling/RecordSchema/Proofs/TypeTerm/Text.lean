import RecordSchema.TypeTerm.Column
import Mathlib.Data.List.TakeWhile

/-!
# Texts and None

Blanks at the ends of a text, and at the ends of what stands between bars, make no difference to
what a text annotation is recognised as.
-/

set_option autoImplicit false

namespace RecordSchema

/-! ## Blanks at the ends -/

namespace Text

variable {xs ys cs : List Char}

/-- Are all of these characters blanks? -/
def AllBlank (cs : List Char) : Prop := ∀ c ∈ cs, isBlank c = true

theorem allBlank_reverse : AllBlank xs.reverse ↔ AllBlank xs := by
  simp [AllBlank]

theorem trimEnd_append_of_allBlank (h : AllBlank ys) : trimEnd (xs ++ ys) = trimEnd xs := by
  unfold trimEnd
  rw [List.reverse_append, List.dropWhile_append_of_pos fun c hc => h c (List.mem_reverse.1 hc)]

theorem trimChars_append_of_allBlank (h : AllBlank ys) : trimChars (xs ++ ys) = trimChars xs := by
  unfold trimChars
  rw [List.dropWhile_append]
  split
  · next hxs =>
    -- Of blanks alone nothing is left.
    rw [List.isEmpty_iff.1 hxs, List.dropWhile_eq_nil_iff.2 h]
  · exact trimEnd_append_of_allBlank h

theorem trimChars_append_of_allBlank_left (h : AllBlank xs) :
    trimChars (xs ++ ys) = trimChars ys := by
  unfold trimChars
  rw [List.dropWhile_append_of_pos h]

theorem exists_eq_trimEnd (cs : List Char) :
    ∃ after, AllBlank after ∧ cs = trimEnd cs ++ after := by
  refine ⟨(cs.reverse.takeWhile isBlank).reverse,
    allBlank_reverse.2 fun c hc => List.mem_takeWhile_imp hc, ?_⟩
  rw [trimEnd, ← List.reverse_append, List.takeWhile_append_dropWhile, List.reverse_reverse]

theorem isPrefix_trimEnd (cs : List Char) : trimEnd cs <+: cs := by
  obtain ⟨after, -, hcs⟩ := exists_eq_trimEnd cs
  exact ⟨after, hcs.symm⟩

/-- A text is what is left between blanks. -/
theorem exists_eq_trimChars (cs : List Char) :
    ∃ before after, AllBlank before ∧ AllBlank after ∧ cs = before ++ trimChars cs ++ after := by
  obtain ⟨after, hafter, hcs⟩ := exists_eq_trimEnd (cs.dropWhile isBlank)
  refine ⟨cs.takeWhile isBlank, after, fun c hc => List.mem_takeWhile_imp hc, hafter, ?_⟩
  rw [List.append_assoc, trimChars, ← hcs, List.takeWhile_append_dropWhile]

theorem mem_trimChars {c : Char} (hc : c ∈ cs) (hblank : isBlank c = false) : c ∈ trimChars cs := by
  obtain ⟨before, after, hbefore, hafter, hcs⟩ := exists_eq_trimChars cs
  rw [hcs, List.mem_append, List.mem_append] at hc
  rcases hc with (hc | hc) | hc
  · cases hblank.symm.trans (hbefore c hc)
  · exact hc
  · cases hblank.symm.trans (hafter c hc)

/-- What is no blank stays at the end. -/
theorem trimChars_concat {c : Char} (hc : isBlank c = false) :
    trimChars (cs ++ [c]) = cs.dropWhile isBlank ++ [c] := by
  have hdrop : (cs ++ [c]).dropWhile isBlank = cs.dropWhile isBlank ++ [c] := by
    rw [List.dropWhile_append]
    split
    · next hblank => simp [List.isEmpty_iff.1 hblank, hc]
    · rfl
  rw [trimChars, hdrop]
  simp [trimEnd, hc]

end Text

namespace TypeTerm

open RecordSchema.Text

section Parts

variable {separator : Char} {xs ys cs : List Char}

/-! ## Parts between bars -/

theorem splitAt_ne_nil (separator : Char) (cs : List Char) : splitAt separator cs ≠ [] := by
  cases cs with
  | nil => exact List.cons_ne_nil _ _
  | cons c rest =>
    rw [splitAt]
    split
    · exact List.cons_ne_nil _ _
    · split <;> exact List.cons_ne_nil _ _

theorem splitAt_cons_of_ne {c : Char} (h : c ≠ separator) {part : List Char}
    {parts : List (List Char)} (hcs : splitAt separator cs = part :: parts) :
    splitAt separator (c :: cs) = (c :: part) :: parts := by
  rw [splitAt, if_neg (by simpa using h), hcs]

theorem splitAt_of_notMem (h : separator ∉ cs) : splitAt separator cs = [cs] := by
  induction cs with
  | nil => rfl
  | cons c cs ih =>
    rw [List.mem_cons, not_or] at h
    exact splitAt_cons_of_ne (Ne.symm h.1) (ih h.2)

theorem splitAt_append (separator : Char) (xs ys : List Char) :
    splitAt separator (xs ++ separator :: ys) = splitAt separator xs ++ splitAt separator ys := by
  induction xs with
  | nil => simp [splitAt]
  | cons c xs ih =>
    by_cases hc : c = separator
    · subst hc
      simp [splitAt, ih]
    · -- The character belongs to the first part, with or without what follows.
      obtain ⟨part, parts, hxs⟩ := List.exists_cons_of_ne_nil (splitAt_ne_nil separator xs)
      rw [List.cons_append, splitAt_cons_of_ne hc hxs]
      refine splitAt_cons_of_ne hc ?_
      rw [ih, hxs]
      rfl

theorem splitAt_cons_self (cs : List Char) :
    splitAt separator (separator :: cs) = [] :: splitAt separator cs := by
  simp [splitAt]

/-- What stands in a part stands in the whole. -/
theorem mem_of_mem_splitAt {c : Char} {part : List Char} (hpart : part ∈ splitAt separator cs)
    (hc : c ∈ part) : c ∈ cs := by
  induction cs generalizing part with
  | nil =>
    rw [List.mem_singleton.1 hpart] at hc
    cases hc
  | cons d cs ih =>
    by_cases hd : d = separator
    · subst hd
      rw [splitAt_cons_self] at hpart
      rcases List.mem_cons.1 hpart with rfl | hpart
      · cases hc
      · exact List.mem_cons_of_mem d (ih hpart hc)
    · -- The character goes to the front of the first part.
      obtain ⟨first, more, hcs⟩ := List.exists_cons_of_ne_nil (splitAt_ne_nil separator cs)
      rw [splitAt_cons_of_ne hd hcs] at hpart
      rw [hcs] at ih
      rcases List.mem_cons.1 hpart with rfl | hpart
      · rcases List.mem_cons.1 hc with rfl | hc
        · exact List.mem_cons_self ..
        · exact List.mem_cons_of_mem d (ih (List.mem_cons_self ..) hc)
      · exact List.mem_cons_of_mem d (ih (List.mem_cons_of_mem first hpart) hc)

/-- Whatever is no separator stands in some part. -/
theorem exists_part_of_mem {c : Char} (hc : c ≠ separator) (h : c ∈ cs) :
    ∃ part ∈ splitAt separator cs, c ∈ part := by
  induction cs with
  | nil => cases h
  | cons d cs ih =>
    by_cases hd : d = separator
    · subst hd
      obtain ⟨part, hpart, hin⟩ := ih ((List.mem_cons.1 h).resolve_left hc)
      rw [splitAt_cons_self]
      exact ⟨part, List.mem_cons_of_mem _ hpart, hin⟩
    · obtain ⟨first, more, hcs⟩ := List.exists_cons_of_ne_nil (splitAt_ne_nil separator cs)
      rw [splitAt_cons_of_ne hd hcs]
      rw [hcs] at ih
      rcases List.mem_cons.1 h with rfl | h
      · exact ⟨_, List.mem_cons_self .., List.mem_cons_self ..⟩
      · obtain ⟨part, hpart, hin⟩ := ih h
        rcases List.mem_cons.1 hpart with rfl | hpart
        · exact ⟨_, List.mem_cons_self .., List.mem_cons_of_mem d hin⟩
        · exact ⟨part, List.mem_cons_of_mem _ hpart, hin⟩

/-- There is a last separator, if there is one. -/
theorem exists_last_separator (h : separator ∈ cs) :
    ∃ front last, cs = front ++ separator :: last ∧ separator ∉ last := by
  obtain ⟨last, front, hcs, hlast⟩ := List.eq_append_cons_of_mem (List.mem_reverse.2 h)
  refine ⟨front.reverse, last.reverse, ?_, mt List.mem_reverse.1 hlast⟩
  rw [← List.reverse_reverse cs, hcs]
  simp

/-- What stands between the bars of a text, without the blanks around it. -/
def parts (cs : List Char) : List (List Char) := (splitAt '|' cs).map trimChars

theorem parts_of_notMem (h : '|' ∉ cs) : parts cs = [trimChars cs] := by
  rw [parts, splitAt_of_notMem h]
  rfl

theorem parts_append (xs ys : List Char) : parts (xs ++ '|' :: ys) = parts xs ++ parts ys := by
  rw [parts, splitAt_append, List.map_append]
  rfl

/-- Whatever is neither a bar nor a blank stands in some part. -/
theorem exists_mem_parts {c : Char} (hbar : c ≠ '|') (hblank : isBlank c = false) (h : c ∈ cs) :
    ∃ part ∈ parts cs, c ∈ part := by
  obtain ⟨part, hpart, hin⟩ := exists_part_of_mem hbar h
  exact ⟨trimChars part, List.mem_map_of_mem hpart, mem_trimChars hin hblank⟩

theorem notMem_of_allBlank (h : AllBlank cs) : '|' ∉ cs :=
  fun hbar => by cases h '|' hbar

theorem parts_append_of_allBlank (h : AllBlank ys) : parts (xs ++ ys) = parts xs := by
  by_cases hbar : '|' ∈ xs
  · -- The blanks belong to what stands after the last bar.
    obtain ⟨front, last, rfl, hlast⟩ := exists_last_separator hbar
    have hys : '|' ∉ last ++ ys := by
      rw [List.mem_append, not_or]
      exact ⟨hlast, notMem_of_allBlank h⟩
    rw [List.append_assoc, List.cons_append, parts_append, parts_append, parts_of_notMem hlast,
      parts_of_notMem hys, trimChars_append_of_allBlank h]
  · rw [parts_of_notMem hbar, parts_of_notMem, trimChars_append_of_allBlank h]
    rw [List.mem_append, not_or]
    exact ⟨hbar, notMem_of_allBlank h⟩

theorem parts_append_of_allBlank_left (h : AllBlank xs) : parts (xs ++ ys) = parts ys := by
  by_cases hbar : '|' ∈ ys
  · -- The blanks belong to what stands before the first bar.
    obtain ⟨first, rest, rfl, hfirst⟩ := List.eq_append_cons_of_mem hbar
    have hxs : '|' ∉ xs ++ first := by
      rw [List.mem_append, not_or]
      exact ⟨notMem_of_allBlank h, hfirst⟩
    rw [← List.append_assoc, parts_append, parts_append, parts_of_notMem hfirst,
      parts_of_notMem hxs, trimChars_append_of_allBlank_left h]
  · rw [parts_of_notMem hbar, parts_of_notMem, trimChars_append_of_allBlank_left h]
    rw [List.mem_append, not_or]
    exact ⟨notMem_of_allBlank h, hbar⟩

/-- Blanks around a text make no difference to its parts. -/
theorem parts_trimChars (cs : List Char) : parts (trimChars cs) = parts cs := by
  obtain ⟨before, after, hbefore, hafter, hcs⟩ := exists_eq_trimChars cs
  rw [congrArg parts hcs, parts_append_of_allBlank hafter, parts_append_of_allBlank_left hbefore]

theorem allBlank_space : AllBlank [' '] := by
  intro c hc
  rw [List.mem_singleton.1 hc]
  rfl

/-- `None` after a bar is one more part. -/
theorem parts_append_none (cs : List Char) :
    parts (cs ++ " | None".toList) = parts cs ++ ["None".toList] := by
  calc parts (cs ++ " | None".toList)
      = parts ((cs ++ [' ']) ++ '|' :: " None".toList) := by simp
    _ = parts (cs ++ [' ']) ++ parts " None".toList := parts_append _ _
    _ = parts cs ++ ["None".toList] := by rw [parts_append_of_allBlank allBlank_space]; rfl

/-- `None` before a bar is one more part as well. -/
theorem parts_none_append (cs : List Char) :
    parts ("None | ".toList ++ cs) = ["None".toList] ++ parts cs := by
  calc parts ("None | ".toList ++ cs)
      = parts ("None ".toList ++ '|' :: ([' '] ++ cs)) := by simp
    _ = parts "None ".toList ++ parts ([' '] ++ cs) := parts_append _ _
    _ = ["None".toList] ++ parts cs := by rw [parts_append_of_allBlank_left allBlank_space]; rfl

end Parts

/-! ## Words at the front -/

section Words

variable {word : String} {cs rest : List Char}

theorem after?_eq_some_iff : after? word cs = some rest ↔ cs = word.toList ++ rest := by
  unfold after?
  rw [← String.length_toList]
  constructor
  · intro h
    split at h
    · next htake =>
      rw [← Option.some.inj h]
      exact (List.take_append_drop ..).symm.trans (congrArg (· ++ _) (eq_of_beq htake))
    · cases h
  · rintro rfl
    simp

/-- A word without a character at which it might end does not reach beyond it. -/
theorem prefix_of_append_cons {word cs rest : List Char} {c : Char} (hc : c ∉ word)
    (h : word <+: cs ++ c :: rest) : word <+: cs := by
  induction cs generalizing word with
  | nil =>
    cases word with
    | nil => exact List.prefix_rfl
    | cons w word =>
      -- The word would have to begin with the character that it does not have.
      obtain rfl := (List.cons_prefix_cons.1 h).1
      exact absurd (List.mem_cons_self ..) hc
  | cons x cs ih =>
    cases word with
    | nil => exact List.nil_prefix
    | cons w word =>
      obtain ⟨hw, hword⟩ := List.cons_prefix_cons.1 h
      exact List.cons_prefix_cons.2 ⟨hw, ih (fun hmem => hc (List.mem_cons_of_mem _ hmem)) hword⟩

end Words

/-! ## Optional types -/

section Optional

variable {cs rest : List Char} {s : String}

theorem beginsOptional_iff :
    beginsOptional cs = true ↔ "Optional[".toList <+: cs.dropWhile isBlank ∨
      "typing.Optional[".toList <+: cs.dropWhile isBlank := by
  have hstart : beginsOptional cs = true ↔
      "Optional[".toList <+: afterModule (cs.dropWhile isBlank) := by
    simp only [beginsOptional, Option.isSome_iff_exists, after?_eq_some_iff]
    exact exists_congr fun _ => eq_comm
  rw [hstart, afterModule]
  cases hmodule : after? "typing." (cs.dropWhile isBlank) with
  | some rest =>
    -- Behind the name of the module the shorter word does not come first.
    rw [after?_eq_some_iff.1 hmodule]
    have hword : "typing.Optional[".toList = "typing.".toList ++ "Optional[".toList := by decide
    rw [hword, List.prefix_append_right_inj, Option.getD_some]
    refine (or_iff_right ?_).symm
    simp [List.cons_prefix_cons]
  | none =>
    -- Without the name of the module the longer word is not there.
    refine (or_iff_left ?_).symm
    rintro ⟨rest, hrest⟩
    have hsome : after? "typing." (cs.dropWhile isBlank) = some ("Optional[".toList ++ rest) :=
      after?_eq_some_iff.2 hrest.symm
    cases hmodule.symm.trans hsome

/-- An alternative after a text has no part in how the text begins. -/
theorem beginsOptional_append (cs rest : List Char) :
    beginsOptional (cs ++ ' ' :: '|' :: rest) = beginsOptional cs := by
  rw [Bool.eq_iff_iff, beginsOptional_iff, beginsOptional_iff, List.dropWhile_append]
  split
  · next hblank =>
    -- Nothing but blanks comes before the bar, and no word begins with a bar.
    rw [List.isEmpty_iff.1 hblank]
    simp [isBlank, List.cons_prefix_cons]
  · have hword : ∀ word : List Char, ' ' ∉ word →
        (word <+: cs.dropWhile isBlank ++ ' ' :: '|' :: rest ↔ word <+: cs.dropWhile isBlank) :=
      fun word hspace => ⟨prefix_of_append_cons hspace,
        fun h => h.trans (List.prefix_append _ _)⟩
    rw [hword _ (by decide), hword _ (by decide)]

theorem insideOptional?_trimChars (h : beginsOptional cs = false) :
    insideOptional? (trimChars cs) = none := by
  unfold insideOptional?
  cases hword : after? "Optional[" (trimChars cs) with
  | none => rfl
  | some rest =>
    have hstarts : "Optional[".toList <+: trimChars cs := ⟨rest, (after?_eq_some_iff.1 hword).symm⟩
    cases h.symm.trans (beginsOptional_iff.2 (.inl (hstarts.trans (isPrefix_trimEnd _))))

/-- The parts of a text that are not `None`. -/
def partsBesideNone (cs : List Char) : List (List Char) :=
  (parts cs).filter (· != "None".toList)

theorem withoutNone_of_one {one : List Char} (h : beginsOptional s.toList = false)
    (hone : partsBesideNone s.toList = [one]) : withoutNone s = String.ofList one := by
  rw [partsBesideNone, ← parts_trimChars, parts] at hone
  unfold withoutNone
  simp only [insideOptional?_trimChars h, hone]

theorem withoutNone_of_notOne (h : beginsOptional s.toList = false)
    (hparts : ∀ one, partsBesideNone s.toList ≠ [one]) :
    withoutNone s = String.ofList (trimChars s.toList) := by
  rw [partsBesideNone, ← parts_trimChars, parts] at hparts
  unfold withoutNone
  dsimp only
  rw [insideOptional?_trimChars h]
  dsimp only
  split
  · next one hone => exact absurd hone (hparts one)
  · rfl

/-- `None` after a bar is no part beside `None`. -/
theorem partsBesideNone_append (cs : List Char) :
    partsBesideNone (cs ++ " | None".toList) = partsBesideNone cs := by
  rw [partsBesideNone, parts_append_none, List.filter_append]
  simp [partsBesideNone]

/-- Nor is `None` before a bar. -/
theorem partsBesideNone_none_append (cs : List Char) :
    partsBesideNone ("None | ".toList ++ cs) = partsBesideNone cs := by
  rw [partsBesideNone, parts_none_append, List.filter_append]
  simp [partsBesideNone]

/-- A text with a character that is in none of their names names no class with a column. -/
theorem ofTypeName_of_mem {name : String} {c : Char} (hc : c ∈ name.toList)
    (hforeign : ∀ word ∈ ["int", "float", "str", "bool"], c ∉ word.toList) :
    ColumnType.ofTypeName name = .object := by
  have hne : ∀ word ∈ ["int", "float", "str", "bool"], (name == word) = false := by
    intro word hword
    exact beq_eq_false_iff_ne.2 fun heq => hforeign word hword (heq ▸ hc)
  simp [ColumnType.ofTypeName, hne "int" (by simp), hne "float" (by simp), hne "str" (by simp),
    hne "bool" (by simp)]

/-- A text with bars is the name of no class. -/
theorem ofTypeName_of_bar {name : String} (h : '|' ∈ name.toList) :
    ColumnType.ofTypeName name = .object :=
  ofTypeName_of_mem h (by decide)

/-- A text that is neither `None` nor an optional type and has no bar is its only part. -/
theorem partsBesideNone_of_notMem (h : textAdmitsNone s = false) (hbar : '|' ∉ trimChars s.toList) :
    partsBesideNone s.toList = [trimChars s.toList] := by
  have hnone : (trimChars s.toList != "None".toList) = true := by
    unfold textAdmitsNone isNoneChars at h
    exact Bool.not_eq_true' _ ▸ (Bool.or_eq_false_iff.1 (Bool.or_eq_false_iff.1 h).1).1
  have hbar : '|' ∉ s.toList := fun hmem => hbar (mem_trimChars hmem rfl)
  rw [partsBesideNone, parts_of_notMem hbar]
  refine List.filter_eq_self.2 fun part hpart => ?_
  rw [List.mem_singleton.1 hpart]
  exact hnone

/-- A text annotation keeps its column when it is widened. -/
theorem column_text_append (h : textAdmitsNone s = false) :
    column (.text (s ++ " | None")) = column (.text s) := by
  have hbegins : beginsOptional s.toList = false := by
    unfold textAdmitsNone at h
    exact (Bool.or_eq_false_iff.1 h).2
  have hbegins' : beginsOptional (s ++ " | None").toList = false := by
    rw [String.toList_append]
    exact (beginsOptional_append s.toList " None".toList).trans hbegins
  have hparts : partsBesideNone (s ++ " | None").toList = partsBesideNone s.toList := by
    rw [String.toList_append, partsBesideNone_append]
  rw [column, column]
  by_cases hone : ∃ one, partsBesideNone s.toList = [one]
  · obtain ⟨one, hone⟩ := hone
    rw [withoutNone_of_one hbegins hone, withoutNone_of_one hbegins' (hparts.trans hone)]
  · rw [not_exists] at hone
    rw [withoutNone_of_notOne hbegins hone,
      withoutNone_of_notOne hbegins' fun one => hparts ▸ hone one]
    -- Both have bars left, so neither names a class.
    rw [ofTypeName_of_bar, ofTypeName_of_bar]
    · by_contra hbar
      exact hone _ (partsBesideNone_of_notMem h (by simpa using hbar))
    · rw [String.toList_ofList, String.toList_append]
      exact mem_trimChars (by simp) rfl

end Optional

/-! ## Alternatives that are None -/

section Alternatives

variable {cs front last : List Char}

theorem isNoneChars_iff :
    isNoneChars cs = true ↔ ∃ before after, AllBlank before ∧ AllBlank after ∧
      cs = before ++ "None".toList ++ after := by
  unfold isNoneChars
  rw [beq_iff_eq]
  constructor
  · intro h
    obtain ⟨before, after, hbefore, hafter, hcs⟩ := exists_eq_trimChars cs
    exact ⟨before, after, hbefore, hafter, h ▸ hcs⟩
  · rintro ⟨before, after, hbefore, hafter, rfl⟩
    rw [trimChars_append_of_allBlank hafter, trimChars_append_of_allBlank_left hbefore]
    rfl

theorem notMem_of_isNoneChars (h : isNoneChars cs = true) : '|' ∉ cs := by
  obtain ⟨before, after, hbefore, hafter, rfl⟩ := isNoneChars_iff.1 h
  rw [List.mem_append, List.mem_append, not_or, not_or]
  exact ⟨⟨notMem_of_allBlank hbefore, by decide⟩, notMem_of_allBlank hafter⟩

/-- Read from the end, a text that ends in `None` has blanks, the word, blanks and a bar. -/
theorem exists_of_endsInNone (h : endsInNone cs = true) :
    ∃ front last, cs = front ++ '|' :: last ∧ isNoneChars last = true := by
  unfold endsInNone at h
  split at h
  · next rest hrest =>
    obtain ⟨more, hmore⟩ := List.head?_eq_some_iff.1 (eq_of_beq h)
    obtain ⟨after, hafter, hcs⟩ := exists_eq_trimEnd cs
    -- Read from the end: the word, blanks and the bar.
    obtain ⟨blanks, hblanks, rfl⟩ : ∃ blanks, AllBlank blanks ∧ rest = blanks ++ '|' :: more :=
      ⟨rest.takeWhile isBlank, fun c hc => List.mem_takeWhile_imp hc,
        by rw [← hmore, List.takeWhile_append_dropWhile]⟩
    have htrim : trimEnd cs = more.reverse ++ '|' :: (blanks.reverse ++ "None".toList) := by
      rw [← List.reverse_reverse (trimEnd cs), after?_eq_some_iff.1 hrest]
      simp
    refine ⟨more.reverse, blanks.reverse ++ "None".toList ++ after, ?_,
      isNoneChars_iff.2 ⟨_, after, allBlank_reverse.2 hblanks, hafter, rfl⟩⟩
    rw [hcs, htrim]
    simp
  · cases h

theorem endsInNone_of_isNoneChars {front last : List Char} (h : isNoneChars last = true) :
    endsInNone (front ++ '|' :: last) = true := by
  obtain ⟨before, after, hbefore, hafter, rfl⟩ := isNoneChars_iff.1 h
  have htrim : (trimEnd (front ++ '|' :: (before ++ "None".toList ++ after))).reverse =
      "enoN".toList ++ (before.reverse ++ '|' :: front.reverse) := by
    have happend : front ++ '|' :: (before ++ "None".toList ++ after) =
        front ++ '|' :: before ++ "None".toList ++ after := by simp
    rw [happend, trimEnd_append_of_allBlank hafter, trimEnd, List.reverse_reverse]
    simp [isBlank]
  rw [endsInNone, htrim, after?_eq_some_iff.2 rfl]
  dsimp only
  rw [List.dropWhile_append_of_pos (allBlank_reverse.2 hbefore)]
  rfl

/-- A text that ends in `None` has a bar before it. -/
theorem endsInNone_iff :
    endsInNone cs = true ↔
      ∃ front last, cs = front ++ '|' :: last ∧ isNoneChars last = true := by
  refine ⟨exists_of_endsInNone, ?_⟩
  rintro ⟨front, last, rfl, hlast⟩
  exact endsInNone_of_isNoneChars hlast

/-- What stands after the last bar decides whether a text ends in `None`. -/
theorem endsInNone_append (front last : List Char) :
    endsInNone (front ++ '|' :: last) = (isNoneChars last || endsInNone last) := by
  rw [Bool.eq_iff_iff, Bool.or_eq_true_iff, endsInNone_iff, endsInNone_iff]
  constructor
  · rintro ⟨front', last', heq, hlast'⟩
    have hbar := notMem_of_isNoneChars hlast'
    -- The bar that was found is this one or one behind it, for `None` has no bar in it.
    rcases List.append_eq_append_iff.1 heq with ⟨more, -, hmore⟩ | ⟨more, -, hmore⟩
    · cases more with
      | nil => exact .inl ((List.cons.inj hmore).2 ▸ hlast')
      | cons c more => exact .inr ⟨more, last', (List.cons.inj hmore).2, hlast'⟩
    · cases more with
      | nil => exact .inl ((List.cons.inj hmore).2 ▸ hlast')
      | cons c more =>
        rw [(List.cons.inj hmore).2] at hbar
        exact absurd (by simp) hbar
  · rintro (hlast | ⟨front', last', rfl, hlast'⟩)
    · exact ⟨front, last, rfl, hlast⟩
    · exact ⟨front ++ '|' :: front', last', by simp, hlast'⟩

/-- Is a text, as the last of several alternatives, recognised as `None`? -/
def endsAsNone (s : String) : Bool := isNoneChars s.toList || endsInNone s.toList

theorem isNoneChars_cons_space (cs : List Char) : isNoneChars (' ' :: cs) = isNoneChars cs := rfl

theorem endsInNone_cons_space (cs : List Char) : endsInNone (' ' :: cs) = endsInNone cs := by
  rw [Bool.eq_iff_iff, endsInNone_iff, endsInNone_iff]
  constructor
  · rintro ⟨front, last, hcs, hlast⟩
    cases front with
    | nil => cases (List.cons.inj hcs).1
    | cons c front => exact ⟨front, last, (List.cons.inj hcs).2, hlast⟩
  · rintro ⟨front, last, rfl, hlast⟩
    exact ⟨' ' :: front, last, rfl, hlast⟩

/-- Of several alternatives the last one can be recognised as `None`, and the first can begin as an
optional type. -/
theorem textAdmitsNone_intercalate (first last : String) (between : List String) :
    textAdmitsNone (" | ".intercalate (first :: (between ++ [last]))) =
      (endsAsNone last || beginsOptional first.toList) := by
  have hends : (" | ".intercalate (first :: (between ++ [last]))).toList =
      ((" | ".intercalate (first :: between)).toList ++ [' ']) ++ '|' :: ' ' :: last.toList := by
    rw [← List.cons_append, String.intercalate_append_of_ne_nil (by simp) (by simp)]
    simp
  have hbegins : ∃ rest, (" | ".intercalate (first :: (between ++ [last]))).toList =
      first.toList ++ ' ' :: '|' :: rest := by
    obtain ⟨second, more, hmore⟩ := List.exists_cons_of_ne_nil
      (show between ++ [last] ≠ [] by simp)
    rw [hmore, String.intercalate_cons_cons]
    exact ⟨' ' :: (" | ".intercalate (second :: more)).toList, by simp⟩
  obtain ⟨rest, hrest⟩ := hbegins
  have hnone : isNoneChars (" | ".intercalate (first :: (between ++ [last]))).toList = false :=
    Bool.eq_false_iff.2 fun h => notMem_of_isNoneChars h (by simp [hends])
  unfold textAdmitsNone endsAsNone
  dsimp only
  rw [hnone, Bool.false_or, hrest, beginsOptional_append, ← hrest, hends, endsInNone_append,
    isNoneChars_cons_space, endsInNone_cons_space]

end Alternatives

end TypeTerm

end RecordSchema
