import RecordSchema.Proofs.Readers.Basic
import RecordSchema.Toml.Reader

/-!
# Faults of TOML texts

A TOML text is malformed or has an integer too long to be read, and the latter only where a long run
of digits is in it (`Toml.fault_of_decode`). The readers are gone through in the order in which they
build on each other: scalars, keys, values, statements.
-/

set_option autoImplicit false

namespace RecordSchema.Toml

open RecordSchema.Text

/-- A refused scalar is a fault of texts with a long run of digits. -/
def faults : Faults DocumentFault where
  inText cs e := e = .malformed ∨ e = .refused .badValue ∧ HasLongNumber cs
  mono hrest h := h.imp id fun h => ⟨h.1, h.2.mono hrest.isInfix⟩

variable {α : Type} {cs rest : List Char}

theorem reads_malformed : faults.Reads cs (malformed : Except DocumentFault (α × List Char)) :=
  Or.inl rfl

theorem suffix_skipBlanks (cs : List Char) : skipBlanks cs <:+ cs := List.dropWhile_suffix _

/-- What stands behind a sign that comes after blanks. -/
theorem suffix_of_sign {c : Char} {after : List Char} (h : skipBlanks cs = c :: after) :
    after <:+ cs :=
  suffix_of_cons_suffix (h ▸ suffix_skipBlanks cs)

theorem suffix_skipBlanks_of_sign {c : Char} {after : List Char} (h : skipBlanks cs = c :: after) :
    skipBlanks after <:+ cs :=
  (suffix_skipBlanks after).trans (suffix_of_sign h)

theorem suffix_afterWord {word : String} (h : afterWord? word cs = some rest) : rest <:+ cs := by
  unfold afterWord? at h
  split at h
  · rw [← Option.some.inj h]
    exact List.drop_suffix _ _
  · cases h

/-! ## Strings -/

theorem reads_hexEscape (width : Nat) (cs : List Char) : faults.Reads cs (hexEscape width cs) := by
  unfold hexEscape
  split
  · dsimp only
    split
    · exact .ok (List.drop_suffix _ _)
    · exact reads_malformed
  · exact reads_malformed

theorem reads_escape (multiline : Bool) (cs : List Char) :
    faults.Reads cs (escape multiline cs) := by
  unfold escape
  split
  · exact reads_malformed
  · rename_i c rest
    have hrest : rest <:+ c :: rest := List.suffix_cons c rest
    have hblanks := suffix_skipBlanks (c :: rest)
    split
    · -- A line end after the backslash: the blanks of the next lines go with it.
      split
      · exact .ok (List.nil_suffix)
      · rename_i after hafter
        exact .ok ((List.dropWhile_suffix _).trans (suffix_of_cons_suffix (hafter ▸ hblanks)))
      · exact reads_malformed
    repeat' split
    · exact (reads_hexEscape 4 rest).mono hrest
    · exact (reads_hexEscape 8 rest).mono hrest
    · exact .ok hrest
    · exact .ok hrest
    · exact .ok hrest
    · exact .ok hrest
    · exact .ok hrest
    · exact .ok hrest
    · exact reads_malformed

theorem reads_basicChars (multiline : Bool) (fuel : Nat) (cs : List Char) :
    faults.Reads cs (basicChars multiline fuel cs) := by
  induction fuel generalizing cs with
  | zero => exact reads_malformed
  | succ fuel ih =>
    cases cs with
    | nil => exact reads_malformed
    | cons c rest =>
      have hrest : rest <:+ c :: rest := List.suffix_cons c rest
      have hkeep (d : Char) : faults.Reads (c :: rest)
          (basicChars multiline fuel rest >>= fun p => Pure.pure (d :: p.1, p.2)) :=
        .mono hrest ((ih rest).bind fun ds after _ => .ok (List.suffix_refl after))
      unfold basicChars
      split
      · -- A quote ends the string, or in one of several lines only together with two more.
        split
        · exact .ok hrest
        · split
          · exact .ok (suffix_afterWord ‹_›)
          · exact hkeep c
      split
      · refine .mono hrest ((reads_escape multiline rest).bind fun e rest _ => ?_)
        exact (ih rest).bind fun ds after _ => .ok (List.suffix_refl after)
      split
      · exact reads_malformed
      · exact hkeep c

theorem reads_upTo (multiline : Bool) (mark : String) (cs : List Char) :
    faults.Reads cs (upTo multiline mark cs) := by
  induction cs with
  | nil => exact reads_malformed
  | cons c rest ih =>
    unfold upTo
    split
    · exact .ok (suffix_afterWord ‹_›)
    · split
      · exact reads_malformed
      · refine .mono (List.suffix_cons c rest) (ih.bind fun ds after _ => ?_)
        exact .ok (List.suffix_refl after)

theorem reads_multilineString (quote : Char) (cs : List Char) :
    faults.Reads cs (multilineString quote cs) := by
  unfold multilineString
  extract_lets start
  have hstart : start <:+ cs := by
    simp only [start]
    split
    · exact List.suffix_cons _ _
    · exact List.suffix_refl _
  have hend (body rest : List Char) : faults.Reads rest
      (.ok (body ++ (moreQuotes quote rest).1, (moreQuotes quote rest).2)) :=
    .ok (List.drop_suffix (moreQuotes quote rest).1.length rest)
  refine .mono hstart ?_
  split
  · exact (reads_basicChars true _ start).bind fun body rest _ => hend body rest
  · exact (reads_upTo true _ start).bind fun body rest _ => hend body rest

theorem reads_lineString (quote : Char) (cs : List Char) :
    faults.Reads cs (lineString quote cs) := by
  unfold lineString
  split
  · exact reads_basicChars _ _ _
  · exact reads_upTo _ _ _

/-! ## Dates, times and numbers -/

theorem suffix_twoDigits {low high n : Nat} (h : twoDigits? low high cs = some (n, rest)) :
    rest <:+ cs := by
  unfold twoDigits? at h
  split at h
  · rename_i a b after
    simp only [Option.bind_eq_bind, Option.bind_eq_some_iff] at h
    obtain ⟨m, -, k, -, h⟩ := h
    split at h
    · rw [← (Prod.mk.inj (Option.some.inj h)).2]
      exact ⟨[a, b], rfl⟩
    · cases h
  · cases h

theorem suffix_fraction (cs : List Char) : (fraction cs).2 <:+ cs := by
  unfold fraction
  split
  · dsimp only
    split
    · exact List.suffix_refl _
    · exact (List.drop_suffix _ _).trans (List.suffix_cons _ _)
  · exact List.suffix_refl _

theorem suffix_clock {time : Calendar.Clock} (h : clock? cs = some (time, rest)) : rest <:+ cs := by
  unfold clock? at h
  simp only [Option.bind_eq_bind, Option.bind_eq_some_iff, Prod.exists] at h
  obtain ⟨hour, left₁, hhour, left₂, hcolon, minute, left₃, hminute, left₄, hcolon', second, left₅,
    hsecond, h⟩ := h
  rw [← (Prod.mk.inj (Option.some.inj h)).2]
  refine (suffix_fraction left₅).trans <| (suffix_twoDigits hsecond).trans ?_
  refine (suffix_afterWord hcolon').trans <| (suffix_twoDigits hminute).trans ?_
  exact (suffix_afterWord hcolon).trans (suffix_twoDigits hhour)

theorem suffix_date {date : Calendar.Date} (h : date? cs = some (date, rest)) : rest <:+ cs := by
  unfold date? at h
  simp only [Option.bind_eq_bind, Option.bind_eq_some_iff] at h
  obtain ⟨year, -, h⟩ := h
  split at h
  · cases h
  · simp only [Option.bind_eq_some_iff, Prod.exists] at h
    obtain ⟨left₁, hdash, month, left₂, hmonth, left₃, hdash', day, left₄, hday, h⟩ := h
    rw [← (Prod.mk.inj (Option.some.inj h)).2]
    refine (suffix_twoDigits hday).trans <| (suffix_afterWord hdash').trans ?_
    refine (suffix_twoDigits hmonth).trans <| (suffix_afterWord hdash).trans ?_
    exact List.drop_suffix 4 cs

theorem suffix_offset {offset : Int} (h : offset? cs = some (offset, rest)) : rest <:+ cs := by
  unfold offset? at h
  split at h
  · rename_i c after
    refine List.IsSuffix.trans ?_ (List.suffix_cons c after)
    split at h
    · rw [← (Prod.mk.inj (Option.some.inj h)).2]
    split at h
    · simp only [Option.bind_eq_bind, Option.bind_eq_some_iff, Prod.exists] at h
      obtain ⟨hours, left₁, hhours, left₂, hcolon, minutes, left₃, hminutes, h⟩ := h
      rw [← (Prod.mk.inj (Option.some.inj h)).2]
      refine (suffix_twoDigits hminutes).trans ?_
      exact (suffix_afterWord hcolon).trans (suffix_twoDigits hhours)
    · cases h
  · cases h

theorem reads_calendar {found : Except DocumentFault (Value × List Char)}
    (h : calendar? cs = some found) : faults.Reads cs found := by
  unfold calendar? at h
  split at h
  · rename_i date left hdate
    have hleft := suffix_date hdate
    rw [← Option.some.inj h]
    split
    · refine .ok (List.IsSuffix.trans ?_ hleft)
      split
      · rename_i found hfound
        -- A time of day follows the date, perhaps with an offset.
        split at hfound
        · rename_i c after
          split at hfound
          · obtain ⟨⟨clock, last⟩, hclock, rfl⟩ := Option.map_eq_some_iff.1 hfound
            have hlast := (suffix_clock hclock).trans (List.suffix_cons c after)
            dsimp only
            split
            · exact (suffix_offset ‹_›).trans hlast
            · exact hlast
          · cases hfound
        · cases hfound
      · exact List.suffix_refl _
    · exact reads_malformed
  · obtain ⟨⟨time, left⟩, htime, rfl⟩ := Option.map_eq_some_iff.1 h
    exact .ok (suffix_clock htime)

theorem suffix_basedInteger {v : Value} (h : basedInteger? cs = some (v, rest)) : rest <:+ cs := by
  unfold basedInteger? at h
  split at h
  · rename_i mark after
    extract_lets next at h
    -- The digits behind the mark are read in one way for every base.
    have hnext (base : Nat) (h : next base = some (v, rest)) : rest <:+ '0' :: mark :: after := by
      unfold next at h
      have hdigits := suffix_takeDigits (digitIn? base) after
      split at h
      · cases h
      · rename_i ds left _ hleft
        rw [hleft] at hdigits
        rw [← (Prod.mk.inj (Option.some.inj h)).2]
        exact hdigits.trans (List.suffix_append ['0', mark] after)
    repeat' split at h
    · exact hnext 16 h
    · exact hnext 8 h
    · exact hnext 2 h
    · cases h
  · cases h

theorem takeDigits_of_digitsAfter {ds : List Nat} (h : digitsAfter? cs = some (ds, rest)) :
    Numeral.takeDigits (digitIn? 10) cs = (ds, rest) := by
  unfold digitsAfter? at h
  split at h
  · cases h
  · exact Option.some.inj h

theorem suffix_digitsAfter {ds : List Nat} (h : digitsAfter? cs = some (ds, rest)) :
    rest <:+ cs := by
  have hdigits := suffix_takeDigits (digitIn? 10) cs
  rwa [takeDigits_of_digitsAfter h] at hdigits

theorem hasLongNumber_of_digitsAfter {ds : List Nat} (h : digitsAfter? cs = some (ds, rest))
    (hlong : Numeral.maxDigits < ds.length) : HasLongNumber cs := by
  refine hasLongNumber_of_takeDigits ?_
  rwa [takeDigits_of_digitsAfter h]

/-- What follows the fraction of a number, or its whole part if there is no fraction. -/
theorem suffix_places {places : Option (List Nat)} {left : List Char}
    (h : (match (afterWord? "." cs).bind digitsAfter? with
      | some (ds, after) => (some ds, after)
      | none => (none, cs)) = (places, left)) : left <:+ cs := by
  split at h
  · rename_i ds after hfraction
    obtain ⟨rest, hpoint, hdigits⟩ := Option.bind_eq_some_iff.1 hfraction
    rw [← (Prod.mk.inj h).2]
    exact (suffix_digitsAfter hdigits).trans (suffix_afterWord hpoint)
  · exact (Prod.mk.inj h).2 ▸ List.suffix_refl _

/-- What follows the exponent of a number, if there is one. -/
theorem suffix_power {power : Int × List Char}
    (h : (match cs with
      | c :: after =>
        if c == 'e' || c == 'E' then
          let (minus, after) := Numeral.takeSign after
          (digitsAfter? after).map fun (ds, after) => (Numeral.signed minus (ofDigits 10 ds), after)
        else none
      | [] => none) = some power) : power.2 <:+ cs := by
  split at h
  · rename_i c after
    split at h
    · obtain ⟨⟨ds, last⟩, hdigits, rfl⟩ := Option.map_eq_some_iff.1 h
      refine (suffix_digitsAfter hdigits).trans ?_
      exact (suffix_takeSign after).trans (List.suffix_cons c after)
    · cases h
  · cases h

theorem reads_decimal {found : Except DocumentFault (Value × List Char)}
    (h : decimal? cs = some found) : faults.Reads cs found := by
  unfold decimal? at h
  have hbody := suffix_takeSign cs
  split at h
  rename_i negative body hsign
  rw [hsign] at hbody
  extract_lets next at h
  -- What follows the whole part is read in one way, whatever the whole part is.
  have hnext (read : List Nat × List Char) (hrest : read.2 <:+ cs)
      (hlong : Numeral.maxDigits < read.1.length → HasLongNumber cs)
      (h : next read = some found) : faults.Reads cs found := by
    unfold next at h
    split at h
    rename_i whole rest
    split at h
    rename_i places left hplaces
    have hleft : left <:+ cs := (suffix_places hplaces).trans hrest
    extract_lets power at h
    -- Without places and power it is an integer, and only integers can be too long.
    split at h
    · split at h
      · rename_i hdigits
        rw [← Option.some.inj h]
        exact Or.inr ⟨rfl, hlong hdigits⟩
      · rw [← Option.some.inj h]
        exact .ok hleft
    · rw [← Option.some.inj h]
      refine .ok (List.IsSuffix.trans ?_ hleft)
      cases hpower : power with
      | none => exact List.suffix_refl _
      | some p => exact suffix_power hpower
  split at h
  · rename_i rest
    refine hnext ([0], rest) ((List.suffix_cons _ _).trans hbody) (fun hlong => ?_) h
    exact absurd hlong (by simp [Numeral.maxDigits])
  · obtain ⟨⟨whole, rest⟩, hdigits, h⟩ := Option.bind_eq_some_iff.1 h
    refine hnext (whole, rest) ((suffix_digitsAfter hdigits).trans hbody) (fun hlong => ?_) h
    exact (hasLongNumber_of_digitsAfter hdigits hlong).mono hbody.isInfix

theorem suffix_special {v : Value} (h : special? cs = some (v, rest)) : rest <:+ cs := by
  have hbody := suffix_takeSign cs
  unfold special? at h
  dsimp only at h
  split at h
  · rw [← (Prod.mk.inj (Option.some.inj h)).2]
    exact (suffix_afterWord ‹_›).trans hbody
  · rw [← (Prod.mk.inj (Option.some.inj h)).2]
    exact (suffix_afterWord ‹_›).trans hbody
  · cases h

theorem reads_plainScalar (cs : List Char) : faults.Reads cs (plainScalar cs) := by
  unfold plainScalar
  split
  · exact reads_calendar ‹_›
  split
  · exact .ok (suffix_basedInteger ‹_›)
  split
  · exact reads_decimal ‹_›
  cases hspecial : special? cs with
  | none => exact reads_malformed
  | some found => exact .ok (suffix_special hspecial)

/-! ## Comments and keys -/

theorem ensures_skipComment (cs : List Char) :
    Ensures (faults.inText cs) (· <:+ cs) (skipComment cs) := by
  unfold skipComment
  split
  · split
    · exact Or.inl rfl
    · exact (List.dropWhile_suffix _).trans (List.suffix_cons _ _)
  · exact List.suffix_refl _

theorem ensures_skipFiller (fuel : Nat) (cs : List Char) :
    Ensures (faults.inText cs) (· <:+ cs) (skipFiller fuel cs) := by
  induction fuel generalizing cs with
  | zero => exact List.suffix_refl _
  | succ fuel ih =>
    unfold skipFiller
    have hblanks : (cs.dropWhile fun c => isTomlBlank c || c == '\n') <:+ cs :=
      List.dropWhile_suffix _
    have hcomment := (ensures_skipComment (cs.dropWhile fun c => isTomlBlank c || c == '\n')).mono
      (fun _ => faults.mono hblanks) fun rest hrest => hrest.trans hblanks
    refine hcomment.bind fun rest hrest => ?_
    split
    · exact List.suffix_refl _
    · exact (ih rest).mono (fun _ => faults.mono hrest) fun last hlast => hlast.trans hrest

theorem reads_bind_skipFiller {fuel : Nat}
    {f : List Char → Except DocumentFault (α × List Char)}
    (hf : ∀ rest, faults.Reads rest (f rest)) :
    faults.Reads cs (skipFiller fuel cs >>= f) :=
  (ensures_skipFiller fuel cs).bind fun rest hrest => (hf rest).mono hrest

theorem reads_keyPart (cs : List Char) : faults.Reads cs (keyPart cs) := by
  unfold keyPart
  split
  · exact reads_malformed
  · rename_i c rest
    split
    · exact .ok (List.dropWhile_suffix _)
    split
    · refine .mono (List.suffix_cons c rest) ((reads_lineString c rest).bind fun body after _ => ?_)
      exact .ok (List.suffix_refl after)
    · exact reads_malformed

theorem reads_key (fuel : Nat) (cs : List Char) : faults.Reads cs (key fuel cs) := by
  induction fuel generalizing cs with
  | zero => exact reads_malformed
  | succ fuel ih =>
    unfold key
    refine (reads_keyPart cs).bind fun part rest _ => ?_
    dsimp only
    split
    · rename_i after hafter
      refine .mono (suffix_skipBlanks_of_sign hafter) ?_
      exact (ih _).bind fun parts last _ => .ok (List.suffix_refl last)
    · exact .ok (suffix_skipBlanks rest)

/-! ## Tables -/

/-- What fails makes the text malformed. -/
def OnlyMalformed (r : Except DocumentFault α) : Prop := Ensures (· = .malformed) (fun _ => True) r

/-- A change of a table that is not possible makes the text malformed. -/
theorem ensures_change (throughLists : Bool) {f : Entries → Except DocumentFault Entries}
    (hf : ∀ entries, OnlyMalformed (f entries)) (path : List String)
    (entries : Entries) :
    OnlyMalformed (change throughLists f path entries) := by
  induction path generalizing entries with
  | nil => exact hf entries
  | cons k path ih =>
    unfold change
    dsimp only
    split
    · exact Ensures.bind (ih _) fun _ _ => trivial
    · split
      · exact Ensures.bind (ih _) fun _ _ => trivial
      · rfl
    · rfl

theorem ensures_addNew (k : String) (v : Value) (entries : Entries) :
    OnlyMalformed (addNew k v entries) := by
  unfold addNew
  split
  · rfl
  · trivial

theorem ensures_addTable (k : String) (entries : Entries) :
    OnlyMalformed (addTable k entries) := by
  unfold addTable
  split
  · trivial
  · trivial
  · rfl

/-- What is done to tables between two steps of reading leaves the text where it is. -/
theorem reads_bind_of_malformed {β : Type} {r : Except DocumentFault α}
    {f : α → Except DocumentFault (β × List Char)}
    (hr : OnlyMalformed r) (hf : ∀ a, faults.Reads cs (f a)) :
    faults.Reads cs (r >>= f) :=
  (Ensures.mono hr (fun _ he => Or.inl he) fun _ => id).bind fun a _ => hf a

/-! ## Values -/

section Fuel

variable {fuel : Nat}

/-- A value with one more step: a string of one of four kinds, a list, an inline table, a word, or
else a plain scalar. -/
theorem reads_value_succ (hitems : ∀ cs, faults.Reads cs (items fuel cs))
    (hentries : ∀ marks entries cs, faults.Reads cs (inlineEntries fuel marks entries cs))
    (cs : List Char) : faults.Reads cs (value (fuel + 1) cs) := by
  unfold value
  split
  · rename_i rest
    refine .mono (List.suffix_append ['"', '"', '"'] rest) ?_
    exact (reads_multilineString _ rest).bind fun body after _ => .ok (List.suffix_refl after)
  · rename_i rest
    refine .mono (List.suffix_append ['\'', '\'', '\''] rest) ?_
    exact (reads_multilineString _ rest).bind fun body after _ => .ok (List.suffix_refl after)
  · rename_i rest _
    refine .mono (List.suffix_cons _ rest) ?_
    exact (reads_lineString _ rest).bind fun body after _ => .ok (List.suffix_refl after)
  · rename_i rest _
    refine .mono (List.suffix_cons _ rest) ?_
    exact (reads_lineString _ rest).bind fun body after _ => .ok (List.suffix_refl after)
  · rename_i rest
    refine .mono (List.suffix_cons _ rest) (reads_bind_skipFiller fun rest => ?_)
    split
    · exact .ok (List.suffix_cons _ _)
    · exact (hitems _).bind fun items after _ => .ok (List.suffix_refl after)
  · rename_i rest
    refine .mono (List.suffix_cons _ rest) ?_
    split
    · exact .ok (suffix_of_sign ‹_›)
    · refine .mono (suffix_skipBlanks rest) ((hentries [] [] _).bind fun entries after _ => ?_)
      exact .ok (List.suffix_refl after)
  · split
    · exact .ok (suffix_afterWord ‹_›)
    · exact .ok (suffix_afterWord ‹_›)
    · exact reads_plainScalar _

theorem reads_items_succ (hvalue : ∀ cs, faults.Reads cs (value fuel cs))
    (hitems : ∀ cs, faults.Reads cs (items fuel cs)) (cs : List Char) :
    faults.Reads cs (items (fuel + 1) cs) := by
  unfold items
  refine (hvalue cs).bind fun v rest _ => reads_bind_skipFiller fun rest => ?_
  split
  · exact .ok (List.suffix_cons _ _)
  · -- A list may end right behind a comma.
    rename_i after
    refine .mono (List.suffix_cons _ after) (reads_bind_skipFiller fun rest => ?_)
    split
    · exact .ok (List.suffix_cons _ _)
    · exact (hitems _).bind fun vs last _ => .ok (List.suffix_refl last)
  · exact reads_malformed

theorem reads_inlineEntries_succ (hvalue : ∀ cs, faults.Reads cs (value fuel cs))
    (hentries : ∀ marks entries cs, faults.Reads cs (inlineEntries fuel marks entries cs))
    (marks : List Closed) (entries : Entries) (cs : List Char) :
    faults.Reads cs (inlineEntries (fuel + 1) marks entries cs) := by
  unfold inlineEntries
  refine (reads_key cs.length cs).bind fun path rest _ => ?_
  dsimp only
  split
  · rename_i after _
    have hnext := (suffix_skipBlanks after).trans (List.suffix_cons '=' after)
    refine .mono hnext ((hvalue _).bind fun v rest _ => ?_)
    -- The table takes the entry in before the text goes on, so that it can fail in between.
    have hchange := ensures_change false (ensures_addNew (path.getLastD "") v) path.dropLast
      entries
    dsimp only
    split
    · exact reads_malformed
    · refine reads_bind_of_malformed hchange fun entries => ?_
      split
      · exact .ok (suffix_of_sign ‹_›)
      · exact .mono (suffix_skipBlanks_of_sign ‹_›) (hentries _ _ _)
      · exact reads_malformed
  · exact reads_malformed

end Fuel

/-- The readers of values, of the items of lists and of the entries of inline tables, with one fuel
for all of them. -/
theorem reads_values (fuel : Nat) :
    (∀ cs, faults.Reads cs (value fuel cs)) ∧ (∀ cs, faults.Reads cs (items fuel cs)) ∧
      ∀ marks entries cs, faults.Reads cs (inlineEntries fuel marks entries cs) := by
  induction fuel with
  | zero =>
    exact ⟨fun _ => reads_malformed, fun _ => reads_malformed, fun _ _ _ => reads_malformed⟩
  | succ fuel ih =>
    obtain ⟨hvalue, hitems, hentries⟩ := ih
    exact ⟨reads_value_succ hitems hentries, reads_items_succ hvalue hitems,
      reads_inlineEntries_succ hvalue hentries⟩

/-! ## Statements -/

theorem reads_entryStatement (st : State) (cs : List Char) :
    faults.Reads cs (entryStatement st cs) := by
  unfold entryStatement
  refine (reads_key cs.length cs).bind fun path rest _ => ?_
  dsimp only
  split
  · rename_i after _
    have hnext := (suffix_skipBlanks after).trans (List.suffix_cons '=' after)
    refine .mono hnext (((reads_values _).1 _).bind fun v rest _ => ?_)
    have hchange := ensures_change true (ensures_addNew (path.getLastD "") v)
      (st.header ++ path.dropLast) st.root
    dsimp only
    split
    · exact Or.inl rfl
    split
    · exact Or.inl rfl
    · exact reads_bind_of_malformed hchange fun root => .ok (List.suffix_refl rest)
  · exact reads_malformed

theorem reads_tableHeader (st : State) (cs : List Char) :
    faults.Reads cs (tableHeader st cs) := by
  unfold tableHeader
  refine .mono (suffix_skipBlanks cs) ((reads_key cs.length _).bind fun path rest _ => ?_)
  dsimp only
  split
  · exact Or.inl rfl
  · have hopen (entries : Entries) : OnlyMalformed (.ok entries) := trivial
    refine reads_bind_of_malformed (ensures_change true hopen path st.root) fun root => ?_
    split
    · exact .ok (List.suffix_cons _ _)
    · exact reads_malformed

theorem reads_listHeader (st : State) (cs : List Char) :
    faults.Reads cs (listHeader st cs) := by
  unfold listHeader
  refine .mono (suffix_skipBlanks cs) ((reads_key cs.length _).bind fun path rest _ => ?_)
  have hchange := ensures_change true (ensures_addTable (path.getLastD "")) path.dropLast st.root
  dsimp only
  split
  · exact Or.inl rfl
  · refine reads_bind_of_malformed hchange fun root => ?_
    split
    · rename_i after _
      exact .ok (List.suffix_append [']', ']'] after)
    · exact reads_malformed

theorem reads_statement (st : State) (cs : List Char) : faults.Reads cs (statement st cs) := by
  unfold statement
  split
  · exact .ok (List.suffix_refl _)
  · rename_i c rest
    split
    · exact .ok (List.suffix_refl _)
    split
    · exact reads_entryStatement st _
    split
    · split
      · rename_i after
        refine .mono ?_ (reads_listHeader (settle st) after)
        exact (List.suffix_cons '[' after).trans (List.suffix_cons c _)
      · exact .mono (List.suffix_cons c rest) (reads_tableHeader (settle st) rest)
    · exact reads_malformed

/-- The statements of a text fail by a fault of the text. -/
theorem ensures_statements (fuel : Nat) (st : State) (cs : List Char) :
    Ensures (faults.inText cs) (fun _ => True) (statements fuel st cs) := by
  induction fuel generalizing st cs with
  | zero => trivial
  | succ fuel ih =>
    unfold statements
    have hblanks := suffix_skipBlanks cs
    -- A statement, a comment, and then a line end before the next statement.
    refine Ensures.bind ((reads_statement st _).mono hblanks) fun p hp => ?_
    have hcomment := (ensures_skipComment (skipBlanks p.2)).mono
      (fun _ => faults.mono ((suffix_skipBlanks p.2).trans hp))
      fun rest hrest => hrest.trans ((suffix_skipBlanks p.2).trans hp)
    refine hcomment.bind fun rest hrest => ?_
    split
    · trivial
    · rename_i after
      exact (ih _ after).mono (fun _ => faults.mono (suffix_of_cons_suffix hrest)) fun _ => id
    · exact Or.inl rfl

theorem linesUnified_unifyLineEnds (cs : List Char) : LinesUnified cs (unifyLineEnds cs) := by
  fun_induction unifyLineEnds cs with
  | case1 rest ih => exact .lineEnd ['\r', '\n'] ih
  | case2 c rest hc ih => exact .keep c ih
  | case3 => exact .nil

/-- A TOML text is malformed, or has a long run of digits and a number there is refused. -/
theorem fault_of_decode {e : DocumentFault} (h : decode cs = .error e) :
    e = .malformed ∨ e = .refused .badValue ∧ HasLongNumber cs := by
  unfold decode at h
  rcases bind_eq_error_iff.1 h with hfault | ⟨st, -, hst⟩
  · refine ((ensures_statements _ {} (unifyLineEnds cs)).of_eq_error hfault).imp id fun h => ?_
    exact ⟨h.1, (linesUnified_unifyLineEnds cs).hasLongNumber h.2⟩
  · cases hst

end RecordSchema.Toml
