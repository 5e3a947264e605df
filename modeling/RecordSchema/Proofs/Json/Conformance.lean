import RecordSchema.Proofs.Json.Numbers
import RecordSchema.Proofs.Json.RoundTrip
import Mathlib.Data.List.Perm.Basic

/-!
# Which texts of values are JSON

The text of a value in a layout with spaces is a JSON value exactly if the floating-point numbers in
it are finite (`derives_encode_iff`). Infinities and what is not a number are written as words that
the grammar does not have, and the capital letters of these words stand outside of strings, however
deep the value is nested. Keys do no harm: whatever they are, they are written as strings.
-/

set_option autoImplicit false

namespace RecordSchema

/-! ## Floating-point numbers in a value -/

namespace Value

mutual

/-- The floating-point numbers that stand in a value made of lists, tuples and mappings. Keys are
left aside. -/
def reals : Value → List Binary64
  | .real x => [x]
  | .list _ items => realsIn items
  | .tuple items => realsIn items
  | .mapping entries => realsUnder entries
  | _ => []

def realsIn : List Value → List Binary64
  | [] => []
  | v :: rest => reals v ++ realsIn rest

def realsUnder : List (Value × Value) → List Binary64
  | [] => []
  | (_, v) :: rest => reals v ++ realsUnder rest

end

theorem realsIn_eq_flatMap (items : List Value) : realsIn items = items.flatMap reals := by
  induction items with
  | nil => rfl
  | cons v items ih => rw [realsIn, ih, List.flatMap_cons]

theorem realsUnder_eq_flatMap (entries : List (Value × Value)) :
    realsUnder entries = entries.flatMap fun e => e.2.reals := by
  induction entries with
  | nil => rfl
  | cons e entries ih => rw [realsUnder, ih, List.flatMap_cons]

theorem forall_mem_realsIn {items : List Value} {P : Binary64 → Prop} :
    (∀ x ∈ realsIn items, P x) ↔ ∀ v ∈ items, ∀ x ∈ v.reals, P x := by
  rw [realsIn_eq_flatMap, List.forall_mem_flatMap]

theorem forall_mem_realsUnder {entries : List (Value × Value)} {P : Binary64 → Prop} :
    (∀ x ∈ realsUnder entries, P x) ↔ ∀ e ∈ entries, ∀ x ∈ e.2.reals, P x := by
  rw [realsUnder_eq_flatMap, List.forall_mem_flatMap]

end Value

namespace Json

open RecordSchema.Text Value

/-! ## Strings -/

theorem isHexDigit_fixedDigits (n : Nat) :
    ∃ a b c d, fixedDigits 16 4 n = [a, b, c, d] ∧ ∀ x ∈ [a, b, c, d], IsHexDigit x := by
  have hdigit : ∀ d < 16, IsHexDigit (digitChar d) := by
    unfold IsHexDigit
    decide
  refine ⟨_, _, _, _, rfl, ?_⟩
  simp only [List.forall_mem_cons, List.not_mem_nil, false_implies, implies_true, and_true]
  exact ⟨hdigit _ (Nat.mod_lt _ (by decide)), hdigit _ (Nat.mod_lt _ (by decide)),
    hdigit _ (Nat.mod_lt _ (by decide)), hdigit _ (Nat.mod_lt _ (by decide))⟩

/-- Every character of a string is written as one. -/
theorem isStringChar_stringChar (c : Char) : IsStringChar (stringChar c) := by
  unfold stringChar
  split
  · next h =>
    refine .short ?_
    rcases (Bool.or_eq_true _ _).mp h with h | h
    · simp [eq_of_beq h]
    · simp [eq_of_beq h]
  -- Five escapes by a letter follow, and then the numbers of control characters.
  next hmark =>
  split
  · exact .short (by simp)
  split
  · exact .short (by simp)
  split
  · exact .short (by simp)
  split
  · exact .short (by simp)
  split
  · exact .short (by simp)
  split
  · obtain ⟨a, b, c', d, heq, hhex⟩ := isHexDigit_fixedDigits c.toNat
    rw [heq]
    exact .number hhex
  · next hcontrol =>
    simp only [Bool.or_eq_true, beq_iff_eq, not_or] at hmark
    exact .itself hmark.1 hmark.2 (Nat.not_lt.1 hcontrol)

theorem isString_string (s : String) : IsString (string s).toList := by
  have hchars : ∀ one ∈ s.toList.map stringChar, IsStringChar one := by
    intro one hone
    obtain ⟨c, -, rfl⟩ := List.mem_map.1 hone
    exact isStringChar_stringChar c
  have h := IsString.quoted hchars
  rw [← List.flatMap_def] at h
  rwa [string, String.toList_ofList]

theorem Gap.isBlanks {cs : List Char} (h : Gap cs) : IsBlanks cs := by
  intro c hc
  rcases h c hc with rfl | rfl
  · exact .inl rfl
  · exact .inr (.inr (.inl rfl))

/-! ## Texts that conform under a condition -/

/-- A text leaves no string open. If a condition holds, it is derived from a symbol of the grammar;
otherwise a letter that the grammar does not have there stands outside of its strings. Both passes
on from the parts of a text to the whole. -/
structure Conforms (symbol : Symbol) (fine : Prop) (cs : List Char) : Prop where
  balanced : Balanced cs
  derives : fine → Derives symbol cs
  stray : ¬ fine → ∃ c ∈ bare .outside cs, ¬ IsOrdinary c

section Conforms

variable {symbol element : Symbol} {fine : Prop} {before cs after gap : List Char}

theorem conforms_of_derives (hfine : fine) (h : Derives symbol cs) : Conforms symbol fine cs :=
  ⟨h.tidy.balanced, fun _ => h, fun hnot => absurd hfine hnot⟩

/-- Such a text is derived from the symbol exactly if the condition holds. -/
theorem Conforms.derives_iff (h : Conforms symbol fine cs) : Derives symbol cs ↔ fine := by
  refine ⟨fun hderives => ?_, h.derives⟩
  by_contra hnot
  obtain ⟨c, hc, hstray⟩ := h.stray hnot
  exact hstray (hderives.tidy.ordinary c hc)

/-- What is written around a text does not matter if it is tidy itself. -/
theorem Conforms.between (h : Conforms element fine cs) (hbefore : Tidy before)
    (hafter : Tidy after)
    (hderives : Derives element cs → Derives symbol (before ++ (cs ++ after))) :
    Conforms symbol fine (before ++ (cs ++ after)) where
  balanced := hbefore.balanced.append (h.balanced.append hafter.balanced)
  derives := fun hfine => hderives (h.derives hfine)
  stray := by
    intro hnot
    obtain ⟨c, hc, hstray⟩ := h.stray hnot
    refine ⟨c, ?_, hstray⟩
    rw [mem_bare_append hbefore.balanced, mem_bare_append h.balanced]
    exact .inr (.inl hc)

/-- An element in front of others. -/
theorem Conforms.next {rest : List Char} {fine' : Prop} (h : Conforms element fine cs)
    (h' : Conforms (.several element) fine' rest) (hgap : Gap gap) :
    Conforms (.several element) (fine ∧ fine') (gap ++ (cs ++ ',' :: rest)) := by
  have hblanks : Tidy gap := hgap.isBlanks.tidy
  have hcomma : Tidy [','] := tidy_of_forall (by simp [IsOrdinary])
  have hmem : ∀ c, c ∈ bare .outside cs ∨ c ∈ bare .outside rest →
      c ∈ bare .outside (gap ++ (cs ++ ([','] ++ rest))) := by
    intro c hc
    rw [mem_bare_append hblanks.balanced, mem_bare_append h.balanced,
      mem_bare_append hcomma.balanced]
    rcases hc with hc | hc
    · exact .inr (.inl hc)
    · exact .inr (.inr (.inr hc))
  refine ⟨?_, fun hfine => ?_, fun hnot => ?_⟩
  · exact hblanks.balanced.append (h.balanced.append (hcomma.balanced.append h'.balanced))
  · have hnone : IsBlanks [] := fun _ hc => absurd hc List.not_mem_nil
    exact .next hgap.isBlanks hnone (h.derives hfine.1) (h'.derives hfine.2)
  · -- The element is at fault, or else one behind it.
    by_cases hfine : fine
    · obtain ⟨c, hc, hstray⟩ := h'.stray fun hfine' => hnot ⟨hfine, hfine'⟩
      exact ⟨c, hmem c (.inr hc), hstray⟩
    · obtain ⟨c, hc, hstray⟩ := h.stray hfine
      exact ⟨c, hmem c (.inl hc), hstray⟩

/-- Elements one after another conform if each of them does. -/
theorem conforms_joined {α : Type} {fine : α → Prop} {items : List α} {texts : List (List Char)}
    (h : List.Forall₂ (fun a cs => Conforms element (fine a) cs) items texts) (hne : texts ≠ [])
    (hgap : Gap gap) (hafter : Gap after) :
    Conforms (.several element) (∀ a ∈ items, fine a) (gap ++ (joined gap texts ++ after)) := by
  induction h with
  | nil => exact absurd rfl hne
  | @cons a text items texts hone hrest ih =>
    simp only [List.forall_mem_cons]
    cases hrest with
    | nil =>
      -- The blanks in front of the closing bracket belong to the last element.
      simp only [List.not_mem_nil, false_implies, implies_true, and_true, joined,
        List.intercalate_singleton]
      exact hone.between hgap.isBlanks.tidy hafter.isBlanks.tidy
        (.last hgap.isBlanks hafter.isBlanks)
    | @cons b text' items texts hone' hrest =>
      have hnext := hone.next (ih (List.cons_ne_nil _ _)) hgap
      rw [joined_cons_cons]
      simpa only [List.append_assoc, List.cons_append, List.forall_mem_cons] using hnext

/-- Brackets enclose values, and braces enclose members. -/
inductive Encloses : String → String → Symbol → Prop where
  | brackets : Encloses "[" "]" .value
  | braces : Encloses "\x7b" "\x7d" .member

/-- Elements between brackets or braces conform if each of them does. -/
theorem conforms_enclosed {layout : Layout} (hlayout : layout.IsSpaced) (depth : Nat)
    {opening closing : String} (hencloses : Encloses opening closing element) {α : Type}
    {fine : α → Prop} {items : List α} {texts : List String}
    (h : List.Forall₂ (fun a text => Conforms element (fine a) text.toList) items texts) :
    Conforms .value (∀ a ∈ items, fine a)
      (enclosed layout depth opening closing texts).toList := by
  have hnone : IsBlanks [] := fun _ hc => absurd hc List.not_mem_nil
  have hempty : Derives .value (opening.toList ++ closing.toList) := by
    cases hencloses with
    | brackets => exact .emptyArray hnone
    | braces => exact .emptyObject hnone
  have hfilled : ∀ {cs : List Char}, Derives (.several element) cs →
      Derives .value (opening.toList ++ (cs ++ closing.toList)) := by
    intro cs hcs
    cases hencloses with
    | brackets => exact .array hcs
    | braces => exact .object hcs
  have hmarks : Tidy opening.toList ∧ Tidy closing.toList := by
    cases hencloses with
    | brackets | braces =>
      exact ⟨tidy_of_forall (by simp [IsOrdinary]), tidy_of_forall (by simp [IsOrdinary])⟩
  by_cases hne : texts = []
  · -- Nothing stands between the brackets, not even a line feed.
    subst hne
    cases h
    rw [Layout.toList_enclosed_nil]
    exact conforms_of_derives (fun _ ha => absurd ha List.not_mem_nil) hempty
  · have hjoined := conforms_joined (List.forall₂_map_right_iff.2 h) (by simpa using hne)
      (Layout.gap_gap hlayout (depth + 1)) (Layout.gap_gap hlayout depth)
    rw [Layout.toList_enclosed layout depth _ _ hne]
    simpa only [List.append_assoc] using hjoined.between hmarks.1 hmarks.2 hfilled

/-- A member conforms if what stands under its key does. -/
theorem conforms_member (layout : Layout) {k : Value} {written : Except Refusal String}
    {text : String} (htext : member layout (k, written) = .ok text)
    (h : ∀ {value : String}, written = .ok value → Conforms .value fine value.toList) :
    Conforms .member fine text.toList := by
  obtain ⟨name, -, htext⟩ := bind_eq_ok_iff.1 htext
  obtain ⟨value, hvalue, htext⟩ := bind_eq_ok_iff.1 htext
  obtain rfl := Except.ok.inj htext
  obtain ⟨blanks, hcolon, hblanks⟩ := layout.toList_keySeparator
  have hname := isString_string name
  have hfront : Tidy ((string name).toList ++ ':' :: blanks) :=
    hname.tidy.append (.cons (by decide) ⟨by decide, by decide⟩ hblanks.isBlanks.tidy)
  have hmember := (h hvalue).between hfront tidy_nil fun hderives => by
    have hnone : IsBlanks [] := fun _ hc => absurd hc List.not_mem_nil
    simpa using Derives.member hname hnone hblanks.isBlanks hderives
  simpa [hcolon] using hmember

end Conforms

/-! ## The text of a value -/

section Encode

variable {layout : Layout}

/-- Every layout lists the entries that there are. -/
theorem perm_of_arranged {α : Type} {entries listed : List (Value × α)}
    (h : arranged layout entries = .ok listed) : listed.Perm entries := by
  cases layout with
  | canonical => exact perm_of_sortedByKey h
  | indented _ =>
    obtain rfl := Except.ok.inj h
    exact .refl _

theorem conforms_real {x : Binary64} (hgrid : x.OnGrid) :
    Conforms .value x.IsFinite (real x).toList := by
  cases x with
  | finite negative m e =>
    exact conforms_of_derives trivial (.number (isNumber_real hgrid trivial))
  | infinite negative =>
    cases negative with
    | true => exact ⟨rfl, False.elim, fun _ => ⟨'I', by decide, fun h => h.2 rfl⟩⟩
    | false => exact ⟨rfl, False.elim, fun _ => ⟨'I', by decide, fun h => h.2 rfl⟩⟩
  | nan _ =>
    rw [show real (.nan _) = "NaN" from rfl]
    exact ⟨rfl, False.elim, fun _ => ⟨'N', by decide, fun h => h.1 rfl⟩⟩

/-- The texts of a value conform exactly if the numbers in it are finite. -/
def Writes (layout : Layout) (v : Value) : Prop :=
  ∀ depth text, (∀ x ∈ v.reals, x.OnGrid) → encodeAt layout depth v = .ok text →
    Conforms .value (∀ x ∈ v.reals, x.IsFinite) text.toList

/-- A value without floating-point numbers whose text is a JSON value. -/
theorem writes_of_derives {v : Value} (hreals : v.reals = [])
    (h : ∀ depth text, encodeAt layout depth v = .ok text → Derives .value text.toList) :
    Writes layout v := by
  intro depth text _ htext
  refine conforms_of_derives (fun x hx => ?_) (h depth text htext)
  rw [hreals] at hx
  exact absurd hx List.not_mem_nil

theorem writes_sequence (hlayout : layout.IsSpaced) {v : Value} {items : List Value}
    (hv : v.sequence? = some items) (hreals : v.reals = realsIn items)
    (h : ∀ w ∈ items, Writes layout w) : Writes layout v := by
  intro depth text hgrid htext
  rw [hreals, forall_mem_realsIn] at hgrid
  rw [encodeAt_of_sequence hv, map_eq_ok_iff, encodeAll_eq_mapM] at htext
  obtain ⟨texts, htexts, rfl⟩ := htext
  have hitems : List.Forall₂ (fun w text => Conforms .value (∀ x ∈ w.reals, x.IsFinite)
      text.toList) items texts := by
    have hall := (List.forall₂_and_left _ _).2 ⟨fun w hw => hw, mapM_eq_ok_iff.1 htexts⟩
    refine hall.imp ?_
    rintro w text ⟨hw, htext⟩
    exact h w hw (depth + 1) text (hgrid w hw) htext
  rw [hreals, forall_mem_realsIn]
  exact conforms_enclosed hlayout depth .brackets hitems

theorem writes_mapping (hlayout : layout.IsSpaced) {entries : List (Value × Value)}
    (h : ∀ e ∈ entries, Writes layout e.2) : Writes layout (.mapping entries) := by
  intro depth text hgrid htext
  rw [reals, forall_mem_realsUnder] at hgrid
  rw [encodeAt] at htext
  obtain ⟨listed, hlisted, htext⟩ := bind_eq_ok_iff.1 htext
  obtain ⟨texts, htexts, htext⟩ := bind_eq_ok_iff.1 htext
  obtain rfl := Except.ok.inj htext
  -- The members stand for the entries in another order.
  have hentries : List.Forall₂ (fun p e => p = (e.1, encodeAt layout (depth + 1) e.2))
      (encodeEntries layout (depth + 1) entries) entries := by
    rw [encodeEntries_eq_map, List.forall₂_map_left_iff]
    exact List.forall₂_same.2 fun _ _ => rfl
  obtain ⟨es, hes, hperm⟩ := List.perm_comp_forall₂ (perm_of_arranged hlisted) hentries
  have hmembers : List.Forall₂ (fun e text => Conforms .member (∀ x ∈ e.2.reals, x.IsFinite)
      text.toList) es texts := by
    have hall := (List.forall₂_and_left _ _).2 ⟨fun e he => hperm.mem_iff.1 he,
      forall₂_chain (fun e p text hp htext => hp ▸ htext) hes.flip (mapM_eq_ok_iff.1 htexts)⟩
    refine hall.imp ?_
    rintro e text ⟨he, htext⟩
    exact conforms_member layout htext fun hvalue => h e he (depth + 1) _ (hgrid e he) hvalue
  have hwhole := conforms_enclosed hlayout depth .braces hmembers
  -- Being finite does not depend on the order.
  simp only [hperm.mem_iff] at hwhole
  rwa [reals, forall_mem_realsUnder]

mutual

/-- Values, however deep they are nested. -/
theorem writes (hlayout : layout.IsSpaced) (v : Value) : Writes layout v := by
  cases v with
  | none =>
    refine writes_of_derives rfl fun depth text htext => ?_
    obtain rfl := Except.ok.inj htext
    exact .null
  | bool b =>
    refine writes_of_derives rfl fun depth text htext => ?_
    obtain rfl := Except.ok.inj htext
    cases b with
    | true => exact .true
    | false => exact .false
  | int n =>
    refine writes_of_derives rfl fun depth text htext => ?_
    rw [encodeAt, integer] at htext
    split at htext
    · obtain rfl := Except.ok.inj htext
      exact .number (isNumber_intText n)
    · cases htext
  | real x =>
    intro depth text hgrid htext
    obtain rfl := Except.ok.inj htext
    -- Numbers alone can be written outside of the grammar.
    simp only [reals, List.forall_mem_singleton] at hgrid ⊢
    exact conforms_real hgrid
  | text s =>
    refine writes_of_derives rfl fun depth text htext => ?_
    obtain rfl := Except.ok.inj htext
    exact .string (isString_string s)
  | list label items => exact writes_sequence hlayout rfl rfl (writes_of_mem hlayout items)
  | tuple items => exact writes_sequence hlayout rfl rfl (writes_of_mem hlayout items)
  | mapping entries => exact writes_mapping hlayout (writes_of_entry hlayout entries)
  | _ => exact fun depth text _ htext => by cases htext

theorem writes_of_mem (hlayout : layout.IsSpaced) :
    (items : List Value) → ∀ v ∈ items, Writes layout v
  | [], _, hw => absurd hw List.not_mem_nil
  | v :: items, w, hw => by
    rcases List.mem_cons.1 hw with heq | hw
    · rw [heq]
      exact writes hlayout v
    · exact writes_of_mem hlayout items w hw

theorem writes_of_entry (hlayout : layout.IsSpaced) :
    (entries : List (Value × Value)) → ∀ e ∈ entries, Writes layout e.2
  | [], _, he => absurd he List.not_mem_nil
  | (k, v) :: entries, e, he => by
    rcases List.mem_cons.1 he with heq | he
    · rw [heq]
      exact writes hlayout v
    · exact writes_of_entry hlayout entries e he

end

/-- The text of a value is a JSON value exactly if the floating-point numbers in the value are
finite. -/
theorem derives_encode_iff (hlayout : layout.IsSpaced) {v : Value}
    (hgrid : ∀ x ∈ v.reals, x.OnGrid) {text : String} (h : encode layout v = .ok text) :
    Derives .value text.toList ↔ ∀ x ∈ v.reals, x.IsFinite :=
  (writes hlayout v 0 text hgrid h).derives_iff

end Encode

/-! ## Texts that end with a line feed -/

/-- One JSON value and a line feed behind it. -/
def IsLine (text : String) : Prop := ∃ body, text = body ++ "\n" ∧ Derives .value body.toList

theorem isLine_append_iff {body : String} :
    IsLine (body ++ "\n") ↔ Derives .value body.toList := by
  constructor
  · rintro ⟨body', hbody, hderives⟩
    rwa [(String.append_left_inj _).1 hbody]
  · intro hderives
    exact ⟨body, rfl, hderives⟩

end Json

end RecordSchema
