import RecordSchema.Proofs.Json.Sorting
import RecordSchema.Proofs.Json.Texts
import RecordSchema.Proofs.Value.Data

/-!
# Writing data and reading them back

Data have a text in every layout whose indentation consists of spaces, and the text denotes the same
data, with lists for tuples (`returns_of_isData`). In the canonical layout data that are the same
have one text (`canonical_congr`). Together the canonical text is a complete invariant: two data
have the same text exactly if they are the same (`canonical_eq_iff`).
-/

set_option autoImplicit false

namespace RecordSchema.Json

open RecordSchema.Text Value

/-! ## Layouts -/

/-- A layout puts nothing but line feeds and spaces between elements. -/
def Layout.IsSpaced : Layout → Prop
  | .canonical => True
  | .indented unit => ∀ c ∈ unit.toList, c = ' '

namespace Layout

variable {layout : Layout}

/-- What a layout puts before an element at a depth of nesting. -/
def gap : Layout → Nat → List Char
  | .canonical, _ => []
  | .indented unit, depth => '\n' :: ("".intercalate (List.replicate depth unit)).toList

theorem gap_gap (h : layout.IsSpaced) (depth : Nat) : Gap (layout.gap depth) := by
  cases layout with
  | canonical => exact fun _ hc => absurd hc List.not_mem_nil
  | indented unit =>
    have hunits : ∀ n, ∀ c ∈ ("".intercalate (List.replicate n unit)).toList, c = ' ' := by
      intro n
      -- One unit more at a time; nothing stands between two of them.
      induction n with
      | zero => simp
      | succ n ih =>
        intro c hc
        cases n with
        | zero => exact h c (by simpa using hc)
        | succ n =>
          rw [List.replicate_succ, List.replicate_succ, String.intercalate_cons_cons,
            ← List.replicate_succ, String.toList_append, String.toList_append, List.mem_append,
            List.mem_append] at hc
          rcases hc with (hc | hc) | hc
          · exact h c hc
          · cases hc
          · exact ih c hc
    intro c hc
    rcases List.mem_cons.1 hc with rfl | hc
    · exact Or.inr rfl
    · exact Or.inl (hunits depth c hc)

theorem toList_keySeparator (layout : Layout) :
    ∃ blanks, (keySeparator layout).toList = ':' :: blanks ∧ Gap blanks := by
  cases layout with
  | canonical => exact ⟨[], rfl, fun _ hc => absurd hc List.not_mem_nil⟩
  | indented unit => exact ⟨[' '], by simp [keySeparator], by simp [Gap]⟩

/-- Elements between brackets as characters. -/
theorem toList_enclosed (layout : Layout) (depth : Nat) (opening closing : String)
    {items : List String} (h : items ≠ []) :
    (enclosed layout depth opening closing items).toList =
      opening.toList ++ (layout.gap (depth + 1) ++
        (joined (layout.gap (depth + 1)) (items.map String.toList) ++
          (layout.gap depth ++ closing.toList))) := by
  have hne : items.isEmpty = false := List.isEmpty_eq_false_iff.2 h
  unfold enclosed
  rw [hne]
  cases layout with
  | canonical => simp [gap, joined, String.toList_intercalate]
  | indented unit => simp [gap, joined, String.toList_intercalate]

theorem toList_enclosed_nil (layout : Layout) (depth : Nat) (opening closing : String) :
    (enclosed layout depth opening closing []).toList = opening.toList ++ closing.toList := by
  simp [enclosed]

end Layout

/-! ## Texts of data -/

/-- A value has a text at a depth, and the text denotes the same data. -/
def Returns (layout : Layout) (depth : Nat) (v : Value) : Prop :=
  ∃ text w, encodeAt layout depth v = .ok text ∧ Denotes text.toList w ∧ Same v w ∧
    IsData false w

section Returns

variable {layout : Layout} {depth : Nat}

/-- Elements that have texts have them one by one. -/
theorem exists_encodeAll {items : List Value} (h : ∀ v ∈ items, Returns layout depth v) :
    ∃ texts values, encodeAll layout depth items = .ok texts ∧
      List.Forall₂ Denotes (texts.map String.toList) values ∧ List.Forall₂ Same items values ∧
      ∀ w ∈ values, IsData false w := by
  induction items with
  | nil => exact ⟨[], [], rfl, .nil, .nil, fun _ hw => absurd hw List.not_mem_nil⟩
  | cons v items ih =>
    obtain ⟨text, w, htext, hw, hsame, hdata⟩ := h v (List.mem_cons_self ..)
    obtain ⟨texts, values, htexts, hvalues, hall, hdatas⟩ :=
      ih fun v' hv' => h v' (List.mem_cons_of_mem _ hv')
    refine ⟨text :: texts, w :: values, ?_, .cons hw hvalues, .cons hsame hall, ?_⟩
    · rw [encodeAll, htext, htexts]
      rfl
    · intro w' hw'
      rcases List.mem_cons.1 hw' with rfl | hw'
      · exact hdata
      · exact hdatas w' hw'

theorem encodeAll_eq_mapM (layout : Layout) (depth : Nat) (items : List Value) :
    encodeAll layout depth items = items.mapM (encodeAt layout depth) := by
  induction items with
  | nil => rfl
  | cons v items ih => rw [encodeAll, List.mapM_cons, ih]

theorem encodeEntries_eq_map (entries : List (Value × Value)) :
    encodeEntries layout depth entries =
      entries.map fun e => (e.1, encodeAt layout depth e.2) := by
  induction entries with
  | nil => rfl
  | cons e entries ih =>
    rw [encodeEntries, ih]
    rfl

theorem keys_encodeEntries (layout : Layout) (depth : Nat) (entries : List (Value × Value)) :
    (encodeEntries layout depth entries).map Prod.fst = entries.map Prod.fst := by
  rw [encodeEntries_eq_map, List.map_map]
  rfl

theorem underTexts_encodeEntries (layout : Layout) (depth : Nat) {entries : List (Value × Value)}
    (h : ∀ e ∈ entries, ∃ s, e.1 = .text s) : UnderTexts (encodeEntries layout depth entries) := by
  intro p hp
  rw [encodeEntries_eq_map, List.mem_map] at hp
  obtain ⟨e, he, rfl⟩ := hp
  exact h e he

/-- Every layout lists the entries of a mapping from texts in some order. -/
theorem exists_arranged (layout : Layout) {α : Type} {entries : List (Value × α)}
    (h : UnderTexts entries) :
    ∃ listed, arranged layout entries = .ok listed ∧ listed.Perm entries := by
  cases layout with
  | canonical =>
    obtain ⟨sorted, hsorted, hperm, -⟩ := exists_sortedByKey h
    exact ⟨sorted, hsorted, hperm⟩
  | indented _ => exact ⟨entries, rfl, .refl _⟩

/-- An entry as it is written, and the entry that is read back for it. -/
structure Written (layout : Layout) (depth : Nat) (entries : List (Value × Value))
    (written : Value × Except Refusal String) (entry : Value × Value) : Prop where
  key_eq : written.1 = entry.1
  text : ∃ s, entry.1 = .text s
  denotes : ∃ text, written.2 = .ok text ∧ Denotes text.toList entry.2
  origin : ∃ e ∈ entries, e.1 = entry.1 ∧ Same e.2 entry.2
  data : IsData false entry.2

/-- Members that are written have texts that denote them. -/
theorem exists_members {entries read : List (Value × Value)}
    {written : List (Value × Except Refusal String)}
    (h : List.Forall₂ (Written layout depth entries) written read)
    {blanks : List Char} (hcolon : (keySeparator layout).toList = ':' :: blanks) :
    ∃ texts, written.mapM (member layout) = .ok texts ∧
      List.Forall₂ (DenotesMember blanks) (texts.map String.toList) read := by
  induction h with
  | nil => exact ⟨[], rfl, .nil⟩
  | @cons p entry _ _ hp _ ih =>
    obtain ⟨texts, htexts, hall⟩ := ih
    obtain ⟨s, hs⟩ := hp.text
    obtain ⟨text, htext, hdenotes⟩ := hp.denotes
    have hmember : member layout p = .ok (string s ++ keySeparator layout ++ text) := by
      unfold member
      rw [hp.key_eq, hs, htext]
      rfl
    refine ⟨(string s ++ keySeparator layout ++ text) :: texts, ?_, .cons ?_ hall⟩
    · rw [List.mapM_cons, hmember, htexts]
      rfl
    · refine ⟨s, text.toList, hs, ?_, hdenotes⟩
      rw [String.toList_append, String.toList_append, hcolon, List.append_assoc]
      rfl

/-- The text of a mapping whose values have texts denotes a mapping that lists the entries as the
layout arranges them. -/
theorem exists_read_mapping (hlayout : layout.IsSpaced) {entries : List (Value × Value)}
    (htexts : ∀ e ∈ entries, ∃ s, e.1 = .text s) (hnodup : (entries.map Prod.fst).Nodup)
    (h : ∀ e ∈ entries, Returns layout (depth + 1) e.2) :
    ∃ listed read text, arranged layout (encodeEntries layout (depth + 1) entries) = .ok listed ∧
      List.Forall₂ (Written layout (depth + 1) entries) listed read ∧
      (read.map Prod.fst).Perm (entries.map Prod.fst) ∧
      encodeAt layout depth (.mapping entries) = .ok text ∧
      Denotes text.toList (.mapping read) := by
  obtain ⟨listed, hlisted, hperm⟩ := exists_arranged layout
    (underTexts_encodeEntries layout (depth + 1) htexts)
  -- Each entry listed comes from an entry of the mapping.
  have hwritten : ∀ p ∈ listed, ∃ entry, Written layout (depth + 1) entries p entry := by
    intro p hp
    have hp' := hperm.mem_iff.1 hp
    rw [encodeEntries_eq_map, List.mem_map] at hp'
    obtain ⟨e, he, rfl⟩ := hp'
    obtain ⟨text, w, htext, hw, hsame, hdata⟩ := h e he
    exact ⟨(e.1, w), rfl, htexts e he, ⟨text, htext, hw⟩, ⟨e, he, rfl, hsame⟩, hdata⟩
  obtain ⟨read, hread⟩ := exists_forall₂ hwritten
  obtain ⟨blanks, hcolon, hblanks⟩ := layout.toList_keySeparator
  obtain ⟨texts, htexts', hmembers⟩ := exists_members hread hcolon
  have hkeys : (read.map Prod.fst).Perm (entries.map Prod.fst) := by
    have hfst : read.map Prod.fst = listed.map Prod.fst :=
      map_eq_map_of_forall₂ hread fun _ _ hp => hp.key_eq.symm
    rw [hfst, ← keys_encodeEntries layout (depth + 1)]
    exact hperm.map Prod.fst
  refine ⟨listed, read, enclosed layout depth "\x7b" "\x7d" texts, hlisted, hread, hkeys, ?_, ?_⟩
  · rw [encodeAt, hlisted, ok_bind, htexts', ok_bind]
    rfl
  · by_cases hne : texts = []
    · subst hne
      cases hmembers
      rw [Layout.toList_enclosed_nil]
      exact denotes_empty
    · rw [Layout.toList_enclosed layout depth _ _ hne]
      exact denotes_mapping (Layout.gap_gap hlayout _) (Layout.gap_gap hlayout _) hblanks hmembers
        (by simpa using hne) (hkeys.nodup_iff.2 hnodup)

/-- A mapping whose values have texts has one itself. -/
theorem returns_mapping (hlayout : layout.IsSpaced) {entries : List (Value × Value)}
    (htexts : ∀ e ∈ entries, ∃ s, e.1 = .text s) (hnodup : (entries.map Prod.fst).Nodup)
    (h : ∀ e ∈ entries, Returns layout (depth + 1) e.2) :
    Returns layout depth (.mapping entries) := by
  obtain ⟨listed, read, text, -, hread, hkeys, htext, hdenotes⟩ :=
    exists_read_mapping hlayout htexts hnodup h
  have hsame : Same (.mapping entries) (.mapping read) := by
    refine .mapping hkeys.symm fun x hx y hy hxy => ?_
    obtain ⟨p, -, hp⟩ := exists_left_of_mem hread hy
    obtain ⟨e, he, hey, hsame⟩ := hp.origin
    rw [List.inj_on_of_nodup_map hnodup hx he (hxy.trans hey.symm)]
    exact hsame
  have hdata : IsData false (.mapping read) := by
    refine .mapping (fun y hy => ?_) (hkeys.nodup_iff.2 hnodup) fun y hy => ?_
    · obtain ⟨p, -, hp⟩ := exists_left_of_mem hread hy
      exact hp.text
    · obtain ⟨p, -, hp⟩ := exists_left_of_mem hread hy
      exact hp.data
  exact ⟨text, .mapping read, htext, hdenotes, hsame, hdata⟩

/-- The text of a list or tuple whose items have texts denotes the list of what these denote. -/
theorem exists_read_sequence (hlayout : layout.IsSpaced) {v : Value} {items : List Value}
    (hv : v.sequence? = some items) (h : ∀ v ∈ items, Returns layout (depth + 1) v) :
    ∃ texts values text, encodeAll layout (depth + 1) items = .ok texts ∧
      List.Forall₂ Denotes (texts.map String.toList) values ∧ List.Forall₂ Same items values ∧
      (∀ w ∈ values, IsData false w) ∧ encodeAt layout depth v = .ok text ∧
      Denotes text.toList (.ofList values) := by
  obtain ⟨texts, values, htexts, hvalues, hsame, hdata⟩ := exists_encodeAll h
  have hencode : encodeAt layout depth v = .ok (enclosed layout depth "[" "]" texts) := by
    cases v with
    | list _ _ | tuple _ =>
      obtain rfl := Option.some.inj hv
      rw [encodeAt, htexts]
      rfl
    | _ => cases hv
  refine ⟨texts, values, _, htexts, hvalues, hsame, hdata, hencode, ?_⟩
  by_cases hne : texts = []
  · subst hne
    cases hvalues
    rw [Layout.toList_enclosed_nil]
    exact denotes_nil
  · rw [Layout.toList_enclosed layout depth _ _ hne]
    exact denotes_list (Layout.gap_gap hlayout _) (Layout.gap_gap hlayout _) hvalues
      (by simpa using hne)

/-- A list or tuple whose items have texts has one itself. -/
theorem returns_sequence (hlayout : layout.IsSpaced) {v : Value} {items : List Value}
    (hv : v.sequence? = some items) (h : ∀ v ∈ items, Returns layout (depth + 1) v) :
    Returns layout depth v := by
  obtain ⟨_, values, text, -, -, hsame, hdata, htext, hdenotes⟩ := exists_read_sequence hlayout hv h
  exact ⟨text, .ofList values, htext, hdenotes, .of_forall₂ hv rfl hsame, .list 0 hdata⟩

/-- Data have a text in every layout with spaces, and it denotes the same data. -/
theorem returns_of_isData (hlayout : layout.IsSpaced) {tuples : Bool} {v : Value}
    (hv : IsData tuples v) (depth : Nat) : Returns layout depth v := by
  induction hv generalizing depth with
  | none => exact ⟨"null", .none, rfl, denotes_null, .none, .none⟩
  | bool b =>
    exact ⟨if b then "true" else "false", .bool b, rfl, denotes_bool b, .bool b, .bool b⟩
  | @int n writable =>
    refine ⟨intText n, .int n, ?_, denotes_int writable, .int n, .int writable⟩
    rw [encodeAt, integer, if_pos writable]
  | text s => exact ⟨string s, .text s, rfl, denotes_string s, .text s, .text s⟩
  | list label _ ih | tuple _ _ ih =>
    exact returns_sequence hlayout rfl fun v hv => ih v hv (depth + 1)
  | mapping texts distinct _ ih =>
    exact returns_mapping hlayout texts distinct fun e he => ih e he (depth + 1)

end Returns

/-! ## The canonical text -/

/-- Pairs with the same distinct first parts, in any order, are the same pairs if what stands under
each first part is. -/
theorem perm_of_keys {α β : Type} {l l' : List (α × β)}
    (hkeys : (l.map Prod.fst).Perm (l'.map Prod.fst)) (hnodup : (l.map Prod.fst).Nodup)
    (h : ∀ x ∈ l, ∀ y ∈ l', x.1 = y.1 → x.2 = y.2) : l.Perm l' := by
  have hl : l.Nodup := List.Nodup.of_map _ hnodup
  have hl' : l'.Nodup := List.Nodup.of_map _ (hkeys.nodup_iff.1 hnodup)
  refine (List.perm_ext_iff_of_nodup hl hl').2 fun p => ⟨fun hp => ?_, fun hp => ?_⟩
  · obtain ⟨y, hy, hyp⟩ := List.mem_map.1 (hkeys.mem_iff.1 (List.mem_map_of_mem hp))
    rwa [Prod.ext hyp.symm (h p hp y hy hyp.symm)]
  · obtain ⟨x, hx, hxp⟩ := List.mem_map.1 (hkeys.mem_iff.2 (List.mem_map_of_mem hp))
    rwa [← Prod.ext hxp (h x hx p hp hxp)]

theorem encodeAll_congr {layout : Layout} {depth : Nat} {xs ys : List Value}
    (h : List.Forall₂ (fun x y => encodeAt layout depth x = encodeAt layout depth y) xs ys) :
    encodeAll layout depth xs = encodeAll layout depth ys := by
  induction h with
  | nil => rfl
  | cons hxy _ ih => rw [encodeAll, encodeAll, hxy, ih]

theorem encodeAt_of_sequence {layout : Layout} {depth : Nat} {v : Value} {items : List Value}
    (hv : v.sequence? = some items) :
    encodeAt layout depth v =
      (encodeAll layout (depth + 1) items).map (enclosed layout depth "[" "]") := by
  cases v with
  | list _ _ | tuple _ =>
    obtain rfl := Option.some.inj hv
    rfl
  | _ => cases hv

/-- In the canonical text of a mapping from texts the order of the entries does not show. -/
theorem canonical_mapping_congr {depth : Nat} {xs ys : List (Value × Value)}
    (htexts : ∀ x ∈ xs, ∃ s, x.1 = .text s) (hnodup : (xs.map Prod.fst).Nodup)
    (hkeys : (xs.map Prod.fst).Perm (ys.map Prod.fst))
    (h : ∀ x ∈ xs, ∀ y ∈ ys, x.1 = y.1 →
      encodeAt .canonical (depth + 1) x.2 = encodeAt .canonical (depth + 1) y.2) :
    encodeAt .canonical depth (.mapping xs) = encodeAt .canonical depth (.mapping ys) := by
  have hperm : (encodeEntries .canonical (depth + 1) xs).Perm
      (encodeEntries .canonical (depth + 1) ys) := by
    refine perm_of_keys (by rwa [keys_encodeEntries, keys_encodeEntries])
      (by rwa [keys_encodeEntries]) fun p hp q hq hpq => ?_
    rw [encodeEntries_eq_map, List.mem_map] at hp hq
    obtain ⟨x, hx, rfl⟩ := hp
    obtain ⟨y, hy, rfl⟩ := hq
    exact h x hx y hy hpq
  have hsorted := sortedByKey_congr (underTexts_encodeEntries .canonical (depth + 1) htexts)
    (by rwa [keys_encodeEntries]) hperm
  rw [encodeAt, encodeAt]
  simp only [arranged, hsorted]

/-- Data that are the same have one canonical text. -/
theorem canonical_congr {v w : Value} (h : Same v w) (hv : IsData true v) (hw : IsData true w)
    (depth : Nat) : encodeAt .canonical depth v = encodeAt .canonical depth w := by
  induction h generalizing depth with
  | none | bool _ | int _ | text _ => rfl
  | @sequence v w xs ys hxs hys hlength _ ih =>
    have hitems : List.Forall₂ (fun x y => encodeAt .canonical (depth + 1) x =
        encodeAt .canonical (depth + 1) y) xs ys := by
      refine forall₂_of_zip hlength fun p hp => ?_
      obtain ⟨hx, hy⟩ := List.of_mem_zip hp
      exact ih p hp (hv.of_items hxs _ hx) (hw.of_items hys _ hy) (depth + 1)
    rw [encodeAt_of_sequence hxs, encodeAt_of_sequence hys, encodeAll_congr hitems]
  | @mapping xs ys keys _ ih =>
    cases hv with
    | mapping texts distinct each =>
      cases hw with
      | mapping _ _ each' =>
        refine canonical_mapping_congr texts distinct keys fun x hx y hy hxy => ?_
        exact ih x hx y hy hxy (each x hx) (each' y hy) (depth + 1)

theorem isSpaced_canonical : Layout.canonical.IsSpaced := trivial

/-- Data have a canonical text. -/
theorem exists_canonical {v : Value} (hv : IsData true v) : ∃ text, canonical v = .ok text := by
  obtain ⟨text, -, htext, -⟩ := returns_of_isData isSpaced_canonical hv 0
  exact ⟨text, htext⟩

/-- Two data have one canonical text exactly if they are the same. -/
theorem canonical_eq_iff {v w : Value} (hv : IsData true v) (hw : IsData true w) :
    canonical v = canonical w ↔ Same v w := by
  constructor
  · intro heq
    obtain ⟨text, v', htext, hv', hsame, -⟩ := returns_of_isData isSpaced_canonical hv 0
    obtain ⟨text', w', htext', hw', hsame', -⟩ :=
      returns_of_isData isSpaced_canonical hw 0
    have htexts : text = text' := Except.ok.inj (htext.symm.trans (heq.trans htext'))
    subst htexts
    -- The text they have in common denotes one value, which is the same as both.
    have hread := hv'.unique hw'
    subst hread
    exact hsame.trans hsame'.symm
  · intro h
    exact canonical_congr h hv hw 0

end RecordSchema.Json
