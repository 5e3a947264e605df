import RecordSchema.Proofs.Json.Order

/-!
# A text inside a value

The canonical text of data is formed around each text that stands in it: what comes before and what
comes behind does not depend on the text there (`Context.isAround`). So data that differ in the text
of one place only have one canonical text exactly if that text is the same
(`Context.canonical_eq_iff`), whatever else the data hold; and if there is no canonical text for one
of them, there is none for the others (`Context.exists_canonical_iff`).
-/

set_option autoImplicit false

namespace RecordSchema.Json

open RecordSchema.Text Value

/-! ## Results around a text -/

/-- A result that depends on a text only by having it, as a JSON string, in one place; or the same
error for all texts. -/
def IsAround (r : String → Except Refusal String) : Prop :=
  (∃ e, ∀ s, r s = .error e) ∨ ∃ before after, ∀ s, r s = .ok (before ++ string s ++ after)

namespace IsAround

variable {r : String → Except Refusal String}

theorem string : IsAround fun s => .ok (string s) :=
  .inr ⟨"", "", fun s => by simp⟩

/-- What is put around a result is around the text in it. -/
theorem map (h : IsAround r) {wrap : String → String} (opening closing : String)
    (hwrap : ∀ text, wrap text = opening ++ text ++ closing) :
    IsAround fun s => (r s).map wrap := by
  rcases h with ⟨e, he⟩ | ⟨before, after, hr⟩
  · exact .inl ⟨e, fun s => congrArg (Except.map wrap) (he s)⟩
  · refine .inr ⟨opening ++ before, after ++ closing, fun s => ?_⟩
    refine (congrArg (Except.map wrap) (hr s)).trans (congrArg Except.ok ?_)
    rw [hwrap]
    simp only [String.append_assoc]

theorem exists_ok_iff (h : IsAround r) (s t : String) :
    (∃ text, r s = .ok text) ↔ ∃ text, r t = .ok text := by
  rcases h with ⟨e, he⟩ | ⟨before, after, hr⟩
  · rw [he, he]
  · exact iff_of_true ⟨_, hr s⟩ ⟨_, hr t⟩

/-- A JSON string tells its text. -/
theorem string_inj {s t : String} (h : Json.string s = Json.string t) : s = t :=
  Value.text.inj ((denotes_string s).unique (h ▸ denotes_string t))

theorem eq_iff (h : IsAround r) {s t text text' : String} (hs : r s = .ok text)
    (ht : r t = .ok text') : text = text' ↔ s = t := by
  rcases h with ⟨e, he⟩ | ⟨before, after, hr⟩
  · cases (he s).symm.trans hs
  · obtain rfl := Except.ok.inj ((hr s).symm.trans hs)
    obtain rfl := Except.ok.inj ((hr t).symm.trans ht)
    rw [String.append_left_inj, String.append_right_inj]
    exact ⟨string_inj, fun h => h ▸ rfl⟩

end IsAround

/-! ## Elements around an element -/

/-- Elements between commas stand around each of them. -/
theorem exists_intercalate (separator : String) (before after : List String) :
    ∃ opening closing, ∀ text,
      separator.intercalate (before ++ text :: after) = opening ++ text ++ closing := by
  induction before with
  | nil =>
    cases after with
    | nil => exact ⟨"", "", fun text => by simp⟩
    | cons next after =>
      refine ⟨"", separator ++ separator.intercalate (next :: after), fun text => ?_⟩
      rw [List.nil_append, String.intercalate_cons_cons]
      simp only [String.empty_append, String.append_assoc]
  | cons first before ih =>
    obtain ⟨opening, closing, hrest⟩ := ih
    refine ⟨first ++ separator ++ opening, closing, fun text => ?_⟩
    rw [List.cons_append, String.intercalate_cons_of_ne_nil (by simp), hrest]
    simp only [String.append_assoc]

/-- Elements between brackets stand around each of them. -/
theorem exists_enclosed (depth : Nat) (opening closing : String) (before after : List String) :
    ∃ first last, ∀ text,
      enclosed .canonical depth opening closing (before ++ text :: after) =
        first ++ text ++ last := by
  obtain ⟨first, last, h⟩ := exists_intercalate "," before after
  refine ⟨opening ++ first, last ++ closing, fun text => ?_⟩
  have hsome : (before ++ text :: after).isEmpty = false := by simp
  rw [enclosed, hsome, h]
  simp only [Bool.false_eq_true, if_false, String.append_assoc]

/-- If one element depends on a text only by having it in one place, so does the text of all. -/
theorem IsAround.enclosed {α : Type} {f : α → Except Refusal String} {x : String → α}
    (h : IsAround fun s => f (x s)) (depth : Nat) (opening closing : String)
    (before after : List α) :
    IsAround fun s => ((before ++ x s :: after).mapM f).map
      (enclosed .canonical depth opening closing) := by
  simp only [List.mapM_append, List.mapM_cons]
  cases before.mapM f with
  | error e => exact .inl ⟨e, fun _ => rfl⟩
  | ok earlier =>
    rcases h with ⟨e, he⟩ | ⟨first, last, hx⟩
    · simp only [show ∀ s, f (x s) = .error e from he]
      exact .inl ⟨e, fun _ => rfl⟩
    · simp only [show ∀ s, f (x s) = .ok (first ++ Json.string s ++ last) from hx]
      cases after.mapM f with
      | error e => exact .inl ⟨e, fun _ => rfl⟩
      | ok later =>
        obtain ⟨opened, closed, htexts⟩ := exists_enclosed depth opening closing earlier later
        refine .inr ⟨opened ++ first, last ++ closed, fun s => congrArg Except.ok ?_⟩
        refine (htexts _).trans ?_
        simp only [String.append_assoc]

/-! ## Sorting around an entry -/

/-- Entries in order stay as they are. -/
theorem sortedByKey_of_ordered {α : Type} {entries : List (Value × α)} (h : UnderTexts entries)
    (hnodup : (entries.map Prod.fst).Nodup) (hordered : Ordered keyText entries) :
    sortedByKey entries = .ok entries := by
  obtain ⟨sorted, hsorted, hperm, hordered'⟩ := exists_sortedByKey h
  rw [hsorted, eq_of_ordered h hnodup hperm.symm hordered hordered']

/-- What stands under a key has no part in the place that its entry has among the others. -/
theorem exists_sortedByKey_around {α : Type} [Inhabited α] {before after : List (Value × α)}
    {name : String} (htexts : UnderTexts (before ++ after))
    (hdistinct : (.text name :: (before ++ after).map Prod.fst).Nodup) :
    ∃ earlier later, ∀ a, sortedByKey (before ++ (.text name, a) :: after) =
      .ok (earlier ++ (.text name, a) :: later) := by
  have hunder {xs ys : List (Value × α)} (a : α) (hperm : (xs ++ ys).Perm (before ++ after)) :
      UnderTexts (xs ++ (.text name, a) :: ys) ∧
        ((xs ++ (.text name, a) :: ys).map Prod.fst).Nodup := by
    have hmoved : (xs ++ (.text name, a) :: ys).Perm ((.text name, a) :: (before ++ after)) :=
      List.perm_middle.trans (hperm.cons _)
    refine ⟨fun e he => ?_, (hmoved.map Prod.fst).nodup_iff.2 hdistinct⟩
    rcases List.mem_cons.1 (hmoved.mem_iff.1 he) with rfl | he
    · exact ⟨name, rfl⟩
    · exact htexts e he
  -- The place is found with any value there, and stays when the value is another.
  have hall (a : α) := hunder a (.refl (before ++ after))
  obtain ⟨sorted, -, hperm, hordered⟩ := exists_sortedByKey (hall default).1
  have hmem : (.text name, default) ∈ sorted := hperm.mem_iff.2 (by simp)
  obtain ⟨earlier, later, rfl⟩ := List.append_of_mem hmem
  have hothers : (earlier ++ later).Perm (before ++ after) :=
    (List.perm_middle.symm.trans (hperm.trans List.perm_middle)).cons_inv
  refine ⟨earlier, later, fun a => ?_⟩
  have hmoved : (before ++ (.text name, a) :: after).Perm (earlier ++ (.text name, a) :: later) :=
    List.perm_middle.trans ((hothers.symm.cons _).trans List.perm_middle.symm)
  have hkeys : (earlier ++ (Value.text name, a) :: later).map Prod.fst =
      (earlier ++ (Value.text name, default) :: later).map Prod.fst := by simp
  obtain ⟨hsorted, hnodup⟩ := hunder a hothers
  rw [sortedByKey_congr (hall a).1 (hall a).2 hmoved,
    sortedByKey_of_ordered hsorted hnodup (ordered_of_keys hkeys hordered)]

/-! ## Data around a place -/

/-- Data around one place. -/
inductive Context where
  | here
  | item (before : List Value) (inside : Context) (after : List Value)
  | entry (before : List (Value × Value)) (name : String) (inside : Context)
      (after : List (Value × Value))

namespace Context

/-- The data with a value in the place. -/
def fill : Context → Value → Value
  | here, v => v
  | item before inside after, v => .ofList (before ++ inside.fill v :: after)
  | entry before name inside after, v =>
    .mapping (before ++ (.text name, inside.fill v) :: after)

/-- The mappings around the place are from distinct texts. -/
def IsKeyed : Context → Prop
  | here => True
  | item _ inside _ => inside.IsKeyed
  | entry before name inside after =>
    (∀ e ∈ before ++ after, ∃ s, e.1 = .text s) ∧
      (.text name :: (before ++ after).map Prod.fst).Nodup ∧ inside.IsKeyed

theorem encodeEntries_append (layout : Layout) (depth : Nat) (xs ys : List (Value × Value)) :
    encodeEntries layout depth (xs ++ ys) =
      encodeEntries layout depth xs ++ encodeEntries layout depth ys := by
  simp only [encodeEntries_eq_map, List.map_append]

theorem encodeAt_mapping (depth : Nat) (entries : List (Value × Value)) :
    encodeAt .canonical depth (.mapping entries) =
      sortedByKey (encodeEntries .canonical (depth + 1) entries) >>= fun listed =>
        (listed.mapM (member .canonical)).map (enclosed .canonical depth "\x7b" "\x7d") := rfl

/-- The canonical text of data is around a text in them. -/
theorem isAround {C : Context} (hC : C.IsKeyed) (depth : Nat) :
    IsAround fun s => encodeAt .canonical depth (C.fill (.text s)) := by
  induction C generalizing depth with
  | here => exact .string
  | item before inside after ih =>
    have hitems := (ih hC (depth + 1)).enclosed depth "[" "]" before after
    refine cast (congrArg IsAround (funext fun s => ?_)) hitems
    rw [fill, encodeAt_of_sequence (v := .ofList _) rfl, encodeAll_eq_mapM]
  | entry before name inside after ih =>
    obtain ⟨htexts, hdistinct, hinside⟩ := hC
    let encoded := encodeEntries .canonical (depth + 1)
    have hkeys :
        (encoded before ++ encoded after).map Prod.fst = (before ++ after).map Prod.fst := by
      rw [List.map_append, List.map_append, keys_encodeEntries, keys_encodeEntries]
    have hunder : UnderTexts (encoded before ++ encoded after) := by
      have hall := underTexts_encodeEntries .canonical (depth + 1) htexts
      rwa [encodeEntries_append] at hall
    -- Sorting goes by the keys, so the other members stand around this one for every text.
    obtain ⟨earlier, later, hsorted⟩ :=
      exists_sortedByKey_around hunder (hkeys ▸ hdistinct)
    have hmember : IsAround fun s =>
        member .canonical (.text name, encodeAt .canonical (depth + 1) (inside.fill (.text s))) :=
      (ih hinside (depth + 1)).map (Json.string name ++ ":") ""
        fun text => (String.append_empty ..).symm
    refine cast (congrArg IsAround (funext fun s => ?_))
      (hmember.enclosed depth "\x7b" "\x7d" earlier later)
    have hentries := encodeEntries_append .canonical (depth + 1) before
      ((.text name, inside.fill (.text s)) :: after)
    rw [fill, encodeAt_mapping, hentries, encodeEntries, hsorted, ok_bind]

/-- Data have a canonical text whatever text stands in the place, or none. -/
theorem exists_canonical_iff {C : Context} (hC : C.IsKeyed) (s t : String) :
    (∃ text, canonical (C.fill (.text s)) = .ok text) ↔
      ∃ text, canonical (C.fill (.text t)) = .ok text :=
  (isAround hC 0).exists_ok_iff s t

/-- The canonical text of data tells the text in the place. -/
theorem canonical_eq_iff {C : Context} (hC : C.IsKeyed) {s t text text' : String}
    (hs : canonical (C.fill (.text s)) = .ok text) (ht : canonical (C.fill (.text t)) = .ok text') :
    text = text' ↔ s = t :=
  (isAround hC 0).eq_iff hs ht

end Context

end RecordSchema.Json
