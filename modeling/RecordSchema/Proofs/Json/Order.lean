import RecordSchema.Proofs.Json.RoundTrip
import RecordSchema.Value.Conversion

/-!
# The order of what is read of a canonical text

The canonical text lists the entries of every mapping in the order of their keys, at whatever depth,
and a reader takes them as they come. So what is read of the canonical text of data has ascending
keys everywhere (`Json.ascends_of_denotes`), however the data listed them; lists keep their order.
-/

set_option autoImplicit false

namespace RecordSchema

open RecordSchema.Text Value

/-- Data whose mappings all list their keys in ascending order. -/
inductive Value.Ascends : Value → Prop where
  | none : Ascends .none
  | bool (b : Bool) : Ascends (.bool b)
  | int (n : Int) : Ascends (.int n)
  | text (s : String) : Ascends (.text s)
  | list (label : Nat) {items : List Value} (each : ∀ v ∈ items, Ascends v) :
      Ascends (.list label items)
  | mapping {entries : List (Value × Value)}
      (order : entries.Pairwise fun a b => Json.keyText a < Json.keyText b)
      (each : ∀ e ∈ entries, Ascends e.2) : Ascends (.mapping entries)

/-- What stands under a name in data that ascend ascends. -/
theorem Value.Ascends.member {v w : Value} (h : v.Ascends) {name : String}
    (hw : v.member name = .ok w) : w.Ascends := by
  cases h with
  | @mapping entries _ each =>
    simp only [Value.member] at hw
    cases hlookup : lookupText name entries with
    | none =>
      rw [hlookup] at hw
      cases hw
    | some u =>
      rw [hlookup] at hw
      obtain rfl := Except.ok.inj hw
      obtain ⟨e, he, rfl⟩ := Option.map_eq_some_iff.1 hlookup
      exact each e (List.mem_of_find?_eq_some he)
  | _ => cases hw

namespace Json

/-- Entries under distinct texts that are in order are strictly in order. -/
theorem pairwise_lt_of_ordered {α : Type} {entries : List (Value × α)} (h : UnderTexts entries)
    (hnodup : (entries.map Prod.fst).Nodup) (hordered : Ordered keyText entries) :
    entries.Pairwise fun a b => keyText a < keyText b := by
  have hdistinct : entries.Pairwise fun a b => a.1 ≠ b.1 := List.pairwise_map.1 hnodup
  refine (hordered.and hdistinct).imp_of_mem fun {a b} ha hb hab => ?_
  exact lt_of_le_of_ne hab.1 fun heq => hab.2 (keyText_inj (h a ha) (h b hb) heq)

/-- Entries with the same keys, place by place, are in order if the others are. -/
theorem ordered_of_keys {α β : Type} {xs : List (Value × α)} {ys : List (Value × β)}
    (hkeys : ys.map Prod.fst = xs.map Prod.fst) (h : Ordered keyText xs) :
    Ordered keyText ys := by
  have htext {γ : Type} (zs : List (Value × γ)) :
      zs.map keyText = (zs.map Prod.fst).map fun k => keyText (k, ()) := by
    rw [List.map_map]
    rfl
  unfold Ordered at h ⊢
  rw [← List.pairwise_map (f := keyText) (R := (· ≤ ·))] at h ⊢
  rwa [htext, hkeys, ← htext]

variable {v w : Value} {depth : Nat} {text : String}

/-- What is read of a list or tuple ascends if what is read of each item does. -/
theorem ascends_of_items {items : List Value} (hv : v.sequence? = some items)
    (hitems : ∀ u ∈ items, Returns .canonical (depth + 1) u)
    (ih : ∀ u ∈ items, ∀ {text : String} {w : Value},
      encodeAt .canonical (depth + 1) u = .ok text → Denotes text.toList w → w.Ascends)
    (htext : encodeAt .canonical depth v = .ok text) (hw : Denotes text.toList w) : w.Ascends := by
  obtain ⟨texts, values, _, htexts, hvalues, -, -, htext', hdenotes⟩ :=
    exists_read_sequence isSpaced_canonical hv hitems
  obtain rfl := Except.ok.inj (htext.symm.trans htext')
  rw [hw.unique hdenotes]
  -- Each value read belongs to the text of an item.
  rw [encodeAll_eq_mapM, mapM_eq_ok_iff] at htexts
  rw [List.forall₂_map_left_iff] at hvalues
  have hread : List.Forall₂ (fun u value => u ∈ items → value.Ascends) items values := by
    refine forall₂_chain ?_ htexts hvalues
    intro u one value hone hvalue hu
    exact ih u hu hone hvalue
  apply Ascends.list
  intro value hvalue
  obtain ⟨u, hu, hascends⟩ := exists_left_of_mem hread hvalue
  exact hascends hu

/-- What is read of a mapping ascends if what is read under each key does. -/
theorem ascends_of_entries {entries : List (Value × Value)}
    (htexts : ∀ e ∈ entries, ∃ s, e.1 = .text s) (hnodup : (entries.map Prod.fst).Nodup)
    (hentries : ∀ e ∈ entries, Returns .canonical (depth + 1) e.2)
    (ih : ∀ e ∈ entries, ∀ {text : String} {w : Value},
      encodeAt .canonical (depth + 1) e.2 = .ok text → Denotes text.toList w → w.Ascends)
    (htext : encodeAt .canonical depth (.mapping entries) = .ok text)
    (hw : Denotes text.toList w) : w.Ascends := by
  obtain ⟨listed, read, _, hlisted, hread, hkeys, htext', hdenotes⟩ :=
    exists_read_mapping isSpaced_canonical htexts hnodup hentries
  obtain rfl := Except.ok.inj (htext.symm.trans htext')
  rw [hw.unique hdenotes]
  obtain ⟨_, hsorted, hperm, hordered⟩ :=
    exists_sortedByKey (underTexts_encodeEntries .canonical (depth + 1) htexts)
  obtain rfl := Except.ok.inj (hlisted.symm.trans hsorted)
  -- What is read stands in the order of the text, and that is the order of the sorted keys.
  apply Ascends.mapping
  · apply pairwise_lt_of_ordered
    · intro e he
      obtain ⟨p, -, hp⟩ := exists_left_of_mem hread he
      exact hp.text
    · exact hkeys.nodup_iff.2 hnodup
    · exact ordered_of_keys (map_eq_map_of_forall₂ hread fun _ _ hp => hp.key_eq.symm) hordered
  · intro e he
    obtain ⟨p, hlistedp, hp⟩ := exists_left_of_mem hread he
    have hmem := hperm.mem_iff.1 hlistedp
    rw [encodeEntries_eq_map, List.mem_map] at hmem
    obtain ⟨e', he', rfl⟩ := hmem
    obtain ⟨one, hone, hvalue⟩ := hp.denotes
    exact ih e' he' hone hvalue

/-- What is read of the canonical text of data is the same. -/
theorem same_of_denotes {tuples : Bool} (hv : IsData tuples v)
    (htext : encodeAt .canonical depth v = .ok text) (hw : Denotes text.toList w) : Same v w := by
  obtain ⟨_, _, htext', hw', hsame, -⟩ := returns_of_isData isSpaced_canonical hv depth
  obtain rfl := Except.ok.inj (htext.symm.trans htext')
  rwa [hw.unique hw']

/-- What is read of the canonical text of data ascends. -/
theorem ascends_of_denotes {tuples : Bool} (hv : IsData tuples v)
    (htext : encodeAt .canonical depth v = .ok text) (hw : Denotes text.toList w) : w.Ascends := by
  have hreturns {u : Value} (hu : IsData tuples u) (depth : Nat) : Returns .canonical depth u :=
    returns_of_isData isSpaced_canonical hu depth
  have hsame := same_of_denotes hv htext hw
  -- A scalar is read as itself; a collection is read from the texts of its parts.
  induction hv generalizing depth text w with
  | none | bool _ | int _ | text _ =>
    cases hsame with
    | sequence left _ _ _ => cases left
    | _ => constructor
  | list _ each ih | tuple _ each ih =>
    refine ascends_of_items rfl (fun u hu => hreturns (each u hu) _) ?_ htext hw
    intro u hu _ _ hone hvalue
    exact ih u hu hone hvalue (same_of_denotes (each u hu) hone hvalue)
  | mapping texts distinct each ih =>
    refine ascends_of_entries texts distinct (fun e he => hreturns (each e he) _) ?_ htext hw
    intro e he _ _ hone hvalue
    exact ih e he hone hvalue (same_of_denotes (each e he) hone hvalue)

end Json

end RecordSchema
