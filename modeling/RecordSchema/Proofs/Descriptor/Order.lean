import RecordSchema.Proofs.Descriptor.Export
import RecordSchema.Proofs.Json.Order
import Mathlib.Data.List.Perm.Basic

/-!
# What becomes of the declaration order

The canonical text of a descriptor carries the fields in a list, and so their order comes back; the
defaults stand in a mapping, and come back in the order of their names
(`Builder.order_of_read`). Only where the names were declared in that order do the defaults keep it
(`Builder.defaults_lose_order` for a block where they do not).
-/

set_option autoImplicit false

namespace RecordSchema

open RecordSchema.Text Value

namespace Descriptor

/-- Keys that ascend and are the names of a schema, in whatever order, are these names sorted. -/
theorem exists_sorted_names {entries : List (Value × Value)} {names : List String}
    (hascends : entries.Pairwise fun a b => Json.keyText a < Json.keyText b)
    (hperm : (entries.map Prod.fst).Perm (names.map Value.text)) :
    ∃ sorted : List String, sorted.Perm names ∧ sorted.Pairwise (· < ·) ∧
      entries.map Prod.fst = sorted.map Value.text := by
  have htexts : ∀ e ∈ entries, e.1 = .text (Json.keyText e) := by
    intro e he
    obtain ⟨n, -, hn⟩ := List.mem_map.1 (hperm.mem_iff.1 (List.mem_map_of_mem he))
    rw [Json.keyText, ← hn]
  have hkeys : entries.map Prod.fst = (entries.map Json.keyText).map Value.text := by
    rw [List.map_map]
    exact List.map_congr_left htexts
  refine ⟨entries.map Json.keyText, ?_, List.pairwise_map.2 hascends, hkeys⟩
  rw [hkeys] at hperm
  exact (List.map_perm_map_iff fun _ _ => Value.text.inj).1 hperm

/-- Names that are listed sorted are listed as declared exactly if they were declared sorted. -/
theorem eq_iff_pairwise {sorted names : List String} (hperm : sorted.Perm names)
    (hsorted : sorted.Pairwise (· < ·)) : sorted = names ↔ names.Pairwise (· < ·) := by
  constructor
  · rintro rfl
    exact hsorted
  · intro hnames
    exact hperm.eq_of_pairwise (fun a b _ _ hab hba => absurd hab (lt_asymm hba)) hsorted hnames

/-- The canonical text of the descriptor of a schema with storable defaults is read back with the
same fields, and with the defaults under ascending keys. -/
theorem exists_read_canonical {s : Schema} (hname : IsData true s.name) (hkeys : s.keys.Nodup)
    (h : ∀ p ∈ s.defaults, p.2.IsStorable) :
    ∃ text v d', Json.canonical (ofSchema s).toValue = .ok text ∧
      Json.decode text.toList = .ok v ∧ ofValue v = .ok d' ∧ d'.fields = (ofSchema s).fields ∧
      (d'.defaults.map Prod.fst).Perm (s.keys.map Value.text) ∧
      d'.defaults.Pairwise fun a b => Json.keyText a < Json.keyText b := by
  have hdata : IsData true (ofSchema s).toValue :=
    isData_toValue_of_parts hname (isData_defaults_ofSchema hkeys h).weaken (forall_mem_texts _)
      (forall_mem_texts _) (show Numeral.isWritable 1 = true by decide)
  obtain ⟨text, v, htext, hdenotes, hsame, hv⟩ :=
    Json.returns_of_isData Json.isSpaced_canonical hdata 0
  have hdecode : Json.decode text.toList = .ok v := by
    have hread : Json.decode (text.toList ++ []) = .ok v :=
      Json.decode_append hdenotes (by simp [Json.Gap])
    rwa [List.append_nil] at hread
  have hfields : ((ofSchema s).fields.map Prod.fst).Nodup :=
    (keys_fields_ofSchema hkeys).symm ▸ hkeys
  have hentries : Same (.mapping ((ofSchema s).entries ++ [])) v := by
    rwa [List.append_nil]
  obtain ⟨n, defaults, -, hmember, hread, hdefaults, -⟩ :=
    exists_ofValue_of_parts (forall_mem_texts _) (forall_mem_texts _) hfields hentries hv
  refine ⟨text, v, _, htext, hdecode, hread, rfl, ?_, ?_⟩
  · cases hdefaults with
    | sequence left _ _ _ => cases left
    | mapping keys _ => exact keys_defaults_ofSchema hkeys ▸ keys.symm
  · -- The defaults are a mapping inside of what was read of the canonical text.
    cases (Json.ascends_of_denotes hdata htext hdenotes).member hmember with
    | mapping order _ => exact order

end Descriptor

namespace Builder

/-- **The order of declaration in what is read.** The descriptor of a schema from a block, with
defaults that hold no floating-point number and no integer of too many digits and a name that JSON
has a form for, has a canonical text, which is read back as a descriptor. Its fields are those of
the first descriptor, in the order of declaration. Its defaults are under the same names, but in the
order of these names, so that they are in the order of declaration exactly if the names were
declared in ascending order. -/
theorem order_of_read {name strict : Value} {policy : NamePolicy} {calls : List Call} {s : Schema}
    {d : Descriptor}
    (h : ((Builder.new name strict policy).after calls).reply .build = .ok (.schema s))
    (hname : IsData true name) (hdefaults : ∀ p ∈ s.defaults, p.2.IsStorable)
    (hdescribe : s.describe = .ok d) :
    ∃ text v d', Json.canonical d.toValue = .ok text ∧ Json.decode text.toList = .ok v ∧
      Descriptor.ofValue v = .ok d' ∧ d'.fields = d.fields ∧ d'.fields.map Prod.fst = s.keys ∧
      (∃ sorted : List String, sorted.Perm s.keys ∧ sorted.Pairwise (· < ·) ∧
        d'.defaults.map Prod.fst = sorted.map Value.text) ∧
      (d'.defaults.map Prod.fst = s.keys.map Value.text ↔ s.keys.Pairwise (· < ·)) := by
  obtain ⟨rfl, hnamed, hkeeps⟩ := keeps_of_build h
  obtain rfl := Schema.eq_of_describe hdescribe
  have hdata : IsData true ((Builder.new name strict policy).after calls).state.outcome.name := by
    rwa [hnamed]
  obtain ⟨text, v, d', htext, hdecode, hread, hfields, hperm, hascends⟩ :=
    Descriptor.exists_read_canonical hdata hkeeps.keys_nodup hdefaults
  obtain ⟨sorted, hsorted, hpairwise, hkeys⟩ := Descriptor.exists_sorted_names hascends hperm
  refine ⟨text, v, d', htext, hdecode, hread, hfields, ?_, ⟨sorted, hsorted, hpairwise, hkeys⟩, ?_⟩
  · rw [hfields, Descriptor.keys_fields_ofSchema hkeeps.keys_nodup]
  · rw [hkeys, List.map_inj_right fun _ _ => Value.text.inj]
    exact Descriptor.eq_iff_pairwise hsorted hpairwise

/-- The schema of two whole numbers with defaults. -/
def pairSchema (m n : String) : Schema :=
  ⟨.text "P", [⟨m, .int 5, .text "int", .text "int", .bool false⟩,
    ⟨n, .int 5, .text "int", .text "int", .bool false⟩], []⟩

theorem build_pair {m n : String} (hm : FieldName.isAllowed m .identifier = true)
    (hn : FieldName.isAllowed n .identifier = true) (hne : m ≠ n) :
    ((Builder.new (.text "P")).after (oneField m ++ oneField n)).reply .build =
      .ok (.schema (pairSchema m n)) := by
  have hread (name : String) :=
    FieldOptions.result_ofEntries_default (.int 5) false (.text name)
  have hnew : [m].contains n = false := by simpa using hne.symm
  rw [oneField, oneField, List.singleton_append, after_cons,
    call_declare_of_read (inPhase_open_new _ _ _) hm rfl (hread m) rfl, after_cons,
    call_declare_of_read ⟨rfl, rfl, rfl⟩ hn (by exact hnew) (hread n) rfl]
  rfl

theorem isStorable_pair {m n : String} (hne : m ≠ n) :
    ∀ p ∈ (pairSchema m n).defaults, p.2.IsStorable := by
  have hkeys : (pairSchema m n).keys.Nodup := by simpa [pairSchema, Schema.keys] using hne
  rw [Schema.defaults_eq_map hkeys]
  simp only [pairSchema, List.map_cons, List.map_nil, List.forall_mem_cons, List.not_mem_nil,
    false_implies, implies_true, and_true]
  exact ⟨.int (by decide), .int (by decide)⟩

/-- Names declared in ascending order keep it. -/
theorem order_of_ascending_pair :
    ((Builder.new (.text "P")).after (oneField "a" ++ oneField "b")).reply .build =
      .ok (.schema (pairSchema "a" "b")) ∧
    ∃ d text v d', (pairSchema "a" "b").describe = .ok d ∧ Json.canonical d.toValue = .ok text ∧
      Json.decode text.toList = .ok v ∧ Descriptor.ofValue v = .ok d' ∧
      d'.fields.map Prod.fst = ["a", "b"] ∧
      d'.defaults.map Prod.fst = [.text "a", .text "b"] := by
  have hbuild := build_pair (m := "a") (n := "b") (by decide +kernel) (by decide +kernel)
    (by decide)
  have hstorable := isStorable_pair (m := "a") (n := "b") (by decide)
  obtain ⟨text, v, d', htext, hdecode, hread, -, hfields, -, horder⟩ :=
    order_of_read hbuild (.text "P") hstorable rfl
  exact ⟨hbuild, _, text, v, d', rfl, htext, hdecode, hread, hfields, horder.2 (by decide)⟩

/-- Names declared in descending order lose it: the fields come back as they were declared, and the
defaults the other way round. -/
theorem defaults_lose_order :
    ((Builder.new (.text "P")).after (oneField "b" ++ oneField "a")).reply .build =
      .ok (.schema (pairSchema "b" "a")) ∧
    (∀ p ∈ (pairSchema "b" "a").defaults, p.2.IsStorable) ∧
    ∃ d text v d', (pairSchema "b" "a").describe = .ok d ∧ Json.canonical d.toValue = .ok text ∧
      Json.decode text.toList = .ok v ∧ Descriptor.ofValue v = .ok d' ∧
      d'.fields.map Prod.fst = ["b", "a"] ∧ (pairSchema "b" "a").keys = ["b", "a"] ∧
      d'.defaults.map Prod.fst = [.text "a", .text "b"] := by
  have hbuild := build_pair (m := "b") (n := "a") (by decide +kernel) (by decide +kernel)
    (by decide)
  have hstorable := isStorable_pair (m := "b") (n := "a") (by decide)
  have hkeys : (pairSchema "b" "a").keys.Nodup := by decide
  obtain ⟨text, v, d', htext, hdecode, hread, hfields, hperm, hascends⟩ :=
    Descriptor.exists_read_canonical (s := pairSchema "b" "a") (.text "P") hkeys hstorable
  obtain ⟨sorted, hsorted, hpairwise, hnames⟩ := Descriptor.exists_sorted_names hascends hperm
  have hascending : sorted = ["a", "b"] :=
    (Descriptor.eq_iff_pairwise (hsorted.trans (.swap ..)) hpairwise).2 (by decide)
  refine ⟨hbuild, hstorable, _, text, v, d', rfl, htext, hdecode, hread, ?_, rfl, ?_⟩
  · rw [hfields, Descriptor.keys_fields_ofSchema hkeys]
    rfl
  · rw [hnames, hascending]
    rfl

end Builder

end RecordSchema
