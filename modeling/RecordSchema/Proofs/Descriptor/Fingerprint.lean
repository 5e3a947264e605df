import RecordSchema.Descriptor.Bundle
import RecordSchema.Proofs.Descriptor.Reading

/-!
# Which schemas have fingerprints

A plain value has a JSON text, in any layout, exactly if no integer of too many digits stands in it
(`Json.encodes_plain_iff`). So a schema under a text has a fingerprint exactly if its types and
defaults can be printed where they have to be, and no default holds such an integer
(`Schema.exists_hash_iff`). If they have, the bundle of their descriptors has a text in every layout
(`Descriptor.exists_bundleText_iff`).
-/

set_option autoImplicit false

namespace RecordSchema

open RecordSchema.Text

/-! ## Integers of too many digits -/

/-- An integer of too many digits stands where the plain form of a value has it. -/
inductive Value.HoldsLong : Value → Prop where
  | int {n : Int} (long : Numeral.isWritable n = false) : (Value.int n).HoldsLong
  | list {label : Nat} {items : List Value} {v : Value} (mem : v ∈ items) (inside : v.HoldsLong) :
      (Value.list label items).HoldsLong
  | tuple {items : List Value} {v : Value} (mem : v ∈ items) (inside : v.HoldsLong) :
      (Value.tuple items).HoldsLong
  | mapping {entries : List (Value × Value)} {e : Value × Value}
      (texts : ∀ e ∈ entries, ∃ s, e.1 = .text s) (mem : e ∈ entries) (inside : e.2.HoldsLong) :
      (Value.mapping entries).HoldsLong

namespace Value

theorem not_holdsLong_int_iff {n : Int} :
    ¬ (Value.int n).HoldsLong ↔ Numeral.isWritable n = true := by
  rw [← Bool.not_eq_false]
  refine not_congr ⟨fun h => ?_, .int⟩
  cases h with
  | int long => exact long

theorem not_holdsLong_list_iff {label : Nat} {items : List Value} :
    ¬ (Value.list label items).HoldsLong ↔ ∀ v ∈ items, ¬ v.HoldsLong := by
  constructor
  · exact fun h v hv hin => h (.list hv hin)
  · intro h hlong
    cases hlong with
    | list mem inside => exact h _ mem inside

theorem not_holdsLong_tuple_iff {items : List Value} :
    ¬ (Value.tuple items).HoldsLong ↔ ∀ v ∈ items, ¬ v.HoldsLong := by
  constructor
  · exact fun h v hv hin => h (.tuple hv hin)
  · intro h hlong
    cases hlong with
    | tuple mem inside => exact h _ mem inside

theorem not_holdsLong_mapping_iff {entries : List (Value × Value)}
    (htexts : ∀ e ∈ entries, ∃ s, e.1 = .text s) :
    ¬ (Value.mapping entries).HoldsLong ↔ ∀ e ∈ entries, ¬ e.2.HoldsLong := by
  constructor
  · exact fun h e he hin => h (.mapping htexts he hin)
  · intro h hlong
    cases hlong with
    | mapping _ mem inside => exact h _ mem inside

end Value

/-! ## Texts of values -/

namespace Json

variable {layout : Layout} {depth : Nat}

/-- A value has a text in a layout. -/
def Encodes (layout : Layout) (depth : Nat) (v : Value) : Prop :=
  ∃ text, encodeAt layout depth v = .ok text

theorem encodes_list_iff {label : Nat} {items : List Value} :
    Encodes layout depth (.list label items) ↔ ∀ v ∈ items, Encodes layout (depth + 1) v := by
  unfold Encodes
  rw [← exists_mapM_eq_ok_iff, ← encodeAll_eq_mapM, encodeAt]
  exact exists_bind_eq_ok_iff fun texts => ⟨_, rfl⟩

theorem exists_member_iff {name : String} {written : Except Refusal String} :
    (∃ text, member layout (.text name, written) = .ok text) ↔ ∃ text, written = .ok text := by
  unfold member
  exact exists_bind_eq_ok_iff fun text => ⟨_, rfl⟩

/-- A mapping from texts has a text if its values have. -/
theorem encodes_mapping_iff {entries : List (Value × Value)}
    (htexts : ∀ e ∈ entries, ∃ s, e.1 = .text s) :
    Encodes layout depth (.mapping entries) ↔ ∀ e ∈ entries, Encodes layout (depth + 1) e.2 := by
  obtain ⟨listed, hlisted, hperm⟩ := exists_arranged layout
    (underTexts_encodeEntries layout (depth + 1) htexts)
  have hmembers : (∃ texts, listed.mapM (member layout) = .ok texts) ↔
      ∀ e ∈ entries, Encodes layout (depth + 1) e.2 := by
    rw [exists_mapM_eq_ok_iff]
    simp only [hperm.mem_iff, encodeEntries_eq_map, List.forall_mem_map]
    refine forall₂_congr fun e he => ?_
    obtain ⟨s, hs⟩ := htexts e he
    rw [hs]
    exact exists_member_iff
  rw [← hmembers, Encodes, encodeAt, hlisted, ok_bind]
  exact exists_bind_eq_ok_iff fun texts => ⟨_, rfl⟩

theorem encodes_text (s : String) : Encodes layout depth (.text s) := ⟨_, rfl⟩

theorem encodes_int_iff {n : Int} :
    Encodes layout depth (.int n) ↔ Numeral.isWritable n = true := by
  rw [Encodes, encodeAt, integer]
  split
  · next h => exact iff_of_true ⟨_, rfl⟩ h
  · next h =>
    refine iff_of_false ?_ h
    rintro ⟨_, hn⟩
    cases hn

/-- What holds of the items of a list in its plain form holds of the list. -/
theorem encodes_plainAll_iff {items : List Value}
    (h : ∀ v ∈ items, ∀ depth, Encodes layout depth (plain v) ↔ ¬ v.HoldsLong) :
    Encodes layout depth (.ofList (plainAll items)) ↔ ∀ v ∈ items, ¬ v.HoldsLong := by
  rw [Value.ofList, encodes_list_iff, Value.plainAll_eq_map, List.forall_mem_map]
  exact forall₂_congr fun v hv => h v hv (depth + 1)

theorem encodes_plainEntries_iff {entries : List (Value × Value)}
    (htexts : ∀ e ∈ entries, ∃ s, e.1 = .text s)
    (h : ∀ e ∈ entries, ∀ depth, Encodes layout depth (plain e.2) ↔ ¬ e.2.HoldsLong) :
    Encodes layout depth (.mapping (plainEntries entries)) ↔ ∀ e ∈ entries, ¬ e.2.HoldsLong := by
  rw [Value.plainEntries_eq_map, encodes_mapping_iff, List.forall_mem_map]
  · exact forall₂_congr fun e he => h e he (depth + 1)
  · rw [List.forall_mem_map]
    exact htexts

/-- The plain form of a value has a text exactly if no integer in it has too many digits. -/
theorem encodes_plain_iff (v : Value) (depth : Nat) :
    Encodes layout depth (plain v) ↔ ¬ v.HoldsLong := by
  induction v using Value.induction_on_parts generalizing depth with
  | int n => rw [plain, encodes_int_iff, Value.not_holdsLong_int_iff]
  | real x =>
    refine iff_of_true ⟨_, rfl⟩ ?_
    intro hlong
    cases hlong
  | list label items ih => rw [plain, encodes_plainAll_iff ih, Value.not_holdsLong_list_iff]
  | tuple items ih => rw [plain, encodes_plainAll_iff ih, Value.not_holdsLong_tuple_iff]
  | mapping entries ih =>
    rw [plain]
    split
    · next htexts =>
      have htexts' := Value.exists_text_of_all htexts
      rw [encodes_plainEntries_iff htexts' ih, Value.not_holdsLong_mapping_iff htexts']
    · next hother =>
      -- A mapping from anything but texts is written as its printed form.
      refine iff_of_true ⟨_, rfl⟩ fun hlong => hother ?_
      cases hlong with
      | mapping texts _ _ => exact Value.all_isText texts
  | printed v hv =>
    apply iff_of_true
    · rcases Value.plain_of_isPrinted hv with rfl | ⟨b, rfl⟩ | ⟨s, hs⟩
      · exact ⟨_, rfl⟩
      · exact ⟨_, rfl⟩
      · rw [hs]
        exact encodes_text s
    · intro hlong
      cases hlong <;> cases hv

end Json

/-! ## Fingerprints -/

theorem Schema.eq_of_describe {s : Schema} {d : Descriptor} (h : s.describe = .ok d) :
    d = Descriptor.ofSchema s := by
  unfold Schema.describe at h
  split at h
  · cases h
  · exact (Except.ok.inj h).symm

/-- A schema that can be described has the fingerprint of its descriptor. -/
theorem Schema.hash_eq_of_describable {s : Schema} (h : s.describeFault? = none) :
    s.hash = (Descriptor.ofSchema s).hash := by
  rw [hash, describe, h]
  exact ok_bind _ _

namespace Descriptor

open Json

theorem encodes_texts {layout : Layout} {depth : Nat} {vs : List Value}
    (h : ∀ v ∈ vs, ∃ s, v = .text s) : Encodes layout depth (.ofList vs) := by
  refine encodes_list_iff.2 fun v hv => ?_
  obtain ⟨s, rfl⟩ := h v hv
  exact encodes_text s

theorem encodes_fields {layout : Layout} {depth : Nat} (fields : List (String × String)) :
    Encodes layout depth (.ofList (fields.map fun p =>
      .mapping [(.text "name", .text p.1), (.text "type", .text p.2)])) := by
  refine encodes_list_iff.2 fun v hv => ?_
  obtain ⟨p, -, rfl⟩ := List.mem_map.1 hv
  rw [encodes_mapping_iff (by simp)]
  simp only [List.forall_mem_cons, List.not_mem_nil, false_implies, implies_true, and_true]
  exact ⟨encodes_text _, encodes_text _⟩

/-- Defaults have a text exactly if none of them holds an integer of too many digits. -/
theorem encodes_defaults_iff {s : Schema} {layout : Layout} {depth : Nat} :
    Encodes layout depth (.mapping (ofSchema s).defaults) ↔
      ∀ p ∈ s.defaults, ¬ p.2.HoldsLong := by
  rw [encodes_mapping_iff]
  · show (∀ e ∈ s.defaults.map fun p => (Value.text p.1, plain p.2), _) ↔ _
    rw [List.forall_mem_map]
    exact forall₂_congr fun p _ => encodes_plain_iff p.2 (depth + 1)
  · intro e he
    obtain ⟨p, -, rfl⟩ := List.mem_map.1 he
    exact ⟨p.1, rfl⟩

theorem exists_text_of_mem_entries {d : Descriptor} {e : Value × Value} (he : e ∈ d.entries) :
    ∃ t, e.1 = .text t := by
  have hkey : e.1 ∈ d.entries.map Prod.fst := List.mem_map_of_mem he
  rw [keys_entries] at hkey
  obtain ⟨t, -, ht⟩ := List.mem_map.1 hkey
  exact ⟨t, ht.symm⟩

/-- In the descriptor of a schema under a text, with anything behind its entries, only the defaults
can be without a text. -/
theorem encodes_entries_iff {s : Schema} (hname : ∃ title, s.name = .text title) {layout : Layout}
    {depth : Nat} {extra : List (Value × Value)} (hextra : ∀ e ∈ extra, ∃ s, e.1 = .text s) :
    Encodes layout depth (.mapping ((ofSchema s).entries ++ extra)) ↔
      (∀ p ∈ s.defaults, ¬ p.2.HoldsLong) ∧ ∀ e ∈ extra, Encodes layout (depth + 1) e.2 := by
  have htexts : ∀ e ∈ (ofSchema s).entries ++ extra, ∃ t, e.1 = .text t := fun e he =>
    (List.mem_append.1 he).elim exists_text_of_mem_entries (hextra e)
  obtain ⟨title, htitle⟩ := hname
  rw [encodes_mapping_iff htexts, List.forall_mem_append, ← encodes_defaults_iff]
  refine and_congr_left fun _ => ?_
  simp only [entries, List.forall_mem_cons, List.not_mem_nil, false_implies, implies_true,
    and_true]
  -- Of the six entries the defaults are the third, and the others always have texts.
  constructor
  · exact fun h => h.2.2.1
  · intro h
    refine ⟨?_, encodes_fields _, h, encodes_texts ?_, encodes_texts ?_, ?_⟩
    · show Encodes layout (depth + 1) s.name
      rw [htitle]
      exact encodes_text title
    · intro v hv
      obtain ⟨k, -, rfl⟩ := List.mem_map.1 hv
      exact ⟨k, rfl⟩
    · intro v hv
      obtain ⟨k, -, rfl⟩ := List.mem_map.1 hv
      exact ⟨k, rfl⟩
    · show Encodes layout (depth + 1) (.int formatVersion)
      exact encodes_int_iff.2 (by decide)

theorem exists_hash_iff {d : Descriptor} :
    (∃ h, d.hash = .ok h) ↔ Encodes .canonical 0 (.mapping d.entries) :=
  exists_bind_eq_ok_iff (r := Json.encodeAt .canonical 0 (.mapping d.entries)) fun _ => ⟨_, rfl⟩

end Descriptor

/-- A schema whose fingerprint cannot be formed: a type or a default cannot be printed where it has
to be, or an integer in a default has too many digits. -/
def Schema.IsUnwritten (s : Schema) : Prop :=
  s.describeFault? ≠ none ∨ ∃ p ∈ s.defaults, p.2.HoldsLong

/-- A schema under a text has a fingerprint unless it cannot be written. -/
theorem Schema.exists_hash_iff {s : Schema} (hname : ∃ title, s.name = .text title) :
    (∃ h, s.hash = .ok h) ↔ ¬ s.IsUnwritten := by
  have hentries : Json.Encodes .canonical 0 (.mapping ((Descriptor.ofSchema s).entries ++ [])) ↔
      (∀ p ∈ s.defaults, ¬ p.2.HoldsLong) ∧
        ∀ e ∈ ([] : List (Value × Value)), Json.Encodes .canonical 1 e.2 :=
    Descriptor.encodes_entries_iff hname fun _ he => absurd he List.not_mem_nil
  rw [List.append_nil, and_iff_left fun _ he => absurd he List.not_mem_nil,
    ← Descriptor.exists_hash_iff] at hentries
  unfold IsUnwritten hash describe
  cases s.describeFault? with
  | none => simpa using hentries
  | some cause => simp

/-! ## Bundles -/

namespace Descriptor

open Json

theorem stamped_eq_ok_iff {d : Descriptor} {e : Value} :
    d.stamped = .ok e ↔
      ∃ h, d.hash = .ok h ∧ e = .mapping (d.entries ++ [(.text "hash", .text h)]) := by
  unfold stamped
  rw [bind_eq_ok_iff]
  exact exists_congr fun h => and_congr_right fun _ => by simp [pure, Except.pure, eq_comm]

theorem bundle_eq_ok_iff {ds : List Descriptor} {whole : Value} :
    bundle ds = .ok whole ↔ ∃ es, List.Forall₂ (fun d e => d.stamped = .ok e) ds es ∧
      whole = .mapping
        [(.text "version", .int formatVersion), (.text "structs", .ofList es)] := by
  unfold bundle
  rw [bind_eq_ok_iff]
  refine exists_congr fun es => ?_
  rw [mapM_eq_ok_iff]
  exact and_congr_right fun _ => by simp [pure, Except.pure, eq_comm]

/-- The text of a bundle is its text in the layout that is asked for, and a line feed. -/
theorem exists_of_bundleText {indent : Value} {ds : List Descriptor} {text : String}
    (h : bundleText indent ds = .ok text) :
    ∃ whole l body, bundle ds = .ok whole ∧ layout indent = .ok l ∧
      Json.encode l whole = .ok body ∧ text = body ++ "\n" := by
  obtain ⟨whole, hwhole, h⟩ := bind_eq_ok_iff.1 h
  obtain ⟨l, hl, h⟩ := bind_eq_ok_iff.1 h
  obtain ⟨body, hbody, h⟩ := bind_eq_ok_iff.1 h
  exact ⟨whole, l, body, hwhole, hl, hbody, (Except.ok.inj h).symm⟩

/-- A bundle has a text exactly if there is a layout and all its entries have texts in it. -/
theorem exists_bundleText_iff_of_stamped {indent : Value} {ds : List Descriptor} :
    (∃ text, bundleText indent ds = .ok text) ↔
      ∃ l es, layout indent = .ok l ∧ ds.mapM stamped = .ok es ∧ ∀ e ∈ es, Encodes l 2 e := by
  -- The entries stand in a list, and the list in the mapping of the bundle.
  have hwhole (l : Layout) (es : List Value) :
      Encodes l 0 (.mapping [(.text "version", .int formatVersion),
        (.text "structs", .ofList es)]) ↔ ∀ e ∈ es, Encodes l 2 e := by
    rw [encodes_mapping_iff (by simp)]
    simp only [List.forall_mem_cons, List.not_mem_nil, false_implies, implies_true, and_true]
    exact (and_iff_right (encodes_int_iff.2 (by decide))).trans encodes_list_iff
  constructor
  · rintro ⟨text, htext⟩
    obtain ⟨whole, l, body, hbundle, hl, hbody, -⟩ := exists_of_bundleText htext
    obtain ⟨es, hes, rfl⟩ := bundle_eq_ok_iff.1 hbundle
    exact ⟨l, es, hl, mapM_eq_ok_iff.2 hes, (hwhole l es).1 ⟨body, hbody⟩⟩
  · rintro ⟨l, es, hl, hes, hencodes⟩
    obtain ⟨body, hbody⟩ := (hwhole l es).2 hencodes
    have hbundle : bundle ds = .ok _ := bundle_eq_ok_iff.2 ⟨es, mapM_eq_ok_iff.1 hes, rfl⟩
    refine ⟨body ++ "\n", ?_⟩
    rw [bundleText, hbundle, ok_bind, hl, ok_bind, Json.encode, hbody]
    rfl

theorem hash_eq_of_describe {s : Schema} {d : Descriptor} (h : s.describe = .ok d) :
    s.hash = d.hash := by
  rw [Schema.hash, h, ok_bind]

/-- The entry of a schema that has a fingerprint has a text: its defaults have texts, and the
fingerprint stands behind them. -/
theorem encodes_stamped {s : Schema} {d : Descriptor} {e : Value}
    (hname : ∃ title, s.name = .text title) (hdescribe : s.describe = .ok d)
    (hstamped : d.stamped = .ok e) {l : Layout} {depth : Nat} : Encodes l depth e := by
  obtain ⟨h, hh, rfl⟩ := stamped_eq_ok_iff.1 hstamped
  have hwritten := (Schema.exists_hash_iff hname).1 ⟨h, (hash_eq_of_describe hdescribe).trans hh⟩
  obtain rfl := Schema.eq_of_describe hdescribe
  refine (encodes_entries_iff hname (by simp)).2
    ⟨fun p hp hlong => hwritten (.inr ⟨p, hp, hlong⟩), fun e he => ?_⟩
  rw [List.mem_singleton.1 he]
  exact encodes_text h

/-- The descriptors of schemas under texts have the text of a bundle, in a layout that there is,
exactly if the schemas have fingerprints. -/
theorem exists_bundleText_iff {schemas : List Schema} {ds : List Descriptor}
    (hnames : ∀ s ∈ schemas, ∃ title, s.name = .text title)
    (hdescribe : schemas.mapM Schema.describe = .ok ds) {indent : Value} :
    (∃ text, bundleText indent ds = .ok text) ↔
      (∃ l, layout indent = .ok l) ∧ ∀ s ∈ schemas, ∃ h, s.hash = .ok h := by
  have hof := mapM_eq_ok_iff.1 hdescribe
  rw [exists_bundleText_iff_of_stamped]
  constructor
  · -- Each entry holds the fingerprint of its schema.
    rintro ⟨l, es, hl, hes, -⟩
    have hstamped : List.Forall₂ (fun s _ => ∃ h, s.hash = .ok h) schemas es := by
      refine forall₂_chain (fun s d e hd he => ?_) hof (mapM_eq_ok_iff.1 hes)
      obtain ⟨h, hh, -⟩ := stamped_eq_ok_iff.1 he
      exact ⟨h, (hash_eq_of_describe hd).trans hh⟩
    refine ⟨⟨l, hl⟩, fun s hs => ?_⟩
    obtain ⟨_, -, hh⟩ := exists_left_of_mem hstamped.flip hs
    exact hh
  · -- With the fingerprints there are entries, and what made them can be written.
    rintro ⟨⟨l, hl⟩, hhashes⟩
    obtain ⟨es, hes⟩ : ∃ es, ds.mapM stamped = .ok es := by
      refine exists_mapM_eq_ok_iff.2 fun d hd => ?_
      obtain ⟨s, hs, hsd⟩ := exists_left_of_mem hof hd
      obtain ⟨h, hh⟩ := hhashes s hs
      exact ⟨_, stamped_eq_ok_iff.2 ⟨h, (hash_eq_of_describe hsd).symm.trans hh, rfl⟩⟩
    refine ⟨l, es, hl, hes, fun e he => ?_⟩
    obtain ⟨d, hd, hstamp⟩ := exists_left_of_mem (mapM_eq_ok_iff.1 hes) he
    obtain ⟨s, hs, hsd⟩ := exists_left_of_mem hof hd
    exact encodes_stamped (hnames s hs) hsd hstamp

end Descriptor

end RecordSchema
