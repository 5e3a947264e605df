import RecordSchema.Proofs.Block.Variation
import RecordSchema.Proofs.Descriptor.Portable

/-!
# Fingerprints and the order of entries

Mappings are equal in whatever order they list their entries. A mapping from texts keeps its keys in
the plain form of a default, and the canonical text sorts them, so two blocks whose defaults differ
in the order of such entries, at any depth of lists, tuples and mappings from texts, come to schemas
with one fingerprint (`Builder.hash_of_reordered`). Any other mapping becomes its printed form,
which follows the order of the entries: there the fingerprint tells equal defaults apart
(`Builder.hash_tells_order`).
-/

set_option autoImplicit false

namespace RecordSchema

open RecordSchema.Text

namespace Value

/-! ## Entries in another order -/

/-- Two values that differ at most in the order of the entries of mappings, outside of what is
neither list nor tuple nor mapping; the mappings that differ have keys of a certain kind. -/
inductive Reordered (kind : Value → Prop) : Value → Value → Prop where
  | refl (v : Value) : Reordered kind v v
  | list (label label' : Nat) {xs ys : List Value} (length : xs.length = ys.length)
      (items : ∀ p ∈ xs.zip ys, Reordered kind p.1 p.2) :
      Reordered kind (.list label xs) (.list label' ys)
  | tuple {xs ys : List Value} (length : xs.length = ys.length)
      (items : ∀ p ∈ xs.zip ys, Reordered kind p.1 p.2) : Reordered kind (.tuple xs) (.tuple ys)
  | mapping {xs ys : List (Value × Value)} (kinds : ∀ x ∈ xs, kind x.1)
      (distinct : (xs.map Prod.fst).Nodup) (keys : (xs.map Prod.fst).Perm (ys.map Prod.fst))
      (under : ∀ x ∈ xs, ∀ y ∈ ys, x.1 = y.1 → Reordered kind x.2 y.2) :
      Reordered kind (.mapping xs) (.mapping ys)

/-- A value is a text. -/
def IsText (v : Value) : Prop := ∃ s, v = .text s

theorem isVariation_reordered (kind : Value → Prop) : IsVariation (Reordered kind) where
  refl := .refl
  isGiven_eq := by
    intro v w h
    cases h <;> rfl

/-- What holds of the keys of a mapping holds of them in any order. -/
theorem forall_key_of_perm {P : Value → Prop} {xs ys : List (Value × Value)}
    (hkeys : (xs.map Prod.fst).Perm (ys.map Prod.fst)) (h : ∀ x ∈ xs, P x.1) :
    ∀ y ∈ ys, P y.1 := by
  intro y hy
  obtain ⟨x, hx, hxy⟩ := List.mem_map.1 (hkeys.mem_iff.2 (List.mem_map_of_mem hy))
  rw [← hxy]
  exact h x hx

/-- Two entries in the other order. -/
theorem reordered_pair {kind : Value → Prop} {k k' v v' w w' : Value} (hk : kind k) (hk' : kind k')
    (hne : k ≠ k') (h : Reordered kind v w) (h' : Reordered kind v' w') :
    Reordered kind (.mapping [(k, v), (k', v')]) (.mapping [(k', w'), (k, w)]) := by
  refine .mapping ?_ ?_ (.swap ..) ?_
  · simp [hk, hk']
  · simp [hne]
  · simp [hne, hne.symm, h, h']

variable {v w : Value}

/-- Where one value can be made plain, the other can. -/
theorem Reordered.plainFault?_eq_none (h : Reordered IsText v w)
    (hv : plainFault? v = Option.none) : plainFault? w = Option.none := by
  have hitems {xs ys : List Value} (length : xs.length = ys.length)
      (ih : ∀ p ∈ xs.zip ys, plainFault? p.1 = Option.none → plainFault? p.2 = Option.none)
      (hxs : plainFaultIn xs = Option.none) : plainFaultIn ys = Option.none := by
    rw [plainFaultIn_eq_none_iff] at hxs ⊢
    intro y hy
    obtain ⟨x, hx, hxy⟩ := exists_left_of_mem
      (R := fun x y => plainFault? x = Option.none → plainFault? y = Option.none)
      (forall₂_of_zip length ih) hy
    exact hxy (hxs x hx)
  induction h with
  | refl _ => exact hv
  | list _ _ length _ ih => exact hitems length ih hv
  | tuple length _ ih => exact hitems length ih hv
  | @mapping xs ys kinds _ keys _ ih =>
    have hkinds := forall_key_of_perm keys kinds
    rw [plainFault?_mapping_of_texts kinds, plainFaultInEntries_eq_none_iff] at hv
    rw [plainFault?_mapping_of_texts hkinds, plainFaultInEntries_eq_none_iff]
    intro y hy
    -- Entries belong together by their keys, wherever they stand.
    obtain ⟨x, hx, hxy⟩ := List.mem_map.1 (keys.mem_iff.2 (List.mem_map_of_mem hy))
    exact ih x hx y hy hxy (hv x hx)

theorem Reordered.symm {kind : Value → Prop} (h : Reordered kind v w) : Reordered kind w v := by
  induction h with
  | refl v => exact .refl v
  | list label label' length _ ih =>
    have hitems := (forall₂_of_zip length ih).flip
    exact .list label' label length.symm fun p hp => (List.forall₂_iff_zip.1 hitems).2 hp
  | tuple length _ ih =>
    have hitems := (forall₂_of_zip length ih).flip
    exact .tuple length.symm fun p hp => (List.forall₂_iff_zip.1 hitems).2 hp
  | @mapping xs ys kinds distinct keys _ ih =>
    exact .mapping (forall_key_of_perm keys kinds) (keys.nodup_iff.1 distinct) keys.symm
      fun y hy x hx hyx => ih x hx y hy hyx.symm

/-- The canonical text of what the values become is one. -/
theorem Reordered.canonical_plain (h : Reordered IsText v w) (depth : Nat) :
    Json.encodeAt .canonical depth (plain v) = Json.encodeAt .canonical depth (plain w) := by
  have hitems {xs ys : List Value} (depth : Nat) (length : xs.length = ys.length)
      (ih : ∀ p ∈ xs.zip ys, ∀ depth, Json.encodeAt .canonical depth (plain p.1) =
        Json.encodeAt .canonical depth (plain p.2)) :
      Json.encodeAt .canonical depth (.ofList (plainAll xs)) =
        Json.encodeAt .canonical depth (.ofList (plainAll ys)) := by
    rw [Json.encodeAt_of_sequence (v := .ofList (plainAll xs)) rfl,
      Json.encodeAt_of_sequence (v := .ofList (plainAll ys)) rfl, plainAll_eq_map, plainAll_eq_map]
    refine congrArg _ (Json.encodeAll_congr ?_)
    rw [List.forall₂_map_left_iff, List.forall₂_map_right_iff]
    exact forall₂_of_zip length fun p hp => ih p hp (depth + 1)
  induction h generalizing depth with
  | refl _ => rfl
  | list _ _ length _ ih => exact hitems depth length ih
  | tuple length _ ih => exact hitems depth length ih
  | @mapping xs ys kinds distinct keys _ ih =>
    have hkinds := forall_key_of_perm keys kinds
    -- Both mappings keep their keys, and the canonical text lists them in one order.
    rw [plain_mapping_of_texts kinds, plain_mapping_of_texts hkinds]
    have hfst (es : List (Value × Value)) :
        (es.map fun e => (e.1, plain e.2)).map Prod.fst = es.map Prod.fst := by
      rw [List.map_map]
      rfl
    apply Json.canonical_mapping_congr
    · rw [List.forall_mem_map]
      exact kinds
    · rwa [hfst]
    · rwa [hfst, hfst]
    · simp only [List.forall_mem_map]
      exact fun x hx y hy hxy => ih x hx y hy hxy (depth + 1)

end Value

/-! ## Schemas -/

namespace Schema.Varies

variable {R : Value → Value → Prop} {s s' : Schema}

theorem keys_eq (h : s.Varies R s') : s'.keys = s.keys :=
  map_eq_map_of_forall₂ h.fields fun _ _ hf => hf.name_eq

theorem types_eq (h : s.Varies R s') : s'.types = s.types :=
  congrArg (putAll []) (map_eq_map_of_forall₂ h.fields fun _ _ hf => by
    rw [hf.name_eq, hf.effective_eq])

theorem required_eq (h : s.Varies R s') : s'.required = s.required := by rw [← h.rest]

theorem name_eq (h : s.Varies R s') : s'.name = s.name := by rw [← h.rest]

theorem nullable_eq (hR : IsVariation R) (h : s.Varies R s') : s'.nullable = s.nullable := by
  exact map_eq_map_of_forall₂ (forall₂_filter h.fields fun _ _ hf => hf.isNullable_eq hR)
    fun _ _ hf => hf.name_eq

/-- The defaults stand under the same names, and belong together one by one. -/
theorem defaults (hR : IsVariation R) (h : s.Varies R s') (hs : s.keys.Nodup) :
    List.Forall₂ (fun p p' => p'.1 = p.1 ∧ R p.2 p'.2) s.defaults s'.defaults := by
  rw [defaults_eq_map hs, defaults_eq_map (h.keys_eq ▸ hs), List.forall₂_map_left_iff,
    List.forall₂_map_right_iff]
  exact h.fields.imp fun _ _ hf => ⟨hf.name_eq, hf.initial hR⟩

theorem symm (hR : ∀ v w, R v w → R w v) (h : s.Varies R s') : s'.Varies R s where
  rest := by rw [← h.rest]
  fields := (h.fields.imp fun f f' hf =>
    show f'.Varies R f from ⟨by rw [← hf.rest], hR _ _ hf.default⟩).flip

variable (h : s.Varies (Value.Reordered Value.IsText) s') (hs : s.keys.Nodup)

include h hs

theorem describeFault?_eq_none (hnone : s.describeFault? = none) : s'.describeFault? = none := by
  rw [describeFault?, Option.or_eq_none_iff, List.findSome?_eq_none_iff,
    List.findSome?_eq_none_iff] at hnone ⊢
  rw [h.types_eq]
  refine ⟨hnone.1, fun p' hp' => ?_⟩
  obtain ⟨p, hp, -, hvalues⟩ :=
    exists_left_of_mem (h.defaults (Value.isVariation_reordered _) hs) hp'
  exact hvalues.plainFault?_eq_none (hnone.2 p hp)

/-- The descriptors have one canonical text, or none for the same reason. -/
theorem canonical_eq :
    Json.canonical (Descriptor.ofSchema s).toValue =
      Json.canonical (Descriptor.ofSchema s').toValue := by
  have hR := Value.isVariation_reordered Value.IsText
  have hdefaults : Json.encodeAt .canonical 1 (.mapping (Descriptor.ofSchema s).defaults) =
      Json.encodeAt .canonical 1 (.mapping (Descriptor.ofSchema s').defaults) := by
    have hentries : Json.encodeEntries .canonical 2 (Descriptor.ofSchema s').defaults =
        Json.encodeEntries .canonical 2 (Descriptor.ofSchema s).defaults := by
      rw [Json.encodeEntries_eq_map, Json.encodeEntries_eq_map]
      show List.map _ (s'.defaults.map _) = List.map _ (s.defaults.map _)
      rw [List.map_map, List.map_map]
      refine map_eq_map_of_forall₂ (h.defaults hR hs) fun p p' hp => ?_
      simp only [Function.comp_apply, hp.1, hp.2.canonical_plain 2]
    rw [Json.encodeAt, Json.encodeAt, hentries]
  have hkeys : (s'.keys.filter s'.isRequired) = s.keys.filter s.isRequired := by
    unfold isRequired
    rw [h.keys_eq, h.required_eq]
  -- Everything beside the defaults is the same.
  have hentries : Json.encodeEntries .canonical 1 (Descriptor.ofSchema s).entries =
      Json.encodeEntries .canonical 1 (Descriptor.ofSchema s').entries := by
    simp only [Descriptor.entries, Json.encodeEntries, hdefaults]
    simp only [Descriptor.ofSchema, h.name_eq, h.types_eq, hkeys, h.nullable_eq hR]
  show Json.encodeAt .canonical 0 (.mapping _) = Json.encodeAt .canonical 0 (.mapping _)
  rw [Json.encodeAt, Json.encodeAt, hentries]

/-- What is the fingerprint of one schema is that of the other. -/
theorem hash_of_hash {f : String} (hf : s.hash = .ok f) : s'.hash = .ok f := by
  cases hfault : s.describeFault? with
  | some cause =>
    rw [hash, describe, hfault] at hf
    cases hf
  | none =>
    rw [hash_eq_of_describable hfault] at hf
    rw [hash_eq_of_describable (h.describeFault?_eq_none hs hfault)]
    exact (Descriptor.hash_eq_of_canonical (h.canonical_eq hs)).symm.trans hf

end Schema.Varies

/-! ## Two runs -/

namespace Builder

/-- **The order of entries does not show in a fingerprint.** Where two runs of a block make the same
calls, except that mappings from texts in the defaults, inside of lists, tuples and such mappings,
list their entries in another order, and the one gives a schema, the other gives one too, with the
same keys and types, and the two have the same fingerprint, or both have none. -/
theorem hash_of_reordered {name strict : Value} {policy : NamePolicy} {calls calls' : List Call}
    (hcalls : List.Forall₂ (Call.Varies (Value.Reordered Value.IsText)) calls calls') {s : Schema}
    (h : ((Builder.new name strict policy).after calls).reply .build = .ok (.schema s)) :
    ∃ s', ((Builder.new name strict policy).after calls').reply .build = .ok (.schema s') ∧
      s'.keys = s.keys ∧ s'.types = s.types ∧ s'.nullable = s.nullable ∧
      ∀ f, s.hash = .ok f ↔ s'.hash = .ok f := by
  have hR := Value.isVariation_reordered Value.IsText
  obtain ⟨s', h', hvaries⟩ := exists_build_of_varies hR hcalls h
  obtain ⟨rfl, -, hkeeps⟩ := keeps_of_build h
  have hkeys := hkeeps.keys_nodup
  have hback := hvaries.symm fun _ _ hvw => Value.Reordered.symm hvw
  refine ⟨s', h', hvaries.keys_eq, hvaries.types_eq, hvaries.nullable_eq hR, fun f => ?_⟩
  exact ⟨hvaries.hash_of_hash hkeys, hback.hash_of_hash (hvaries.keys_eq ▸ hkeys)⟩

/-- Blocks of one field whose defaults are related differ in this default alone. -/
theorem varies_annotatedField {R : Value → Value → Prop} {v w : Value} (h : R v w) (type : Value) :
    List.Forall₂ (Call.Varies R) (Schema.annotatedField type v) (Schema.annotatedField type w) :=
  .cons (.declare (.cons ⟨rfl, .inr ⟨rfl, h⟩⟩ .nil)) .nil

/-- A mapping from texts inside of a list, in a mapping from texts. -/
def nestedDefault : Value :=
  .mapping [(.text "a", .list 3 [.mapping [(.text "x", .int 1), (.text "y", .bytes [7])]]),
    (.text "b", .none)]

/-- The same mappings with their entries the other way round. -/
def turnedDefault : Value :=
  .mapping [(.text "b", .none),
    (.text "a", .list 4 [.mapping [(.text "y", .bytes [7]), (.text "x", .int 1)]])]

theorem reordered_nestedDefault : Value.Reordered Value.IsText nestedDefault turnedDefault := by
  apply Value.reordered_pair ⟨"a", rfl⟩ ⟨"b", rfl⟩ (by simp)
  · refine .list 3 4 rfl (List.forall_mem_singleton.2 ?_)
    exact Value.reordered_pair ⟨"x", rfl⟩ ⟨"y", rfl⟩ (by simp) (.refl _) (.refl _)
  · exact .refl _

theorem isTame_nestedDefault : nestedDefault.IsTame := by
  have hinner : (Value.mapping [(.text "x", .int 1), (.text "y", .bytes [7])]).IsTame :=
    Value.isTame_pair (.other rfl rfl) (.int (by decide)) (.other rfl rfl) (.other rfl rfl)
  exact Value.isTame_pair (.other rfl rfl) (.list 3 (List.forall_mem_singleton.2 hinner))
    (.other rfl rfl) (.other rfl rfl)

/-- Both orders come to one fingerprint. -/
theorem hash_of_nestedDefault :
    List.Forall₂ (Call.Varies (Value.Reordered Value.IsText))
      (Schema.annotatedField (.text "T") nestedDefault)
      (Schema.annotatedField (.text "T") turnedDefault) ∧
    ∃ f, (Schema.annotatedSchema (.text "T") nestedDefault).hash = .ok f ∧
      (Schema.annotatedSchema (.text "T") turnedDefault).hash = .ok f := by
  have hcalls := varies_annotatedField reordered_nestedDefault (.text "T")
  obtain ⟨f, hf⟩ : ∃ f, (Schema.annotatedSchema (.text "T") nestedDefault).hash = .ok f :=
    Schema.exists_hash_of_tame ⟨"P", rfl⟩ (List.forall_mem_singleton.2 isTame_nestedDefault)
      (List.forall_mem_singleton.2 rfl)
  obtain ⟨s', h', -, -, -, hhash⟩ :=
    hash_of_reordered hcalls (Schema.build_annotatedField (.text "T") rfl)
  -- The second run gives the schema of the default that was turned round.
  rw [Schema.build_annotatedField (.text "T") rfl] at h'
  cases h'
  exact ⟨hcalls, f, hf, (hhash f).1 hf⟩

/-- A mapping from two numbers. -/
def upwardDefault : Value := .mapping [(.int 1, .int 0), (.int 2, .int 0)]

/-- The same mapping with its entries the other way round. -/
def downwardDefault : Value := .mapping [(.int 2, .int 0), (.int 1, .int 0)]

/-- The canonical text of a descriptor with one field and its default written out. -/
def fieldText (default : String) : String :=
  "\x7b\"defaults\":\x7b\"n\":\"" ++ default ++
    "\"\x7d,\"fields\":[\x7b\"name\":\"n\",\"type\":\"T\"\x7d],\"name\":\"P\"," ++
    "\"nullable\":[],\"required\":[],\"version\":1\x7d"

/-- Equal mappings from numbers, in two orders, have different fingerprints. -/
theorem hash_tells_order :
    Value.equal upwardDefault downwardDefault = true ∧
    List.Forall₂ (Call.Varies (Value.Reordered fun _ => True))
      (Schema.annotatedField (.text "T") upwardDefault)
      (Schema.annotatedField (.text "T") downwardDefault) ∧
    ((Builder.new (.text "P")).after (Schema.annotatedField (.text "T") upwardDefault)).reply
      .build = .ok (.schema (Schema.annotatedSchema (.text "T") upwardDefault)) ∧
    ((Builder.new (.text "P")).after (Schema.annotatedField (.text "T") downwardDefault)).reply
      .build = .ok (.schema (Schema.annotatedSchema (.text "T") downwardDefault)) ∧
    ∃ f f', (Schema.annotatedSchema (.text "T") upwardDefault).hash = .ok f ∧
      (Schema.annotatedSchema (.text "T") downwardDefault).hash = .ok f' ∧ f ≠ f' := by
  have hup : Json.canonical (Descriptor.ofSchema
      (Schema.annotatedSchema (.text "T") upwardDefault)).toValue =
        .ok (fieldText "\x7b1: 0, 2: 0\x7d") := by
    decide +kernel
  have hdown : Json.canonical (Descriptor.ofSchema
      (Schema.annotatedSchema (.text "T") downwardDefault)).toValue =
        .ok (fieldText "\x7b2: 0, 1: 0\x7d") := by
    decide +kernel
  have hne : Sha256.hex (Utf8.encodeText (fieldText "\x7b1: 0, 2: 0\x7d")) ≠
      Sha256.hex (Utf8.encodeText (fieldText "\x7b2: 0, 1: 0\x7d")) := by
    decide +kernel
  refine ⟨by decide +kernel, varies_annotatedField ?_ _, Schema.build_annotatedField _ rfl,
    Schema.build_annotatedField _ rfl, _, _, ?_, ?_, hne⟩
  · exact Value.reordered_pair trivial trivial (by simp) (.refl _) (.refl _)
  · exact (Schema.hash_eq_of_describable rfl).trans (Descriptor.hash_of_canonical hup)
  · exact (Schema.hash_eq_of_describable rfl).trans (Descriptor.hash_of_canonical hdown)

end Builder

end RecordSchema
