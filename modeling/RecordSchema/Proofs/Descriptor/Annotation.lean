import RecordSchema.Proofs.Record.Making
import RecordSchema.Proofs.Descriptor.Fingerprint
import RecordSchema.Proofs.Json.Context
import RecordSchema.Proofs.TypeTerm.Literal

/-!
# Annotations in a descriptor

The canonical text of a schema has the text of each annotation in one place
(`Schema.exists_context`), so two schemas that differ in the annotation of one field have one
canonical text exactly if the texts of the two annotations are the same. For literal types of texts
that is so exactly if the texts are the same without the module prefix of typing constructs
(`Schema.literals_told_apart`): the prefix is taken out inside the quotes as well, so some literal
types are told apart by nothing (`Schema.literals_confused`).
-/

set_option autoImplicit false

namespace RecordSchema

open RecordSchema.Text TypeTerm

/-! ## Schemas with another annotation -/

/-- A field with another annotation, in effect as it is written, if it is the one of a name. -/
def Field.annotated (n : String) (type : Value) (f : Field) : Field :=
  if f.name = n then { f with declared := type, effective := type } else f

namespace Field

variable (n : String) (type : Value) (f : Field)

@[simp] theorem name_annotated : (f.annotated n type).name = f.name := by
  unfold annotated
  split <;> rfl

@[simp] theorem initial_annotated : (f.annotated n type).initial = f.initial := by
  unfold annotated
  split <;> rfl

@[simp] theorem isNullable_annotated : (f.annotated n type).isNullable = f.isNullable := by
  unfold annotated
  split <;> rfl

theorem effective_annotated :
    (f.annotated n type).effective = if f.name = n then type else f.effective := by
  unfold annotated
  split <;> rfl

end Field

namespace Schema

variable {s : Schema} {n : String}

/-- The schema with another annotation for the field of a name. -/
def annotated (s : Schema) (n : String) (type : Value) : Schema :=
  { s with fields := s.fields.map (Field.annotated n type) }

/-- The canonical text of the descriptor of a schema. -/
def canonicalText (s : Schema) : Except Refusal String := do
  Json.canonical (← s.describe).toValue

/-- What is hashed is the canonical text. -/
theorem hash_eq_map (s : Schema) :
    s.hash = s.canonicalText.map fun text => Sha256.hex (Utf8.encodeText text) := by
  unfold hash canonicalText
  cases s.describe with
  | error e => rfl
  | ok d =>
    rw [ok_bind, ok_bind, Descriptor.hash, fingerprint, Descriptor.toValue]
    cases Json.canonical (.mapping d.entries) <;> rfl

/-- A schema under a text has a canonical text unless it cannot be written. -/
theorem exists_canonicalText_iff (hname : ∃ title, s.name = .text title) :
    (∃ text, s.canonicalText = .ok text) ↔ ¬ s.IsUnwritten := by
  rw [← exists_hash_iff hname, hash_eq_map]
  cases s.canonicalText <;> simp [Except.map]

@[simp] theorem keys_annotated (s : Schema) (n : String) (type : Value) :
    (s.annotated n type).keys = s.keys := by
  simp [keys, annotated, Function.comp_def]

@[simp] theorem defaults_annotated (s : Schema) (n : String) (type : Value) :
    (s.annotated n type).defaults = s.defaults := by
  simp [defaults, annotated, Function.comp_def]

@[simp] theorem nullable_annotated (s : Schema) (n : String) (type : Value) :
    (s.annotated n type).nullable = s.nullable := by
  simp [nullable, annotated, List.filter_map, Function.comp_def]

/-- The types are those of the others before and behind, and the annotation between them. -/
theorem exists_types_annotated (hs : s.keys.Nodup) (hn : n ∈ s.keys) :
    ∃ before after : List (String × Value), ∀ type,
      (s.annotated n type).types = before ++ (n, type) :: after := by
  obtain ⟨f, hf, rfl⟩ := List.mem_map.1 hn
  obtain ⟨before, after, hfields⟩ := List.append_of_mem hf
  -- The names are distinct, so the annotation reaches no other field.
  have hothers : ∀ g ∈ before ++ after, g.name ≠ f.name := by
    intro g hg heq
    have hfirst : (before ++ f :: after).Perm (f :: (before ++ after)) := List.perm_middle
    have hmoved := hfirst.map (·.name)
    rw [keys, hfields, hmoved.nodup_iff] at hs
    exact (List.nodup_cons.1 hs).1 (List.mem_map.2 ⟨g, hg, heq⟩)
  have hother (type : Value) (g : Field) (hg : g ∈ before ++ after) :
      ((g.annotated f.name type).name, (g.annotated f.name type).effective) =
        (g.name, g.effective) := by
    rw [Field.name_annotated, Field.effective_annotated, if_neg (hothers g hg)]
  have hself (type : Value) :
      ((f.annotated f.name type).name, (f.annotated f.name type).effective) = (f.name, type) := by
    rw [Field.name_annotated, Field.effective_annotated, if_pos rfl]
  refine ⟨before.map fun g => (g.name, g.effective), after.map fun g => (g.name, g.effective),
    fun type => ?_⟩
  rw [types_eq_map ((keys_annotated ..).symm ▸ hs), annotated, List.map_map, hfields,
    List.map_append, List.map_cons]
  refine congrArg₂ _ (List.map_congr_left fun g hg => ?_)
    (congrArg₂ _ (hself type) (List.map_congr_left fun g hg => ?_))
  · exact hother type g (List.mem_append_left _ hg)
  · exact hother type g (List.mem_append_right _ hg)

/-- The descriptor has the text of the annotation in one place. -/
theorem exists_context (hs : s.keys.Nodup) (hn : n ∈ s.keys) :
    ∃ C : Json.Context, C.IsKeyed ∧ ∀ type,
      (Descriptor.ofSchema (s.annotated n type)).toValue = C.fill (.text (render type)) := by
  obtain ⟨before, after, htypes⟩ := exists_types_annotated hs hn
  let field (p : String × Value) : Value :=
    .mapping [(.text "name", .text p.1), (.text "type", .text (render p.2))]
  let d := Descriptor.ofSchema s
  refine ⟨.entry [(.text "name", d.name)] "fields"
    (.item (before.map field) (.entry [(.text "name", .text n)] "type" .here []) (after.map field))
    [(.text "defaults", .mapping d.defaults), (.text "required", .ofList d.required),
      (.text "nullable", .ofList d.nullable), (.text "version", .int d.version)],
    ?_, fun type => ?_⟩
  · simp [Json.Context.IsKeyed]
  · simp only [Descriptor.toValue, Descriptor.entries, Descriptor.ofSchema, htypes,
      defaults_annotated, nullable_annotated, keys_annotated, List.map_append, List.map_cons,
      List.map_map, Json.Context.fill, List.nil_append, List.cons_append]
    rfl

/-- Annotations that can be written out make no difference to what goes wrong. -/
theorem describeFault?_annotated (hs : s.keys.Nodup) (hn : n ∈ s.keys) {type type' : Value}
    (h : renderFault? type = none) (h' : renderFault? type' = none) :
    (s.annotated n type).describeFault? = (s.annotated n type').describeFault? := by
  obtain ⟨before, after, htypes⟩ := exists_types_annotated hs hn
  simp only [describeFault?, htypes, defaults_annotated, List.findSome?_append,
    List.findSome?_cons, h, h']

/-- Schemas that differ in the annotation of one field have a canonical text both or neither, and
the same one exactly if the texts of the annotations are the same. -/
theorem canonicalText_annotated (hs : s.keys.Nodup) (hn : n ∈ s.keys) {type type' : Value}
    (h : renderFault? type = none) (h' : renderFault? type' = none) :
    ((∃ text, (s.annotated n type).canonicalText = .ok text) ↔
      ∃ text, (s.annotated n type').canonicalText = .ok text) ∧
    ∀ text text', (s.annotated n type).canonicalText = .ok text →
      (s.annotated n type').canonicalText = .ok text' →
        (text = text' ↔ render type = render type') := by
  obtain ⟨C, hC, hfill⟩ := exists_context hs hn
  have hfault := describeFault?_annotated hs hn h h'
  cases hcause : (s.annotated n type').describeFault? with
  | some cause =>
    -- The fault is elsewhere, so neither schema has a text.
    have hnone (type : Value) (hcause : (s.annotated n type).describeFault? = some cause)
        (text : String) : (s.annotated n type).canonicalText ≠ .ok text := by
      rw [canonicalText, describe, hcause]
      intro h
      cases h
    have hleft := hnone type (hfault.trans hcause)
    have hright := hnone type' hcause
    refine ⟨iff_of_false (not_exists.2 hleft) (not_exists.2 hright), fun text _ htext => ?_⟩
    exact absurd htext (hleft text)
  | none =>
    have htext (type : Value) (hcause : (s.annotated n type).describeFault? = none) :
        (s.annotated n type).canonicalText = Json.canonical (C.fill (.text (render type))) := by
      have hdescribe : (s.annotated n type).describe =
          .ok (Descriptor.ofSchema (s.annotated n type)) := by
        rw [describe, hcause]
      rw [canonicalText, hdescribe, ok_bind, hfill]
    simp only [htext type (hfault.trans hcause), htext type' hcause]
    exact ⟨Json.Context.exists_canonical_iff hC _ _, fun _ _ => Json.Context.canonical_eq_iff hC⟩

/-! ## Literal types -/

theorem renderFault?_literalOf {xs : List String} (hxs : xs.Nodup) :
    renderFault? (literalOf (xs.map .text)) = none := by
  rw [literalOf_texts hxs]
  clear hxs
  show Value.printFaultIn (xs.map .text) = none
  induction xs with
  | nil => rfl
  | cons x xs ih => exact ih

/-- Literal types of texts, none of which has a tab before the rest of the module prefix, are told
apart by their texts, and schemas that differ in such a type of one field by their canonical texts,
exactly if the texts in them are not the same without the prefix. So the lists of texts are told
apart whenever the prefix does not occur in them. -/
theorem literals_told_apart (hs : s.keys.Nodup) (hn : n ∈ s.keys) {xs ys : List String}
    (hxs : xs ≠ []) (hys : ys ≠ []) (hxs' : xs.Nodup) (hys' : ys.Nodup)
    (h : ∀ t ∈ xs ++ ys, Untabbed t) :
    (render (literalOf (xs.map .text)) = render (literalOf (ys.map .text)) ↔
      xs.map withoutPrefix = ys.map withoutPrefix) ∧
    ((∃ text, (s.annotated n (literalOf (xs.map .text))).canonicalText = .ok text) ↔
      ∃ text, (s.annotated n (literalOf (ys.map .text))).canonicalText = .ok text) ∧
    (∀ text text', (s.annotated n (literalOf (xs.map .text))).canonicalText = .ok text →
      (s.annotated n (literalOf (ys.map .text))).canonicalText = .ok text' →
        (text = text' ↔ xs.map withoutPrefix = ys.map withoutPrefix)) ∧
    ((∀ t ∈ xs ++ ys, ¬ "typing.".toList <:+: t.toList) →
      (xs.map withoutPrefix = ys.map withoutPrefix ↔ xs = ys)) := by
  have hrender : render (literalOf (xs.map .text)) = render (literalOf (ys.map .text)) ↔
      xs.map withoutPrefix = ys.map withoutPrefix := by
    rw [literalOf_texts hxs', literalOf_texts hys']
    exact render_literal_eq_iff hxs hys h
  obtain ⟨hexists, htexts⟩ := canonicalText_annotated hs hn (renderFault?_literalOf hxs')
    (renderFault?_literalOf hys')
  refine ⟨hrender, hexists, fun text text' htext htext' => (htexts text text' htext htext').trans
    hrender, fun hclean => ?_⟩
  have hself (zs : List String) (hzs : ∀ t ∈ zs, t ∈ xs ++ ys) : zs.map withoutPrefix = zs :=
    (List.map_congr_left fun t ht => withoutPrefix_eq_self (hclean t (hzs t ht))).trans
      (List.map_id zs)
  rw [hself xs fun t => List.mem_append_left _, hself ys fun t => List.mem_append_right _]

/-- The schema of a block with an enforced field of a literal type. -/
def ofLiteral (texts : List String) : Schema :=
  ⟨.text "P", [⟨"n", .missing, literalOf (texts.map .text), literalOf (texts.map .text),
    .bool true⟩], ["n"]⟩

theorem build_ofLiteral (texts : List String) :
    ((Builder.new (.text "P")).after [.declare (.text "n") (literalOf (texts.map .text))
      [(.text "enforce", .bool true)]]).reply .build = .ok (.schema (ofLiteral texts)) := by
  have hread : (FieldOptions.ofEntries [(.text "enforce", .bool true)] false (.text "n")).result =
      .ok ⟨.missing, true⟩ := by
    rw [FieldOptions.result_ofEntries_of_recognised (by simp; rfl)]
    rfl
  exact Builder.build_of_read (by decide +kernel) hread rfl

theorem annotated_ofLiteral (xs ys : List String) :
    (ofLiteral xs).annotated "n" (literalOf (ys.map .text)) = ofLiteral ys := rfl

theorem exists_canonicalText_ofLiteral {texts : List String} (h : texts.Nodup) :
    ∃ text, (ofLiteral texts).canonicalText = .ok text := by
  refine (exists_canonicalText_iff ⟨"P", rfl⟩).2 ?_
  rintro (hfault | ⟨p, hp, hlong⟩)
  · have htypes : (ofLiteral texts).types = [("n", literalOf (texts.map .text))] := rfl
    have hdefaults : (ofLiteral texts).defaults = [("n", .none)] := rfl
    refine hfault ?_
    rw [describeFault?, htypes, hdefaults, List.findSome?_cons, renderFault?_literalOf h]
    rfl
  · obtain rfl := List.mem_singleton.1 hp
    cases hlong

/-- The order of the texts in a literal type is told. -/
theorem literals_told_apart_by_order :
    ∃ text text', (ofLiteral ["a", "b"]).canonicalText = .ok text ∧
      (ofLiteral ["b", "a"]).canonicalText = .ok text' ∧ text ≠ text' := by
  have hxs : ["a", "b"].Nodup := by decide
  have hys : ["b", "a"].Nodup := by decide
  have hclean : ∀ t ∈ ["a", "b"] ++ ["b", "a"],
      Untabbed t ∧ ¬ "typing.".toList <:+: t.toList := by
    unfold Untabbed
    decide +kernel
  obtain ⟨-, -, htexts, hplain⟩ := literals_told_apart (s := ofLiteral []) (n := "n")
    (by decide) (by decide) (by decide) (by decide) hxs hys fun t ht => (hclean t ht).1
  rw [annotated_ofLiteral, annotated_ofLiteral] at htexts
  obtain ⟨text, htext⟩ := exists_canonicalText_ofLiteral hxs
  obtain ⟨text', htext'⟩ := exists_canonicalText_ofLiteral hys
  refine ⟨text, text', htext, htext', fun heq => ?_⟩
  have hsame := (hplain fun t ht => (hclean t ht).2).1 ((htexts _ _ htext htext').1 heq)
  exact absurd hsame (by decide)

/-- Two literal types of one text each have the same text, and the schemas of two blocks that differ
in them have the same canonical text. -/
theorem literals_confused :
    render (literalOf [.text "typing.a"]) = render (literalOf [.text "a"]) ∧
    ∃ text, (ofLiteral ["typing.a"]).canonicalText = .ok text ∧
      (ofLiteral ["a"]).canonicalText = .ok text := by
  have hxs : ["typing.a"].Nodup := List.nodup_singleton _
  have hys : ["a"].Nodup := List.nodup_singleton _
  have hrender : render (literalOf (["typing.a"].map .text)) =
      render (literalOf (["a"].map .text)) := by
    rw [literalOf_texts hxs, literalOf_texts hys]
    refine (render_literal_eq_iff (by decide) (by decide) ?_).2 (by decide +kernel)
    unfold Untabbed
    decide +kernel
  obtain ⟨text, htext⟩ := exists_canonicalText_ofLiteral hxs
  obtain ⟨text', htext'⟩ := exists_canonicalText_ofLiteral hys
  obtain ⟨-, htexts⟩ := canonicalText_annotated (s := ofLiteral []) (n := "n") (by decide)
    (by decide) (renderFault?_literalOf hxs) (renderFault?_literalOf hys)
  rw [annotated_ofLiteral, annotated_ofLiteral] at htexts
  obtain rfl := (htexts _ _ htext htext').2 hrender
  exact ⟨hrender, text, htext, htext'⟩

end Schema

end RecordSchema
