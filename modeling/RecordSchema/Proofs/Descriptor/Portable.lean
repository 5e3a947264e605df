import RecordSchema.Proofs.Descriptor.Export

/-!
# Defaults that any reader of JSON takes

The plain form of a value is portable: made up of `None`, truth values, numbers, texts, lists and
mappings from texts, however deep anything else stood in the value (`Value.isPortable_plain`).
Portable values are left as they are, up to the storage of their lists
(`Value.IsPortable.plain_eq`), so a plain form is its own plain form. Tame values can also be
printed where they have to be, and their integers can be written (`Value.IsTame`). A schema with
tame defaults has a canonical text and a fingerprint exactly if the texts of its types can be
printed (`Schema.fingerprinted`).
-/

set_option autoImplicit false

namespace RecordSchema

open RecordSchema.Text

namespace Value

/-! ## Portable values -/

/-- A value built from scalars that JSON has, lists, and mappings from texts. -/
inductive IsPortable : Value → Prop where
  | none : IsPortable .none
  | bool (b : Bool) : IsPortable (.bool b)
  | int (n : Int) : IsPortable (.int n)
  | real (x : Binary64) : IsPortable (.real x)
  | text (s : String) : IsPortable (.text s)
  | list (label : Nat) {items : List Value} (each : ∀ v ∈ items, IsPortable v) :
      IsPortable (.list label items)
  | mapping {entries : List (Value × Value)} (texts : ∀ e ∈ entries, ∃ s, e.1 = .text s)
      (each : ∀ e ∈ entries, IsPortable e.2) : IsPortable (.mapping entries)

/-- What is made plain is portable. -/
theorem isPortable_plain (v : Value) : (plain v).IsPortable := by
  have hitems {items : List Value} (ih : ∀ v ∈ items, (plain v).IsPortable) :
      (Value.ofList (plainAll items)).IsPortable := by
    apply IsPortable.list
    rw [plainAll_eq_map, List.forall_mem_map]
    exact ih
  induction v using induction_on_parts with
  | int n => exact .int n
  | real x => exact .real x
  | list _ items ih => exact hitems ih
  | tuple items ih => exact hitems ih
  | mapping entries ih =>
    rw [plain]
    -- With texts as keys it stays a mapping; otherwise it becomes a text.
    split
    · next htexts =>
      rw [plainEntries_eq_map]
      apply IsPortable.mapping
      · rw [List.forall_mem_map]
        exact exists_text_of_all htexts
      · rw [List.forall_mem_map]
        exact ih
    · exact .text _
  | printed v hv =>
    rcases plain_of_isPrinted hv with rfl | ⟨b, rfl⟩ | ⟨s, hs⟩
    · exact .none
    · exact .bool b
    · rw [hs]
      exact .text s

/-- Portable values are kept, with lists of their own. -/
theorem IsPortable.plain_eq {v : Value} (h : v.IsPortable) : plain v = v.contents := by
  induction h with
  | list label _ ih =>
    rw [plain, contents, plainAll_eq_map, contentsAll_eq_map, List.map_congr_left ih]
    rfl
  | mapping texts _ ih =>
    rw [plain_mapping_of_texts texts, contents, contentsEntries_eq_map]
    exact congrArg Value.mapping (List.map_congr_left fun e he => by rw [ih e he])
  | _ => rfl

/-- The lists of a plain form are new, so there is nothing left of their storage. -/
theorem contents_plain (v : Value) : (plain v).contents = plain v := by
  have hitems {items : List Value} (ih : ∀ v ∈ items, (plain v).contents = plain v) :
      (Value.ofList (plainAll items)).contents = .ofList (plainAll items) := by
    rw [ofList, contents, contentsAll_eq_map, plainAll_eq_map, List.map_map]
    exact congrArg (Value.list 0) (List.map_congr_left ih)
  induction v using induction_on_parts with
  | list _ items ih => exact hitems ih
  | tuple items ih => exact hitems ih
  | mapping entries ih =>
    rw [plain]
    split
    · rw [contents, contentsEntries_eq_map, plainEntries_eq_map, List.map_map]
      exact congrArg Value.mapping (List.map_congr_left fun e he => by
        rw [Function.comp_apply, ih e he])
    · rfl
  | int _ | real _ => rfl
  | printed v hv =>
    rcases plain_of_isPrinted hv with rfl | ⟨b, rfl⟩ | ⟨s, hs⟩
    · rfl
    · rfl
    · rw [hs]
      rfl

/-- Making plain comes to rest after the first time. -/
theorem plain_plain (v : Value) : plain (plain v) = plain v := by
  rw [(isPortable_plain v).plain_eq, contents_plain]

/-! ## Faults -/

theorem plainFaultIn_eq_none_iff {items : List Value} :
    plainFaultIn items = Option.none ↔ ∀ v ∈ items, plainFault? v = Option.none := by
  induction items with
  | nil => simp [plainFaultIn]
  | cons v items ih => rw [plainFaultIn, Option.or_eq_none_iff, ih, List.forall_mem_cons]

theorem plainFaultInEntries_eq_none_iff {entries : List (Value × Value)} :
    plainFaultInEntries entries = Option.none ↔
      ∀ e ∈ entries, plainFault? e.2 = Option.none := by
  induction entries with
  | nil => simp [plainFaultInEntries]
  | cons e entries ih => rw [plainFaultInEntries, Option.or_eq_none_iff, ih, List.forall_mem_cons]

theorem plainFault?_mapping_of_texts {entries : List (Value × Value)}
    (h : ∀ e ∈ entries, ∃ s, e.1 = .text s) :
    plainFault? (.mapping entries) = plainFaultInEntries entries := by
  rw [plainFault?]
  exact if_pos (all_isText h)

theorem plainFault?_of_isPrinted {v : Value} (h : v.isPrinted = true) :
    plainFault? v = v.printFault? := by
  cases v <;> first | rfl | cases h

/-- Nothing goes wrong with making plain what is portable already, however long its integers are. -/
theorem IsPortable.plainFault?_eq_none {v : Value} (h : v.IsPortable) :
    plainFault? v = Option.none := by
  induction h with
  | list _ _ ih => exact plainFaultIn_eq_none_iff.2 ih
  | mapping texts _ ih =>
    rw [plainFault?_mapping_of_texts texts]
    exact plainFaultInEntries_eq_none_iff.2 ih
  | _ => rfl

/-! ## Tame values -/

/-- A value built from scalars, objects that can be printed, and collections of any kind; its
integers can be written. -/
inductive IsTame : Value → Prop where
  | int {n : Int} (writable : Numeral.isWritable n = true) : IsTame (.int n)
  | real (x : Binary64) : IsTame (.real x)
  | list (label : Nat) {items : List Value} (each : ∀ v ∈ items, IsTame v) :
      IsTame (.list label items)
  | tuple {items : List Value} (each : ∀ v ∈ items, IsTame v) : IsTame (.tuple items)
  | set {items : List Value} (each : ∀ v ∈ items, IsTame v) : IsTame (.set items)
  | frozenSet {items : List Value} (each : ∀ v ∈ items, IsTame v) : IsTame (.frozenSet items)
  | mapping {entries : List (Value × Value)} (keys : ∀ e ∈ entries, IsTame e.1)
      (each : ∀ e ∈ entries, IsTame e.2) : IsTame (.mapping entries)
  /-- `None`, a truth value, a text, bytes, a date, a decimal number or any other object. -/
  | other {v : Value} (printed : v.isPrinted = true) (printable : v.printFault? = Option.none) :
      IsTame v

variable {v : Value}

/-- A tame value can be printed. -/
theorem IsTame.printFault?_eq_none (h : v.IsTame) : v.printFault? = Option.none := by
  induction h with
  | int writable => rw [printFault?, if_pos writable]
  | real _ => rfl
  | list _ _ ih => exact printFaultIn_eq_none_iff.2 ih
  | tuple _ ih => exact printFaultIn_eq_none_iff.2 ih
  | set _ ih => exact printFaultIn_eq_none_iff.2 ih
  | frozenSet _ ih => exact printFaultIn_eq_none_iff.2 ih
  | mapping _ _ ihKeys ih =>
    exact printFaultInEntries_eq_none_iff.2 fun e he => ⟨ihKeys e he, ih e he⟩
  | other _ printable => exact printable

/-- A tame value can be made plain: what becomes its printed form there can be printed. -/
theorem IsTame.plainFault?_eq_none (h : v.IsTame) : plainFault? v = Option.none := by
  induction h with
  | int _ | real _ => rfl
  | list _ _ ih => exact plainFaultIn_eq_none_iff.2 ih
  | tuple _ ih => exact plainFaultIn_eq_none_iff.2 ih
  | set each _ => exact (IsTame.set each).printFault?_eq_none
  | frozenSet each _ => exact (IsTame.frozenSet each).printFault?_eq_none
  | mapping keys each _ ih =>
    rw [plainFault?]
    split
    · exact plainFaultInEntries_eq_none_iff.2 ih
    · exact (IsTame.mapping keys each).printFault?_eq_none
  | other printed printable => rw [plainFault?_of_isPrinted printed, printable]

/-- No integer in a tame value has too many digits. -/
theorem IsTame.not_holdsLong (h : v.IsTame) : ¬ v.HoldsLong := by
  induction h with
  | int writable => exact not_holdsLong_int_iff.2 writable
  | list _ _ ih => exact not_holdsLong_list_iff.2 ih
  | tuple _ ih => exact not_holdsLong_tuple_iff.2 ih
  | mapping _ _ _ ih =>
    intro hlong
    cases hlong with
    | mapping _ mem inside => exact ih _ mem inside
  | real _ | set _ _ | frozenSet _ _ =>
    intro hlong
    cases hlong
  | other printed _ =>
    intro hlong
    cases hlong <;> cases printed

/-- A mapping of two entries is tame if their four parts are. -/
theorem isTame_pair {k k' v v' : Value} (hk : k.IsTame) (hv : v.IsTame) (hk' : k'.IsTame)
    (hv' : v'.IsTame) : (Value.mapping [(k, v), (k', v')]).IsTame := by
  apply IsTame.mapping
  · simp only [List.forall_mem_cons, List.not_mem_nil, false_implies, implies_true, and_true]
    exact ⟨hk, hk'⟩
  · simp only [List.forall_mem_cons, List.not_mem_nil, false_implies, implies_true, and_true]
    exact ⟨hv, hv'⟩

end Value

/-! ## Schemas -/

namespace Schema

variable {s : Schema}

/-- With tame defaults, only the types can be without a text. -/
theorem describeFault?_eq_none_iff_of_tame (h : ∀ p ∈ s.defaults, p.2.IsTame) :
    s.describeFault? = none ↔ ∀ p ∈ s.types, TypeTerm.renderFault? p.2 = none := by
  rw [describeFault?, Option.or_eq_none_iff, List.findSome?_eq_none_iff,
    List.findSome?_eq_none_iff]
  exact and_iff_left fun p hp => (h p hp).plainFault?_eq_none

/-- With tame defaults and types that can be printed, a schema under a text has a fingerprint. -/
theorem exists_hash_of_tame (hname : ∃ title, s.name = .text title)
    (h : ∀ p ∈ s.defaults, p.2.IsTame) (htypes : ∀ p ∈ s.types, TypeTerm.renderFault? p.2 = none) :
    ∃ f, s.hash = .ok f := by
  apply (exists_hash_iff hname).2
  rintro (hne | ⟨p, hp, hlong⟩)
  · exact hne ((describeFault?_eq_none_iff_of_tame h).2 htypes)
  · exact (h p hp).not_holdsLong hlong

/-- A schema that has a fingerprint has it over the canonical text of its descriptor. -/
theorem exists_canonical_of_hash {h : String} (hhash : s.hash = .ok h) :
    ∃ d text, s.describe = .ok d ∧ Json.canonical d.toValue = .ok text ∧
      h = Sha256.hex (Utf8.encodeText text) := by
  obtain ⟨d, hd, hhash⟩ := bind_eq_ok_iff.1 hhash
  obtain ⟨text, htext, hhash⟩ := bind_eq_ok_iff.1 hhash
  exact ⟨d, text, hd, htext, (Except.ok.inj hhash).symm⟩

/-- **Every schema of tame defaults has a fingerprint.** A tame value can be made plain; what it
becomes is portable, and stays as it is when it is made plain again, as portable values do. So a
schema of a block under a text, with tame defaults, has a descriptor, a canonical text and a
fingerprint, unless the text of a type in effect cannot be printed; then it is refused for that. -/
theorem fingerprinted :
    (∀ v : Value, v.IsTame →
      plainFault? v = none ∧ (plain v).IsPortable ∧ plain (plain v) = plain v) ∧
    (∀ v : Value, v.IsPortable → plainFault? v = none ∧ plain v = v.contents) ∧
    ∀ s : Schema, s.IsEmitted → (∀ p ∈ s.defaults, p.2.IsTame) →
      ((∀ p ∈ s.types, TypeTerm.renderFault? p.2 = none) ∧
        ∃ d text, s.describe = .ok d ∧ Json.canonical d.toValue = .ok text ∧
          s.hash = .ok (Sha256.hex (Utf8.encodeText text))) ∨
      ((∃ p ∈ s.types, TypeTerm.renderFault? p.2 ≠ none) ∧
        ∃ cause, s.describe = .error cause ∧ s.hash = .error cause) := by
  refine ⟨fun v hv => ⟨hv.plainFault?_eq_none, v.isPortable_plain, v.plain_plain⟩,
    fun v hv => ⟨hv.plainFault?_eq_none, hv.plain_eq⟩, ?_⟩
  intro s hs htame
  have hfault := describeFault?_eq_none_iff_of_tame htame
  cases hcause : s.describeFault? with
  | none =>
    have htypes := hfault.1 hcause
    obtain ⟨f, hhash⟩ := exists_hash_of_tame hs.named.1 htame htypes
    obtain ⟨d, text, hd, htext, rfl⟩ := exists_canonical_of_hash hhash
    exact .inl ⟨htypes, d, text, hd, htext, hhash⟩
  | some cause =>
    have hdescribe : s.describe = .error cause := by rw [describe, hcause]
    refine .inr ⟨?_, cause, hdescribe, by rw [hash, hdescribe]; rfl⟩
    by_contra hnone
    have hprinted : ∀ p ∈ s.types, TypeTerm.renderFault? p.2 = none := by
      intro p hp
      by_contra hne
      exact hnone ⟨p, hp, hne⟩
    cases hcause.symm.trans (hfault.2 hprinted)

/-- A block with one field that has a default, so that its annotation is left as it is. -/
def annotatedField (type default : Value) : List Call :=
  [.declare (.text "n") type [(.text "default", default)]]

/-- The schema of that block. -/
def annotatedSchema (type default : Value) : Schema :=
  ⟨.text "P", [⟨"n", default, type, type, .bool false⟩], []⟩

theorem build_annotatedField (type : Value) {default : Value} (h : isGiven default = true) :
    ((Builder.new (.text "P")).after (annotatedField type default)).reply .build =
      .ok (.schema (annotatedSchema type default)) :=
  Builder.build_of_default (by decide +kernel) type h

/-- A value in which everything else stands inside of what is portable: a mapping from numbers, a
set and bytes. -/
def mixedDefault : Value :=
  .mapping [(.text "a", .list 3 [.mapping [(.int 1, .none), (.bool false, .set [.int 2])],
    .tuple [.text "b", .real (.nan 0)]]), (.text "c", .bytes [7])]

theorem isTame_mixedDefault : mixedDefault.IsTame := by
  have hnumbers : (Value.mapping [(.int 1, .none), (.bool false, .set [.int 2])]).IsTame :=
    Value.isTame_pair (.int (by decide)) (.other rfl rfl) (.other rfl rfl)
      (.set (List.forall_mem_singleton.2 (.int (by decide))))
  have hpair : (Value.tuple [.text "b", .real (.nan 0)]).IsTame := by
    apply Value.IsTame.tuple
    simp only [List.forall_mem_cons, List.not_mem_nil, false_implies, implies_true, and_true]
    exact ⟨.other rfl rfl, .real _⟩
  refine Value.isTame_pair (.other rfl rfl) (.list 3 ?_) (.other rfl rfl) (.other rfl rfl)
  simp only [List.forall_mem_cons, List.not_mem_nil, false_implies, implies_true, and_true]
  exact ⟨hnumbers, hpair⟩

/-- The schema of such a default has a fingerprint. -/
theorem fingerprinted_mixedDefault :
    mixedDefault.IsTame ∧ (annotatedSchema (.text "dict") mixedDefault).IsEmitted ∧
    plain mixedDefault = .mapping [(.text "a", .ofList [.text "{1: None, False: {2}}",
      .ofList [.text "b", .real (.nan 0)]]), (.text "c", .text "b'\\x07'")] ∧
    ∃ h, (annotatedSchema (.text "dict") mixedDefault).hash = .ok h := by
  have hemitted : (annotatedSchema (.text "dict") mixedDefault).IsEmitted :=
    ⟨"P", _, _, _, build_annotatedField _ rfl⟩
  refine ⟨isTame_mixedDefault, hemitted, rfl, ?_⟩
  rcases fingerprinted.2.2 _ hemitted (List.forall_mem_singleton.2 isTame_mixedDefault) with
    ⟨-, _, _, -, -, hhash⟩ | ⟨⟨p, hp, hne⟩, -⟩
  · exact ⟨_, hhash⟩
  · obtain rfl := List.mem_singleton.1 hp
    exact absurd rfl hne

/-- A record that cannot be printed may be an annotation, and then there is neither a descriptor nor
a fingerprint, although the default is a number. It may be a default too. -/
theorem no_fingerprint_of_stray_record :
    (annotatedSchema Builder.strayRecord (.int 5)).IsEmitted ∧
    (∀ p ∈ (annotatedSchema Builder.strayRecord (.int 5)).defaults, p.2.IsTame) ∧
    (annotatedSchema Builder.strayRecord (.int 5)).describe = .error .absentAttribute ∧
    (annotatedSchema Builder.strayRecord (.int 5)).hash = .error .absentAttribute ∧
    (annotatedSchema (.text "int") Builder.strayRecord).IsEmitted ∧
    (annotatedSchema (.text "int") Builder.strayRecord).hash = .error .absentAttribute := by
  refine ⟨⟨"P", _, _, _, build_annotatedField _ rfl⟩, ?_, rfl, rfl,
    ⟨"P", _, _, _, build_annotatedField _ rfl⟩, rfl⟩
  exact List.forall_mem_singleton.2 (.int (by decide))

end Schema

end RecordSchema
