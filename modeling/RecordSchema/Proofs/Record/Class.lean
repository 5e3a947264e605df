import RecordSchema.Proofs.Block.Emission
import RecordSchema.Record.Construction

/-!
# The class of a schema

A name that a block takes is allowed (`Accumulator.Allows`, which every call keeps), so it can be a
parameter and is none of the names between double underscores that a class keeps for itself. A
schema that a block gives has distinct names of that kind (`Builder.isNamed_of_build`). It has a
class unless one of them is the name that the record has among the parameters of its constructor
(`RecordType.create_of_isNamed`).
-/

set_option autoImplicit false

namespace RecordSchema

/-! ## Names of fields -/

/-- All fields of an accumulator have names that a policy allows. -/
def Accumulator.Allows (a : Accumulator) (policy : NamePolicy) : Prop :=
  ∀ f ∈ a.fields, FieldName.isAllowed f.name policy = true

namespace Builder

/-- A declaration that makes a field gives it a name that the block allows. -/
theorem isAllowed_of_resolve {b : Builder} {name type : Value} {options : List (Value × Value)}
    {f : Field} (h : (b.resolve name type options).result = .ok f) :
    FieldName.isAllowed f.name b.policy = true := by
  rw [result_resolve, bind_eq_ok_iff] at h
  obtain ⟨read, -, h⟩ := h
  obtain ⟨checked, hchecked, h⟩ := bind_eq_ok_iff.1 h
  obtain ⟨effective, -, h⟩ := bind_eq_ok_iff.1 h
  have hname := FieldName.ofValue?_eq_some_iff.1 (validateName_eq_ok_iff.1 hchecked).1
  rw [← Except.ok.inj h]
  exact hname.2

theorem Step.policy_eq {b b' : Builder} {c : Call} {r : Except Error Given} (h : Step b c b' r) :
    b'.policy = b.policy := by
  cases h <;> rfl

/-- A call leaves only allowed names in the accumulator. -/
theorem Step.allows {b b' : Builder} {c : Call} {r : Except Error Given} (h : Step b c b' r)
    (hb : b.state.Allows b.policy) : b'.state.Allows b'.policy := by
  rw [h.policy_eq]
  cases h with
  | make _ _ made =>
    intro f hf
    rcases List.mem_append.1 hf with hold | hnew
    · exact hb f hold
    · rw [List.mem_singleton.1 hnew]
      exact isAllowed_of_resolve made
  | refuse _ | late _ _ | abort _ _ _ _ | spare _ _ _ _ | finish _ _ _ | again _ _
  | stuck _ _ _ => exact hb

theorem allows_after {b : Builder} (hb : b.state.Allows b.policy) (calls : List Call) :
    (b.after calls).state.Allows (b.after calls).policy := by
  induction calls generalizing b with
  | nil => exact hb
  | cons c calls ih => exact ih ((step_call b c).allows hb)

end Builder

/-! ## Schemas of blocks -/

/-- A schema as blocks give it: its fields have distinct allowed names, and those that are enforced
are the ones required. -/
structure Schema.IsSound (s : Schema) : Prop where
  allowed : ∀ n ∈ s.keys, ∃ policy, FieldName.isAllowed n policy = true
  distinct : s.keys.Nodup
  required : s.required = (s.fields.filter (·.isEnforced)).map (·.name)

/-- A schema whose fields have distinct names, those that are enforced being the ones required. The
names may be any. -/
structure Schema.IsRegular (s : Schema) : Prop where
  distinct : s.keys.Nodup
  required : s.required = (s.fields.filter (·.isEnforced)).map (·.name)

/-- A field is required exactly if it is enforced. -/
theorem Schema.IsRegular.isRequired_eq {s : Schema} (hs : s.IsRegular) {f : Field}
    (hf : f ∈ s.fields) : s.isRequired f.name = f.isEnforced := by
  rw [Bool.eq_iff_iff, Schema.isRequired, List.contains_iff_mem, hs.required]
  exact Schema.mem_map_filter_of_nodup hs.distinct hf _

/-- A block gives sound schemas under its name. -/
theorem Builder.isSound_of_build {name strict : Value} {policy : NamePolicy} {calls : List Call}
    {s : Schema}
    (h : ((Builder.new name strict policy).after calls).reply .build = .ok (.schema s)) :
    s.name = name ∧ s.IsSound := by
  obtain ⟨rfl, hname, hkeeps⟩ := keeps_of_build h
  have hallows := allows_after (b := Builder.new name strict policy)
    (fun f hf => absurd hf List.not_mem_nil) calls
  refine ⟨hname, fun n hn => ?_, hkeeps.keys_nodup, hkeeps.required⟩
  obtain ⟨f, hf, rfl⟩ := List.mem_map.1 hn
  exact ⟨_, hallows f hf⟩

/-! ## Classes without a body -/

/-- A schema as blocks give it: its name is a text that a class can have, and its fields have
distinct allowed names. -/
structure Schema.IsNamed (s : Schema) (title : String) : Prop where
  name_eq : s.name = .text title
  plain : '\x00' ∉ title.toList
  allowed : ∀ n ∈ s.keys, ∃ policy, FieldName.isAllowed n policy = true
  distinct : s.keys.Nodup

/-- Blocks under a text give such schemas. -/
theorem Builder.isNamed_of_build {title : String} {strict : Value} {policy : NamePolicy}
    {calls : List Call} {s : Schema} (hplain : '\x00' ∉ title.toList)
    (h : ((Builder.new (.text title) strict policy).after calls).reply .build = .ok (.schema s)) :
    s.IsNamed title := by
  obtain ⟨hname, hs⟩ := isSound_of_build h
  exact ⟨hname, hplain, hs.allowed, hs.distinct⟩

section Names

variable {n : String} {policy : NamePolicy}

theorem FieldName.isDunder_of_isAllowed (h : FieldName.isAllowed n policy = true) :
    FieldName.isDunder n = false := by
  simp only [FieldName.isAllowed, Bool.and_eq_true, Bool.not_eq_true'] at h
  exact h.1.2

/-- An allowed name can be a parameter. -/
theorem RecordType.checkParameter_of_isAllowed (h : FieldName.isAllowed n policy = true) :
    RecordType.checkParameter n = .ok () := by
  simp only [FieldName.isAllowed, Bool.and_eq_true, Bool.not_eq_true'] at h
  obtain ⟨⟨⟨hident, hfree⟩, -⟩, -⟩ := h
  have hne : n ≠ "" := by
    rintro rfl
    cases hident
  simp [RecordType.checkParameter, hne, hfree, hident]

end Names

namespace RecordType

theorem forM_eq_ok {α ε : Type} {check : α → Except ε Unit} {as : List α}
    (h : ∀ a ∈ as, check a = .ok ()) : as.forM check = .ok () := by
  induction as with
  | nil => rfl
  | cons a as ih =>
    show (check a >>= fun _ => as.forM check) = _
    rw [h a (List.mem_cons_self ..), ok_bind]
    exact ih fun b hb => h b (List.mem_cons_of_mem _ hb)

theorem eq_ok_of_forM {α ε : Type} {check : α → Except ε Unit} {as : List α}
    (h : as.forM check = .ok ()) {a : α} (ha : a ∈ as) : check a = .ok () := by
  induction as with
  | nil => cases ha
  | cons b as ih =>
    obtain ⟨⟨⟩, hb, hrest⟩ :=
      bind_eq_ok_iff.1 (show (check b >>= fun _ => as.forM check) = _ from h)
    rcases List.mem_cons.1 ha with rfl | ha
    · exact hb
    · exact ih hrest ha

/-- Distinct allowed names are usable together unless one of them is that of the record. -/
theorem checkParameters_of_isNamed {s : Schema} {title : String} (hs : s.IsNamed title) :
    checkParameters s.keys = if receiver ∈ s.keys then .error .badValue else .ok () := by
  have hall : s.keys.forM checkParameter = .ok () := by
    refine forM_eq_ok fun n hn => ?_
    obtain ⟨policy, hallowed⟩ := hs.allowed n hn
    exact checkParameter_of_isAllowed hallowed
  unfold checkParameters
  rw [hall, ok_bind]
  by_cases hself : receiver ∈ s.keys
  · simp [List.nodup_cons, hself]
    rfl
  · simp [List.nodup_cons, hself, hs.distinct]
    rfl

theorem checkTitle_of_isNamed {s : Schema} {title : String} (hs : s.IsNamed title) :
    checkTitle s.name = .ok title := by
  simp [hs.name_eq, checkTitle, String.contains_char_eq, hs.plain]

end RecordType

/-- Every class without a body has the same names in its namespace. -/
theorem ClassBody.namespaceFor_empty (s : Schema) :
    ({} : ClassBody).namespaceFor s =
      [("__schema__", .schema),
       ("__annotations__", annotationsFor s),
       ("__init__", .code .method .initialise),
       ("__match_args__", .data (.tuple (s.keys.map .text))),
       ("__keys__", .code .classMethod .listKeys),
       ("__defaults__", .code .classMethod .listDefaults),
       ("__types__", .code .classMethod .listTypes),
       ("__repr__", .code .method .printFields),
       ("__eq__", .code .method .compareFields),
       ("__hash__", .data .none),
       ("__module__", .data (.text defaultModule)),
       ("__doc__", .data .none),
       ("__dict__", .attributes),
       ("__weakref__", .reference)] := by
  simp [ClassBody.namespaceFor, Namespace.erase, Schema.putAll, Schema.put, Namespace.putDefault,
    Namespace.has, Value.lookup]

/-- All names in the namespace of a class without a body stand between double underscores. -/
theorem ClassBody.isDunder_of_mem {s : Schema} {m : String × Member}
    (hm : m ∈ ({} : ClassBody).namespaceFor s) : FieldName.isDunder m.1 = true := by
  have hall : ∀ n ∈ ["__schema__", "__annotations__", "__init__", "__match_args__", "__keys__",
      "__defaults__", "__types__", "__repr__", "__eq__", "__hash__", "__module__", "__doc__",
      "__dict__", "__weakref__"], FieldName.isDunder n = true := by decide
  refine hall m.1 ?_
  rw [namespaceFor_empty] at hm
  simpa using List.mem_map_of_mem (f := Prod.fst) hm

/-- A class that has nothing but what the schema gives it. -/
structure RecordType.IsPlain (t : RecordType) (id : Nat) (s : Schema) : Prop where
  id_eq : t.identity.id = id
  schema_eq : t.schema = s
  members_eq : t.members = ({} : ClassBody).namespaceFor s
  hasSchema : t.identity.hasSchema = true
  isReadable : t.identity.isReadable = true

namespace RecordType

/-- The class of a schema by itself, before it is settled what its identity has. -/
def bare (id : Nat) (s : Schema) (title : String) : RecordType where
  identity := { id, title, name := ⟨ClassBody.defaultModule, title⟩, keys := s.keys }
  schema := s
  constructorName := title ++ ".__init__"
  signature := parameters s
  members := ({} : ClassBody).namespaceFor s

@[simp] theorem members_settled (t : RecordType) : t.settled.members = t.members := rfl

@[simp] theorem schema_settled (t : RecordType) : t.settled.schema = t.schema := rfl

@[simp] theorem id_settled (t : RecordType) : t.settled.identity.id = t.identity.id := rfl

@[simp] theorem hasSchema_settled (t : RecordType) :
    t.settled.identity.hasSchema = t.members.hasSchema := rfl

@[simp] theorem isReadable_settled (t : RecordType) :
    t.settled.identity.isReadable = !t.members.has "__getattribute__" := rfl

theorem isPlain_bare (id : Nat) (s : Schema) (title : String) :
    (bare id s title).settled.IsPlain id s := by
  have hmembers : (bare id s title).members = ({} : ClassBody).namespaceFor s := by
    simp only [bare]
  constructor
  · simp only [id_settled, bare]
  · simp only [schema_settled, bare]
  · rw [members_settled, hmembers]
  · rw [hasSchema_settled, hmembers, ClassBody.namespaceFor_empty]
    simp [Namespace.hasSchema, Namespace.member?, Value.lookup]
  · rw [isReadable_settled, hmembers, ClassBody.namespaceFor_empty]
    simp [Namespace.has, Value.lookup]

/-- A schema has a class if its fields can be parameters and its name can be that of a class. -/
theorem create_of_checked {s : Schema} {title : String} (hkeys : checkParameters s.keys = .ok ())
    (hname : checkTitle s.name = .ok title) (id : Nat) :
    create id s {} = .ok (bare id s title).settled := by
  unfold create
  rw [hkeys, ok_bind, hname, ok_bind]
  rfl

/-- A schema with distinct allowed names has a class unless a name is that of the record. -/
theorem create_of_isNamed {s : Schema} {title : String} (hs : s.IsNamed title) (id : Nat) :
    create id s {} =
      if receiver ∈ s.keys then .error .badValue else .ok (bare id s title).settled := by
  have hkeys := checkParameters_of_isNamed hs
  by_cases hself : receiver ∈ s.keys
  · rw [if_pos hself] at hkeys
    rw [if_pos hself, create, hkeys]
    rfl
  · rw [if_neg hself] at hkeys
    rw [if_neg hself, create_of_checked hkeys (checkTitle_of_isNamed hs)]

/-- The class keeps nothing under a name that is free for a field. -/
theorem IsPlain.member?_eq_none {t : RecordType} {id : Nat} {s : Schema} (ht : t.IsPlain id s)
    {n : String} (hn : FieldName.isDunder n = false) : t.member? n = none := by
  rw [member?, ht.members_eq, Namespace.member?, Value.lookup, Option.map_eq_none_iff,
    List.find?_eq_none]
  intro m hm heq
  have hdunder := ClassBody.isDunder_of_mem hm
  rw [eq_of_beq heq, hn] at hdunder
  cases hdunder

theorem IsPlain.has_eq_false {t : RecordType} {id : Nat} {s : Schema} (ht : t.IsPlain id s)
    {n : String} (hn : n ∈ ["__new__", "__setattr__"]) : t.members.has n = false := by
  rw [ht.members_eq, ClassBody.namespaceFor_empty]
  simp only [List.mem_cons, List.not_mem_nil, or_false] at hn
  rcases hn with rfl | rfl <;> simp [Namespace.has, Value.lookup]

theorem IsPlain.member?_initialise {t : RecordType} {id : Nat} {s : Schema}
    (ht : t.IsPlain id s) : t.member? "__init__" = some (.code .method .initialise) := by
  rw [member?, ht.members_eq, ClassBody.namespaceFor_empty]
  simp [Namespace.member?, Value.lookup]

end RecordType

end RecordSchema
