import RecordSchema.Proofs.Record.Ordinary
import RecordSchema.Proofs.TypeTerm.Primitive
import RecordSchema.Session.Blocks

/-!
# From a block to a record

A schema that a block gives becomes a record class, a call of the class with a value for every field
makes a record, and the record lists the fields with these values (`Builder.listed_of_build`). None
of the steps comes upon a name that the class keeps for itself, since such names are not allowed for
fields. One name is allowed that should not be: the parameter of the constructor that stands for the
record is called `self`, and a schema with a field of that name has no class.
-/

set_option autoImplicit false

namespace RecordSchema

/-! ## Values for every field -/

/-- Values by name, one for each field of a schema, in any order. -/
def Schema.Covers (s : Schema) (given : List (String × Value)) : Prop :=
  (given.map Prod.fst).Perm s.keys

/-- The fields of a schema in their order, each with the value given for it. -/
def Schema.arranged (s : Schema) (given : List (String × Value)) : List (String × Value) :=
  s.keys.map fun n => (n, (Value.lookup n given).getD .none)

namespace Schema

variable {s : Schema} {given : List (String × Value)}

theorem keys_arranged (s : Schema) (given : List (String × Value)) :
    (s.arranged given).map Prod.fst = s.keys := by
  rw [arranged, List.map_map]
  exact List.map_id'' (fun _ => rfl) s.keys

theorem Covers.mem_iff (h : s.Covers given) {n : String} :
    n ∈ given.map Prod.fst ↔ n ∈ s.keys := List.Perm.mem_iff h

theorem Covers.isSome_lookup (h : s.Covers given) {n : String} (hn : n ∈ s.keys) :
    (Value.lookup n given).isSome = true := isSome_lookup_iff.2 (h.mem_iff.2 hn)

/-- Values in the order of the fields are arranged already. -/
theorem arranged_eq_self (hs : s.keys.Nodup) (h : given.map Prod.fst = s.keys) :
    s.arranged given = given := by
  rw [arranged, ← h]
  exact map_lookup_of_nodup (h ▸ hs) .none

/-- Arranging the values only brings them into another order. -/
theorem Covers.arranged_perm (h : s.Covers given) (hs : s.keys.Nodup) :
    (s.arranged given).Perm given :=
  (h.symm.map _).trans (.of_eq (map_lookup_of_nodup (h.nodup_iff.2 hs) .none))

end Schema

/-! ## Making a record -/

namespace RecordType

variable {t : RecordType} {id : Nat} {s : Schema} {title : String} {given : List (String × Value)}

/-- What a record of a class is made with: the values given, in the order of the fields. -/
theorem fill_of_covers (hs : s.keys.Nodup) (ht : t.schema = s) (h : s.Covers given) :
    t.fill given = .ok (s.arranged given) := by
  have hunexpected : t.unexpected given = [] := by
    refine List.filter_eq_nil_iff.2 fun n hn => ?_
    have hkey : n ∈ s.keys := h.mem_iff.1 hn
    simp [ht, hkey]
  have habsent : t.absent given = [] := by
    refine List.filter_eq_nil_iff.2 fun n hn => ?_
    rw [ht] at hn
    have hsome := h.isSome_lookup hn
    simp [Option.isNone_eq_false_iff.2 hsome]
  unfold fill
  rw [hunexpected, habsent, ht, Schema.defaults_eq_map hs, Schema.arranged, Schema.keys,
    List.map_map, List.map_map]
  refine congrArg Except.ok (List.map_congr_left fun f hf => ?_)
  -- A default is only looked at where no value is given.
  have hsome := h.isSome_lookup (n := f.name) (List.mem_map_of_mem hf)
  obtain ⟨v, hv⟩ := Option.isSome_iff_exists.1 hsome
  simp [hv]

/-- Keywords with distinct names, none of them that of the record, are taken as they are. -/
theorem bindArguments_of_nodup (hgiven : (given.map Prod.fst).Nodup)
    (hself : receiver ∉ given.map Prod.fst) : bindArguments [] given = .ok given := by
  simp [bindArguments, Schema.isNone_lookup_iff.2 hself, Schema.putAll_of_nodup hgiven]

theorem bindArguments_of_covers (hs : s.keys.Nodup) (hself : receiver ∉ s.keys)
    (h : s.Covers given) : bindArguments [] given = .ok given :=
  bindArguments_of_nodup ((List.Perm.nodup_iff h).2 hs) (h.mem_iff.not.2 hself)

end RecordType

namespace Session

variable {t : RecordType} {id : Nat} {s : Schema} {title : String} {given : List (String × Value)}

/-- Makes a record from values by name and lists the values of its fields. -/
def makeAndList (id : Nat) (given : List (String × Value)) : Act (List (String × Value)) := do
  fieldsOf (← (← make (.recordType id) [] given).toValue)

/-- A class that can be made is put under a new number. -/
theorem runs_createType_of_create {body : ClassBody} {σ : Session}
    (h : RecordType.create (σ.last + 1) s body = .ok t) :
    Runs (createType s body) σ (.ok t)
      { σ with last := σ.last + 1, types := σ.types.set t.identity.id t } := by
  have hmade : (RecordType.create (σ.last + 1) s body).mapError Error.refused = .ok t := by
    rw [h]
    rfl
  refine Runs.bind (runs_fresh σ) (Runs.bind (runs_ofRefusal hmade _) ?_)
  exact Runs.bind (runs_modify _ _) (runs_pure t _)

/-- Making the class of a schema: it is refused, or it is put under a new number. -/
theorem runs_createType (hs : s.IsNamed title) (σ : Session) :
    (RecordType.receiver ∈ s.keys →
      Runs (createType s {}) σ (.error (.refused .badValue)) { σ with last := σ.last + 1 }) ∧
    (RecordType.receiver ∉ s.keys → ∃ t σ', Runs (createType s {}) σ (.ok t) σ' ∧
      t.IsPlain t.identity.id s ∧ σ'.types.get? t.identity.id = some t) := by
  have hcreate := RecordType.create_of_isNamed hs (σ.last + 1)
  constructor
  · intro hself
    rw [if_pos hself] at hcreate
    refine Runs.bind (runs_fresh σ) (Runs.bind_error (runs_ofRefusal ?_ _) _)
    rw [hcreate]
    rfl
  · intro hself
    rw [if_neg hself] at hcreate
    have hplain := RecordType.isPlain_bare (σ.last + 1) s title
    generalize (RecordType.bare (σ.last + 1) s title).settled = t at hcreate hplain
    exact ⟨t, _, runs_createType_of_create hcreate, hplain.id_eq ▸ hplain, get?_set ..⟩

/-- A call of the class with a value for every field. -/
theorem runs_make (hs : s.IsNamed title) (ht : t.IsPlain t.identity.id s)
    (hself : RecordType.receiver ∉ s.keys) (h : s.Covers given) {σ : Session}
    (hσ : σ.types.get? t.identity.id = some t) :
    Runs (make (.recordType t.identity.id) [] given) σ
      (.ok (.record (σ.last + 1) t.identity (s.arranged given)))
      { σ with last := σ.last + 1 } := by
  have hmade : t.construct [] given = .ok (s.arranged given) := by
    unfold RecordType.construct
    rw [RecordType.bindArguments_of_covers hs.distinct hself h]
    exact RecordType.fill_of_covers hs.distinct ht.schema_eq h
  have hruns := (ht.isOrdinary hs).runs_make hσ [] given
  rwa [hmade] at hruns

/-- The fields of a record are listed in declaration order. -/
theorem runs_fieldsOf (hs : s.IsNamed title) (ht : t.IsPlain t.identity.id s)
    (given : List (String × Value)) (cell : Nat) {σ : Session}
    (hσ : σ.types.get? t.identity.id = some t) :
    Runs (fieldsOf (.record cell t.identity (s.arranged given))) σ (.ok (s.arranged given)) σ :=
  (ht.isOrdinary hs).runs_fieldsOf_own (by rw [Schema.keys_arranged, ht.schema_eq]) cell hσ

end Session

namespace Builder

/-- The schema that a block gives becomes a record class exactly if no field is called like the
record among the parameters of its constructor. A class that is made takes values for all fields by
name, in any order, and its record lists the fields in declaration order with these values. -/
theorem listed_of_build {title : String} {strict : Value} {policy : NamePolicy}
    {calls : List Call} {s : Schema} (hplain : '\x00' ∉ title.toList)
    (h : ((Builder.new (.text title) strict policy).after calls).reply .build = .ok (.schema s))
    (σ : Session) :
    ("self" ∈ s.keys →
      ∃ σ', Session.Runs (Session.createType s {}) σ (.error (.refused .badValue)) σ') ∧
    ("self" ∉ s.keys →
      ∃ t σ', Session.Runs (Session.createType s {}) σ (.ok t) σ' ∧
        ∀ given : List (String × Value), (given.map Prod.fst).Perm s.keys →
          ∃ listed σ'', Session.Runs (Session.makeAndList t.identity.id given) σ' (.ok listed) σ'' ∧
            listed.map Prod.fst = s.keys ∧ listed.Perm given) := by
  have hs := isNamed_of_build hplain h
  obtain ⟨hrefused, hmade⟩ := Session.runs_createType hs σ
  refine ⟨fun hself => ⟨_, hrefused hself⟩, fun hself => ?_⟩
  obtain ⟨t, σ', hcreate, ht, hσ'⟩ := hmade hself
  refine ⟨t, σ', hcreate, fun given hgiven => ?_⟩
  have hmake := Session.runs_make hs ht hself hgiven hσ'
  -- Making the record counts it, and the class stays where it is.
  have hlist : Session.Runs _ { σ' with last := σ'.last + 1 } _ _ :=
    Session.runs_fieldsOf hs ht given (σ'.last + 1) hσ'
  have hlisted : Session.Runs (Session.makeAndList t.identity.id given) σ'
      (.ok (s.arranged given)) { σ' with last := σ'.last + 1 } :=
    Session.Runs.bind hmake (Session.Runs.bind (Session.runs_pure _ _) hlist)
  exact ⟨s.arranged given, _, hlisted, Schema.keys_arranged s given,
    Schema.Covers.arranged_perm hgiven hs.distinct⟩

/-- A declaration under a new name that is allowed makes its field, if its options are read and its
type can be widened where it has to be. -/
theorem resolve_of_read {b : Builder} {n : String} {type default effective : Value}
    {options : List (Value × Value)} {enforce : Bool} (hn : FieldName.isAllowed n b.policy = true)
    (hnew : b.state.contains n = false)
    (hread : (FieldOptions.ofEntries options b.strict.truthy (.text n)).result =
      .ok ⟨default, enforce⟩)
    (htype : TypeTerm.effective type (isGiven default) enforce = .ok effective) :
    (b.resolve (.text n) type options).result =
      .ok ⟨n, default, written type effective, effective, .bool enforce⟩ := by
  have hname : validateName (.text n) b.policy b.state.contains = .ok n :=
    validateName_eq_ok_iff.2 ⟨by simp [FieldName.ofValue?, hn], hnew⟩
  rw [result_resolve_of_read hread hname]
  simp only [FieldOptions.hasDefault, htype]
  rfl

/-- Such a declaration adds its field to an open block. -/
theorem call_declare_of_read {b : Builder} (hb : b.InPhase .open) {n : String}
    {type default effective : Value} {options : List (Value × Value)} {enforce : Bool}
    (hn : FieldName.isAllowed n b.policy = true) (hnew : b.state.contains n = false)
    (hread : (FieldOptions.ofEntries options b.strict.truthy (.text n)).result =
      .ok ⟨default, enforce⟩)
    (htype : TypeTerm.effective type (isGiven default) enforce = .ok effective) :
    (b.call (.declare (.text n) type options)).1 =
      { b with
        state := b.state.push ⟨n, default, written type effective, effective, .bool enforce⟩ } :=
  call_declare_of_made hb (resolve_of_read hn hnew hread htype)

/-- A block with one declaration that is accepted gives a schema with that field. -/
theorem build_of_read {n : String} {type default : Value} {options : List (Value × Value)}
    {enforce : Bool} (hn : FieldName.isAllowed n .identifier = true)
    (hread : (FieldOptions.ofEntries options false (.text n)).result = .ok ⟨default, enforce⟩)
    (htype : TypeTerm.effective type (isGiven default) enforce = .ok type) :
    ((Builder.new (.text "P")).after [.declare (.text n) type options]).reply .build =
      .ok (.schema ⟨.text "P", [⟨n, default, type, type, .bool enforce⟩],
        if enforce then [n] else []⟩) := by
  have hcall := call_declare_of_read (inPhase_open_new (.text "P") (.bool false) .identifier) hn rfl
    hread htype
  have hwritten : written type type = type := by
    unfold written
    split <;> rfl
  rw [after_cons, hcall, hwritten]
  cases enforce <;> rfl

/-- A field that has a default keeps its type. -/
theorem build_of_default {n : String} (hn : FieldName.isAllowed n .identifier = true) (type : Value)
    {default : Value} (h : isGiven default = true) :
    ((Builder.new (.text "P")).after [.declare (.text n) type [(.text "default", default)]]).reply
        .build =
      .ok (.schema ⟨.text "P", [⟨n, default, type, type, .bool false⟩], []⟩) :=
  build_of_read hn (FieldOptions.result_ofEntries_default _ _ _) (by rw [h]; rfl)

/-- A block with one field that is annotated with the class `int`. -/
def classField (default : Value) : List Call :=
  [.declare (.text "n") Primitive.int.type [(.text "default", default)]]

/-- The schema of that block. -/
def classSchema (default : Value) : Schema :=
  ⟨.text "P", [⟨"n", default, Primitive.int.type, Primitive.int.type, .bool false⟩], []⟩

theorem build_classField {default : Value} (h : isGiven default = true) :
    ((Builder.new (.text "P")).after (classField default)).reply .build =
      .ok (.schema (classSchema default)) :=
  build_of_default (by decide +kernel) _ h

/-- A block with one field, a whole number with a default. -/
def oneField (n : String) : List Call :=
  [.declare (.text n) (.text "int") [(.text "default", .int 5)]]

/-- The schema of that block. -/
def oneFieldSchema (n : String) : Schema :=
  ⟨.text "P", [⟨n, .int 5, .text "int", .text "int", .bool false⟩], []⟩

theorem build_oneField {n : String} (hn : FieldName.isAllowed n .identifier = true) :
    ((Builder.new (.text "P")).after (oneField n)).reply .build =
      .ok (.schema (oneFieldSchema n)) :=
  build_of_default hn _ rfl

theorem listed_of_number :
    ((Builder.new (.text "P")).after (oneField "n")).reply .build =
      .ok (.schema (oneFieldSchema "n")) ∧
    ∃ t σ' σ'', Session.Runs (Session.createType (oneFieldSchema "n") {}) {} (.ok t) σ' ∧
      Session.Runs (Session.makeAndList t.identity.id [("n", .int 7)]) σ'
        (.ok [("n", .int 7)]) σ'' := by
  have hbuild := build_oneField (n := "n") (by decide +kernel)
  obtain ⟨t, σ', hcreate, hlist⟩ :=
    (listed_of_build (by simp) hbuild {}).2 (by simp [oneFieldSchema, Schema.keys])
  obtain ⟨listed, σ'', hlisted, -, hperm⟩ := hlist [("n", .int 7)] (.refl _)
  rw [List.perm_singleton.1 hperm] at hlisted
  exact ⟨hbuild, t, σ', σ'', hcreate, hlisted⟩

/-- A block takes a field called `self`, and its schema has no class. -/
theorem no_class_of_self :
    ((Builder.new (.text "P")).after (oneField "self")).reply .build =
      .ok (.schema (oneFieldSchema "self")) ∧
    ∃ σ', Session.Runs (Session.createType (oneFieldSchema "self") {}) {}
      (.error (.refused .badValue)) σ' := by
  have hbuild := build_oneField (n := "self") (by decide +kernel)
  have hs := isNamed_of_build (by simp) hbuild
  exact ⟨hbuild, _, (Session.runs_createType hs {}).1
    (by simp [oneFieldSchema, Schema.keys, RecordType.receiver])⟩

end Builder

end RecordSchema
