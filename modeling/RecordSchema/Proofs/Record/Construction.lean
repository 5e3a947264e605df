import RecordSchema.Proofs.Block.Collection
import RecordSchema.Proofs.Record.Making

/-!
# The contract of constructors

A call of the constructor with keywords ends in one of three ways (`Schema.Constructs`). Keywords
that are no fields come first: they are told in call order, whatever else is wrong. Then the
enforced fields without a value are told in declaration order, even those that have a default.
Otherwise there is a record, and it lists every field with the value given for it, `None` being a
value like any other, or else with its default. This holds of a class of any schema that an
accumulator gives, as long as nothing is in its way (`RecordType.IsClassOf`);
`Builder.constructor_outcomes` says it of the classes of schemas from blocks.
-/

set_option autoImplicit false

namespace RecordSchema

/-! ## What the keywords of a call come to -/

namespace Schema

/-- The keywords that are no fields, in call order. -/
def strays (s : Schema) (given : List (String × Value)) : List String :=
  (given.map Prod.fst).filter fun n => n ∉ s.keys

/-- The enforced fields that no keyword names, in declaration order. -/
def lacking (s : Schema) (given : List (String × Value)) : List String :=
  (s.fields.filter fun f => f.isEnforced && decide (f.name ∉ given.map Prod.fst)).map (·.name)

/-- The fields in declaration order, each with the value given for it or else with its default. -/
def filled (s : Schema) (given : List (String × Value)) : List (String × Value) :=
  s.fields.map fun f => (f.name, (Value.lookup f.name given).getD f.initial)

/-- The ways in which the constructor of a schema ends. -/
inductive Constructs (s : Schema) (given : List (String × Value)) :
    Except Error (List (String × Value)) → Prop where
  | unexpected (some_stray : s.strays given ≠ []) :
      Constructs s given (.error (.unexpectedKeywords s.name (s.strays given)))
  | missing (no_stray : s.strays given = []) (some_lacking : s.lacking given ≠ []) :
      Constructs s given (.error (.missingRequired s.name (s.lacking given)))
  | made (no_stray : s.strays given = []) (none_lacking : s.lacking given = []) :
      Constructs s given (.ok (s.filled given))

theorem strays_eq_nil_iff {s : Schema} {given : List (String × Value)} :
    s.strays given = [] ↔ ∀ n ∈ given.map Prod.fst, n ∈ s.keys := by
  simp only [strays, List.filter_eq_nil_iff, decide_eq_true_eq, not_not]

theorem lacking_eq_nil_iff {s : Schema} {given : List (String × Value)} :
    s.lacking given = [] ↔ ∀ f ∈ s.fields, f.isEnforced = true → f.name ∈ given.map Prod.fst := by
  simp [lacking]

theorem keys_filled (s : Schema) (given : List (String × Value)) :
    (s.filled given).map Prod.fst = s.keys := by
  rw [filled, List.map_map]
  rfl

end Schema

/-! ## What the constructor does with them -/

namespace RecordType

variable {t : RecordType} {given : List (String × Value)}

theorem absent_eq_lacking (ht : t.schema.IsRegular) (given : List (String × Value)) :
    t.absent given = t.schema.lacking given := by
  rw [absent, Schema.lacking, Schema.keys, List.filter_map]
  refine congrArg (List.map _) (List.filter_congr fun f hf => ?_)
  have hnone : (Value.lookup f.name given).isNone = decide (f.name ∉ given.map Prod.fst) := by
    rw [Bool.eq_iff_iff, Schema.isNone_lookup_iff, decide_eq_true_iff]
  show (t.schema.isRequired f.name && (Value.lookup f.name given).isNone) = _
  rw [ht.isRequired_eq hf, hnone]

theorem unexpected_eq_strays (t : RecordType) (given : List (String × Value)) :
    t.unexpected given = t.schema.strays given := by
  simp [unexpected, Schema.strays]

/-- The constructor of a regular schema ends in one of the three ways. -/
theorem constructs_of_fill (ht : t.schema.IsRegular) {title : String}
    (hname : t.schema.name = .text title) (given : List (String × Value)) :
    t.schema.Constructs given (t.fill given) := by
  -- The name is a text, so the faults are told as they are.
  have htellable : ∀ e : Error, e.shownValues = [t.schema.name] → e.raised = e := by
    intro e he
    refine Error.raised_of_isTellable fun v hv => ?_
    rw [he, hname, List.mem_singleton] at hv
    subst hv
    rfl
  unfold fill
  rw [unexpected_eq_strays, absent_eq_lacking ht, Schema.defaults_eq_map ht.distinct, List.map_map]
  cases hstrays : t.schema.strays given with
  | cons n names =>
    have hraised := htellable (.unexpectedKeywords t.schema.name (n :: names)) rfl
    have hways : t.schema.Constructs given _ := .unexpected (by simp [hstrays])
    rwa [hstrays, ← hraised] at hways
  | nil =>
    cases hlacking : t.schema.lacking given with
    | cons n names =>
      have hraised := htellable (.missingRequired t.schema.name (n :: names)) rfl
      have hways := Schema.Constructs.missing hstrays (by simp [hlacking])
      rwa [hlacking, ← hraised] at hways
    | nil => exact .made hstrays hlacking

theorem eq_text_of_checkTitle {v : Value} {title : String} (h : checkTitle v = .ok title) :
    v = .text title := by
  cases v with
  | text s =>
    simp only [checkTitle] at h
    split at h
    · cases h
    · rw [Except.ok.inj h]
  | _ => cases h

/-- Keywords with distinct names, none of them that of the record, are taken as they are. -/
theorem construct_eq_fill (hgiven : (given.map Prod.fst).Nodup)
    (hself : receiver ∉ given.map Prod.fst) : t.construct [] given = t.fill given := by
  simp [construct, bindArguments_of_nodup hgiven hself]

/-- The record itself cannot be given by its name. -/
theorem construct_of_receiver (hself : receiver ∈ given.map Prod.fst) :
    t.construct [] given = .error (.refused .wrongKind) := by
  have hsome : (Value.lookup receiver given).isNone = false := by
    rw [Option.isNone_eq_false_iff]
    exact Schema.isSome_lookup_iff.2 hself
  simp [construct, bindArguments, hsome]

end RecordType

namespace Session

variable {s : Schema} {body : ClassBody} {t : RecordType} {σ σ' : Session}

/-- A class that was made in a session is that of a schema, and the session keeps it. -/
theorem create_of_createType (h : Runs (createType s body) σ (.ok t) σ') :
    RecordType.create (σ.last + 1) s body = .ok t ∧ σ'.types.get? t.identity.id = some t := by
  cases hmade : RecordType.create (σ.last + 1) s body with
  | error cause =>
    have hrefused := Runs.bind_error
      (runs_ofRefusal (congrArg (Except.mapError Error.refused) hmade)
        { σ with last := σ.last + 1 }) fun t => do setType t; return t
    cases (h.unique (Runs.bind (runs_fresh σ) hrefused)).1
  | ok made =>
    obtain ⟨heq, rfl⟩ := h.unique (runs_createType_of_create hmade)
    obtain rfl := Except.ok.inj heq
    exact ⟨rfl, get?_set ..⟩

/-- An object takes values: calling it with them makes something. -/
def Accepts (o : Object) (σ : Session) (given : List (String × Value)) : Prop :=
  ∃ x σ', Runs (make o [] given) σ (.ok x) σ'

/-- An object is a record that lists its fields with some values. -/
def Lists (o : Object) (σ : Session) (values : List (String × Value)) : Prop :=
  ∃ v, Runs o.toValue σ (.ok v) σ ∧ Runs (fieldsOf v) σ (.ok values) σ

end Session

/-- The class of a regular schema, without anything that is in its way. -/
structure RecordType.IsClassOf (t : RecordType) (s : Schema) : Prop where
  ordinary : t.IsOrdinary
  schema_eq : t.schema = s
  regular : s.IsRegular
  named : ∃ title, s.name = .text title
  receiver_notMem : RecordType.receiver ∉ s.keys

/-- What was made of a regular schema is its class if nothing is in its way. -/
theorem RecordType.isClassOf_of_create {id : Nat} {s : Schema} {body : ClassBody} {t : RecordType}
    (h : create id s body = .ok t) (hs : s.IsRegular) (ht : t.IsOrdinary) : t.IsClassOf s := by
  obtain ⟨hparameters, ⟨title, htitle⟩, base, hbase, hschema, -⟩ := exists_of_create h
  exact {
    ordinary := ht
    schema_eq := by rw [hbase, schema_settled, hschema]
    regular := hs
    named := ⟨title, eq_text_of_checkTitle htitle⟩
    receiver_notMem := (List.nodup_cons.1 (nodup_of_checkParameters hparameters)).1 }

/-- What is made of a schema that an accumulator gives is its class, unless the body interferes or a
field is called like a place that every record has. -/
theorem RecordType.isClassOf_of_isCollected {s : Schema} (hs : s.IsCollected)
    (hplaces : ∀ n ∈ s.keys, n ∉ places) {body : ClassBody} (hbody : body.LeavesAlone s.keys)
    {t : RecordType} {σ σ' : Session}
    (hcreate : Session.Runs (Session.createType s body) σ (.ok t) σ') : t.IsClassOf s := by
  obtain ⟨hmade, -⟩ := Session.create_of_createType hcreate
  have hdistinct := nodup_of_checkParameters (exists_of_create hmade).1
  exact isClassOf_of_create hmade ⟨(List.nodup_cons.1 hdistinct).2, hs.required_eq⟩
    (isOrdinary_of_create hmade hplaces hbody)

namespace RecordType.IsClassOf

open RecordSchema.Session

variable {t : RecordType} {s : Schema} {given : List (String × Value)} {σ : Session}

/-- A call with keywords other than the name of the record ends as the schema says, and a record
that it makes has a number of its own. -/
theorem exists_constructs (ht : t.IsClassOf s) (hσ : σ.types.get? t.identity.id = some t)
    (hgiven : (given.map Prod.fst).Nodup) (hself : RecordType.receiver ∉ given.map Prod.fst) :
    ∃ r, s.Constructs given r ∧ Runs (make (.recordType t.identity.id) [] given) σ
      (r.map fun values => .record (σ.last + 1) t.identity values)
      { σ with last := σ.last + 1 } := by
  obtain ⟨title, htitle⟩ := ht.named
  have hruns := ht.ordinary.runs_make hσ [] given
  rw [construct_eq_fill hgiven hself] at hruns
  have hways :=
    constructs_of_fill (t := t) (ht.schema_eq ▸ ht.regular) (ht.schema_eq ▸ htitle) given
  rw [ht.schema_eq] at hways
  exact ⟨_, hways, hruns⟩

theorem exists_runs_make (ht : t.IsClassOf s) (hσ : σ.types.get? t.identity.id = some t)
    (hgiven : (given.map Prod.fst).Nodup) (hself : RecordType.receiver ∉ given.map Prod.fst) :
    ∃ r cell σ', s.Constructs given r ∧
      Runs (make (.recordType t.identity.id) [] given) σ
        (r.map fun values => .record cell t.identity values) σ' ∧
      σ'.types = σ.types := by
  obtain ⟨r, hways, hruns⟩ := ht.exists_constructs hσ hgiven hself
  exact ⟨r, _, _, hways, hruns, rfl⟩

/-- A record with the values of a call lists them. -/
theorem runs_fieldsOf_filled (ht : t.IsClassOf s) (hσ : σ.types.get? t.identity.id = some t)
    (cell : Nat) (given : List (String × Value)) :
    Runs (fieldsOf (.record cell t.identity (s.filled given))) σ (.ok (s.filled given)) σ :=
  ht.ordinary.runs_fieldsOf_own (by rw [Schema.keys_filled, ht.schema_eq]) cell hσ

/-- The class makes a record of values that it takes. -/
theorem exists_runs_make_of_eq_nil (ht : t.IsClassOf s)
    (hσ : σ.types.get? t.identity.id = some t) (hgiven : (given.map Prod.fst).Nodup)
    (hstrays : s.strays given = []) (hlacking : s.lacking given = []) :
    ∃ o σ', Runs (make (.recordType t.identity.id) [] given) σ (.ok o) σ' ∧
      Lists o σ' (s.filled given) := by
  have hself : RecordType.receiver ∉ given.map Prod.fst := fun hmem =>
    ht.receiver_notMem (Schema.strays_eq_nil_iff.1 hstrays _ hmem)
  obtain ⟨r, cell, σ', hways, hruns, htypes⟩ := ht.exists_runs_make hσ hgiven hself
  cases hways with
  | unexpected some_stray => exact absurd hstrays some_stray
  | missing _ some_lacking => exact absurd hlacking some_lacking
  | made _ _ =>
    exact ⟨_, σ', hruns, _, runs_pure _ _, ht.runs_fieldsOf_filled (htypes ▸ hσ) cell given⟩

/-- What the class makes is a record with the values filled in, and no name was a stray
or lacking. -/
theorem eq_filled_of_make (ht : t.IsClassOf s) (hσ : σ.types.get? t.identity.id = some t)
    (hgiven : (given.map Prod.fst).Nodup) {o : Object} {σ' : Session}
    (h : Runs (make (.recordType t.identity.id) [] given) σ (.ok o) σ') :
    s.strays given = [] ∧ s.lacking given = [] ∧
      o = .record (σ.last + 1) t.identity (s.filled given) ∧
        σ' = { σ with last := σ.last + 1 } := by
  by_cases hself : RecordType.receiver ∈ given.map Prod.fst
  · have hruns := ht.ordinary.runs_make hσ [] given
    rw [construct_of_receiver hself] at hruns
    cases (h.unique hruns).1
  · obtain ⟨r, hways, hruns⟩ := ht.exists_constructs hσ hgiven hself
    obtain ⟨hr, rfl⟩ := h.unique hruns
    cases hways with
    | unexpected _ | missing _ _ => cases hr
    | made no_stray none_lacking => exact ⟨no_stray, none_lacking, Except.ok.inj hr, rfl⟩

/-- The class takes values exactly if no name among them is a stray and none is lacking. -/
theorem accepts_iff (ht : t.IsClassOf s) (hσ : σ.types.get? t.identity.id = some t)
    (hgiven : (given.map Prod.fst).Nodup) :
    Accepts (.recordType t.identity.id) σ given ↔ s.strays given = [] ∧ s.lacking given = [] := by
  constructor
  · rintro ⟨x, σ₁, hx⟩
    obtain ⟨hstrays, hlacking, -⟩ := ht.eq_filled_of_make hσ hgiven hx
    exact ⟨hstrays, hlacking⟩
  · rintro ⟨hstrays, hlacking⟩
    obtain ⟨o, σ', hruns, -⟩ := ht.exists_runs_make_of_eq_nil hσ hgiven hstrays hlacking
    exact ⟨o, σ', hruns⟩

end RecordType.IsClassOf

namespace Builder

open RecordSchema.Session

/-- What is made of the schema of a block without a body is its class. -/
theorem isClassOf_of_createType {name strict : Value} {policy : NamePolicy} {calls : List Call}
    {s : Schema} {module qualname : Option Value} {t : RecordType} {σ σ' : Session}
    (hbuild : ((Builder.new name strict policy).after calls).reply .build = .ok (.schema s))
    (hcreate : Runs (createType s { module, qualname }) σ (.ok t) σ') : t.IsClassOf s := by
  refine RecordType.isClassOf_of_isCollected (isCollected_of_build hbuild) (fun n hn => ?_)
    (ClassBody.leavesAlone_of_members_eq_nil rfl _) hcreate
  obtain ⟨policy, hallowed⟩ := (isSound_of_build hbuild).2.allowed n hn
  exact RecordType.notMem_places (FieldName.isDunder_of_isAllowed hallowed)

/-- The contract of the constructor of a class that was made of the schema of a block, for keywords
other than the name of the record itself. Keywords that are no fields are told exactly if there are
any; otherwise the enforced fields without a value are told exactly if there are any; otherwise
there is a record, and its fields are listed with the values given and the defaults. -/
theorem constructor_outcomes {name strict : Value} {policy : NamePolicy} {calls : List Call}
    {s : Schema} {module qualname : Option Value} {t : RecordType} {σ₀ σ₁ σ : Session}
    (hbuild : ((Builder.new name strict policy).after calls).reply .build = .ok (.schema s))
    (hcreate : Runs (createType s { module, qualname }) σ₀ (.ok t) σ₁)
    (hσ : σ.types.get? t.identity.id = some t) {given : List (String × Value)}
    (hgiven : (given.map Prod.fst).Nodup) (hself : "self" ∉ given.map Prod.fst) :
    ∃ r σ', Runs (make (.recordType t.identity.id) [] given) σ r σ' ∧
      (∀ owner names, r = .error (.unexpectedKeywords owner names) ↔
        owner = s.name ∧ names = s.strays given ∧ names ≠ []) ∧
      (∀ owner names, r = .error (.missingRequired owner names) ↔
        s.strays given = [] ∧ owner = s.name ∧ names = s.lacking given ∧ names ≠ []) ∧
      (s.strays given = [] → s.lacking given = [] →
        ∃ o v, r = .ok o ∧ Runs o.toValue σ' (.ok v) σ' ∧
          Runs (fieldsOf v) σ' (.ok (s.filled given)) σ') := by
  have ht := isClassOf_of_createType hbuild hcreate
  obtain ⟨r, cell, σ', hways, hruns, htypes⟩ := ht.exists_runs_make hσ hgiven hself
  refine ⟨_, _, hruns, ?_⟩
  -- The three ways exclude each other, so each list of names is told in one of them only.
  cases hways with
  | unexpected some_stray =>
    refine ⟨fun owner names => ?_, fun owner names => ?_,
      fun no_stray => absurd no_stray some_stray⟩
    · constructor
      · intro h
        obtain ⟨rfl, rfl⟩ := Error.unexpectedKeywords.inj (Except.error.inj h)
        exact ⟨rfl, rfl, some_stray⟩
      · rintro ⟨rfl, rfl, -⟩
        rfl
    · exact ⟨nofun, fun h => absurd h.1 some_stray⟩
  | missing no_stray some_lacking =>
    refine ⟨fun owner names => ?_, fun owner names => ?_, fun _ h => absurd h some_lacking⟩
    · exact ⟨nofun, fun ⟨_, hnames, hne⟩ => absurd (hnames.trans no_stray) hne⟩
    · constructor
      · intro h
        obtain ⟨rfl, rfl⟩ := Error.missingRequired.inj (Except.error.inj h)
        exact ⟨no_stray, rfl, rfl, some_lacking⟩
      · rintro ⟨-, rfl, rfl, -⟩
        rfl
  | made no_stray none_lacking =>
    refine ⟨fun owner names => ?_, fun owner names => ?_, fun _ _ => ?_⟩
    · exact ⟨nofun, fun ⟨_, hnames, hne⟩ => absurd (hnames.trans no_stray) hne⟩
    · exact ⟨nofun, fun ⟨_, _, hnames, hne⟩ => absurd (hnames.trans none_lacking) hne⟩
    · exact ⟨_, _, rfl, runs_pure _ _, ht.runs_fieldsOf_filled (htypes ▸ hσ) cell given⟩

/-- A block with one field that is enforced although it has a default. -/
def enforcedNumber : List Call :=
  [.declare (.text "n") (.text "int") [(.text "default", .int 5), (.text "enforce", .bool true)]]

/-- The schema of that block. -/
def enforcedSchema : Schema :=
  ⟨.text "P", [⟨"n", .int 5, .text "int", .text "int", .bool true⟩], ["n"]⟩

theorem build_enforcedNumber :
    ((Builder.new (.text "P")).after enforcedNumber).reply .build =
      .ok (.schema enforcedSchema) := by
  have hread : (FieldOptions.ofEntries [(.text "default", .int 5), (.text "enforce", .bool true)]
      false (.text "n")).result = .ok ⟨.int 5, true⟩ := by
    rw [FieldOptions.result_ofEntries_of_recognised (by simp; exact ⟨rfl, rfl⟩)]
    rfl
  exact build_of_read (by decide +kernel) hread rfl

/-- Without keywords the enforced field is missing, and `None` is a value for it. -/
theorem constructor_outcomes_enforcedNumber :
    ∃ t σ σ₁ r₁ σ₂ r₂ o v, Runs (createType enforcedSchema {}) {} (.ok t) σ ∧
      Runs (make (.recordType t.identity.id) [] []) σ r₁ σ₁ ∧
      r₁ = .error (.missingRequired (.text "P") ["n"]) ∧
      Runs (make (.recordType t.identity.id) [] [("n", .none)]) σ r₂ σ₂ ∧
      r₂ = .ok o ∧ Runs o.toValue σ₂ (.ok v) σ₂ ∧ Runs (fieldsOf v) σ₂ (.ok [("n", .none)]) σ₂ := by
  have hs := isNamed_of_build (by simp) build_enforcedNumber
  obtain ⟨t, σ, hcreate, -, hσ⟩ := (runs_createType hs {}).2
    (by simp [enforcedSchema, Schema.keys, RecordType.receiver])
  have hempty : (([] : List (String × Value)).map Prod.fst).Nodup := List.nodup_nil
  have hsingle : ([("n", Value.none)].map Prod.fst).Nodup := List.nodup_singleton _
  obtain ⟨r₁, σ₁, hbare, -, hmissing, -⟩ :=
    constructor_outcomes build_enforcedNumber hcreate hσ hempty (by simp)
  obtain ⟨r₂, σ₂, hnone, -, -, hmade⟩ :=
    constructor_outcomes build_enforcedNumber hcreate hσ hsingle (by simp)
  obtain ⟨o, v, rfl, hv, hlisted⟩ := hmade rfl rfl
  exact ⟨t, σ, σ₁, r₁, σ₂, _, o, v, hcreate, hbare, (hmissing _ _).2 ⟨rfl, rfl, rfl, by simp⟩,
    hnone, rfl, hv, hlisted⟩

end Builder

end RecordSchema
