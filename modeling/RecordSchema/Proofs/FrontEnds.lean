import RecordSchema.Proofs.Block.Sequence
import RecordSchema.Proofs.Names
import RecordSchema.Document.Compile
import RecordSchema.Record.Block
import RecordSchema.Record.Body

/-!
# Four ways to declare fields

The same fields can be declared by calls on a block, in a block with a record class at its end, by
the annotations of a class body and in a document. Each way writes the options of a field down
differently (`FieldEntry`), and each reads them back as the same declaration. So all four come to
the same schema and to the same faults of declarations.

Some names in a class body are read when the class is made, and values for them that are of no use
are refused. A body with such a value makes no class, so the agreement is about bodies without
(`FieldEntry.IsAdmitted`), and it needs to be.
-/

set_option autoImplicit false

namespace RecordSchema

/-- A field to be declared, with its options as a mapping. -/
structure FieldEntry where
  name : String
  type : String
  options : List (Value × Value)
  /-- Has a class body a mark of options for the field, even if a plain value would do? -/
  marked : Bool
  recognised : ∀ o ∈ options, FieldOptions.isRecognised o.1 = true

namespace FieldEntry

/-- The declaration of the field by a call. -/
def declaration (e : FieldEntry) : Value × Value × List (Value × Value) :=
  (.text e.name, .text e.type, e.options)

/-- What the name of the field stands for in a class body: nothing, a plain default or a mark of
options. Only a mark has something to say about enforcing. -/
def content (e : FieldEntry) : Option BodyContent :=
  if e.marked || (Value.lookupText "enforce" e.options).isSome then
    some (.options (FieldOptions.defaultIn e.options) (FieldOptions.enforceIn e.options))
  else (Value.lookupText "default" e.options).map .value

/-- The statement of a class body that gives a name its content. -/
def giving (name : String) : BodyContent → BodyStatement
  | .value v => .assign name v
  | .options default enforce => .configure name default enforce
  | .code binding behaviour => .define name binding behaviour

/-- The statements of a class body that declare the field. -/
def statements (e : FieldEntry) : List BodyStatement :=
  .annotate e.name (.text e.type) :: (e.content.map (giving e.name)).toList

/-- A value of a document is an entry for the field, whatever the order of its keys. -/
def IsItem (e : FieldEntry) (item : Value) : Prop :=
  ∃ keys, item = .mapping keys ∧ Value.lookupText "name" keys = some (.text e.name) ∧
    Value.lookupText "type" keys = some (.text e.type) ∧ Document.entryOptions keys = e.options

/-- A class can be made of a body in which the field is declared. There can be no value for the
names that are read as something else than an attribute; the qualified name has to be a text,
and the name of the module has to have a truth and to be a possible key if it counts as true. -/
def IsAdmitted (e : FieldEntry) : Prop :=
  ∀ c, e.content = some c →
    e.name ∉ ["__annotations__", "__classcell__", "__slots__"] ∧
    (e.name = "__qualname__" → ∃ s, BodyState.contentValue e.name c = .text s) ∧
    (e.name = "__module__" → (BodyState.contentValue e.name c).hasTruth = true ∧
      ((BodyState.contentValue e.name c).truthy = true →
        (BodyState.contentValue e.name c).hashable = true))

end FieldEntry

/-- A document with one block of fields. -/
def Document.single (name : String) (items : List Value) : Value :=
  .mapping [(.text "structs",
    .mapping [(.text name, .mapping [(.text "fields", .ofList items)])])]

/-! ## Blocks and documents -/

/-- A block with a record class at its end comes to its schema and then to the class. -/
theorem Block.result_run (b : Builder) (ds : List (Value × Value × List (Value × Value))) (id : Nat)
    (body : ClassBody) :
    (Block.run { builder := b } ds none id body).2.result =
      b.schemaOf ds >>= fun s =>
        ((RecordType.create id s body).map fun t => (s, t)).mapError .refused := by
  unfold Block.run Builder.schemaOf
  rcases b.declareAll ds with ⟨b', declared⟩
  cases hdeclared : declared.result with
  | error e => simp [hdeclared]
  | ok u =>
    unfold Block.close
    rcases hbuild : b'.build with ⟨b'', built⟩
    cases hbuilt : built.result with
    | error e => simp [hdeclared, hbuild, hbuilt]
    | ok s =>
      cases hcreate : RecordType.create id s body <;>
        simp [hdeclared, hbuild, hbuilt, hcreate, Except.map]

theorem displayed_text (s : String) : (Value.text s).displayed = .ok s := rfl

/-- The entries of a document declare one after another what calls declare. -/
theorem Document.result_declareEntries {entries : List FieldEntry} {items : List Value}
    (h : List.Forall₂ FieldEntry.IsItem entries items) (name : String) (index : Nat) (b : Builder) :
    ((Document.declareEntries name index b items).result >>= fun b => b.build.2.result) =
      b.schemaOf (entries.map FieldEntry.declaration) := by
  induction h generalizing index b with
  | nil => rfl
  | @cons e item entries items he _ ih =>
    obtain ⟨keys, rfl, hname, htype, hoptions⟩ := he
    rw [List.map_cons, FieldEntry.declaration, Builder.schemaOf_cons, declareEntries]
    simp only [hname, htype, hoptions, displayed_text, mapError_ok, Report.result_bind,
      Report.result_ofExcept, ok_bind]
    cases (b.declare (.text e.name) (.text e.type) e.options).2.result with
    | ok f => exact ih _ _
    | error e => rfl

/-- A document with one block comes to the schema of the block. -/
theorem Document.result_compile {entries : List FieldEntry} {items : List Value}
    (h : List.Forall₂ FieldEntry.IsItem entries items) {settings : Settings} {policy : NamePolicy}
    (hpolicy : settings.namePolicy = .ok policy) (name : String) :
    (Document.compile settings (Document.single name items)).result =
      ((Builder.new (.text name) settings.strict policy).schemaOf
        (entries.map FieldEntry.declaration)).map fun s => [(name, s)] := by
  have hopened : settings.openBlock (.text name) =
      .ok (Builder.new (.text name) settings.strict policy) := by
    rw [Settings.openBlock, hpolicy]
    rfl
  have hfields : bodyFields? (.mapping [(.text "fields", .ofList items)]) = some items := rfl
  show (compileBlocks settings [] [(.text name, .mapping [(.text "fields", .ofList items)])]).result
    = _
  simp only [compileBlocks, compileBlock, hfields, hopened, displayed_text, mapError_ok,
    Report.result_bind, Report.result_ofExcept, Report.result_say, Report.result_pure, ok_bind,
    ← result_declareEntries h name 0]
  cases (declareEntries name 0 (Builder.new (.text name) settings.strict policy) items).result with
  | error e => rfl
  | ok b =>
    simp only [ok_bind]
    cases b.build.2.result with
    | error e => rfl
    | ok s => rfl

/-! ## Class bodies -/

namespace BodyState

/-- The body that declarations of fields make. -/
def ofEntries (entries : List FieldEntry) : BodyState where
  annotations := .mapping (entries.map fun e => (.text e.name, .text e.type))
  contents := entries.filterMap fun e => e.content.map (e.name, ·)

theorem step_giving {name : String} (h : name ≠ annotationsName) (b : BodyState) (c : BodyContent) :
    b.step (FieldEntry.giving name c) =
      .ok { b with contents := Schema.put b.contents name c } := by
  have hname : (name == annotationsName) = false := beq_eq_false_iff_ne.2 h
  cases c with
  | value v => rw [FieldEntry.giving, step, hname]; rfl
  | options default enforce => rw [FieldEntry.giving, step, hname]; rfl
  | code binding behaviour => rfl

theorem notMem_contents {entries : List FieldEntry} {name : String}
    (h : name ∉ entries.map (·.name)) : name ∉ (ofEntries entries).contents.map Prod.fst := by
  intro hmem
  obtain ⟨⟨n, c⟩, hc, rfl⟩ := List.mem_map.1 hmem
  obtain ⟨e, he, hec⟩ := List.mem_filterMap.1 hc
  obtain ⟨c', -, hc'⟩ := Option.map_eq_some_iff.1 hec
  exact h (List.mem_map.2 ⟨e, he, congrArg Prod.fst hc'⟩)

theorem contents_concat (entries : List FieldEntry) (e : FieldEntry) :
    (ofEntries (entries ++ [e])).contents =
      (ofEntries entries).contents ++ (e.content.map (e.name, ·)).toList := by
  unfold ofEntries
  rw [List.filterMap_append]
  cases hc : e.content <;> simp [hc]

/-- One more field with a new name. -/
theorem foldlM_statements_entry {entries : List FieldEntry} {e : FieldEntry}
    (hname : e.name ∉ entries.map (·.name))
    (hcontent : ∀ c, e.content = some c → e.name ≠ annotationsName) :
    e.statements.foldlM step (ofEntries entries) = .ok (ofEntries (entries ++ [e])) := by
  -- The name is new, so its annotation goes behind the others.
  have hannotate : (ofEntries entries).step (.annotate e.name (.text e.type)) =
      .ok ⟨(ofEntries (entries ++ [e])).annotations, (ofEntries entries).contents⟩ := by
    have hnew : ∀ a ∈ entries.map (fun e => (Value.text e.name, Value.text e.type)),
        Value.alike (.text e.name) a.1 = false := by
      intro a ha
      obtain ⟨e', he', rfl⟩ := List.mem_map.1 ha
      rw [Value.alike_text]
      exact beq_eq_false_iff_ne.2 fun h => hname (h ▸ List.mem_map_of_mem he')
    simp only [step, ofEntries, Value.setEntry_of_forall hnew, List.map_append, List.map_cons,
      List.map_nil]
  rw [FieldEntry.statements, List.foldlM_cons, hannotate, ok_bind]
  have hcontents := contents_concat entries e
  cases hc : e.content with
  | none =>
    rw [hc, Option.map_none, Option.toList_none, List.append_nil] at hcontents
    rw [← hcontents]
    rfl
  | some c =>
    rw [hc, Option.map_some, Option.toList_some] at hcontents
    rw [Option.map_some, Option.toList_some, List.foldlM_cons, step_giving (hcontent c hc), ok_bind,
      Schema.put_of_notMem (notMem_contents hname), ← hcontents]
    rfl

theorem ofStatements_entries {entries : List FieldEntry} (hnames : (entries.map (·.name)).Nodup)
    (hcontent : ∀ e ∈ entries, ∀ c, e.content = some c → e.name ≠ annotationsName) :
    ofStatements (entries.flatMap FieldEntry.statements) = .ok (ofEntries entries) := by
  -- A body grows field by field, so the fields done come before the fields to come.
  suffices h : ∀ done rest : List FieldEntry, done ++ rest = entries →
      (rest.flatMap FieldEntry.statements).foldlM step (ofEntries done) =
        .ok (ofEntries entries) from
    h [] entries rfl
  intro done rest
  induction rest generalizing done with
  | nil =>
    intro hdone
    rw [← hdone, List.append_nil]
    rfl
  | cons e rest ih =>
    intro hdone
    have hname : e.name ∉ done.map (·.name) := by
      rw [← hdone, List.map_append, List.map_cons] at hnames
      exact fun hmem => (List.nodup_append.1 hnames).2.2 _ hmem _ (List.mem_cons_self ..) rfl
    have hmem : e ∈ entries := by rw [← hdone]; simp
    rw [List.flatMap_cons, List.foldlM_append, foldlM_statements_entry hname (hcontent e hmem),
      ok_bind]
    exact ih (done ++ [e]) (by simp [hdone])

theorem lookup_contents {entries : List FieldEntry} (hnames : (entries.map (·.name)).Nodup)
    {e : FieldEntry} (he : e ∈ entries) :
    Value.lookup e.name (ofEntries entries).contents = e.content :=
  Schema.lookup_filterMap_of_nodup hnames he

/-- What a body has under a name is the content of a field, if there is anything. -/
theorem exists_of_lookup {entries : List FieldEntry} (hnames : (entries.map (·.name)).Nodup)
    {name : String} {c : BodyContent}
    (h : Value.lookup name (ofEntries entries).contents = some c) :
    ∃ e ∈ entries, e.name = name ∧ e.content = some c := by
  by_cases hmem : name ∈ entries.map (·.name)
  · obtain ⟨e, he, rfl⟩ := List.mem_map.1 hmem
    exact ⟨e, he, rfl, (lookup_contents hnames he).symm.trans h⟩
  · have hnone : Value.lookup name (ofEntries entries).contents = none :=
      Schema.lookup_filterMap_of_notMem hmem
    exact absurd (hnone.symm.trans h) (by simp)

/-- The value that a body gives to a name, or another one that is as good. -/
theorem valueOr_of_forall {entries : List FieldEntry} (hnames : (entries.map (·.name)).Nodup)
    {name : String} {P : Value → Prop} {absent : Value} (habsent : P absent)
    (h : ∀ e ∈ entries, e.name = name → ∀ c, e.content = some c → P (contentValue name c)) :
    P ((ofEntries entries).valueOr name absent) := by
  unfold valueOr
  cases hlookup : Value.lookup name (ofEntries entries).contents with
  | none => exact habsent
  | some c =>
    obtain ⟨e, he, hname, hc⟩ := exists_of_lookup hnames hlookup
    exact h e he hname c hc

/-- The options that a default alone amounts to: none if it is missing. -/
theorem defaultIn_given (default : Value) :
    FieldOptions.defaultIn (if isGiven default then [(.text "default", default)] else []) =
      default := by
  cases default <;> rfl

theorem enforceIn_given (default : Value) :
    FieldOptions.enforceIn (if isGiven default then [(.text "default", default)] else []) =
      .bool false := by
  cases default <;> rfl

theorem isRecognised_given (default : Value) :
    ∀ o ∈ (if isGiven default then [(Value.text "default", default)] else []),
      FieldOptions.isRecognised o.1 = true := by
  intro o ho
  split at ho
  · rw [List.mem_singleton.1 ho]
    rfl
  · cases ho

/-- The options of a field, read back from a class body. -/
theorem sameOptions_optionsOf (e : FieldEntry) :
    Builder.SameOptions e.options (optionsOf e.name e.content) := by
  unfold FieldEntry.content
  split
  · -- A mark of options says both what the default is and whether the field is enforced.
    refine ⟨e.recognised, ?_, ?_, ?_⟩
    · intro o ho
      rcases List.mem_cons.1 ho with rfl | ho
      · rfl
      · exact isRecognised_given _ o ho
    · exact (defaultIn_given _).symm
    · rfl
  · -- Without a mark nothing is said about enforcing.
    rename_i hmark
    have henforce : Value.lookupText "enforce" e.options = none := by
      rw [Bool.or_eq_true, not_or, Bool.not_eq_true, Bool.not_eq_true] at hmark
      exact Option.not_isSome_iff_eq_none.1 (by simp [hmark.2])
    have hno : FieldOptions.enforceIn e.options = .bool false := by
      rw [FieldOptions.enforceIn, henforce]
      rfl
    cases hdefault : Value.lookupText "default" e.options with
    | none =>
      refine ⟨e.recognised, fun o ho => absurd ho (List.not_mem_nil), ?_, hno⟩
      rw [FieldOptions.defaultIn, hdefault]
      rfl
    | some v =>
      refine ⟨e.recognised, isRecognised_given v, ?_, hno.trans (enforceIn_given v).symm⟩
      rw [FieldOptions.defaultIn, hdefault]
      exact (defaultIn_given v).symm

/-- The declarations that a class body makes. -/
theorem sameDeclarations {entries : List FieldEntry} (hnames : (entries.map (·.name)).Nodup)
    (htypes : ∀ e ∈ entries, TypeTerm.isClassVar (.text e.type) = false) :
    List.Forall₂ Builder.SameDeclaration (entries.map FieldEntry.declaration)
      ((ofEntries entries).declarations
        (entries.map fun e => (.text e.name, .text e.type))) := by
  -- None of them is a class variable, so every annotation declares a field.
  have hall : (entries.map fun e => (Value.text e.name, Value.text e.type)).filter
      (fun a => !TypeTerm.isClassVar a.2) =
      entries.map fun e => (Value.text e.name, Value.text e.type) := by
    refine List.filter_eq_self.2 fun a ha => ?_
    obtain ⟨e, he, rfl⟩ := List.mem_map.1 ha
    simp [htypes e he]
  rw [declarations, hall, List.map_map, List.forall₂_map_left_iff, List.forall₂_map_right_iff,
    List.forall₂_same]
  intro e he
  refine ⟨rfl, rfl, ?_⟩
  show Builder.SameOptions e.options
    (optionsOf e.name (Value.lookup e.name (ofEntries entries).contents))
  rw [lookup_contents hnames he]
  exact sameOptions_optionsOf e

/-- A class body whose statements go through comes to the schema of its declarations and then to the
class. -/
theorem result_compile {statements : List BodyStatement} {b : BodyState}
    (hb : ofStatements statements = .ok b) {annotations : List (Value × Value)}
    (hannotations : b.annotations = .mapping annotations) {qualname qualname' : String}
    (hqualname : b.valueOr "__qualname__" (.text qualname) = .text qualname') {name : String}
    (htitle : name.contains '\x00' = false)
    (hcell : Value.lookup "__classcell__" b.contents = none) {module : String}
    (htruth : (b.valueOr "__module__" (.text module)).hasTruth = true)
    (hkey : (b.valueOr "__module__" (.text module)).truthy = true →
      (b.valueOr "__module__" (.text module)).hashable = true)
    (id : Nat) (strict : Value) (policy : NamePolicy) :
    (compile statements id name module qualname false strict (.ok policy)).result =
      (Builder.new (.text name) strict policy).schemaOf (b.declarations annotations) >>= fun s =>
        (RecordType.create id s (b.classBody ((b.declarations annotations).map (·.1))
          (b.valueOr "__module__" (.text module)) (.text qualname'))).mapError .refused := by
  unfold compile
  simp only [hb, htitle, hqualname, hcell, htruth, hannotations, RecordType.checkTitle,
    RecordType.qualnameFrom, annotated, Value.truth, Report.result_bind, Report.result_ofExcept,
    mapError_ok, ok_bind, Option.isSome_none, Bool.false_eq_true, ↓reduceIte, Bool.and_eq_true,
    Bool.not_eq_eq_eq_not, Bool.not_true]
  -- The module is let through, so what is left are the declarations, their schema and the class.
  rw [if_neg fun h => absurd ((hkey h.1).symm.trans h.2) (by simp)]
  simp only [Report.result_bind, Report.result_ofExcept, ok_bind, Builder.schemaOf]
  generalize (Builder.new (.text name) strict policy).declareAll (b.declarations annotations) = made
  cases made.2.result with
  | error e => rfl
  | ok u => rfl

/-- A class body of admitted fields comes to the schema that calls come to and then to a class. -/
theorem exists_result_compile {entries : List FieldEntry} (hnames : (entries.map (·.name)).Nodup)
    (htypes : ∀ e ∈ entries, TypeTerm.isClassVar (.text e.type) = false)
    (hadmitted : ∀ e ∈ entries, e.IsAdmitted) {name : String}
    (htitle : name.contains '\x00' = false) (id : Nat) (module qualname : String) (strict : Value)
    (policy : NamePolicy) :
    ∃ body, (compile (entries.flatMap FieldEntry.statements) id name module qualname false strict
        (.ok policy)).result =
      (Builder.new (.text name) strict policy).schemaOf (entries.map FieldEntry.declaration) >>=
        fun s => (RecordType.create id s body).mapError .refused := by
  have hstatements := ofStatements_entries hnames fun e he c hc =>
    fun h => (hadmitted e he c hc).1 (by simp [h, annotationsName])
  -- A field under a name that the making of a class reads is admitted only with a value that suits.
  obtain ⟨qualname', hqualname⟩ : ∃ s,
      (ofEntries entries).valueOr "__qualname__" (.text qualname) = .text s :=
    valueOr_of_forall hnames (P := fun v => ∃ s, v = .text s) ⟨qualname, rfl⟩ fun e he hname c hc =>
      hname ▸ (hadmitted e he c hc).2.1 hname
  have hcell : Value.lookup "__classcell__" (ofEntries entries).contents = none := by
    cases h : Value.lookup "__classcell__" (ofEntries entries).contents with
    | none => rfl
    | some c =>
      obtain ⟨e, he, hname, hc⟩ := exists_of_lookup hnames h
      exact absurd (by simp [hname]) (hadmitted e he c hc).1
  have hmodule : ((ofEntries entries).valueOr "__module__" (.text module)).hasTruth = true ∧
      (((ofEntries entries).valueOr "__module__" (.text module)).truthy = true →
        ((ofEntries entries).valueOr "__module__" (.text module)).hashable = true) :=
    valueOr_of_forall hnames
      (P := fun v => v.hasTruth = true ∧ (v.truthy = true → v.hashable = true))
      ⟨rfl, fun _ => rfl⟩ fun e he hname c hc => hname ▸ (hadmitted e he c hc).2.2 hname
  obtain ⟨htruth, hkey⟩ := hmodule
  rw [result_compile hstatements rfl hqualname htitle hcell htruth hkey id strict policy,
    Builder.schemaOf_congr (sameDeclarations hnames htypes)]
  exact ⟨_, rfl⟩

end BodyState

/-! ## The agreement -/

theorem RecordType.schema_of_create {id : Nat} {s : Schema} {body : ClassBody} {t : RecordType}
    (h : RecordType.create id s body = .ok t) : t.schema = s := by
  unfold RecordType.create at h
  -- Every check either fails or goes on to the class, which has the schema as it is.
  obtain ⟨_, -, h⟩ := bind_eq_ok_iff.1 h
  obtain ⟨title, -, h⟩ := bind_eq_ok_iff.1 h
  dsimp only at h
  split at h
  · cases h
  · obtain ⟨ownName, -, h⟩ := bind_eq_ok_iff.1 h
    obtain ⟨qualname, -, h⟩ := bind_eq_ok_iff.1 h
    rw [← Except.ok.inj h]
    rfl

/-- The four ways to declare fields agree. Whatever way comes to a schema, the calls on a block come
to the same one, and the faults of declarations are the same in all. The names are distinct and none
of the fields is a class variable, and a class can be made of the class body and of its name. -/
theorem front_ends_agree {entries : List FieldEntry} {items : List Value} {settings : Settings}
    {policy : NamePolicy} (hnames : (entries.map (·.name)).Nodup)
    (htypes : ∀ e ∈ entries, TypeTerm.isClassVar (.text e.type) = false)
    (hadmitted : ∀ e ∈ entries, e.IsAdmitted)
    (hitems : List.Forall₂ FieldEntry.IsItem entries items)
    (hpolicy : settings.namePolicy = .ok policy) {name : String}
    (htitle : name.contains '\x00' = false) (module qualname : String) (id : Nat)
    (body : ClassBody) :
    let block := Builder.new (.text name) settings.strict policy
    let declarations := entries.map FieldEntry.declaration
    let called := block.schemaOf declarations
    let opened := (Block.run { builder := block } declarations none id body).2.result
    let decorated := (BodyState.compile (entries.flatMap FieldEntry.statements) id name module
      qualname false settings.strict (.ok policy)).result
    let read := (Document.compile settings (Document.single name items)).result
    (∀ s t, opened = .ok (s, t) → called = .ok s ∧ t.schema = s) ∧
    (∀ t, decorated = .ok t → called = .ok t.schema) ∧
    read = called.map (fun s => [(name, s)]) ∧
    ∀ e, e.isDeclaration = true →
      (opened = .error e ↔ called = .error e) ∧ (decorated = .error e ↔ called = .error e) ∧
        (read = .error e ↔ called = .error e) := by
  intro block declarations called opened decorated read
  have hopened := Block.result_run block declarations id body
  obtain ⟨body', hdecorated⟩ := BodyState.exists_result_compile hnames htypes hadmitted htitle id
    module qualname settings.strict policy
  have hread := Document.result_compile hitems hpolicy name
  -- A class is made behind the schema, and that fails only with a refusal.
  refine ⟨fun s t h => ?_, fun t h => ?_, hread, fun e he => ⟨?_, ?_, ?_⟩⟩
  · obtain ⟨s', hs', hst⟩ := bind_eq_ok_iff.1 (hopened.symm.trans h)
    obtain ⟨t', ht', hpair⟩ := map_eq_ok_iff.1 (mapError_eq_ok_iff.1 hst)
    obtain ⟨rfl, rfl⟩ := Prod.mk.inj hpair
    exact ⟨hs', RecordType.schema_of_create ht'⟩
  · obtain ⟨s, hs, ht⟩ := bind_eq_ok_iff.1 (hdecorated.symm.trans h)
    rw [RecordType.schema_of_create (mapError_eq_ok_iff.1 ht)]
    exact hs
  · show (Block.run _ _ _ _ _).2.result = _ ↔ _
    rw [hopened]
    exact Error.bind_refused_eq_error_iff he
  · show (BodyState.compile _ _ _ _ _ _ _ _).result = _ ↔ _
    rw [hdecorated]
    exact Error.bind_refused_eq_error_iff he
  · show (Document.compile _ _).result = _ ↔ _
    rw [hread]
    exact map_eq_error_iff

/-- A field under a reserved word, with its options marked in the class body. -/
def reservedEntry : FieldEntry where
  name := "class"
  type := "int"
  options := [(.text "enforce", .bool true)]
  marked := true
  recognised := by simp; rfl

/-- All four ways refuse a field under a reserved word, by the same fault. -/
theorem front_ends_of_reserved :
    let fault := Error.invalidName .identifier (.text "class")
    let item : Value := .mapping [(.text "enforce", .bool true), (.text "type", .text "int"),
      (.text "name", .text "class")]
    (Builder.new (.text "P")).schemaOf [reservedEntry.declaration] = .error fault ∧
    (Block.run { builder := Builder.new (.text "P") } [reservedEntry.declaration] none 0
      {}).2.result = .error fault ∧
    (BodyState.compile reservedEntry.statements 0 "P" "m" "P" false (.bool false)
      (.ok .identifier)).result = .error fault ∧
    (Document.compile {} (Document.single "P" [item])).result = .error fault := by
  intro fault item
  have hname : FieldName.ofValue? (.text "class") .identifier = none := by decide +kernel
  have hread : (FieldOptions.ofEntries reservedEntry.options false (.text "class")).result =
      .ok ⟨.missing, true⟩ := by
    rw [FieldOptions.result_ofEntries_of_recognised reservedEntry.recognised]
    rfl
  have hcalled : (Builder.new (.text "P")).schemaOf [reservedEntry.declaration] = .error fault := by
    rw [FieldEntry.declaration, Builder.schemaOf_cons, Builder.result_declare rfl rfl,
      (Builder.Condemns.name hread hname rfl).resolve]
    rfl
  have hitem : FieldEntry.IsItem reservedEntry item := ⟨_, rfl, rfl, rfl, rfl⟩
  have hadmitted : ∀ e ∈ [reservedEntry], e.IsAdmitted := by
    intro e he c _
    rw [List.mem_singleton.1 he]
    exact ⟨by decide, fun h => absurd h (by decide), fun h => absurd h (by decide)⟩
  have hagree := @front_ends_agree [reservedEntry] [item] {} .identifier (by decide) (by decide)
    hadmitted (.cons hitem .nil) rfl "P" (by simp) "m" "P" 0 {}
  obtain ⟨hopened, hdecorated, hread⟩ := hagree.2.2.2 fault rfl
  exact ⟨hcalled, hopened.2 hcalled, hdecorated.2 hcalled, hread.2 hcalled⟩

/-- A field under a name that a class body reads itself, with a default that it cannot use. -/
def qualnameEntry : FieldEntry where
  name := "__qualname__"
  type := "int"
  options := [(.text "default", .int 5)]
  marked := false
  recognised := by simp; rfl

/-- The ways to declare fields do not agree on every body: calls refuse the name of this field, but
the class body comes to no class before its names are looked at. -/
theorem class_body_of_qualname :
    (Builder.new (.text "P")).schemaOf [qualnameEntry.declaration] =
      .error (.invalidName .identifier (.text "__qualname__")) ∧
    (BodyState.compile qualnameEntry.statements 0 "P" "m" "P" false (.bool false)
      (.ok .identifier)).result = .error (.refused .wrongKind) := by
  have hname : FieldName.ofValue? (.text "__qualname__") .identifier = none := by decide +kernel
  have hread : (FieldOptions.ofEntries qualnameEntry.options false (.text "__qualname__")).result =
      .ok ⟨.int 5, false⟩ := by
    rw [FieldOptions.result_ofEntries_of_recognised qualnameEntry.recognised]
    rfl
  constructor
  · rw [FieldEntry.declaration, Builder.schemaOf_cons, Builder.result_declare rfl rfl,
      (Builder.Condemns.name hread hname rfl).resolve]
    rfl
  · have hbody : BodyState.ofStatements qualnameEntry.statements =
        .ok (BodyState.ofEntries [qualnameEntry]) := rfl
    have htitle : RecordType.checkTitle (.text "P") = .ok "P" := by simp [RecordType.checkTitle]
    unfold BodyState.compile
    simp only [hbody, htitle, Report.result_bind, Report.result_ofExcept, mapError_ok, ok_bind]
    rfl

end RecordSchema
