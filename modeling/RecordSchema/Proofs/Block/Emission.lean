import RecordSchema.Proofs.Block.Phases
import RecordSchema.Proofs.Names
import RecordSchema.Proofs.Sequences

/-!
# The schema that a block gives

A schema tells about its fields in several ways, and all of them tell the same: what was declared in
the calls that were not refused, in order (`Schema.Records`). The accumulator keeps as an invariant
that its fields are the ones declared, that their names are distinct and that its lists of names
belong to the fields (`Accumulator.Keeps`); every call preserves it (`Builder.Step.keeps`), and at
the end of a block it carries over to the schema (`Accumulator.Keeps.records`).
-/

set_option autoImplicit false

namespace RecordSchema

/-- What is given when a field is declared. -/
structure Declaration where
  name : Value
  type : Value
  options : List (Value × Value)

namespace Declaration

/-- Is there a default among the options? -/
def hasDefault (d : Declaration) : Bool := isGiven (FieldOptions.defaultIn d.options)

/-- Is the field to be enforced? -/
def isEnforced (d : Declaration) : Bool := (FieldOptions.enforceIn d.options).truthy

/-- A field with neither a default nor enforcement has to admit `None`. -/
def isNullable (d : Declaration) : Bool := !d.hasDefault && !d.isEnforced

/-- The default among the options, or `None` where there is none. -/
def initial (d : Declaration) : Value :=
  if d.hasDefault then FieldOptions.defaultIn d.options else .none

/-- A field is the one declared. -/
def Makes (d : Declaration) (f : Field) : Prop := f.IsOf d.name d.type d.options

section Makes

variable {d : Declaration} {f : Field}

theorem Makes.hasDefault_eq (h : d.Makes f) : f.hasDefault = d.hasDefault := by
  unfold Field.hasDefault Declaration.hasDefault
  rw [h.default_eq]

theorem Makes.isEnforced_eq (h : d.Makes f) : f.isEnforced = d.isEnforced := by
  unfold Field.isEnforced Declaration.isEnforced
  rw [h.enforced_eq]
  rfl

theorem Makes.isNullable_eq (h : d.Makes f) : f.isNullable = d.isNullable := by
  unfold Field.isNullable Declaration.isNullable TypeTerm.isNullable
  rw [h.hasDefault_eq, h.isEnforced_eq]

theorem Makes.initial_eq (h : d.Makes f) : f.initial = d.initial := by
  unfold Field.initial Declaration.initial
  rw [h.hasDefault_eq, h.default_eq]

/-- The type in effect is the annotation as it is, or widened exactly if the field has to admit
`None`. -/
theorem Makes.effective (h : d.Makes f) :
    if d.isNullable then TypeTerm.widen d.type = .ok f.effective else f.effective = d.type := by
  have heffective := h.effective_eq
  unfold TypeTerm.effective at heffective
  rw [h.hasDefault_eq, h.isEnforced_eq, show TypeTerm.isNullable d.hasDefault d.isEnforced =
    d.isNullable from rfl] at heffective
  cases hnull : d.isNullable with
  | true =>
    rw [hnull] at heffective
    exact heffective
  | false =>
    rw [hnull] at heffective
    exact (Except.ok.inj heffective).symm

end Makes

end Declaration

/-! ## Schemas -/

namespace Schema

theorem field_of_mem {s : Schema} (hs : s.keys.Nodup) {f : Field} (hf : f ∈ s.fields) :
    s.field (.text f.name) = .ok f := by
  have hfind : s.fields.find? (fun g => (Value.text f.name).equal (.text g.name)) = some f := by
    have hcomm : (fun g : Field => (Value.text f.name).equal (.text g.name)) =
        fun g => g.name == f.name := funext fun g => BEq.comm
    rw [hcomm]
    exact find?_of_nodup hs hf
  rw [field, hfind]

theorem field_of_notMem {s : Schema} {n : String} (hn : n ∉ s.keys) :
    s.field (.text n) = .error (Error.noSuchField s.name (.text n)).raised := by
  have hfind : s.fields.find? (fun g => (Value.text n).equal (.text g.name)) = none := by
    refine List.find?_eq_none.2 fun g hg heq => hn ?_
    have hname : n = g.name := eq_of_beq heq
    rw [hname]
    exact List.mem_map_of_mem hg
  rw [field, hfind]

/-- Where no name comes twice, the defaults are those of the fields one by one. -/
theorem defaults_eq_map {s : Schema} (hs : s.keys.Nodup) :
    s.defaults = s.fields.map fun f => (f.name, f.initial) := putAll_map_of_nodup hs _

/-- Where no name comes twice, the types are those of the fields one by one. -/
theorem types_eq_map {s : Schema} (hs : s.keys.Nodup) :
    s.types = s.fields.map fun f => (f.name, f.effective) := putAll_map_of_nodup hs _

/-- A schema is the ordered record of declarations: whatever it tells about its fields is what was
declared. -/
structure Records (s : Schema) (ds : List Declaration) : Prop where
  /-- The fields are the ones declared. -/
  fields : List.Forall₂ Declaration.Makes ds s.fields
  /-- There is one key for each declaration, which is the name declared. -/
  keys : s.keys.map Value.text = ds.map (·.name)
  /-- No key comes twice. -/
  distinct : s.keys.Nodup
  /-- There are as many fields as declarations. -/
  length : s.fields.length = ds.length
  /-- The defaults stand under the keys. -/
  defaults_keys : s.defaults.map Prod.fst = s.keys
  /-- The types stand under the keys. -/
  types_keys : s.types.map Prod.fst = s.keys
  /-- The defaults are the ones given, or `None`. -/
  defaults : s.defaults.map Prod.snd = ds.map (·.initial)
  /-- The types are the annotations, widened where `None` has to be admitted. -/
  types : List.Forall₂
    (fun d t => if d.isNullable then TypeTerm.widen d.type = .ok t else t = d.type) ds
    (s.types.map Prod.snd)
  /-- Exactly the fields with a truthy enforcement are required. -/
  required : ∀ n, n ∈ s.required ↔ ∃ d ∈ ds, d.name = .text n ∧ d.isEnforced = true
  /-- The nullable fields are those with neither a default nor enforcement, in order. -/
  nullable : s.nullable.map Value.text = (ds.filter (·.isNullable)).map (·.name)
  /-- Under each key there is a field, with the type and the default that stand there. -/
  found : ∀ n ∈ s.keys, ∃ f ∈ s.fields, s.field (.text n) = .ok f ∧ f.name = n ∧
    Value.lookup n s.types = some f.effective ∧ Value.lookup n s.defaults = some f.initial
  /-- Under any other text there is none. -/
  not_found : ∀ n, n ∉ s.keys →
    s.field (.text n) = .error (Error.noSuchField s.name (.text n)).raised

end Schema

/-! ## The invariant of the accumulator -/

/-- The fields of an accumulator are the ones declared, under distinct names, and its names and
required names are those of its fields. -/
structure Accumulator.Keeps (a : Accumulator) (ds : List Declaration) : Prop where
  fields : List.Forall₂ Declaration.Makes ds a.fields
  names : a.names = a.fields.map (·.name)
  distinct : a.names.Nodup
  required : a.required = (a.fields.filter (·.isEnforced)).map (·.name)

namespace Accumulator

theorem keeps_new (name : Value) : Accumulator.Keeps { name } [] := ⟨.nil, rfl, .nil, rfl⟩

/-- One more field is required exactly if it is enforced. -/
theorem required_push {a : Accumulator}
    (h : a.required = (a.fields.filter (·.isEnforced)).map (·.name)) (f : Field) :
    (a.push f).required = ((a.push f).fields.filter (·.isEnforced)).map (·.name) := by
  cases hf : f.isEnforced <;> simp [Accumulator.push, h, hf]

/-- One more declaration under a name that is not taken. -/
theorem Keeps.push {a : Accumulator} {ds : List Declaration} (h : a.Keeps ds) {d : Declaration}
    {f : Field} (hd : d.Makes f) (hnew : a.contains f.name = false) :
    (a.push f).Keeps (ds ++ [d]) where
  fields := List.rel_append h.fields (.cons hd .nil)
  names := by simp [Accumulator.push, h.names]
  distinct := by
    -- The check against the names taken is what keeps them distinct.
    have hmem : f.name ∉ a.names := by simpa [contains] using hnew
    exact List.nodup_append.2 ⟨h.distinct, List.nodup_singleton _, fun x hx y hy hxy =>
      hmem (List.mem_singleton.1 hy ▸ hxy ▸ hx)⟩
  required := required_push h.required f

end Accumulator

namespace Builder

/-- The declaration of a call that was not refused, if it is one. -/
def acceptedBy : Call → Except Error Given → List Declaration
  | .declare name type options, .ok _ => [⟨name, type, options⟩]
  | _, _ => []

@[simp] theorem acceptedBy_error (c : Call) (e : Error) : acceptedBy c (.error e) = [] := by
  cases c <;> rfl

@[simp] theorem acceptedBy_build (r : Except Error Given) : acceptedBy .build r = [] := rfl

/-- The declarations among calls on a block that were not refused, in order. -/
def accepted (b : Builder) : List Call → List Declaration
  | [] => []
  | c :: calls => acceptedBy c (b.reply c) ++ (b.call c).1.accepted calls

/-- What the accumulator keeps grows by the declaration that a call makes. -/
theorem Step.keeps {b b' : Builder} {c : Call} {r : Except Error Given} (h : Step b c b' r)
    {ds : List Declaration} (hb : b.state.Keeps ds) : b'.state.Keeps (ds ++ acceptedBy c r) := by
  cases h with
  | @make name type options f _ _ made =>
    obtain ⟨hf, hnew⟩ := isOf_of_resolve made
    exact hb.push (d := ⟨name, type, options⟩) hf hnew
  | finish _ _ _ =>
    rw [acceptedBy_build, List.append_nil]
    exact ⟨hb.fields, hb.names, hb.distinct, hb.required⟩
  | again _ _ => rwa [acceptedBy_build, List.append_nil]
  | refuse _ | late _ _ | abort _ _ _ _ | spare _ _ _ _ | stuck _ _ _ =>
    rwa [acceptedBy_error, List.append_nil]

theorem keeps_after {b : Builder} {ds : List Declaration} (hb : b.state.Keeps ds)
    (calls : List Call) : (b.after calls).state.Keeps (ds ++ b.accepted calls) := by
  -- The declarations so far grow with the block.
  induction calls generalizing b ds with
  | nil => rwa [accepted, List.append_nil]
  | cons c calls ih =>
    rw [accepted, ← List.append_assoc]
    exact ih ((step_call b c).keeps hb)

/-- The schema that the end of a block gives is the outcome of its accumulator. -/
theorem eq_outcome_of_build {b : Builder} (hb : b.Steady) {s : Schema}
    (h : b.reply .build = .ok (.schema s)) : s = b.state.outcome := by
  have hstep := step_call b .build
  rw [h] at hstep
  generalize (b.call .build).1 = b' at hstep
  cases hstep with
  | finish _ _ _ => rfl
  | again _ built => exact hb.outcome s built

end Builder

/-! ## From the accumulator to the schema -/

namespace Accumulator

variable {a : Accumulator} {ds : List Declaration}

theorem Keeps.keys_nodup (h : a.Keeps ds) : a.outcome.keys.Nodup := by
  have := h.distinct
  rwa [h.names] at this

theorem Keeps.defaults_eq (h : a.Keeps ds) :
    a.outcome.defaults = a.fields.map fun f => (f.name, f.initial) :=
  Schema.defaults_eq_map h.keys_nodup

theorem Keeps.types_eq (h : a.Keeps ds) :
    a.outcome.types = a.fields.map fun f => (f.name, f.effective) :=
  Schema.types_eq_map h.keys_nodup

/-- The schema of an accumulator is the record of what was declared. -/
theorem Keeps.records (h : a.Keeps ds) : a.outcome.Records ds where
  fields := h.fields
  keys := by
    rw [Schema.keys, List.map_map]
    exact map_eq_map_of_forall₂ h.fields fun d f hd => hd.name_eq.symm
  distinct := h.keys_nodup
  length := h.fields.length_eq.symm
  defaults_keys := by
    rw [h.defaults_eq, List.map_map]
    rfl
  types_keys := by
    rw [h.types_eq, List.map_map]
    rfl
  defaults := by
    rw [h.defaults_eq, List.map_map]
    exact map_eq_map_of_forall₂ h.fields fun d f hd => hd.initial_eq
  types := by
    rw [h.types_eq, List.map_map, List.forall₂_map_right_iff]
    exact h.fields.imp fun d f hd => hd.effective
  required := by
    intro n
    have hnames : a.required.map Value.text = (ds.filter (·.isEnforced)).map (·.name) := by
      rw [h.required, List.map_map]
      exact map_eq_map_of_forall₂ (forall₂_filter h.fields fun d f hd => hd.isEnforced_eq)
        fun d f hd => hd.name_eq.symm
    have hmem : n ∈ a.required ↔ Value.text n ∈ a.required.map Value.text := by simp
    -- Both sides are compared as lists of values, since names are declared as values.
    show n ∈ a.required ↔ _
    rw [hmem, hnames]
    simp only [List.mem_map, List.mem_filter]
    exact ⟨fun ⟨d, ⟨hd, he⟩, hn⟩ => ⟨d, hd, hn, he⟩, fun ⟨d, hd, hn, he⟩ => ⟨d, ⟨hd, he⟩, hn⟩⟩
  nullable := by
    rw [Schema.nullable, List.map_map]
    exact map_eq_map_of_forall₂ (forall₂_filter h.fields fun d f hd => hd.isNullable_eq)
      fun d f hd => hd.name_eq.symm
  found := by
    intro n hn
    obtain ⟨f, hf, hfn⟩ := List.mem_map.1 hn
    subst hfn
    refine ⟨f, hf, Schema.field_of_mem h.keys_nodup hf, rfl, ?_, ?_⟩
    · rw [h.types_eq]
      exact Schema.lookup_map_of_nodup h.keys_nodup Field.effective hf
    · rw [h.defaults_eq]
      exact Schema.lookup_map_of_nodup h.keys_nodup Field.initial hf
  not_found := fun n hn => Schema.field_of_notMem hn

end Accumulator

namespace Builder

/-- The schema that a block gives is the outcome of its accumulator, which has the name of the block
and keeps the declarations that were not refused. -/
theorem keeps_of_build {name strict : Value} {policy : NamePolicy} {calls : List Call} {s : Schema}
    (h : ((Builder.new name strict policy).after calls).reply .build = .ok (.schema s)) :
    s = ((Builder.new name strict policy).after calls).state.outcome ∧ s.name = name ∧
      ((Builder.new name strict policy).after calls).state.Keeps
        ((Builder.new name strict policy).accepted calls) := by
  have hsteady := steady_after (steady_new name strict policy) calls
  have houtcome := eq_outcome_of_build hsteady h
  have hkeeps : ((Builder.new name strict policy).after calls).state.Keeps
      ([] ++ (Builder.new name strict policy).accepted calls) :=
    keeps_after (Accumulator.keeps_new name) calls
  refine ⟨houtcome, ?_, hkeeps⟩
  rw [houtcome]
  exact hsteady.named.trans (name_after _ calls)

/-- The schema that a block gives is the ordered record of the declarations that were not refused,
under the name of the block. -/
theorem records_of_build {name strict : Value} {policy : NamePolicy} {calls : List Call}
    {s : Schema}
    (h : ((Builder.new name strict policy).after calls).reply .build = .ok (.schema s)) :
    s.name = name ∧ s.Records ((Builder.new name strict policy).accepted calls) := by
  have hsteady := steady_after (steady_new name strict policy) calls
  have hkeeps : ((Builder.new name strict policy).after calls).state.Keeps
      ([] ++ (Builder.new name strict policy).accepted calls) :=
    keeps_after (Accumulator.keeps_new name) calls
  rw [eq_outcome_of_build hsteady h]
  exact ⟨hsteady.named.trans (name_after _ calls), hkeeps.records⟩

/-- A whole number with a default. -/
def numberDeclaration : Declaration := ⟨.text "n", .text "int", [(.text "default", .int 5)]⟩

def numberField : Field := ⟨"n", .int 5, .text "int", .text "int", .bool false⟩

theorem resolve_number :
    ((Builder.new (.text "P")).resolve numberDeclaration.name numberDeclaration.type
      numberDeclaration.options).result = .ok numberField := by
  have hname : validateName (.text "n") .identifier (Builder.new (.text "P")).state.contains =
      .ok "n" := validateName_eq_ok_iff.2 ⟨by decide +kernel, rfl⟩
  rw [numberDeclaration,
    result_resolve_of_read (FieldOptions.result_ofEntries_default _ _ _) hname]
  rfl

/-- A block with one declaration that is accepted and one that comes too late. -/
def numberCalls : List Call :=
  [.declare numberDeclaration.name numberDeclaration.type numberDeclaration.options, .build,
    .declare (.text "m") (.text "int") []]

theorem records_of_number :
    ((Builder.new (.text "P")).after numberCalls).reply .build =
      .ok (.schema ⟨.text "P", [numberField], []⟩) ∧
    Schema.Records ⟨.text "P", [numberField], []⟩ [numberDeclaration] := by
  have hopen := inPhase_open_new (.text "P") (.bool false) .identifier
  have hcall := call_declare_of_made hopen resolve_number
  have hreply := reply_declare_of_open hopen numberDeclaration.name numberDeclaration.type
    numberDeclaration.options
  rw [resolve_number] at hreply
  have hbuild : ((Builder.new (.text "P")).after numberCalls).reply .build =
      .ok (.schema ⟨.text "P", [numberField], []⟩) := by
    rw [numberCalls, after_cons, hcall]
    rfl
  have haccepted : (Builder.new (.text "P")).accepted numberCalls = [numberDeclaration] := by
    rw [numberCalls, accepted, hreply, hcall]
    rfl
  have hrecords := (records_of_build hbuild).2
  rw [haccepted] at hrecords
  exact ⟨hbuild, hrecords⟩

end Builder

end RecordSchema
