import RecordSchema.Proofs.Record.Making
import RecordSchema.Record.Block

/-!
# What a block with a body leaves behind

The body of a block makes calls on it, lets their failures out or catches them, and may break off on
its own. What it does is a list of acts, and as far as it gets it is a run of calls
(`Builder.exists_after_of_performAll`), so what holds after all runs of calls holds at its end. A
body that breaks off leaves neither a schema nor a record class. If it comes to its end, the block
gives both or neither, unless a field is called like the record among the parameters of its
constructor: then the schema is set before it turns out that there is no class of it
(`Block.all_or_nothing_iff`).
-/

set_option autoImplicit false

namespace RecordSchema

/-! ## Bodies -/

/-- What the body of a block does. -/
inductive BodyAct where
  /-- A call whose failure breaks the body off. -/
  | call (c : Call)
  /-- A call whose failure is caught. -/
  | attempt (c : Call)
  | raise (e : Error)

namespace Builder

/-- The block after an act of its body, and the error that the act breaks the body off by. -/
def perform (b : Builder) : BodyAct → Builder × Option Error
  | .call c =>
    ((b.call c).1,
      match b.reply c with
      | .ok _ => none
      | .error e => some e)
  | .attempt c => ((b.call c).1, none)
  | .raise e => (b, some e)

/-- The block after the acts of its body, as far as it gets, and the error that it breaks off by. -/
def performAll (b : Builder) : List BodyAct → Builder × Option Error
  | [] => (b, none)
  | act :: acts =>
    match b.perform act with
    | (b', none) => b'.performAll acts
    | (b', some e) => (b', some e)

@[simp] theorem performAll_singleton (b : Builder) (act : BodyAct) :
    b.performAll [act] = b.perform act := by
  unfold performAll
  rcases b.perform act with ⟨b', _ | e⟩ <;> rfl

/-- An act of a body makes at most one call. -/
theorem exists_after_of_perform (b : Builder) (act : BodyAct) :
    ∃ calls, (b.perform act).1 = b.after calls := by
  cases act with
  | call c => exact ⟨[c], rfl⟩
  | attempt c => exact ⟨[c], rfl⟩
  | raise e => exact ⟨[], rfl⟩

/-- Whatever a body does, its block is as after some calls. -/
theorem exists_after_of_performAll (b : Builder) (acts : List BodyAct) :
    ∃ calls, (b.performAll acts).1 = b.after calls := by
  induction acts generalizing b with
  | nil => exact ⟨[], rfl⟩
  | cons act acts ih =>
    obtain ⟨calls, hcalls⟩ := b.exists_after_of_perform act
    unfold performAll
    rcases hact : b.perform act with ⟨b', _ | e⟩
    · rw [hact] at hcalls
      obtain ⟨later, hlater⟩ := ih b'
      exact ⟨calls ++ later, by rw [after_append, ← hcalls, ← hlater]⟩
    · rw [hact] at hcalls
      exact ⟨calls, hcalls⟩

end Builder

/-! ## Leaving a block -/

/-- The declarations of a body that catches nothing are made until one is refused. -/
theorem Builder.performAll_declarations (b : Builder)
    (ds : List (Value × Value × List (Value × Value))) (acts : List BodyAct) :
    b.performAll (ds.map (fun d => .call (.declare d.1 d.2.1 d.2.2)) ++ acts) =
      match (b.declareAll ds).2.result with
      | .ok _ => (b.declareAll ds).1.performAll acts
      | .error e => ((b.declareAll ds).1, some e) := by
  induction ds generalizing b with
  | nil => rfl
  | cons d ds ih =>
    obtain ⟨name, type, options⟩ := d
    have hcall : (b.call (.declare name type options)).1 = (b.declare name type options).1 := rfl
    have hreply : b.reply (.declare name type options) =
        (b.declare name type options).2.result.map .field := Report.result_map _ _
    simp only [List.map_cons, List.cons_append, performAll, perform, declareAll, hcall, hreply]
    rcases b.declare name type options with ⟨b', made⟩
    cases hmade : made.result with
    | ok f => simpa [hmade, Except.map] using ih b'
    | error e => simp [Except.map]

namespace Block

/-- A block after its body and its end, and what leaving it comes to. -/
def leave (b : Builder) (acts : List BodyAct) (id : Nat) (body : ClassBody) :
    Block × Except Error (Schema × RecordType) :=
  match b.performAll acts with
  | (b', some e) => ({ builder := b' }, .error e)
  | (b', none) =>
    let closed := Block.close { builder := b' } id body
    (closed.1, closed.2.result)

/-- A block that is run with declarations is left like any other. -/
theorem leave_declarations (b : Builder) (ds : List (Value × Value × List (Value × Value)))
    (interruption : Option Error) (id : Nat) (body : ClassBody) :
    leave b (ds.map (fun d => .call (.declare d.1 d.2.1 d.2.2)) ++
        interruption.toList.map .raise) id body =
      ((Block.run { builder := b } ds interruption id body).1,
        (Block.run { builder := b } ds interruption id body).2.result) := by
  unfold leave Block.run
  rw [Builder.performAll_declarations]
  rcases b.declareAll ds with ⟨b', declared⟩
  cases hdeclared : declared.result with
  | error e => simp [hdeclared]
  | ok u => cases interruption <;> simp [hdeclared, Builder.performAll, Builder.perform]

end Block

/-! ## All or nothing -/

namespace RecordType

/-- A schema with distinct allowed names has a class, in any module, unless a name is that of the
record. -/
theorem create_of_isNamed_in {s : Schema} {title : String} (hs : s.IsNamed title) (id : Nat)
    (module : Option Value) :
    (receiver ∈ s.keys → create id s { module } = .error .badValue) ∧
      (receiver ∉ s.keys → ∃ t, create id s { module } = .ok t) := by
  have hkeys := checkParameters_of_isNamed hs
  unfold create
  constructor
  · intro hself
    rw [hkeys, if_pos hself, error_bind]
  · intro hself
    rw [hkeys, if_neg hself, ok_bind, checkTitle_of_isNamed hs, ok_bind]
    exact ⟨_, rfl⟩

end RecordType

namespace Builder

/-- A block that is not aborted gives the schema of what it has accumulated. -/
theorem reply_build_of_alive {b : Builder} (hb : b.Steady) (alive : b.isAborted = false) :
    b.reply .build = .ok (.schema b.state.outcome) := by
  have hstep := step_build b
  generalize (b.call .build).1 = b', b.reply .build = r at hstep
  cases hstep with
  | refuse aborted => cases alive.symm.trans aborted
  | finish _ _ _ => rfl
  | again _ built => rw [hb.outcome _ built]
  | stuck _ none ended =>
    rw [hb.ended_iff, none] at ended
    cases ended

theorem result_build_of_reply {b : Builder} {s : Schema} (h : b.reply .build = .ok (.schema s)) :
    b.build.2.result = .ok s := by
  obtain ⟨s', hs', hschema⟩ := map_eq_ok_iff.1 ((Report.result_map _ _).symm.trans h)
  rw [hs', Given.schema.inj hschema]

theorem result_build_of_aborted {b : Builder} (aborted : b.isAborted = true) :
    ∃ e, b.build.2.result = .error e := by
  unfold build
  rw [aborted]
  exact ⟨_, rfl⟩

end Builder

namespace Block

variable {b : Builder} {s : Schema} {id : Nat} {body : ClassBody}

/-- Schema and record class are given, the class being made of the schema, or an error comes about
and neither is. -/
inductive AllOrNothing (b : Block) (id : Nat) (body : ClassBody) :
    Except Error (Schema × RecordType) → Prop where
  | all {s : Schema} {t : RecordType} (schema : b.schema = some s) (struct : b.struct = some t)
      (made : RecordType.create id s body = .ok t) : AllOrNothing b id body (.ok (s, t))
  | nothing (schema : b.schema = none) (struct : b.struct = none) (e : Error) :
      AllOrNothing b id body (.error e)

/-- The schema is given without a class. -/
structure Halfway (b : Block) (s : Schema) (cause : Refusal)
    (r : Except Error (Schema × RecordType)) : Prop where
  schema : b.schema = some s
  struct : b.struct = none
  result : r = .error (.refused cause)

theorem Halfway.not_allOrNothing {b : Block} {cause : Refusal}
    {r : Except Error (Schema × RecordType)} (h : b.Halfway s cause r) :
    ¬ b.AllOrNothing id body r := by
  obtain ⟨hschema, hstruct, rfl⟩ := h
  rintro (_ | hnone)
  cases hschema.symm.trans hnone

theorem close_of_error {e : Error} (h : b.build.2.result = .error e) (id : Nat) (body : ClassBody) :
    (close { builder := b } id body).1.AllOrNothing id body
      (close { builder := b } id body).2.result := by
  unfold close
  rcases hbuild : b.build with ⟨b', built⟩
  replace h : built.result = .error e := by rwa [hbuild] at h
  simp only [h]
  exact .nothing rfl rfl e

theorem close_of_class {t : RecordType} (h : b.build.2.result = .ok s)
    (ht : RecordType.create id s body = .ok t) :
    (close { builder := b } id body).1.AllOrNothing id body
      (close { builder := b } id body).2.result := by
  unfold close
  rcases hbuild : b.build with ⟨b', built⟩
  replace h : built.result = .ok s := by rwa [hbuild] at h
  simp only [h, ht]
  exact .all rfl rfl ht

theorem close_of_refusal {cause : Refusal} (h : b.build.2.result = .ok s)
    (hcause : RecordType.create id s body = .error cause) :
    (close { builder := b } id body).1.Halfway s cause
      (close { builder := b } id body).2.result := by
  unfold close
  rcases hbuild : b.build with ⟨b', built⟩
  replace h : built.result = .ok s := by rwa [hbuild] at h
  simp only [h, hcause]
  exact ⟨rfl, rfl, rfl⟩

theorem leave_of_interruption {b' : Builder} {acts : List BodyAct} {e : Error}
    (h : b.performAll acts = (b', some e)) (id : Nat) (body : ClassBody) :
    (leave b acts id body).1.AllOrNothing id body (leave b acts id body).2 := by
  unfold leave
  rw [h]
  exact .nothing rfl rfl e

theorem leave_of_end {b' : Builder} {acts : List BodyAct} (h : b.performAll acts = (b', none))
    (id : Nat) (body : ClassBody) :
    leave b acts id body = ((close { builder := b' } id body).1,
      (close { builder := b' } id body).2.result) := by
  unfold leave
  rw [h]

/-- The end of a block under a text, after any calls that did not abort it: schema and class, or the
schema alone if a field is called like the record. -/
theorem close_of_alive {title : String} (hplain : '\x00' ∉ title.toList) {strict : Value}
    {policy : NamePolicy} {calls : List Call}
    (hb : b = (Builder.new (.text title) strict policy).after calls) (alive : b.isAborted = false)
    (id : Nat) (module : Option Value) :
    ("self" ∉ b.state.names → (close { builder := b } id { module }).1.AllOrNothing id { module }
      (close { builder := b } id { module }).2.result) ∧
    ("self" ∈ b.state.names → (close { builder := b } id { module }).1.Halfway b.state.outcome
      .badValue (close { builder := b } id { module }).2.result) := by
  subst hb
  have hreply := Builder.reply_build_of_alive
    (Builder.steady_after (Builder.steady_new (.text title) strict policy) calls) alive
  have hbuild := Builder.result_build_of_reply hreply
  obtain ⟨-, -, hkeeps⟩ := Builder.keeps_of_build hreply
  obtain ⟨hrefused, hmade⟩ := RecordType.create_of_isNamed_in
    (Builder.isNamed_of_build hplain hreply) id module
  rw [hkeeps.names]
  constructor
  · intro hself
    obtain ⟨t, ht⟩ := hmade hself
    exact close_of_class hbuild ht
  · intro hself
    exact close_of_refusal hbuild (hrefused hself)

/-- Whatever the body of a block does, leaving the block gives schema and class or neither, unless
the body comes to its end in a block that is not aborted and in which a field called `self` was
declared. In that case the schema is given, its class is refused, and the refusal comes out. -/
theorem all_or_nothing_iff {title : String} (hplain : '\x00' ∉ title.toList) (strict : Value)
    (policy : NamePolicy) (acts : List BodyAct) (id : Nat) (module : Option Value) :
    let inside := (Builder.new (.text title) strict policy).performAll acts
    let left := leave (Builder.new (.text title) strict policy) acts id { module }
    (left.1.AllOrNothing id { module } left.2 ↔
      ¬ (inside.2 = none ∧ inside.1.isAborted = false ∧ "self" ∈ inside.1.state.names)) ∧
    (inside.2 = none → inside.1.isAborted = false → "self" ∈ inside.1.state.names →
      left.1.Halfway inside.1.state.outcome .badValue left.2) := by
  intro inside left
  -- The block at the end of its body is one after some calls, whatever was caught on the way.
  obtain ⟨calls, hcalls⟩ :=
    (Builder.new (.text title) strict policy).exists_after_of_performAll acts
  rcases hinside : inside with ⟨b', _ | e⟩
  · have hb' : b' = _ := (congrArg Prod.fst hinside).symm.trans hcalls
    have hleft : left = _ := leave_of_end hinside id { module }
    rw [hleft]
    cases haborted : b'.isAborted with
    | true =>
      obtain ⟨e, he⟩ := Builder.result_build_of_aborted haborted
      exact ⟨iff_of_true (close_of_error he id _) (by simp), by simp⟩
    | false =>
      obtain ⟨hall, hhalf⟩ := close_of_alive hplain hb' haborted id module
      refine ⟨⟨fun h hself => (hhalf hself.2.2).not_allOrNothing h, fun h => hall fun hself => ?_⟩,
        fun _ _ => hhalf⟩
      exact h ⟨rfl, rfl, hself⟩
  · exact ⟨iff_of_true (leave_of_interruption hinside id { module }) (by simp), by simp⟩

/-- A block with one field of another name gives its schema and its class. -/
theorem all_given_of_number :
    '\x00' ∉ "P".toList ∧
    "self" ∉
      ((Builder.new (.text "P")).performAll ((Builder.oneField "n").map .call)).1.state.names ∧
    (leave (Builder.new (.text "P")) ((Builder.oneField "n").map .call) 1 {}).1.AllOrNothing 1 {}
      (leave (Builder.new (.text "P")) ((Builder.oneField "n").map .call) 1 {}).2 := by
  have hplain : '\x00' ∉ "P".toList := by decide
  have hself : "self" ∉
      ((Builder.new (.text "P")).performAll ((Builder.oneField "n").map .call)).1.state.names := by
    decide +kernel
  exact ⟨hplain, hself, (all_or_nothing_iff hplain (.bool false) .identifier _ 1 none).1.2
    fun h => hself h.2.2⟩

/-- A block in which a field called `self` is declared gives its schema and no class. -/
theorem half_given_of_self :
    (leave (Builder.new (.text "P")) ((Builder.oneField "self").map .call) 1 {}).1.Halfway
      (Builder.oneFieldSchema "self") .badValue
      (leave (Builder.new (.text "P")) ((Builder.oneField "self").map .call) 1 {}).2 ∧
    ¬ (leave (Builder.new (.text "P")) ((Builder.oneField "self").map .call) 1 {}).1.AllOrNothing
      1 {} (leave (Builder.new (.text "P")) ((Builder.oneField "self").map .call) 1 {}).2 := by
  have hbuild := Builder.build_oneField (n := "self") (by decide +kernel)
  have hs := Builder.isNamed_of_build (by simp) hbuild
  have hrefused := (RecordType.create_of_isNamed_in hs 1 none).1
    (by simp [Builder.oneFieldSchema, Schema.keys, RecordType.receiver])
  have hend : (Builder.new (.text "P")).performAll ((Builder.oneField "self").map .call) =
      ((Builder.new (.text "P")).after (Builder.oneField "self"), none) := by
    rw [Builder.oneField, List.map_singleton, Builder.performAll_singleton]
    exact Prod.ext rfl (Option.isNone_iff_eq_none.1 (by decide +kernel))
  rw [leave_of_end hend]
  have hhalf := close_of_refusal (Builder.result_build_of_reply hbuild) hrefused
  exact ⟨hhalf, hhalf.not_allOrNothing⟩

end Block

end RecordSchema
