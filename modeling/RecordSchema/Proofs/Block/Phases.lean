import RecordSchema.Proofs.Block.Calls
import Mathlib.Logic.ExistsUnique

/-!
# The phases of a block

A block is open, built or aborted, and in one phase only, whatever calls it has taken. It leaves the
open phase by its end or by a fault of a declaration, and no other phase. What one call does to a
block of a phase is `Builder.Obeys`; `phase_laws` has it for every call after every run of calls,
together with the schema that a built block keeps giving.

A declaration can also fail without a fault of its own, when the rules of values refuse something on
the way. Such a declaration leaves its block open: the next module says which failures are final.
-/

set_option autoImplicit false

namespace RecordSchema

/-- Where a block stands. -/
inductive Phase where
  | «open»
  | built
  | aborted

namespace Builder

/-- What a block of a phase keeps: no fault and no schema while it is open, a schema and an
accumulator at its end once it is built, a fault once it is aborted. -/
def InPhase (b : Builder) : Phase → Prop
  | .open => b.cause = none ∧ b.schema = none ∧ b.state.finalized = false
  | .built => b.cause = none ∧ b.schema.isSome = true ∧ b.state.finalized = true
  | .aborted => b.cause.isSome = true ∧ b.schema = none ∧ b.state.finalized = false

theorem InPhase.alive {b : Builder} (h : b.InPhase .open) : b.isAborted = false := by
  simp [isAborted, h.1]

theorem InPhase.going {b : Builder} (h : b.InPhase .open) : b.isFinalized = false := h.2.2

theorem InPhase.alive_of_built {b : Builder} (h : b.InPhase .built) : b.isAborted = false := by
  simp [isAborted, h.1]

theorem InPhase.ended {b : Builder} (h : b.InPhase .built) : b.isFinalized = true := h.2.2

theorem InPhase.is_aborted {b : Builder} (h : b.InPhase .aborted) : b.isAborted = true := h.1

/-- No block stands in two places. -/
theorem InPhase.unique {b : Builder} {p q : Phase} (hp : b.InPhase p) (hq : b.InPhase q) :
    p = q := by
  cases p <;> cases q <;> simp_all [InPhase]

/-- A block whose marks agree is in one phase. -/
theorem Steady.existsUnique_phase {b : Builder} (hb : b.Steady) : ∃! p, b.InPhase p := by
  suffices h : ∃ p, b.InPhase p by
    obtain ⟨p, hp⟩ := h
    exact ⟨p, hp, fun q hq => hq.unique hp⟩
  -- The fault decides first, then the schema; the accumulator follows the schema.
  cases hcause : b.cause with
  | some e =>
    have hnone := hb.not_both (by simp [isAborted, hcause])
    have hended : b.state.finalized = false := by
      have := hb.ended_iff
      rwa [hnone] at this
    exact ⟨.aborted, by simp [hcause], hnone, hended⟩
  | none =>
    cases hschema : b.schema with
    | none =>
      have hended : b.state.finalized = false := by
        have := hb.ended_iff
        rwa [hschema] at this
      exact ⟨.open, hcause, hschema, hended⟩
    | some s =>
      have hended : b.state.finalized = true := by
        have := hb.ended_iff
        rwa [hschema] at this
      exact ⟨.built, hcause, by simp [hschema], hended⟩

theorem inPhase_open_new (name strict : Value) (policy : NamePolicy) :
    (Builder.new name strict policy).InPhase .open := ⟨rfl, rfl, rfl⟩

/-! ## One call -/

/-- What a call does to a block, by the phase of the block. -/
structure Obeys (b : Builder) (c : Call) : Prop where
  /-- An open block is aborted by exactly those declarations that fail by a fault. -/
  aborts_iff : b.InPhase .open →
    ((b.call c).1.InPhase .aborted ↔
      ∃ name type options e, c = .declare name type options ∧ b.reply c = .error e ∧
        e.isDeclaration = true)
  /-- Such a fault is an unknown option, an unacceptable name or a name that is taken. -/
  fault : b.InPhase .open → ∀ name type options e, c = .declare name type options →
    b.reply c = .error e → e.isDeclaration = true → b.Condemns name options e
  /-- An open block is built by its end alone. -/
  builds_iff : b.InPhase .open → ((b.call c).1.InPhase .built ↔ c = .build)
  /-- The end of an open block gives a schema, which the block keeps. -/
  gives : b.InPhase .open → c = .build →
    ∃ s, b.reply c = .ok (.schema s) ∧ (b.call c).1.schema = some s
  /-- An aborted block refuses every call. -/
  aborted : b.InPhase .aborted →
    (b.call c).1 = b ∧ b.reply c = .error (Error.blockAborted b.name).raised
  /-- A built block refuses every declaration. -/
  late : b.InPhase .built → ∀ name type options, c = .declare name type options →
    (b.call c).1 = b ∧ b.reply c = .error (Error.declareAfterEnd b.name name).raised
  /-- A built block gives the schema that it keeps. -/
  again : b.InPhase .built → c = .build →
    (b.call c).1 = b ∧ ∃ s, b.schema = some s ∧ b.reply c = .ok (.schema s)
  /-- A call that fails changes neither what is accumulated nor the schema. -/
  unchanged : ∀ e, b.reply c = .error e →
    (b.call c).1.state = b.state ∧ (b.call c).1.schema = b.schema

/-- A step that fails changes neither what is accumulated nor the schema. -/
theorem Step.unchanged {b b' : Builder} {c : Call} {r : Except Error Given} (h : Step b c b' r)
    {e : Error} (he : r = .error e) : b'.state = b.state ∧ b'.schema = b.schema := by
  cases h <;> first | exact ⟨rfl, rfl⟩ | cases he

/-- The steps of an aborted block. -/
theorem Step.of_aborted {b b' : Builder} {c : Call} {r : Except Error Given} (h : Step b c b' r)
    (hb : b.isAborted = true) : b' = b ∧ r = .error (Error.blockAborted b.name).raised := by
  cases h with
  | refuse _ => exact ⟨rfl, rfl⟩
  | late alive _ | abort alive _ _ _ | spare alive _ _ _ | make alive _ _ | finish alive _ _
  | again alive _ | stuck alive _ _ => exact absurd (hb.symm.trans alive) (by simp)

/-- The declarations of a built block. -/
theorem Step.of_built_declare {b b' : Builder} {name type : Value} {options : List (Value × Value)}
    {r : Except Error Given} (h : Step b (.declare name type options) b' r)
    (hb : b.InPhase .built) :
    b' = b ∧ r = .error (Error.declareAfterEnd b.name name).raised := by
  cases h with
  | refuse aborted => exact absurd (hb.alive_of_built.symm.trans aborted) (by simp)
  | late _ _ => exact ⟨rfl, rfl⟩
  | abort _ going _ _ | spare _ going _ _ | make _ going _ =>
    exact absurd (hb.ended.symm.trans going) (by simp)

/-- The end of a built block. -/
theorem Step.of_built_build {b b' : Builder} {r : Except Error Given} (h : Step b .build b' r)
    (hb : b.InPhase .built) : b' = b ∧ ∃ s, b.schema = some s ∧ r = .ok (.schema s) := by
  obtain ⟨s, hs⟩ := Option.isSome_iff_exists.1 hb.2.1
  cases h with
  | refuse aborted => exact absurd (hb.alive_of_built.symm.trans aborted) (by simp)
  | finish _ none _ | stuck _ none _ => exact absurd (hs.symm.trans none) (by simp)
  | again _ built => exact ⟨rfl, _, built, rfl⟩

/-- The declarations of an open block: aborted by a fault, unchanged after any other failure, with
one more field otherwise. -/
theorem Step.of_open_declare {b b' : Builder} {name type : Value} {options : List (Value × Value)}
    {r : Except Error Given} (h : Step b (.declare name type options) b' r) (hb : b.InPhase .open) :
    (∃ e, r = .error e ∧ b.Condemns name options e ∧ b' = { b with cause := some e }) ∨
      (∃ cause, r = .error (.refused cause) ∧ b' = b) ∨
      ∃ f, r = .ok (.field f) ∧ b' = { b with state := b.state.push f } := by
  cases h with
  | refuse aborted => exact absurd (hb.alive.symm.trans aborted) (by simp)
  | late _ ended => exact absurd (hb.going.symm.trans ended) (by simp)
  | @abort _ _ _ e _ _ failed fault =>
    exact Or.inl ⟨e, rfl, (condemns_iff_resolve b name type options e).2 ⟨failed, fault⟩, rfl⟩
  | @spare _ _ _ e _ _ failed fault =>
    -- What is no fault of the declaration can only be a refusal.
    rcases condemns_or_refused_of_resolve failed with hc | ⟨cause, rfl⟩
    · exact absurd (fault.symm.trans hc.isDeclaration) (by simp)
    · exact Or.inr (Or.inl ⟨cause, rfl, rfl⟩)
  | @make _ _ _ f _ _ _ => exact Or.inr (Or.inr ⟨f, rfl, rfl⟩)

/-- The end of an open block. -/
theorem Step.of_open_build {b b' : Builder} {r : Except Error Given} (h : Step b .build b' r)
    (hb : b.InPhase .open) :
    r = .ok (.schema b.state.outcome) ∧
      b' = { b with state := b.state.ended, schema := some b.state.outcome } := by
  cases h with
  | refuse aborted => exact absurd (hb.alive.symm.trans aborted) (by simp)
  | finish _ _ _ => exact ⟨rfl, rfl⟩
  | again _ built => exact absurd (hb.2.1.symm.trans built) (by simp)
  | stuck _ _ ended => exact absurd (hb.going.symm.trans ended) (by simp)

/-- What a declaration in an open block comes to is what becomes of it on its own. -/
theorem reply_declare_of_open {b : Builder} (hb : b.InPhase .open) (name type : Value)
    (options : List (Value × Value)) :
    b.reply (.declare name type options) = (b.resolve name type options).result.map .field := by
  rw [reply, call, Report.result_map, result_declare hb.alive hb.going]

theorem call_declare_of_made {b : Builder} (hb : b.InPhase .open) {name type : Value}
    {options : List (Value × Value)} {f : Field}
    (hf : (b.resolve name type options).result = .ok f) :
    (b.call (.declare name type options)).1 = { b with state := b.state.push f } := by
  have hreply := reply_declare_of_open hb name type options
  rw [hf] at hreply
  rcases (step_call b (.declare name type options)).of_open_declare hb with
    ⟨_, hr, -⟩ | ⟨_, hr, -⟩ | ⟨g, hr, hb'⟩
  · exact absurd (hreply.symm.trans hr) (by simp [Except.map])
  · exact absurd (hreply.symm.trans hr) (by simp [Except.map])
  · have hfg : f = g := Given.field.inj (Except.ok.inj (hreply.symm.trans hr))
    rw [hb', hfg]

theorem reply_build_of_open {b : Builder} (hb : b.InPhase .open) :
    b.reply .build = .ok (.schema b.state.outcome) :=
  ((step_call b .build).of_open_build hb).1

theorem inPhase_built_of_build {b : Builder} (hb : b.InPhase .open) :
    (b.call .build).1.InPhase .built := by
  rw [((step_call b .build).of_open_build hb).2]
  exact ⟨hb.1, rfl, rfl⟩

/-- After a declaration an open block is open still, or aborted by the fault that the declaration
failed by. -/
theorem inPhase_of_declare {b : Builder} (hb : b.InPhase .open) (name type : Value)
    (options : List (Value × Value)) :
    ((b.call (.declare name type options)).1.InPhase .open ∧
        ∀ e, b.reply (.declare name type options) = .error e → e.isDeclaration = false) ∨
      ((b.call (.declare name type options)).1.InPhase .aborted ∧
        ∃ e, b.reply (.declare name type options) = .error e ∧ b.Condemns name options e) := by
  rcases (step_call b (.declare name type options)).of_open_declare hb with
    ⟨e, hr, hc, hb'⟩ | ⟨cause, hr, hb'⟩ | ⟨f, hr, hb'⟩
  · rw [hb', hr]
    exact Or.inr ⟨⟨rfl, hb.2⟩, e, rfl, hc⟩
  · rw [hb', hr]
    refine Or.inl ⟨hb, fun e he => ?_⟩
    rw [← Except.error.inj he]
    rfl
  · rw [hb', hr]
    exact Or.inl ⟨hb, fun e he => by cases he⟩

/-- The declarations that abort an open block are those that fail by a fault. -/
theorem aborts_iff_of_open {b : Builder} (hb : b.InPhase .open) (c : Call) :
    (b.call c).1.InPhase .aborted ↔
      ∃ name type options e, c = .declare name type options ∧ b.reply c = .error e ∧
        e.isDeclaration = true := by
  cases c with
  | build =>
    constructor
    · intro h
      exact absurd (h.unique (inPhase_built_of_build hb)) (by simp)
    · rintro ⟨_, _, _, _, hc, -⟩
      cases hc
  | declare name type options =>
    constructor
    · intro h
      rcases inPhase_of_declare hb name type options with ⟨hopen, -⟩ | ⟨-, e, he, hcond⟩
      · exact absurd (h.unique hopen) (by simp)
      · exact ⟨name, type, options, e, rfl, he, hcond.isDeclaration⟩
    · rintro ⟨_, _, _, e, -, he, hfault⟩
      rcases inPhase_of_declare hb name type options with ⟨-, hno⟩ | ⟨haborted, -⟩
      · exact absurd (hfault.symm.trans (hno e he)) (by simp)
      · exact haborted

theorem condemns_of_fault {b : Builder} (hb : b.InPhase .open) {name type : Value}
    {options : List (Value × Value)} {e : Error}
    (he : b.reply (.declare name type options) = .error e) (hfault : e.isDeclaration = true) :
    b.Condemns name options e := by
  rcases inPhase_of_declare hb name type options with ⟨-, hno⟩ | ⟨-, e', he', hcond⟩
  · exact absurd (hfault.symm.trans (hno e he)) (by simp)
  · have hee' : e = e' := Except.error.inj (he.symm.trans he')
    rwa [hee']

theorem builds_iff_of_open {b : Builder} (hb : b.InPhase .open) (c : Call) :
    (b.call c).1.InPhase .built ↔ c = .build := by
  cases c with
  | build => exact ⟨fun _ => rfl, fun _ => inPhase_built_of_build hb⟩
  | declare name type options =>
    refine ⟨fun h => ?_, fun h => by cases h⟩
    rcases inPhase_of_declare hb name type options with ⟨hopen, -⟩ | ⟨haborted, -⟩
    · exact absurd (h.unique hopen) (by simp)
    · exact absurd (h.unique haborted) (by simp)

theorem gives_of_open {b : Builder} (hb : b.InPhase .open) :
    ∃ s, b.reply .build = .ok (.schema s) ∧ (b.call .build).1.schema = some s := by
  obtain ⟨hreply, hb'⟩ := (step_call b .build).of_open_build hb
  exact ⟨b.state.outcome, hreply, by rw [hb']⟩

/-- Every call on a block obeys the laws of its phase. -/
theorem obeys_call (b : Builder) (c : Call) : b.Obeys c where
  aborts_iff := fun hb => aborts_iff_of_open hb c
  fault := by
    rintro hb name type options e rfl he hfault
    exact condemns_of_fault hb he hfault
  builds_iff := fun hb => builds_iff_of_open hb c
  gives := by
    rintro hb rfl
    exact gives_of_open hb
  aborted := fun hb => (step_call b c).of_aborted hb.is_aborted
  late := by
    rintro hb name type options rfl
    exact (step_call b _).of_built_declare hb
  again := by
    rintro hb rfl
    exact (step_call b .build).of_built_build hb
  unchanged := fun _ he => (step_call b c).unchanged he

/-! ## Runs -/

/-- A block that is no longer open is the same after any calls. -/
theorem after_eq_self {b : Builder} {p : Phase} (hb : b.InPhase p) (hp : p ≠ .open)
    (calls : List Call) : b.after calls = b := by
  induction calls with
  | nil => rfl
  | cons c calls ih =>
    have hcall : (b.call c).1 = b := by
      cases p with
      | «open» => exact absurd rfl hp
      | aborted => exact ((obeys_call b c).aborted hb).1
      | built =>
        cases c with
        | declare name type options => exact ((obeys_call b _).late hb name type options rfl).1
        | build => exact ((obeys_call b .build).again hb rfl).1
    rw [after_cons, hcall, ih]

/-- The schema that a block has was given by the first end of the block while it was open. -/
theorem given_of_schema {b : Builder} (hb : b.InPhase .open) {calls : List Call} {s : Schema}
    (h : (b.after calls).schema = some s) :
    ∃ before later, calls = before ++ .build :: later ∧ (b.after before).InPhase .open ∧
      (b.after before).reply .build = .ok (.schema s) := by
  induction calls generalizing b with
  | nil => exact absurd (hb.2.1.symm.trans h) (by simp)
  | cons c calls ih =>
    cases c with
    | build =>
      -- Nothing that comes after this end changes the schema.
      have hbuilt := inPhase_built_of_build hb
      rw [after_cons, after_eq_self hbuilt (by simp)] at h
      obtain ⟨s', hreply, hs'⟩ := gives_of_open hb
      rw [Option.some.inj (h.symm.trans hs')]
      exact ⟨[], calls, rfl, hb, hreply⟩
    | declare name type options =>
      -- The first end of the block is after this declaration, unless the declaration is faulty.
      rcases inPhase_of_declare hb name type options with ⟨hopen, -⟩ | ⟨haborted, -⟩
      · obtain ⟨before, later, hcalls, hbefore, hreply⟩ := ih hopen h
        exact ⟨.declare name type options :: before, later, by rw [hcalls]; rfl, hbefore, hreply⟩
      · rw [after_cons, after_eq_self haborted (by simp)] at h
        exact absurd (haborted.2.1.symm.trans h) (by simp)

/-- After any calls on a new block it is in one phase, and every further call obeys the laws of the
phase. The schema of a built block is the one that its first end gave. The errors by which a block
that is no longer open refuses calls are faults of its state, provided that what they name can be
printed: the name of the block, and the name of the field if that is named too. -/
theorem phase_laws (name strict : Value) (policy : NamePolicy) (calls : List Call) (c : Call) :
    (∃! p, ((Builder.new name strict policy).after calls).InPhase p) ∧
    ((Builder.new name strict policy).after calls).Obeys c ∧
    (∀ s, ((Builder.new name strict policy).after calls).schema = some s →
      ∃ before later, calls = before ++ .build :: later ∧
        ((Builder.new name strict policy).after before).InPhase .open ∧
        ((Builder.new name strict policy).after before).reply .build = .ok (.schema s)) ∧
    ((Builder.new name strict policy).after calls).name = name ∧
    ((Error.blockAborted name).raised.isState = true ↔ name.printFault? = none) ∧
    ∀ field, (Error.declareAfterEnd name field).raised.isState = true ↔
      name.printFault? = none ∧ field.printFault? = none := by
  have hopen := inPhase_open_new name strict policy
  refine ⟨(steady_after (steady_new name strict policy) calls).existsUnique_phase,
    obeys_call _ c, fun s hs => given_of_schema hopen hs, name_after _ calls, ?_, fun field => ?_⟩
  · rw [Error.isState_raised_iff, Error.isTellable_blockAborted]
    exact and_iff_right rfl
  · rw [Error.isState_raised_iff, Error.isTellable_declareAfterEnd]
    exact and_iff_right rfl

/-- A built block does not refuse every declaration by a fault of its state: with a name that cannot
be printed the fault of printing comes about instead. -/
theorem late_declaration_of_stray_name :
    ((Builder.new (.text "Q")).after [.build]).InPhase .built ∧
    ((Builder.new (.text "Q")).after [.build]).reply
        (.declare strayRecord (Value.builtinClass "int") []) =
      .error (.refused .absentAttribute) ∧
    (Error.refused .absentAttribute).isState = false :=
  ⟨⟨rfl, rfl, rfl⟩, rfl, rfl⟩

end Builder

end RecordSchema
