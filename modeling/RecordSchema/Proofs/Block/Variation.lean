import RecordSchema.Proofs.Block.Emission
import RecordSchema.Proofs.Sequences

/-!
# Two runs that differ in defaults

A block never looks into the defaults that it is given; it only asks whether there is one. So two
runs of the same calls, with defaults that belong together in whatever way, stay together: what one
call gives belongs to what the other gives (`Builder.Step.varies`), and so do the blocks after any
number of calls (`Builder.Varies.after`) and the schemas at their ends
(`Builder.exists_build_of_varies`). Under the name of each field the two schemas say the same,
except for defaults that belong together.
-/

set_option autoImplicit false

namespace RecordSchema

/-- Ways of belonging together for defaults: a value belongs to itself, and what belongs to a
default that is given is one. -/
structure IsVariation (R : Value → Value → Prop) : Prop where
  refl : ∀ v, R v v
  isGiven_eq : ∀ v w, R v w → isGiven w = isGiven v

/-- Two results that are the same fault, or both given and related. -/
inductive ResultRel {α β : Type} (P : α → β → Prop) : Except Error α → Except Error β → Prop where
  | ok {a : α} {b : β} (related : P a b) : ResultRel P (.ok a) (.ok b)
  | error (e : Error) : ResultRel P (.error e) (.error e)

/-- Related results are gone on with in related ways. -/
theorem ResultRel.bind {α β γ δ : Type} {P : α → β → Prop} {Q : γ → δ → Prop} {x : Except Error α}
    {y : Except Error β} (h : ResultRel P x y) {f : α → Except Error γ} {g : β → Except Error δ}
    (hfg : ∀ a b, P a b → ResultRel Q (f a) (g b)) : ResultRel Q (x >>= f) (y >>= g) := by
  cases h with
  | ok related => exact hfg _ _ related
  | error e => exact .error e

theorem ResultRel.exists_of_ok {α β : Type} {P : α → β → Prop} {x : Except Error α}
    {y : Except Error β} (h : ResultRel P x y) {a : α} (hx : x = .ok a) :
    ∃ b, y = .ok b ∧ P a b := by
  cases h with
  | ok related =>
    cases hx
    exact ⟨_, rfl, related⟩
  | error e => cases hx

theorem ResultRel.eq_of_error {α β : Type} {P : α → β → Prop} {x : Except Error α}
    {y : Except Error β} (h : ResultRel P x y) {e : Error} (hx : x = .error e) : y = .error e := by
  cases h with
  | ok related => cases hx
  | error e =>
    cases hx
    rfl

theorem ResultRel.same {α : Type} (x : Except Error α) : ResultRel Eq x x := by
  cases x with
  | ok a => exact .ok rfl
  | error e => exact .error e

/-! ## What varies -/

section Relations

variable (R : Value → Value → Prop)

/-- Two options that are the same, or two defaults that belong together. -/
structure OptionVaries (o o' : Value × Value) : Prop where
  key : o'.1 = o.1
  value : o'.2 = o.2 ∨ o.1 = .text "default" ∧ R o.2 o'.2

/-- Two calls that differ at most in the default among the options. -/
inductive Call.Varies : Call → Call → Prop where
  | declare {name type : Value} {options options' : List (Value × Value)}
      (each : List.Forall₂ (OptionVaries R) options options') :
      Call.Varies (.declare name type options) (.declare name type options')
  | build : Call.Varies .build .build

/-- Two fields that differ at most in their defaults. -/
structure Field.Varies (f f' : Field) : Prop where
  rest : { f' with default := f.default } = f
  default : R f.default f'.default

structure Schema.Varies (s s' : Schema) : Prop where
  rest : { s' with fields := s.fields } = s
  fields : List.Forall₂ (Field.Varies R) s.fields s'.fields

structure Accumulator.Varies (a a' : Accumulator) : Prop where
  rest : { a' with fields := a.fields } = a
  fields : List.Forall₂ (Field.Varies R) a.fields a'.fields

/-- Two blocks that differ at most in the defaults of their fields. -/
structure Builder.Varies (b b' : Builder) : Prop where
  rest : { b' with state := b.state, schema := b.schema } = b
  state : b.state.Varies R b'.state
  schema : Option.Rel (Schema.Varies R) b.schema b'.schema

/-- Two things given that differ at most in defaults. -/
inductive Given.Varies : Given → Given → Prop where
  | field {f f' : Field} (same : f.Varies R f') : Given.Varies (.field f) (.field f')
  | schema {s s' : Schema} (same : s.Varies R s') : Given.Varies (.schema s) (.schema s')

end Relations

variable {R : Value → Value → Prop}

namespace Field.Varies

variable {f f' : Field}

theorem name_eq (h : f.Varies R f') : f'.name = f.name := by rw [← h.rest]

theorem effective_eq (h : f.Varies R f') : f'.effective = f.effective := by rw [← h.rest]

theorem isEnforced_eq (h : f.Varies R f') : f'.isEnforced = f.isEnforced := by
  rw [← h.rest]
  rfl

theorem hasDefault_eq (hR : IsVariation R) (h : f.Varies R f') : f'.hasDefault = f.hasDefault :=
  hR.isGiven_eq _ _ h.default

theorem isNullable_eq (hR : IsVariation R) (h : f.Varies R f') :
    f'.isNullable = f.isNullable := by
  unfold Field.isNullable
  rw [h.hasDefault_eq hR, h.isEnforced_eq]

/-- What the fields hold if they are not given belongs together. -/
theorem initial (hR : IsVariation R) (h : f.Varies R f') : R f.initial f'.initial := by
  unfold Field.initial
  rw [h.hasDefault_eq hR]
  split
  · exact h.default
  · exact hR.refl _

end Field.Varies

/-! ## Options -/

namespace FieldOptions

/-- Two readings of options with defaults that belong together. -/
structure Varies (R : Value → Value → Prop) (o o' : FieldOptions) : Prop where
  default : R o.default o'.default
  enforce : o'.enforce = o.enforce

variable {options options' : List (Value × Value)}

/-- Under each key stands the same, or defaults that belong together. -/
theorem lookupText_varies (h : List.Forall₂ (OptionVaries R) options options') (key : String) :
    Option.Rel (fun v w => w = v ∨ key = "default" ∧ R v w)
      (Value.lookupText key options) (Value.lookupText key options') := by
  induction h with
  | nil => exact .none
  | @cons o o' os os' ho _ ih =>
    unfold Value.lookupText Value.lookupKey at ih ⊢
    rw [List.find?_cons, List.find?_cons, ho.key]
    cases hkey : Value.alike (.text key) o.1 with
    | false => exact ih
    | true =>
      apply Option.Rel.some
      rcases ho.value with heq | ⟨hdefault, hvalues⟩
      · exact .inl heq
      · rw [hdefault, Value.alike_text, beq_iff_eq] at hkey
        exact .inr ⟨hkey, hvalues⟩

theorem defaultIn_varies (hR : IsVariation R)
    (h : List.Forall₂ (OptionVaries R) options options') :
    R (defaultIn options) (defaultIn options') := by
  have hlookup := lookupText_varies h "default"
  unfold defaultIn
  generalize Value.lookupText "default" options = v, Value.lookupText "default" options' = w
    at hlookup
  cases hlookup with
  | none => exact hR.refl _
  | some hvalues =>
    rcases hvalues with rfl | ⟨-, hvalues⟩
    · exact hR.refl _
    · exact hvalues

theorem enforceIn_eq_of_varies (h : List.Forall₂ (OptionVaries R) options options') :
    enforceIn options' = enforceIn options := by
  have hlookup := lookupText_varies h "enforce"
  unfold enforceIn
  generalize Value.lookupText "enforce" options = v, Value.lookupText "enforce" options' = w
    at hlookup
  cases hlookup with
  | none => rfl
  | some hvalues =>
    rcases hvalues with rfl | ⟨hkey, -⟩
    · rfl
    · exact absurd hkey (by decide)

/-- Whether options mean something hangs on their keys alone. -/
theorem unknown_eq_of_varies (h : List.Forall₂ (OptionVaries R) options options') :
    unknown options' = unknown options := by
  have hkeys : options'.map Prod.fst = options.map Prod.fst :=
    map_eq_map_of_forall₂ h fun _ _ ho => ho.key
  have hwords (os : List (Value × Value)) :
      (os.filter fun o => !isRecognised o.1).mapM (fun o => o.1.displayed) =
        ((os.map Prod.fst).filter fun k => !isRecognised k).mapM Value.displayed := by
    rw [List.filter_map, List.mapM_map]
    rfl
  unfold unknown
  rw [hwords, hwords, hkeys]

theorem ofEntries_varies (hR : IsVariation R)
    (h : List.Forall₂ (OptionVaries R) options options') (strict : Bool) (name : Value) :
    ResultRel (Varies R) (ofEntries options strict name).result
      (ofEntries options' strict name).result := by
  rw [result_ofEntries, result_ofEntries, unknown_eq_of_varies h]
  apply (ResultRel.same _).bind
  rintro words _ rfl
  split
  · exact .error _
  · unfold ofRecognised
    rw [enforceIn_eq_of_varies h]
    cases (enforceIn options).truth with
    | ok enforce => exact .ok ⟨defaultIn_varies hR h, rfl⟩
    | error cause => exact .error _

end FieldOptions

/-! ## Calls -/

namespace Accumulator

variable {a a' : Accumulator} {f f' : Field}

theorem Varies.push (h : a.Varies R a') (hf : f.Varies R f') :
    (a.push f).Varies R (a'.push f') where
  rest := by
    have hrest := h.rest
    unfold Accumulator.push
    rw [hf.isEnforced_eq, hf.name_eq]
    rw [← hrest]
  fields := List.rel_append h.fields (.cons hf .nil)

theorem Varies.outcome (h : a.Varies R a') : a.outcome.Varies R a'.outcome where
  rest := by
    rw [← h.rest]
    rfl
  fields := h.fields

theorem Varies.ended (h : a.Varies R a') : a.ended.Varies R a'.ended where
  rest := by
    rw [← h.rest]
    rfl
  fields := h.fields

end Accumulator

namespace Builder

variable {b b' : Builder}

namespace Varies

theorem name_eq (h : b.Varies R b') : b'.name = b.name := by rw [← h.rest]

theorem isAborted_eq (h : b.Varies R b') : b'.isAborted = b.isAborted := by
  rw [← h.rest]
  rfl

theorem state_name_eq (h : b.Varies R b') : b'.state.name = b.state.name := by
  rw [← h.state.rest]

theorem isFinalized_eq (h : b.Varies R b') : b'.isFinalized = b.isFinalized := by
  unfold isFinalized
  rw [← h.state.rest]

theorem schema_eq_none (h : b.Varies R b') (hnone : b.schema = none) : b'.schema = none := by
  have hschema := h.schema
  rw [hnone] at hschema
  generalize b'.schema = schema at hschema ⊢
  cases hschema
  rfl

theorem exists_schema (h : b.Varies R b') {s : Schema} (hs : b.schema = some s) :
    ∃ s', b'.schema = some s' ∧ s.Varies R s' := by
  have hschema := h.schema
  rw [hs] at hschema
  generalize b'.schema = schema at hschema ⊢
  cases hschema with
  | some same => exact ⟨_, rfl, same⟩

/-- A declaration makes fields that differ at most in their defaults, or fails in the same way. -/
theorem resolve (hR : IsVariation R) (h : b.Varies R b') {options options' : List (Value × Value)}
    (hoptions : List.Forall₂ (OptionVaries R) options options') (name type : Value) :
    ResultRel (Field.Varies R) (b.resolve name type options).result
      (b'.resolve name type options').result := by
  have hstrict : b'.strict = b.strict := by rw [← h.rest]
  have hpolicy : b'.policy = b.policy := by rw [← h.rest]
  have htaken : b'.state.contains = b.state.contains := by
    unfold Accumulator.contains
    rw [← h.state.rest]
  rw [result_resolve, result_resolve, hstrict, hpolicy, htaken]
  apply (FieldOptions.ofEntries_varies hR hoptions _ _).bind
  intro o o' ho
  apply (ResultRel.same _).bind
  rintro checked _ rfl
  -- The annotation is widened or not by whether there is a default, not by which.
  have hgiven : o'.hasDefault = o.hasDefault := hR.isGiven_eq _ _ ho.default
  rw [hgiven, ho.enforce]
  apply (ResultRel.same _).bind
  rintro effective _ rfl
  exact .ok ⟨rfl, ho.default⟩

end Varies

/-- The rules determine the block after a call and what it comes to. -/
theorem Step.unique {b b₁ b₂ : Builder} {c : Call} {r₁ r₂ : Except Error Given}
    (h : Step b c b₁ r₁) (h' : Step b c b₂ r₂) : b₁ = b₂ ∧ r₁ = r₂ := by
  cases h <;> cases h' <;> simp_all

/-- Whatever a call does to a block, the other call does to the other block. -/
theorem Step.varies (hR : IsVariation R) {b₁ : Builder} {c c' : Call} {r : Except Error Given}
    (h : Step b c b₁ r) (hb : b.Varies R b') (hc : c.Varies R c') :
    ∃ b₁' r', Step b' c' b₁' r' ∧ b₁.Varies R b₁' ∧ ResultRel (Given.Varies R) r r' := by
  -- Both blocks have come as far, so they take a step of the same kind.
  have halive := hb.isAborted_eq
  have hended := hb.isFinalized_eq
  cases h with
  | refuse aborted =>
    have hstep := Step.refuse (c := c') (halive.trans aborted)
    rw [hb.name_eq] at hstep
    exact ⟨_, _, hstep, hb, .error _⟩
  | @late name type _ alive ended =>
    obtain ⟨each⟩ := hc
    rename_i options'
    have hstep : Step b' (.declare name type options') b' _ :=
      .late (halive.trans alive) (hended.trans ended)
    rw [hb.name_eq] at hstep
    exact ⟨_, _, hstep, hb, .error _⟩
  | @abort name type _ e alive going failed fault =>
    obtain ⟨each⟩ := hc
    have hfailed := (hb.resolve hR each name type).eq_of_error failed
    refine ⟨_, _, .abort (halive.trans alive) (hended.trans going) hfailed fault, ?_, .error e⟩
    exact ⟨congrArg (fun b => { b with cause := some e }) hb.rest, hb.state, hb.schema⟩
  | @spare name type _ e alive going failed fault =>
    obtain ⟨each⟩ := hc
    have hfailed := (hb.resolve hR each name type).eq_of_error failed
    exact ⟨_, _, .spare (halive.trans alive) (hended.trans going) hfailed fault, hb, .error e⟩
  | @make name type _ f alive going made =>
    obtain ⟨each⟩ := hc
    obtain ⟨f', hmade, hf⟩ := (hb.resolve hR each name type).exists_of_ok made
    refine ⟨_, _, .make (halive.trans alive) (hended.trans going) hmade, ?_, .ok (.field hf)⟩
    exact ⟨congrArg (fun c => { c with state := b.state.push f }) hb.rest, hb.state.push hf,
      hb.schema⟩
  | finish alive none going =>
    cases hc
    refine ⟨_, _, .finish (halive.trans alive) (hb.schema_eq_none none) (hended.trans going), ?_,
      .ok (.schema hb.state.outcome)⟩
    exact ⟨congrArg
      (fun c => { c with state := b.state.ended, schema := some b.state.outcome }) hb.rest,
      hb.state.ended, .some hb.state.outcome⟩
  | again alive built =>
    cases hc
    obtain ⟨s', hbuilt, hs⟩ := hb.exists_schema built
    exact ⟨_, _, .again (halive.trans alive) hbuilt, hb, .ok (.schema hs)⟩
  | stuck alive none ended =>
    cases hc
    have hstep := Step.stuck (halive.trans alive) (hb.schema_eq_none none) (hended.trans ended)
    rw [hb.state_name_eq] at hstep
    exact ⟨_, _, hstep, hb, .error _⟩

/-- Blocks that differ at most in defaults still do after such calls, and what the calls give
differs at most in defaults. -/
theorem Varies.call (hR : IsVariation R) (hb : b.Varies R b') {c c' : Call} (hc : c.Varies R c') :
    (b.call c).1.Varies R (b'.call c').1 ∧
      ResultRel (Given.Varies R) (b.reply c) (b'.reply c') := by
  obtain ⟨b₁', r', hstep, hblocks, hresults⟩ := (step_call b c).varies hR hb hc
  obtain ⟨rfl, rfl⟩ := hstep.unique (step_call b' c')
  exact ⟨hblocks, hresults⟩

theorem Varies.after (hR : IsVariation R) (hb : b.Varies R b') {calls calls' : List Call}
    (hcalls : List.Forall₂ (Call.Varies R) calls calls') :
    (b.after calls).Varies R (b'.after calls') := by
  induction hcalls generalizing b b' with
  | nil => exact hb
  | cons hc _ ih => exact ih (hb.call hR hc).1

theorem varies_new (name strict : Value) (policy : NamePolicy) :
    (Builder.new name strict policy).Varies R (Builder.new name strict policy) :=
  ⟨rfl, ⟨rfl, .nil⟩, .none⟩

/-- Where one of two runs whose calls differ at most in defaults comes to a schema, the other comes
to one that differs at most in defaults. -/
theorem exists_build_of_varies (hR : IsVariation R) {name strict : Value} {policy : NamePolicy}
    {calls calls' : List Call} (hcalls : List.Forall₂ (Call.Varies R) calls calls') {s : Schema}
    (h : ((Builder.new name strict policy).after calls).reply .build = .ok (.schema s)) :
    ∃ s', ((Builder.new name strict policy).after calls').reply .build = .ok (.schema s') ∧
      s.Varies R s' := by
  have hblocks := (varies_new name strict policy).after hR hcalls
  obtain ⟨given, hgiven, hvaries⟩ := (hblocks.call hR .build).2.exists_of_ok h
  cases hvaries with
  | schema same => exact ⟨_, hgiven, same⟩

end Builder

end RecordSchema
