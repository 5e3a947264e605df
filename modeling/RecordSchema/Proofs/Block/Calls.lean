import RecordSchema.Proofs.Block.Declaration

/-!
# Calls on a block

A block takes two calls, a declaration and the end of the block, in any order and any number of
times; a call that fails leaves a block that takes further calls. `Builder.Step` lists, rule by
rule, all that a call can do, and `Builder.step_call` says that every call follows one of the rules.

The fault that aborted a block, the schema that it gave and the end of its accumulator are kept
apart. `Builder.Steady` says how they belong together: it holds of a new block and is preserved by
every call (`Builder.steady_after`).
-/

set_option autoImplicit false

namespace RecordSchema

/-- A call on a block. -/
inductive Call where
  | declare (name type : Value) (options : List (Value × Value))
  | build

/-- What a call gives if it does not fail. -/
inductive Given where
  | field (f : Field)
  | schema (s : Schema)

/-- The schema of the fields accumulated so far. -/
def Accumulator.outcome (a : Accumulator) : Schema := ⟨a.name, a.fields, a.required⟩

/-- The accumulator at its end. -/
def Accumulator.ended (a : Accumulator) : Accumulator := { a with finalized := true }

namespace Builder

/-- The block after a call, and what the call gives. -/
def call (b : Builder) : Call → Builder × Report Given
  | .declare name type options =>
    ((b.declare name type options).1, .field <$> (b.declare name type options).2)
  | .build => (b.build.1, .schema <$> b.build.2)

/-- What a call on a block comes to. -/
def reply (b : Builder) (c : Call) : Except Error Given := (b.call c).2.result

/-- The block after calls, whatever they come to. -/
def after (b : Builder) (calls : List Call) : Builder := calls.foldl (fun b c => (b.call c).1) b

@[simp] theorem after_nil (b : Builder) : b.after [] = b := rfl

@[simp] theorem after_cons (b : Builder) (c : Call) (calls : List Call) :
    b.after (c :: calls) = (b.call c).1.after calls := rfl

theorem after_append (b : Builder) (before later : List Call) :
    b.after (before ++ later) = (b.after before).after later := List.foldl_append ..

/-! ## The rules -/

/-- All that a call on a block can do: the block after it, and what it comes to. -/
inductive Step (b : Builder) : Call → Builder → Except Error Given → Prop where
  /-- An aborted block refuses every call. -/
  | refuse {c : Call} (aborted : b.isAborted = true) :
      Step b c b (.error (Error.blockAborted b.name).raised)
  /-- A declaration after the end is refused. -/
  | late {name type : Value} {options : List (Value × Value)} (alive : b.isAborted = false)
      (ended : b.isFinalized = true) :
      Step b (.declare name type options) b (.error (Error.declareAfterEnd b.name name).raised)
  /-- A faulty declaration aborts the block. -/
  | abort {name type : Value} {options : List (Value × Value)} {e : Error}
      (alive : b.isAborted = false) (going : b.isFinalized = false)
      (failed : (b.resolve name type options).result = .error e)
      (fault : e.isDeclaration = true) :
      Step b (.declare name type options) { b with cause := some e } (.error e)
  /-- A declaration that fails otherwise leaves the block as it is. -/
  | spare {name type : Value} {options : List (Value × Value)} {e : Error}
      (alive : b.isAborted = false) (going : b.isFinalized = false)
      (failed : (b.resolve name type options).result = .error e)
      (fault : e.isDeclaration = false) :
      Step b (.declare name type options) b (.error e)
  /-- Any other declaration makes a field. -/
  | make {name type : Value} {options : List (Value × Value)} {f : Field}
      (alive : b.isAborted = false) (going : b.isFinalized = false)
      (made : (b.resolve name type options).result = .ok f) :
      Step b (.declare name type options) { b with state := b.state.push f } (.ok (.field f))
  /-- The end of an open block gives its schema. -/
  | finish (alive : b.isAborted = false) (none : b.schema = none) (going : b.isFinalized = false) :
      Step b .build { b with state := b.state.ended, schema := some b.state.outcome }
        (.ok (.schema b.state.outcome))
  /-- A built block gives its schema once more. -/
  | again {s : Schema} (alive : b.isAborted = false) (built : b.schema = some s) :
      Step b .build b (.ok (.schema s))
  /-- An accumulator that was ended without a schema cannot be ended again. -/
  | stuck (alive : b.isAborted = false) (none : b.schema = none) (ended : b.isFinalized = true) :
      Step b .build b (.error (Error.finalizeTwice b.state.name).raised)

theorem result_finish (b : Builder) :
    b.finish.result =
      if b.isFinalized then .error (Error.finalizeTwice b.state.name).raised
      else .ok (b.state.ended, b.state.outcome) := by
  cases h : b.isFinalized with
  | true => simp [finish, Accumulator.finalize, show b.state.finalized = true from h]
  | false =>
    simp only [finish, Accumulator.finalize, show b.state.finalized = false from h]
    rfl

theorem step_declare (b : Builder) (name type : Value) (options : List (Value × Value)) :
    Step b (.declare name type options) (b.call (.declare name type options)).1
      (b.reply (.declare name type options)) := by
  simp only [reply, call, Report.result_map]
  unfold declare
  cases aborted : b.isAborted with
  | true => exact .refuse aborted
  | false =>
    cases ended : b.isFinalized with
    | true => exact .late aborted ended
    | false =>
      cases resolved : (b.resolve name type options).result with
      | error e =>
        -- Only what is wrong with the declaration itself aborts the block.
        cases fault : e.isDeclaration with
        | true => simpa [resolved, fault, Except.map] using Step.abort aborted ended resolved fault
        | false => simpa [resolved, fault, Except.map] using Step.spare aborted ended resolved fault
      | ok f =>
        obtain ⟨hstate, hmade⟩ :=
          Accumulator.append_of_told ended (isOf_of_resolve resolved).1.told
        simpa [resolved, hstate, hmade, Except.map] using Step.make aborted ended resolved

theorem step_build (b : Builder) : Step b .build (b.call .build).1 (b.reply .build) := by
  simp only [reply, call, Report.result_map]
  unfold build
  cases aborted : b.isAborted with
  | true => exact .refuse aborted
  | false =>
    cases schema : b.schema with
    | some s => simpa [schema, Except.map] using Step.again aborted schema
    | none =>
      cases ended : b.isFinalized with
      | true =>
        simpa [schema, result_finish, ended, Except.map] using Step.stuck aborted schema ended
      | false =>
        simpa [schema, result_finish, ended, Except.map] using Step.finish aborted schema ended

/-- Every call follows one of the rules. -/
theorem step_call (b : Builder) (c : Call) : Step b c (b.call c).1 (b.reply c) := by
  cases c with
  | declare name type options => exact step_declare b name type options
  | build => exact step_build b

/-! ## What belongs together -/

/-- The marks of a block agree: it is not both aborted and built, its accumulator goes by the name
of the block and is at its end exactly if there is a schema, and the schema is the outcome of the
accumulator. -/
structure Steady (b : Builder) : Prop where
  named : b.state.name = b.name
  not_both : b.isAborted = true → b.schema = none
  ended_iff : b.isFinalized = b.schema.isSome
  outcome : ∀ s, b.schema = some s → s = b.state.outcome

theorem Steady.schema_eq_none {b : Builder} (hb : b.Steady) (going : b.isFinalized = false) :
    b.schema = none := by
  rw [← Option.not_isSome_iff_eq_none, ← hb.ended_iff, going]
  simp

theorem steady_new (name strict : Value) (policy : NamePolicy) :
    (Builder.new name strict policy).Steady where
  named := rfl
  not_both := fun _ => rfl
  ended_iff := rfl
  outcome := fun _ h => by cases h

/-- The marks still agree after a call. -/
theorem Step.steady {b b' : Builder} {c : Call} {r : Except Error Given} (h : Step b c b' r)
    (hb : b.Steady) : b'.Steady := by
  cases h with
  | refuse _ | late _ _ | spare _ _ _ _ | again _ _ | stuck _ _ _ => exact hb
  | abort _ going _ _ =>
    -- An open block has no schema yet, so it can be marked as aborted.
    exact ⟨hb.named, fun _ => hb.schema_eq_none going, hb.ended_iff, fun s hs => hb.outcome s hs⟩
  | make _ going _ =>
    -- Without a schema there is none that the new field could be missing from.
    have hnone := hb.schema_eq_none going
    exact ⟨hb.named, hb.not_both, hb.ended_iff,
      fun s hs => absurd (hnone.symm.trans hs) (by simp)⟩
  | finish alive _ _ =>
    refine ⟨hb.named, fun aborted => ?_, rfl, fun s hs => (Option.some.inj hs).symm⟩
    exact absurd (alive.symm.trans aborted) (by simp)

theorem steady_after {b : Builder} (hb : b.Steady) (calls : List Call) :
    (b.after calls).Steady := by
  induction calls generalizing b with
  | nil => exact hb
  | cons c calls ih => exact ih ((step_call b c).steady hb)

theorem Step.name_eq {b b' : Builder} {c : Call} {r : Except Error Given} (h : Step b c b' r) :
    b'.name = b.name := by
  cases h <;> rfl

theorem name_after (b : Builder) (calls : List Call) : (b.after calls).name = b.name := by
  induction calls generalizing b with
  | nil => rfl
  | cons c calls ih => rw [after_cons, ih, (step_call b c).name_eq]

end Builder

end RecordSchema
