import RecordSchema.Proofs.Block.Declaration
import Mathlib.Data.List.Forall2

/-!
# Blocks from lists of declarations

Declarations made one after another and then the end of the block give a schema or the first fault
(`Builder.schemaOf`). The outcome hangs on how the options of each declaration are read and not on
how they are given (`Builder.schemaOf_congr`).
-/

set_option autoImplicit false

namespace RecordSchema

namespace Builder

/-- What comes of declarations in order and the end of the block after them. -/
def schemaOf (b : Builder) (ds : List (Value × Value × List (Value × Value))) :
    Except Error Schema := do
  (b.declareAll ds).2.result
  (b.declareAll ds).1.build.2.result

theorem schemaOf_cons (b : Builder) (name type : Value) (options : List (Value × Value))
    (ds : List (Value × Value × List (Value × Value))) :
    b.schemaOf ((name, type, options) :: ds) =
      (b.declare name type options).2.result >>= fun _ =>
        (b.declare name type options).1.schemaOf ds := by
  unfold schemaOf
  rw [declareAll]
  rcases b.declare name type options with ⟨b', made⟩
  cases hmade : made.result with
  | ok f => simp [hmade]
  | error e => simp [hmade]

/-- Two lists of options that mean the same wherever they are given: each option has a meaning, and
they are read the same way. -/
structure SameOptions (options options' : List (Value × Value)) : Prop where
  recognised : ∀ o ∈ options, FieldOptions.isRecognised o.1 = true
  recognised' : ∀ o ∈ options', FieldOptions.isRecognised o.1 = true
  defaultIn_eq : FieldOptions.defaultIn options = FieldOptions.defaultIn options'
  enforceIn_eq : FieldOptions.enforceIn options = FieldOptions.enforceIn options'

/-- Two declarations of the same field. -/
def SameDeclaration (d d' : Value × Value × List (Value × Value)) : Prop :=
  d.1 = d'.1 ∧ d.2.1 = d'.2.1 ∧ SameOptions d.2.2 d'.2.2

theorem SameOptions.result_ofEntries {options options' : List (Value × Value)}
    (h : SameOptions options options') (strict : Bool) (name : Value) :
    (FieldOptions.ofEntries options strict name).result =
      (FieldOptions.ofEntries options' strict name).result := by
  have hread : FieldOptions.ofRecognised options = FieldOptions.ofRecognised options' := by
    unfold FieldOptions.ofRecognised
    rw [h.defaultIn_eq, h.enforceIn_eq]
  rw [FieldOptions.result_ofEntries_of_recognised h.recognised,
    FieldOptions.result_ofEntries_of_recognised h.recognised', hread]

/-- A declaration hangs on its options by way of the field that it makes. -/
theorem declare_congr {b : Builder} {name type : Value} {options options' : List (Value × Value)}
    (h : (b.resolve name type options).result = (b.resolve name type options').result) :
    (b.declare name type options).1 = (b.declare name type options').1 ∧
      (b.declare name type options).2.result = (b.declare name type options').2.result := by
  unfold declare
  cases b.isAborted with
  | true => exact ⟨rfl, rfl⟩
  | false =>
    cases b.isFinalized with
    | true => exact ⟨rfl, rfl⟩
    | false =>
      cases hr : (b.resolve name type options').result with
      | error e => cases hfault : e.isDeclaration <;> simp [h.trans hr, hr, hfault]
      | ok f => simp [h.trans hr, hr]

/-- Lists of the same declarations come to the same. -/
theorem schemaOf_congr {ds ds' : List (Value × Value × List (Value × Value))}
    (h : List.Forall₂ SameDeclaration ds ds') (b : Builder) : b.schemaOf ds = b.schemaOf ds' := by
  induction h generalizing b with
  | nil => rfl
  | @cons d d' ds ds' hd _ ih =>
    obtain ⟨name, type, options⟩ := d
    obtain ⟨name', type', options'⟩ := d'
    obtain ⟨hname, htype, hoptions⟩ := hd
    subst hname
    subst htype
    -- Options come into a declaration by what is read from them alone.
    have hresolve : (b.resolve name type options).result =
        (b.resolve name type options').result := by
      rw [result_resolve, result_resolve, hoptions.result_ofEntries]
    obtain ⟨hblock, hmade⟩ := declare_congr hresolve
    rw [schemaOf_cons, schemaOf_cons, hblock, hmade]
    congr 1
    funext _
    exact ih _

end Builder

end RecordSchema
