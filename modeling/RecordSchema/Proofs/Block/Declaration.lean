import RecordSchema.Proofs.Block.Naming
import RecordSchema.Schema.Builder

/-!
# One declaration

What comes of a declaration in an open block. If it makes a field, the field is the one that the
declaration describes (`Field.IsOf`), under a name that was not taken (`isOf_of_resolve`). If it
fails, either the declaration is condemned for its options or its name (`Builder.Condemns`), or the
rules of values refuse something on the way: reading an option, printing a name or widening the
annotation (`condemns_or_refused_of_resolve`). The first kind of failure are the faults of
declarations, the second kind are not (`condemns_iff_resolve`).
-/

set_option autoImplicit false

namespace RecordSchema

open Value

/-! ## Options -/

namespace FieldOptions

theorem result_ofEntries (options : List (Value × Value)) (strict : Bool) (name : Value) :
    (ofEntries options strict name).result =
      (unknown options).mapError .refused >>= fun words =>
        if words ≠ [] ∧ strict = true then .error (Error.unknownOptions words name).raised
        else (ofRecognised options).mapError .refused := by
  unfold ofEntries
  rw [Report.result_bind, Report.result_ofExcept]
  congr 1
  funext words
  cases words with
  | nil => simp
  | cons word words => cases strict <;> simp

theorem ofRecognised_eq_ok_iff {options : List (Value × Value)} {read : FieldOptions} :
    ofRecognised options = .ok read ↔
      (enforceIn options).hasTruth = true ∧
        read = ⟨defaultIn options, (enforceIn options).truthy⟩ := by
  unfold ofRecognised truth
  cases (enforceIn options).hasTruth with
  | true => simp [Functor.map, Except.map, eq_comm]
  | false => simp [Functor.map, Except.map]

theorem unknown_eq_nil {options : List (Value × Value)}
    (h : ∀ o ∈ options, isRecognised o.1 = true) : unknown options = .ok [] := by
  have hnone : options.filter (fun o => !isRecognised o.1) = [] :=
    List.filter_eq_nil_iff.2 fun o ho => by simp [h o ho]
  simp only [unknown, hnone, List.mapM_nil]
  show Except.ok (List.mergeSort [] _) = _
  rw [List.mergeSort_nil]

/-- Options that all mean something are read the same way in every block. -/
theorem result_ofEntries_of_recognised {options : List (Value × Value)}
    (h : ∀ o ∈ options, isRecognised o.1 = true) (strict : Bool) (name : Value) :
    (ofEntries options strict name).result = (ofRecognised options).mapError .refused := by
  rw [result_ofEntries, unknown_eq_nil h]
  simp

/-- Without options there is no default and nothing is enforced. -/
theorem result_ofEntries_nil (strict : Bool) (name : Value) :
    (ofEntries [] strict name).result = .ok {} := by
  rw [result_ofEntries_of_recognised (List.forall_mem_nil _)]
  rfl

/-- A default alone is the default, and nothing is enforced. -/
theorem result_ofEntries_default (default : Value) (strict : Bool) (name : Value) :
    (ofEntries [(.text "default", default)] strict name).result = .ok ⟨default, false⟩ := by
  rw [result_ofEntries_of_recognised (List.forall_mem_singleton.2 rfl)]
  rfl

/-- Options that can be read have the default given and what is said about enforcing. -/
theorem eq_of_ofEntries {options : List (Value × Value)} {strict : Bool} {name : Value}
    {read : FieldOptions} (h : (ofEntries options strict name).result = .ok read) :
    read = ⟨defaultIn options, (enforceIn options).truthy⟩ := by
  rw [result_ofEntries, bind_eq_ok_iff] at h
  obtain ⟨words, -, h⟩ := h
  split at h
  · cases h
  · exact (ofRecognised_eq_ok_iff.1 (mapError_eq_ok_iff.1 h)).2

end FieldOptions

/-! ## Fields -/

/-- A field is the one that a declaration describes: it has the name, the default and the
enforcement declared, and its type is as annotated, or widened if it has to admit `None`. -/
structure Field.IsOf (f : Field) (name type : Value) (options : List (Value × Value)) : Prop where
  name_eq : name = .text f.name
  default_eq : f.default = FieldOptions.defaultIn options
  enforced_eq : f.enforced = .bool (FieldOptions.enforceIn options).truthy
  effective_eq : TypeTerm.effective type f.hasDefault f.isEnforced = .ok f.effective
  declared_eq : f.declared = Builder.written type f.effective

/-- A field that was declared tells whether it is enforced. -/
theorem Field.IsOf.told {f : Field} {name type : Value} {options : List (Value × Value)}
    (h : f.IsOf name type options) : f.enforced.hasTruth = true := by
  rw [h.enforced_eq]
  rfl

/-- A field that tells whether it is enforced is added to an accumulator that can grow. -/
theorem Accumulator.append_of_told {a : Accumulator} {f : Field} (going : a.finalized = false)
    (told : f.enforced.hasTruth = true) :
    (a.append f).1 = a.push f ∧ (a.append f).2.result = .ok f := by
  simp [append, going, Value.truth, told]

namespace Builder

theorem result_resolve (b : Builder) (name type : Value) (options : List (Value × Value)) :
    (b.resolve name type options).result = (do
      let options ← (FieldOptions.ofEntries options b.strict.truthy name).result
      let checked ← validateName name b.policy b.state.contains
      let effective ←
        (TypeTerm.effective type options.hasDefault options.enforce).mapError .refused
      return ⟨checked, options.default, written type effective, effective,
        .bool options.enforce⟩) := by
  simp only [resolve, Report.result_bind, Report.result_ofExcept, Report.result_pure]
  rfl

/-- Once its options and its name are read, a declaration hangs on its annotation alone. -/
theorem result_resolve_of_read {b : Builder} {name type : Value} {options : List (Value × Value)}
    {read : FieldOptions} {checked : String}
    (hread : (FieldOptions.ofEntries options b.strict.truthy name).result = .ok read)
    (hchecked : validateName name b.policy b.state.contains = .ok checked) :
    (b.resolve name type options).result =
      ((TypeTerm.effective type read.hasDefault read.enforce).mapError Error.refused).map
        fun effective =>
          ⟨checked, read.default, written type effective, effective, .bool read.enforce⟩ := by
  rw [result_resolve, hread, hchecked]
  rfl

/-- A declaration that makes a field makes the one that it describes, under a name not taken. -/
theorem isOf_of_resolve {b : Builder} {name type : Value} {options : List (Value × Value)}
    {f : Field} (h : (b.resolve name type options).result = .ok f) :
    f.IsOf name type options ∧ b.state.contains f.name = false := by
  -- All three stages have to go through: the options, the name and the annotation.
  rw [result_resolve, bind_eq_ok_iff] at h
  obtain ⟨read, hread, h⟩ := h
  obtain ⟨checked, hchecked, h⟩ := bind_eq_ok_iff.1 h
  obtain ⟨effective, heffective, h⟩ := bind_eq_ok_iff.1 h
  obtain ⟨hname, htaken⟩ := validateName_eq_ok_iff.1 hchecked
  have hf : ⟨checked, read.default, written type effective, effective, .bool read.enforce⟩ = f :=
    Except.ok.inj h
  have hread' := FieldOptions.eq_of_ofEntries hread
  subst hread'
  subst hf
  exact ⟨⟨FieldName.eq_text_of_ofValue? hname, rfl, rfl, mapError_eq_ok_iff.1 heffective, rfl⟩,
    htaken⟩

/-- In an open block a declaration comes to what becomes of it on its own. -/
theorem result_declare {b : Builder} (alive : b.isAborted = false) (going : b.isFinalized = false)
    (name type : Value) (options : List (Value × Value)) :
    (b.declare name type options).2.result = (b.resolve name type options).result := by
  unfold declare
  rw [alive, going]
  cases hr : (b.resolve name type options).result with
  | error e => cases hfault : e.isDeclaration <;> simp [hr, hfault]
  | ok f =>
    have happend := Accumulator.append_of_told going (isOf_of_resolve hr).1.told
    simp [hr, happend.2]

/-! ## Failures -/

/-- What a declaration is at fault with in an open block: an unknown option where none is let
through, or else a name that is not acceptable or is taken. Where a fault names a value in its
words, the value has to be one that can be printed. -/
inductive Condemns (b : Builder) (name : Value) (options : List (Value × Value)) :
    Error → Prop where
  | option {words : List String} (strict : b.strict.truthy = true)
      (unknown : FieldOptions.unknown options = .ok words) (some : words ≠ [])
      (printable : name.printFault? = Option.none) :
      Condemns b name options (.unknownOptions words name)
  | name {read : FieldOptions}
      (options_ok : (FieldOptions.ofEntries options b.strict.truthy name).result = .ok read)
      (invalid : FieldName.ofValue? name b.policy = Option.none)
      (printable : name.printFault? = Option.none) :
      Condemns b name options (.invalidName b.policy name)
  | duplicate {read : FieldOptions} {s : String}
      (options_ok : (FieldOptions.ofEntries options b.strict.truthy name).result = .ok read)
      (valid : FieldName.ofValue? name b.policy = some s)
      (taken : b.state.contains s = true) :
      Condemns b name options (.duplicateField s)

theorem Condemns.isDeclaration {b : Builder} {name : Value} {options : List (Value × Value)}
    {e : Error} (h : b.Condemns name options e) : e.isDeclaration = true := by
  cases h <;> rfl

theorem condemns_or_refused_of_ofEntries {b : Builder} {name : Value}
    {options : List (Value × Value)} {e : Error}
    (h : (FieldOptions.ofEntries options b.strict.truthy name).result = .error e) :
    b.Condemns name options e ∨ ∃ cause, e = .refused cause := by
  rw [FieldOptions.result_ofEntries] at h
  cases hunknown : FieldOptions.unknown options with
  | error cause =>
    simp only [hunknown, mapError_error, error_bind, Except.error.injEq] at h
    exact Or.inr ⟨cause, h.symm⟩
  | ok words =>
    simp only [hunknown, mapError_ok, ok_bind] at h
    split at h
    · rename_i hstrict
      have he : (Error.unknownOptions words name).raised = e := Except.error.inj h
      -- The fault names the field, so it only comes about if the name can be printed.
      by_cases htell : (Error.unknownOptions words name).isTellable
      · rw [Error.raised_of_isTellable htell] at he
        subst he
        exact Or.inl (.option hstrict.2 hunknown hstrict.1
          ((Error.isTellable_unknownOptions words name).1 htell))
      · obtain ⟨cause, hcause⟩ := Error.raised_of_not_isTellable htell
        exact Or.inr ⟨cause, he.symm.trans hcause⟩
    · obtain ⟨cause, -, hcause⟩ := mapError_eq_error_iff.1 h
      exact Or.inr ⟨cause, hcause.symm⟩

theorem condemns_or_refused_of_validateName {b : Builder} {name : Value}
    {options : List (Value × Value)} {read : FieldOptions} {e : Error}
    (hread : (FieldOptions.ofEntries options b.strict.truthy name).result = .ok read)
    (h : validateName name b.policy b.state.contains = .error e) :
    b.Condemns name options e ∨ ∃ cause, e = .refused cause := by
  unfold validateName at h
  cases hname : FieldName.ofValue? name b.policy with
  | none =>
    rw [FieldName.check_of_none hname] at h
    replace h : (Error.invalidName b.policy name).raised = e := Except.error.inj h
    -- The fault is told with the name in it; a name without a text is refused instead.
    by_cases htell : (Error.invalidName b.policy name).isTellable
    · rw [Error.raised_of_isTellable htell] at h
      subst h
      exact Or.inl (.name hread hname ((Error.isTellable_invalidName b.policy name).1 htell))
    · obtain ⟨cause, hcause⟩ := Error.raised_of_not_isTellable htell
      exact Or.inr ⟨cause, h.symm.trans hcause⟩
  | some s =>
    rw [FieldName.check_of_some hname, ok_bind] at h
    split at h
    · rename_i htaken
      rw [← Except.error.inj h]
      exact Or.inl (.duplicate hread hname htaken)
    · cases h

/-- A declaration that fails is condemned, or the rules of values refuse something on the way. -/
theorem condemns_or_refused_of_resolve {b : Builder} {name type : Value}
    {options : List (Value × Value)} {e : Error}
    (h : (b.resolve name type options).result = .error e) :
    b.Condemns name options e ∨ ∃ cause, e = .refused cause := by
  rw [result_resolve, bind_eq_error_iff] at h
  -- The first stage that fails decides.
  rcases h with h | ⟨read, hread, h⟩
  · exact condemns_or_refused_of_ofEntries h
  rcases bind_eq_error_iff.1 h with h | ⟨checked, -, h⟩
  · exact condemns_or_refused_of_validateName hread h
  rcases bind_eq_error_iff.1 h with h | ⟨effective, -, h⟩
  · obtain ⟨cause, -, hcause⟩ := mapError_eq_error_iff.1 h
    exact Or.inr ⟨cause, hcause.symm⟩
  · cases h

/-- A condemned declaration fails by its fault, whatever its annotation is. -/
theorem Condemns.resolve {b : Builder} {name : Value} {options : List (Value × Value)} {e : Error}
    (h : b.Condemns name options e) (type : Value) :
    (b.resolve name type options).result = .error e := by
  rw [result_resolve]
  cases h with
  | @option words strict unknown some printable =>
    have htell := (Error.isTellable_unknownOptions words name).2 printable
    rw [FieldOptions.result_ofEntries, unknown]
    simp [strict, some, Error.raised_of_isTellable htell]
  | name options_ok invalid printable =>
    have htell := (Error.isTellable_invalidName b.policy name).2 printable
    simp [options_ok, validateName, FieldName.check_of_none invalid,
      Error.raised_of_isTellable htell]
  | duplicate options_ok valid taken =>
    simp [options_ok, validateName, FieldName.check_of_some valid, taken]

/-- The faults by which declarations fail are those that they are condemned for. -/
theorem condemns_iff_resolve (b : Builder) (name type : Value) (options : List (Value × Value))
    (e : Error) :
    b.Condemns name options e ↔
      (b.resolve name type options).result = .error e ∧ e.isDeclaration = true := by
  constructor
  · intro h
    exact ⟨h.resolve type, h.isDeclaration⟩
  · rintro ⟨h, he⟩
    rcases condemns_or_refused_of_resolve h with hc | ⟨cause, rfl⟩
    · exact hc
    · cases he

end Builder

end RecordSchema
