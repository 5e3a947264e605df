import RecordSchema.TypeTerm.Widening

/-!
# Fields and their options

A declaration names a field, annotates it and may give options: a default, and whether the field is
enforced, that is, must be given when a record is made. Other options are refused in a strict block
and otherwise overlooked with a warning.
-/

set_option autoImplicit false

namespace RecordSchema

open RecordSchema.Text Value

/-- The options of a declaration; an absent default is marked as missing. -/
structure FieldOptions where
  default : Value := .missing
  enforce : Bool := false

/-- Is a default given? `None` is a default like any other. -/
def isGiven : Value → Bool
  | .missing => false
  | _ => true

namespace FieldOptions

def hasDefault (o : FieldOptions) : Bool := isGiven o.default

/-- The options that mean something, sorted. -/
def recognised : List String := ["default", "enforce"]

def isRecognised (key : Value) : Bool :=
  recognised.any fun word => alike key (.text word)

/-- The options without a meaning, sorted. -/
def unknown (options : List (Value × Value)) : Except Refusal (List String) := do
  let words ← (options.filter fun o => !isRecognised o.1).mapM (·.1.displayed)
  return words.mergeSort fun a b => !(b < a)

/-- The default among options, or the mark of a missing one. -/
def defaultIn (options : List (Value × Value)) : Value :=
  (lookupText "default" options).getD .missing

/-- What options have to say about enforcing; an option that is not there says no. -/
def enforceIn (options : List (Value × Value)) : Value :=
  (lookupText "enforce" options).getD (.bool false)

/-- The options that mean something. -/
def ofRecognised (options : List (Value × Value)) : Except Refusal FieldOptions := do
  return { default := defaultIn options, enforce := ← (enforceIn options).truth }

/-- Reads the options of a declaration; the field is named in what is said about them. -/
def ofEntries (options : List (Value × Value)) (strict : Bool) (field : Value) :
    Report FieldOptions := do
  match ← Report.ofExcept ((unknown options).mapError .refused) with
  | [] => pure ()
  | names =>
    if strict then Report.fail (.unknownOptions names field)
    else
      Report.say .warning .declaration
        ("ignoring unknown option(s) " ++ quotedList names ++ " for field " ++ field.shown)
  Report.ofExcept ((ofRecognised options).mapError .refused)

end FieldOptions

/-- A field of a schema. -/
structure Field where
  name : String
  /-- The default, or the mark of a missing one. -/
  default : Value
  /-- The annotation as written. -/
  declared : Value
  /-- The annotation in effect: as written, or widened to admit `None`. -/
  effective : Value
  /-- Whether the field must be given; any value, taken for its truth. -/
  enforced : Value

namespace Field

def hasDefault (f : Field) : Bool := isGiven f.default

def isEnforced (f : Field) : Bool := f.enforced.truthy

def isNullable (f : Field) : Bool := TypeTerm.isNullable f.hasDefault f.isEnforced

/-- Is the type of the field widened, if that can be told? Whether the field is enforced is asked
only where it has no default. -/
def nullability (f : Field) : Except Refusal Bool :=
  if f.hasDefault then .ok false else (!·) <$> f.enforced.truth

/-- What a record holds if the field is not given: the default, or `None` where there is none. -/
def initial (f : Field) : Value := if f.hasDefault then f.default else .none

/-- The printed form of a field. -/
def shown (f : Field) : String :=
  "AccumulatedField(name=" ++ quoted f.name ++ ", default=" ++ f.default.shown ++
    ", declared_type=" ++ f.declared.shown ++ ", type=" ++ f.effective.shown ++ ", enforced=" ++
    f.enforced.shown ++ ")"

end Field

/-- The field name that a value is, if a policy accepts it. -/
def FieldName.check (name : Value) (policy : NamePolicy) : Except Error String :=
  match FieldName.ofValue? name policy with
  | Option.none => .error (Error.invalidName policy name).raised
  | some s => .ok s

/-- The field name that a value is, if it is acceptable and not taken. -/
def validateName (name : Value) (policy : NamePolicy) (taken : String → Bool) :
    Except Error String := do
  let s ← FieldName.check name policy
  if taken s then .error (.duplicateField s) else .ok s

end RecordSchema
