import RecordSchema.Model.Check
import RecordSchema.Schema.Basic
import RecordSchema.Value.Making

/-!
# Validating models

A schema becomes a model that checks values for its fields. An enforced field has to be given, any
other has its default, which is not checked. Names that are no fields are refused, kept or dropped.
A name that begins with an underscore is no field of the model, and neither is one that is annotated
as a variable of the class. A field may stand in the place of what a model calls once it is filled.

The types are known when every text among them can be resolved. A model with a type that is not
known exists, but cannot be filled.
-/

set_option autoImplicit false

namespace RecordSchema

open RecordSchema.Text

/-- What becomes of names that are no fields. -/
inductive ExtraPolicy where
  | allow
  | ignore
  | forbid
deriving DecidableEq

namespace ExtraPolicy

def word : ExtraPolicy → String
  | .allow => "allow"
  | .ignore => "ignore"
  | .forbid => "forbid"

def ofWord? (word : String) : Option ExtraPolicy :=
  [allow, ignore, forbid].find? (·.word == word)

/-- The policy that a value denotes; without one, names that are no fields are dropped. -/
def ofValue (v : Value) : Except Refusal ExtraPolicy :=
  match v with
  | .none => .ok ignore
  | .text s => ((ofWord? s).map Except.ok).getD (.error .unknownModelRule)
  | _ => .error .unknownModelRule

end ExtraPolicy

/-- A field of a model. -/
structure ModelField where
  name : String
  /-- The rule; nothing if not all types of the model are known. -/
  rule : Option Rule
  /-- The default; nothing if the field has to be given. -/
  default : Option Value

structure Model where
  name : String
  /-- What was asked for names that are no fields. -/
  extra : Value
  fields : List ModelField

namespace Model

/-! ## Names -/

/-- Does a name begin with an underscore? -/
def isPrivate (name : String) : Bool := name.toList.head? == some '_'

/-- Names of fields that models cannot have. -/
def taken : List String :=
  ["model_validate", "model_validate_json", "model_validate_strings", "model_dump",
   "model_dump_json"]

/-- The name under which the settings of a model stand. It is never a field. -/
def configurationName : String := "model_config"

/-- The name of what a model calls with `None` once it is filled. A field can be called so, and then
it is its value that is called. -/
def hookName : String := "model_post_init"

/-- The name of the model of a schema, unless another is given. -/
def nameFrom (s : Schema) (given : Value) : Except Refusal String :=
  if given.truthy then
    match given with
    | .text name => if name.contains '\x00' then .error .badValue else .ok name
    | _ => .error .wrongKind
  else .ok (s.name.display ++ "Model")

/-! ## Types of fields -/

/-- The default of a field in a model; one that has to be given has none, and an ellipsis
is none. -/
def defaultOf (s : Schema) (f : Field) : Option Value :=
  if f.isEnforced then none
  else
    match Value.lookup f.name s.defaults with
    | some .ellipsis => none
    | default => some (default.getD .none)

/-- A name that begins with an underscore cannot be one that has to be given. -/
def checkPrivate (f : Field) : Except Refusal Unit :=
  if isPrivate f.name && f.isEnforced then .error .reservedName else .ok ()

/-- The names of the place where models are made. -/
def placeName? (name : String) : Option Value :=
  if name == "Any" then some .anyType
  else if
    ["ConfigDict", "Field", "create_model", "to_pydantic_model", "struct_from_model"].contains name
  then some (TypeTerm.objectOf "function")
  else if ["BaseModel", "Schema"].contains name then some (.handle 0 .classObject name)
  else none

/-- The names that the annotations of a model see: its fields with their defaults, and then those of
the place where models are made. -/
def scope (s : Schema) (fields : List Field) : TypeTerm.Scope := fun name =>
  match fields.find? fun f => f.name == name && !isPrivate name with
  | some f =>
    if f.isEnforced then some (TypeTerm.objectOf "FieldInfo") else Value.lookup name s.defaults
  | none => placeName? name

/-- An annotation with its texts resolved; nothing if a name in them is not known. -/
def resolution (scope : TypeTerm.Scope) (type : Value) : Except Refusal (Option Value) :=
  match TypeTerm.resolved scope type with
  | .ok type => .ok (some type)
  | .error .unknownName => .ok none
  | .error (.refused cause) => .error cause

/-- The characters behind a dotted name of one part at the front. -/
def afterPart (cs : List Char) : List Char :=
  match cs.dropWhile isWord with
  | '.' :: rest => if isWord (cs.headD '.') then rest else cs
  | _ => cs

/-- Does a text begin as the annotation of a class variable? -/
def beginsClassVar (s : String) : Bool :=
  let cs := afterPart s.toList
  (TypeTerm.after? "ClassVar[" cs).isSome ||
    ((TypeTerm.after? "Annotated[" cs).bind fun rest =>
      TypeTerm.after? "ClassVar[" (afterPart rest)).isSome

/-- Is a field one of the class rather than of the model? A text tells it only if it cannot be
resolved. -/
def isOfClass (written : Value) (type : Option Value) : Bool :=
  match type, written with
  | some .bareClassVar, _ | some (.classVar _), _ | some (.annotated .bareClassVar _), _
  | some (.annotated (.classVar _) _), _ => true
  | none, .text s | none, .forwardRef s => beginsClassVar s
  | _, _ => false

/-- Is a type the same object as a default? -/
def isSame (type : Value) (default : Option Value) : Bool :=
  match type, default with
  | _, none => false
  | .token a, some (.token b) => a == b
  | .missing, some .missing => true
  | type, some v => type.isClass && type.equal v

/-- A field as a model has it, with its type if that is known. -/
structure Draft where
  name : String
  type : Option Value
  default : Option Value

/-- The field of a model for a field of a schema, if the model has it. -/
def draft? (s : Schema) (f : Field) (type : Option Value) : Except Refusal (Option Draft) := do
  if f.name == configurationName then return none
  if taken.contains f.name then throw .badValue
  if isOfClass f.effective type then return none
  let default := defaultOf s f
  if type.elim false fun t => isSame t default then throw .defaultIsType
  return some ⟨f.name, type, default⟩

/-! ## Models of schemas -/

/-- Fields with their rules, or all without a rule if the type of one is not known. -/
def ruled (drafts : List Draft) : Except Refusal (List ModelField) :=
  if drafts.any (·.type.isNone) then .ok (drafts.map fun d => ⟨d.name, none, d.default⟩)
  else drafts.mapM fun d => do
    return ⟨d.name, some (← Rule.ofType (d.type.getD .none)), d.default⟩

/-- Is the rule of every field defined? -/
def isDefined (m : Model) : Bool := m.fields.all (·.rule.isSome)

/-- The model of a schema. The types of all fields are resolved before any rule is looked for. -/
def ofSchema (s : Schema) (name extra : Value) : Except Refusal Model := do
  let name ← nameFrom s name
  let last := (Schema.putAll [] (s.fields.map fun f => (f.name, f))).map (·.2)
  last.forM checkPrivate
  let visible := last.filter fun f => !isPrivate f.name
  let types ← visible.mapM fun f => resolution (scope s last) f.effective
  let drafts ← (visible.zip types).mapM fun p => draft? s p.1 p.2
  let m : Model := { name, extra, fields := ← ruled (drafts.filterMap id) }
  if m.isDefined then
    let _ ← ExtraPolicy.ofValue extra
  return m

/-- What becomes of names that are no fields. -/
def policy (m : Model) : ExtraPolicy := ((ExtraPolicy.ofValue m.extra).toOption).getD .ignore

/-- The settings of a model as a value. -/
def configuration (m : Model) : Value := .mapping [(.text "extra", m.extra)]

/-! ## Filling -/

/-- The values given under names that are no fields. -/
def extras (m : Model) (given : List (String × Value)) : List (String × Value) :=
  given.filter fun g => !m.fields.any (·.name == g.1)

/-- What a filled model has beside its fields, if it may have anything. -/
def extraValue (m : Model) (values : List (String × Value)) : Value :=
  match m.policy with
  | .allow => .mapping ((m.extras values).map fun p => (.text p.1, p.2))
  | _ => .none

/-- What a value comes to under the rule of a field. -/
def checked (f : ModelField) (v : Value) : Checked :=
  (f.rule.map (·.check v)).getD (Check.broken .undefinedModel)

/-- What a field comes to among the values given. -/
def fieldOutcome (f : ModelField) (given : List (String × Value)) :
    Except Rejection (String × Value) :=
  match Value.lookup f.name given, f.default with
  | some v, _ =>
    match checked f v with
    | .ok (kept, _) => .ok (f.name, kept)
    | .error (.mismatches complaints) =>
      .error (.mismatches (Check.under (.key f.name) complaints))
    | .error (.broken cause) => .error (.broken cause)
  | none, some default => .ok (f.name, default)
  | none, none => .error (.mismatches [⟨.missing, [.key f.name]⟩])

/-- All mismatches: those of the fields in order, then the names that are refused. -/
def complaints (m : Model) (given : List (String × Value)) : List Complaint :=
  (m.fields.flatMap fun f =>
    match fieldOutcome f given with
    | .error (.mismatches complaints) => complaints
    | _ => []) ++
    match m.policy with
    | .forbid => (m.extras given).map fun g => ⟨.extraForbidden, [.key g.1]⟩
    | _ => []

/-- Why the check of a field broke off, if one did. -/
def break? (m : Model) (given : List (String × Value)) : Option Refusal :=
  m.fields.findSome? fun f =>
    match fieldOutcome f given with
    | .error (.broken cause) => some cause
    | _ => none

/-- The values kept, in field order and then as given. -/
def kept (m : Model) (given : List (String × Value)) : List (String × Value) :=
  m.fields.filterMap (fun f => (fieldOutcome f given).toOption) ++
    match m.policy with
    | .allow => m.extras given
    | _ => []

/-- Can a value be called with `None`? Some classes of builtin values can; of any other object it is
taken that it cannot. -/
def answersNone : Value → Bool
  | .classToken c => c.module == "builtins" && (Value.made c.qualname [.none]).isOk
  | _ => false

/-- Can what a filled model calls be called, a field in its place included? -/
def hookAnswers (m : Model) (kept : List (String × Value)) : Bool :=
  !m.fields.any (·.name == hookName) || (Value.lookup hookName kept).any answersNone

/-- The values of a model filled with the values given. -/
def validate (m : Model) (given : List (String × Value)) : Except Error (List (String × Value)) :=
  let given := Schema.putAll [] given
  if !m.isDefined then .error (.refused .undefinedModel)
  else
    match m.break? given, m.complaints given with
    | some cause, _ => .error (.refused cause)
    | none, [] =>
      let kept := m.kept given
      if m.hookAnswers kept then .ok kept else .error (.refused .wrongKind)
    | none, complaints => .error (.invalidModel complaints)

end Model

end RecordSchema
