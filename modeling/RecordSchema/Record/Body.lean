import RecordSchema.Record.Class
import RecordSchema.Schema.Builder

/-!
# Class bodies

A class body declares a block: each annotated name, in the order of first annotation, is a field,
whose default is the value that the body gives to the name, or whose options the body configures.
Annotations of class variables declare nothing. What is left of the body belongs to the class.

The annotations stand in the body under a name of their own and can be replaced there like any other
value, and so can the name of the class.
-/

set_option autoImplicit false

namespace RecordSchema

/-- A statement of a class body. -/
inductive BodyStatement where
  /-- A name with its type. -/
  | annotate (name : String) (type : Value)
  /-- A name with its value. -/
  | assign (name : String) (v : Value)
  /-- A name with the options of a field. -/
  | configure (name : String) (default enforce : Value)
  | define (name : String) (binding : Binding) (behaviour : Behaviour)

/-- What a name in a body stands for. -/
inductive BodyContent where
  | value (v : Value)
  | options (default enforce : Value)
  | code (binding : Binding) (behaviour : Behaviour)

/-- A class body after all its statements. -/
structure BodyState where
  /-- The annotations by name, or what has been put in their place. -/
  annotations : Value := .mapping []
  contents : List (String × BodyContent) := []

namespace BodyState

/-- The printed form of field options left in a class. -/
def optionsShown (default enforce : Value) : String :=
  "FieldSpec(default=" ++ default.shown ++ ", enforce=" ++ enforce.shown ++ ")"

/-- A content as a value; code is known by its name only. Field options can be a key if what they
hold can be. -/
def contentValue (name : String) : BodyContent → Value
  | .value v => v
  | .options default enforce =>
    let kind : HandleKind :=
      if default.hashable && enforce.hashable then .object "FieldSpec" else .keyless "FieldSpec"
    .handle 0 kind (optionsShown default enforce)
  | .code _ _ => .handle 0 (.object "function") ("<function " ++ name ++ ">")

/-- The name under which the annotations stand. -/
def annotationsName : String := "__annotations__"

/-- The body after one more statement. Only a mapping takes annotations. -/
def step (b : BodyState) : BodyStatement → Except Refusal BodyState
  | .annotate name type =>
    match b.annotations with
    | .mapping entries =>
      .ok { b with annotations := .mapping (Value.setEntry entries (.text name) type) }
    | _ => .error .wrongKind
  | .assign name v =>
    if name == annotationsName then .ok { b with annotations := v }
    else .ok { b with contents := Schema.put b.contents name (.value v) }
  | .configure name default enforce =>
    let content := BodyContent.options default enforce
    if name == annotationsName then .ok { b with annotations := contentValue name content }
    else .ok { b with contents := Schema.put b.contents name content }
  | .define name binding behaviour =>
    .ok { b with contents := Schema.put b.contents name (.code binding behaviour) }

def ofStatements (statements : List BodyStatement) : Except Refusal BodyState :=
  statements.foldlM step {}

/-- A content as a member of the class. -/
def contentMember (name : String) : BodyContent → Member
  | .code binding behaviour => .code binding behaviour
  | content => .data (contentValue name content)

/-- The options of the field that an annotated name declares. -/
def optionsOf (name : String) (content : Option BodyContent) : List (Value × Value) :=
  let given (default : Value) : List (Value × Value) :=
    if isGiven default then [(.text "default", default)] else []
  match content with
  | none => []
  | some (.options default enforce) => (.text "enforce", enforce) :: given default
  | some content => given (contentValue name content)

/-- The annotations of the body. -/
def annotated (b : BodyState) : Except Refusal (List (Value × Value)) :=
  match b.annotations with
  | .mapping entries => .ok entries
  | .none => .ok []
  | _ => .error .badValue

/-- The content that a name in the annotations has. -/
def contentOf (b : BodyState) (name : Value) : Option BodyContent :=
  match name with
  | .text s => Value.lookup s b.contents
  | _ => none

/-- The name of an annotation as a text, for what is said about it. -/
def nameText : Value → String
  | .text s => s
  | _ => ""

/-- The declarations of the block that the annotations make. -/
def declarations (b : BodyState) (annotations : List (Value × Value)) :
    List (Value × Value × List (Value × Value)) :=
  (annotations.filter fun a => !TypeTerm.isClassVar a.2).map fun a =>
    (a.1, a.2, optionsOf (nameText a.1) (b.contentOf a.1))

/-- Names that a body loses. -/
def dropped : List String := ["__dict__", "__weakref__", annotationsName, "__qualname__",
  "__annotate__", "__annotate_func__", "__annotations_cache__"]

/-- What is left for the class when its fields are taken out. -/
def classBody (b : BodyState) (fields : List Value) (module qualname : Value) : ClassBody :=
  let left := b.contents.filter fun c =>
    !dropped.contains c.1 && !fields.any (Value.alike (.text c.1))
  let members : Namespace := left.map fun c => (c.1, contentMember c.1 c.2)
  let members :=
    if members.has "__eq__" then members.putDefault "__hash__" (.data .none) else members
  { module := some module, qualname := some qualname, members }

/-- A value that the body gives to a name, or else another one. -/
def valueOr (b : BodyState) (name : String) (absent : Value) : Value :=
  match Value.lookup name b.contents with
  | some content => contentValue name content
  | none => absent

/-- The record class that statements make under a name. A class that inherits is refused before
anything else but a body or a name that no class can have; a module that counts as one has to be a
possible key. -/
def compile (statements : List BodyStatement) (id : Nat) (name module qualname : String)
    (inherits : Bool) (strict : Value) (policy : Except Error NamePolicy) : Report RecordType := do
  let refused {α : Type} (r : Except Refusal α) : Report α :=
    Report.ofExcept (r.mapError .refused)
  let b ← refused (ofStatements statements)
  let _ ← refused (RecordType.checkTitle (.text name))
  let qualname ← refused (RecordType.qualnameFrom (some (b.valueOr "__qualname__" (.text qualname)))
    name)
  if (Value.lookup "__classcell__" b.contents).isSome then Report.refuse .wrongKind
  if inherits then Report.fail (.inheritance name)
  let block := Builder.new (.text name) strict (← Report.ofExcept policy)
  let module := b.valueOr "__module__" (.text module)
  if (← refused module.truth) && !module.hashable then Report.refuse .wrongKind
  let annotations ← refused b.annotated
  let declarations := b.declarations annotations
  let (block, declared) := block.declareAll declarations
  declared
  let schema ← block.build.2
  let body := b.classBody (declarations.map (·.1)) module (.text qualname)
  refused (RecordType.create id schema body)

end BodyState

end RecordSchema
