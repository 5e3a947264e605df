import RecordSchema.Record.Member
import RecordSchema.Text.Identifier

/-!
# Record classes

A schema becomes a class of records. The constructor takes every field as a keyword: a field that is
enforced has to be given, any other has its default. Names that cannot be keywords, names given
twice and a struct name that is no text are refused.

A class may bring a namespace besides its schema: a description, rules of its own for printing,
equality and hashing, and other members. Unless it has a rule of its own, records are equal field by
field and then have no hash.

Apart from that, a value in the namespace is nothing but a value. So a class whose records have room
for some attributes only (`__slots__`) is not told apart from others, nor is a value that has rules
of its own for the attributes of records (`__set__`, `__delete__`) or for the making of the class
(`__set_name__`).
-/

set_option autoImplicit false

namespace RecordSchema

open RecordSchema.Text

/-- What a class brings besides its schema. -/
structure ClassBody where
  module : Option Value := none
  /-- The qualified name asked for. -/
  qualname : Option Value := none
  members : Namespace := []

namespace ClassBody

/-- The body with a name set to a value. -/
def assign (body : ClassBody) (name : String) (v : Value) : ClassBody :=
  { body with members := Schema.put body.members name (.data v) }

/-- The module of classes that name none. -/
def defaultModule : String := "typedstruct.core.struct"

/-- The module of the classes of validating models. -/
def modelModule : String := "typedstruct.core.models"

/-- The annotations of the class of a schema. -/
def annotationsFor (s : Schema) : Member :=
  .data (.mapping (s.types.map fun p => (.text p.1, p.2)))

/-- The namespace of the class of a schema. What every record class defines replaces what the body
brings, the rules for printing, equality and hashing apart. A rule for equality without one for
hashing rules out hashing. -/
def namespaceFor (body : ClassBody) (s : Schema) : Namespace :=
  let own := body.members.erase "__qualname__"
  let named := Schema.putAll own
    ([("__schema__", Member.schema),
      ("__annotations__", annotationsFor s),
      ("__init__", .code .method .initialise),
      ("__match_args__", .data (.tuple (s.keys.map .text))),
      ("__keys__", .code .classMethod .listKeys),
      ("__defaults__", .code .classMethod .listDefaults),
      ("__types__", .code .classMethod .listTypes)] ++
      (body.module.toList.map fun m => ("__module__", .data m)))
  [("__repr__", Member.code .method .printFields),
   ("__eq__", .code .method .compareFields),
   ("__hash__", .data .none),
   ("__module__", .data (.text defaultModule)),
   ("__doc__", .data .none),
   ("__dict__", .attributes),
   ("__weakref__", .reference)].foldl (fun ns m => ns.putDefault m.1 m.2) named

end ClassBody

/-- A parameter of a constructor. -/
structure Parameter where
  name : String
  /-- What stands for the parameter if it is not given; nothing if it has to be. -/
  default : Option Value

/-- Is a default the class that marks a parameter as one without a default? -/
def Parameter.isUnset : Value → Bool
  | .classToken c => c == ⟨"inspect", "_empty"⟩
  | _ => false

/-- A class of records with all it needs. -/
structure RecordType where
  identity : RecordClass
  schema : Schema
  /-- The qualified name of the constructor. -/
  constructorName : String
  /-- The parameters of the constructor that the class was made with. -/
  signature : List Parameter
  members : Namespace

namespace RecordType

/-- The name of the record among the parameters of its constructor. -/
def receiver : String := "self"

/-- The parameters of the constructor after the record itself. -/
def parameters (s : Schema) : List Parameter :=
  s.fields.map fun f =>
    ⟨f.name, if f.isEnforced then none
      else (Value.lookup f.name s.defaults).filter (!Parameter.isUnset ·)⟩

/-- Can a text be the name of a parameter? -/
def checkParameter (name : String) : Except Refusal Unit :=
  if name == "" then .error .badIndex
  else if FieldName.isReserved name || !isIdentifier name then .error .badValue
  else .ok ()

/-- Do the parameters of a constructor have usable names, each its own? -/
def checkParameters (names : List String) : Except Refusal Unit := do
  names.forM checkParameter
  if !(receiver :: names).Nodup then throw .badValue

/-- The text that a class can be named by. -/
def checkTitle : Value → Except Refusal String
  | .text s => if s.contains '\x00' then .error .badValue else .ok s
  | _ => .error .wrongKind

/-- The qualified name that a value gives, if it gives one. -/
def qualnameFrom (given : Option Value) (absent : String) : Except Refusal String :=
  match given with
  | none => .ok absent
  | some (.text s) => .ok s
  | some _ => .error .wrongKind

/-- A value among the members of a class. -/
def dataUnder (ns : Namespace) (name : String) : Option Value :=
  match ns.member? name with
  | some (.data v) => some v
  | _ => none

/-- The class with its identity as its namespace has it. -/
def settled (t : RecordType) : RecordType :=
  { t with identity := t.members.settle t.identity t.schema.keys }

/-- The record class of a schema, under an identity of its own. Its records have room for attributes
under any name. -/
def create (id : Nat) (s : Schema) (body : ClassBody) : Except Refusal RecordType := do
  checkParameters s.keys
  let title ← checkTitle s.name
  if body.members.has "__classcell__" then throw .wrongKind
  let ownName ← qualnameFrom (dataUnder body.members "__qualname__") title
  let qualname ← qualnameFrom body.qualname ownName
  let shownName := if (body.qualname.elim false Value.truthy) then qualname else title
  let t : RecordType :=
    { identity := { id, title, name := ⟨ClassBody.defaultModule, qualname⟩, keys := s.keys }
      schema := s
      constructorName := shownName ++ ".__init__"
      signature := parameters s
      members := body.namespaceFor s }
  return t.settled

/-- A new class with a schema that differs from its own in the types only. -/
def retyped (t : RecordType) (s : Schema) : RecordType :=
  { t with
    schema := s
    members := Schema.put t.members "__annotations__" (ClassBody.annotationsFor s) }

def isHashable (t : RecordType) : Bool := t.identity.hashing != .none

/-- The member of a name. -/
def member? (t : RecordType) (name : String) : Option Member := t.members.member? name

end RecordType

end RecordSchema
