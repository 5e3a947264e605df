import RecordSchema.Schema.Basic

/-!
# Members of record classes

A class is a namespace: names with values, with code, or with one of the places that every class
has. How its records are made, printed, compared and hashed is decided by what stands under certain
names between double underscores. A value where code is wanted cannot be used, and a name that is
gone leaves what all objects do.
-/

set_option autoImplicit false

namespace RecordSchema

/-- How code in a class is reached. -/
inductive Binding where
  /-- Called with a record. -/
  | method
  /-- Called with the class. -/
  | classMethod
  /-- Called with neither. -/
  | staticMethod
  /-- Read as if it were an attribute of a record. -/
  | property
deriving DecidableEq

/-- What code in a class does. -/
inductive Behaviour where
  /-- Greets the text in the field `name`. -/
  | greeting
  /-- Tells whether a class is the one that the member belongs to. -/
  | ownership
  /-- Makes a record with nothing but the text `blank` for its label. -/
  | blank
  | constant (n : Int)
  /-- Doubles a field; setting it sets the field to the half, rounded down. -/
  | doubled (field : String)
  /-- Gives a record the attributes of its fields. -/
  | initialise
  | printFields
  | printText (text : String)
  /-- Prints the beginning of what any object of the class is printed as, behind a mark. -/
  | printPlace
  | compareFields
  | compareParity (field : String)
  | hashConstant (n : Int)
  | listKeys
  | listDefaults
  | listTypes
deriving DecidableEq

/-- What a name in a class stands for. -/
inductive Member where
  | data (v : Value)
  | code (binding : Binding) (behaviour : Behaviour)
  /-- The schema of the class. -/
  | schema
  /-- The place of the attributes of a record. -/
  | attributes
  /-- The place of what refers to a record without keeping it. -/
  | reference

/-- Names with what they stand for, each once. -/
abbrev Namespace := List (String × Member)

namespace Namespace

def has (ns : Namespace) (name : String) : Bool := (Value.lookup name ns).isSome

/-- The member of a name. -/
def member? (ns : Namespace) (name : String) : Option Member := Value.lookup name ns

/-- The namespace with a member under a name unless there is one. -/
def putDefault (ns : Namespace) (name : String) (m : Member) : Namespace :=
  if ns.has name then ns else Schema.put ns name m

/-- The namespace without a name. -/
def erase (ns : Namespace) (name : String) : Namespace := ns.filter (·.1 != name)

/-- How any object of a class is printed, as far as that does not depend on where it is kept. -/
def objectForm (className : String) : String := "<" ++ className ++ " object"

/-- The text under a name. -/
def text? (ns : Namespace) (name : String) : Option String :=
  match ns.member? name with
  | some (.data (.text s)) => some s
  | _ => none

def printing (ns : Namespace) (className : String) : Printing :=
  match ns.member? "__repr__" with
  | none => .fixed (objectForm className ++ ">")
  | some (.code .method .printFields) => .byFields
  | some (.code .method (.printText text)) => .fixed text
  | some (.code .method .printPlace) => .fixed ("S:" ++ ((objectForm className).take 8).toString)
  | some _ => .unusable

def comparison (ns : Namespace) : Comparison :=
  match ns.member? "__eq__" with
  | none => .byIdentity
  | some (.code .method .compareFields) => .byFields
  | some (.code .method (.compareParity field)) => .byParity field
  | some _ => .unusable

def hashing (ns : Namespace) : Hashing :=
  match ns.member? "__hash__" with
  | none => .byIdentity
  | some (.data .none) => .none
  | some (.code .method (.hashConstant n)) => .constant n
  | some _ => .unusable

def hasSchema (ns : Namespace) : Bool :=
  match ns.member? "__schema__" with
  | some .schema => true
  | _ => false

/-- The identity of a class after a change of its namespace or its fields. -/
def settle (ns : Namespace) (c : RecordClass) (keys : List String) : RecordClass :=
  let name : ClassName := ⟨(ns.text? "__module__").getD "builtins", c.name.qualname⟩
  { c with
    name
    keys
    printing := ns.printing (if name.module == "builtins" then c.title else name.dotted)
    comparison := ns.comparison
    hashing := ns.hashing
    hasSchema := ns.hasSchema
    isReadable := !ns.has "__getattribute__"
    isTrue := !ns.has "__bool__" && !ns.has "__len__"
    absence := if ns.has "__getattr__" then .wrongKind else .absentAttribute }

end Namespace

end RecordSchema
