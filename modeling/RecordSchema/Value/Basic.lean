import RecordSchema.Calendar
import RecordSchema.Number.Decimal
import RecordSchema.Refusal

/-!
# Values

The data that declarations and records hold: scalars, collections, dates, opaque tokens, and the
type annotations themselves, since a type is as good a default as any other value. An annotation is
any value at all; a text is an annotation written out, and the constructors from `classToken` on are
the annotations that have a structure of their own.

A list carries the label of the storage that appending to it goes to: two lists with one label are
one list. A record carries the label of its attributes in the same way.
-/

set_option autoImplicit false

namespace RecordSchema

/-- A class by its module and its name within the module. -/
structure ClassName where
  module : String
  qualname : String
deriving DecidableEq

namespace ClassName

def builtin (name : String) : ClassName := ⟨"builtins", name⟩

/-- The last part of a dotted name. -/
def name (c : ClassName) : String :=
  String.ofList ((c.qualname.toList.reverse.takeWhile (· != '.')).reverse)

/-- The name as written in a type: that of a builtin class alone, any other behind its module. -/
def dotted (c : ClassName) : String :=
  if c.module == "builtins" then c.qualname else c.module ++ "." ++ c.qualname

def shown (c : ClassName) : String :=
  "<class '" ++ c.dotted ++ "'>"

end ClassName

/-- How the records of a class are printed: by their fields, all by one text, or not at all. -/
inductive Printing where
  | byFields
  | fixed (text : String)
  | unusable
deriving DecidableEq

/-- When two records of one class are equal: field by field, when one field has the same remainder
on division by two, or only if they are one record. Some classes have no usable rule. -/
inductive Comparison where
  | byFields
  | byParity (field : String)
  | byIdentity
  | unusable
deriving DecidableEq

/-- The hash of the records of a class, if they have one, or a rule for it that is not usable. -/
inductive Hashing where
  | none
  | constant (value : Int)
  | byIdentity
  | unusable
deriving DecidableEq

/-- Do the records of a class have a hash? -/
def Hashing.isUsable : Hashing → Bool
  | constant _ => true
  | byIdentity => true
  | _ => false

/-- The identity of a record class and how its records behave as values. -/
structure RecordClass where
  id : Nat
  /-- The name of the class by itself. -/
  title : String
  name : ClassName
  /-- Field names in declaration order. -/
  keys : List String
  printing : Printing := .byFields
  comparison : Comparison := .byFields
  hashing : Hashing := .none
  /-- Has the class a schema? Without one there are no fields to print or to compare. -/
  hasSchema : Bool := true
  /-- Can the attributes of its records be read? -/
  isReadable : Bool := true
  /-- Do its records count as true? If not, what they count as cannot be told. -/
  isTrue : Bool := true
  /-- What reading an attribute that its records do not have is refused as. -/
  absence : Refusal := .absentAttribute
deriving DecidableEq

/-- The printed form of a record class. One that calls itself builtin goes by its own name. -/
def RecordClass.shown (c : RecordClass) : String :=
  if c.name.module == "builtins" then "<class '" ++ c.title ++ "'>" else c.name.shown

/-- Where a generic type with arguments comes from. -/
inductive AliasFamily where
  | builtin
  | typing
  | abstract
deriving DecidableEq

/-- What a printed name stands for when it is not data. -/
inductive HandleKind where
  /-- An object of a class that counts as true. -/
  | object (className : String)
  /-- An object of a class that counts as true and can be no key. -/
  | keyless (className : String)
  /-- An object without elements, which counts as false. -/
  | emptyObject (className : String)
  /-- An object that counts neither as true nor as false and can be no key. -/
  | undecided (className : String)
  /-- A class. -/
  | classObject
deriving DecidableEq

inductive Value where
  | none
  | bool (b : Bool)
  | int (n : Int)
  | real (x : Binary64)
  | text (s : String)
  | bytes (octets : List UInt8)
  | list (cell : Nat) (items : List Value)
  | tuple (items : List Value)
  | mapping (entries : List (Value × Value))
  | set (items : List Value)
  | frozenSet (items : List Value)
  | date (d : Calendar.Date)
  | clock (c : Calendar.Clock)
  | moment (m : Calendar.Moment)
  | decimal (d : Decimal)
  /-- An opaque object, equal to itself alone. -/
  | token (name : String)
  /-- The mark of an absent default. -/
  | missing
  | classToken (c : ClassName)
  /-- The type of anything. -/
  | anyType
  | ellipsis
  /-- A union of at least two distinct members, none of them a union. -/
  | union (members : List Value)
  /-- A union written with bars. -/
  | pipe (members : List Value)
  /-- A generic type with its arguments; a typing name may stand without. -/
  | «alias» (family : AliasFamily) (name : String) (arguments : List Value)
  | literal (values : List Value)
  /-- A type with notes on it. -/
  | annotated (base : Value) (notes : List Value)
  | callable (parameters : List Value) (result : Value)
  | bareClassVar
  | classVar (inner : Value)
  /-- A type variable, equal to itself alone. -/
  | typeVar (id : Nat) (name : String)
  /-- A name that is resolved later. -/
  | forwardRef (name : String)
  /-- The union of a token that no typing construct takes with `None`. -/
  | orNone (inner : Value)
  | recordClass (c : RecordClass)
  | record (cell : Nat) (c : RecordClass) (attributes : List (String × Value))
  /-- Any other object, by its identity and its printed form. -/
  | handle (id : Nat) (kind : HandleKind) (shown : String)

namespace Value

/-- A list that shares its storage with no other. -/
def ofList (items : List Value) : Value := .list 0 items

def ofTexts (items : List String) : Value := .ofList (items.map .text)

def builtinClass (name : String) : Value := .classToken (.builtin name)

/-- The class of `None`. -/
def noneClass : Value := builtinClass "NoneType"

instance : Inhabited Value := ⟨.none⟩

end Value

end RecordSchema
