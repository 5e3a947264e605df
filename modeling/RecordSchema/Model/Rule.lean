import RecordSchema.TypeTerm.Evaluation
import RecordSchema.TypeTerm.Rendering

/-!
# Rules of validating models

A validating model checks the values of a record against the annotations of its fields. Each
annotation, with the texts in it resolved, stands for a rule; one that is no type that a model knows
is refused.
-/

set_option autoImplicit false

namespace RecordSchema

/-- What a value has to be. -/
inductive Rule where
  | anything
  | nothing
  | integer
  | real
  | decimal
  | complex
  | date
  | moment
  | text
  | octets
  | truth
  | list (item : Rule)
  | set (item : Rule)
  | frozenSet (item : Rule)
  /-- A tuple of any number of items, each by one rule. -/
  | tupleOf (item : Rule)
  /-- A tuple of as many items as rules, each by its own. -/
  | tuple (rules : List Rule)
  | mapping (key value : Rule)
  /-- A sequence that stays of its own kind. -/
  | sequence (item : Rule)
  /-- Anything that has items. -/
  | iterable
  | literal (values : List Value)
  /-- Anything that can be called. -/
  | callable
  /-- A class, below another one if that is given. -/
  | classes (bound : Option ClassName)
  /-- Anything of a kind that can be a key. -/
  | hashable
  | optional (inner : Rule)
  /-- One of several rules, of which the closest is taken. -/
  | choice (members : List Rule)

namespace Rule

/-- The rule for the members of a union, none standing for the class of `None`. -/
def ofMembers (members : List (Option Rule)) : Rule :=
  let rules := members.filterMap id
  let inner := match rules with
    | [one] => one
    | rules => .choice rules
  if members.any (·.isNone) then if rules.isEmpty then .nothing else .optional inner else inner

/-- Kinds of collections that have rules of their own. -/
inductive Collection where
  | list
  | set
  | frozenSet
  | tuple
  | mapping
deriving DecidableEq

/-- The kind of collection that a generic type of a family is, by its name. -/
def Collection.ofName? (family : AliasFamily) (name : String) : Option Collection :=
  match family, name with
  | .builtin, "list" | .typing, "List" | .typing, "MutableSequence"
  | .abstract, "MutableSequence" => some .list
  | .builtin, "set" | .typing, "Set" | .typing, "MutableSet" | .abstract, "MutableSet" => some .set
  | .builtin, "frozenset" | .typing, "FrozenSet" | .typing, "AbstractSet" | .abstract, "Set" =>
    some .frozenSet
  | .builtin, "tuple" | .typing, "Tuple" => some .tuple
  | .builtin, "dict" | .typing, "Dict" | .typing, "Mapping" | .typing, "MutableMapping"
  | .typing, "OrderedDict" | .typing, "DefaultDict" | .abstract, "Mapping"
  | .abstract, "MutableMapping" => some .mapping
  | _, _ => none

/-- The rule for a collection without arguments. -/
def Collection.bare : Collection → Rule
  | .list => .list .anything
  | .set => .set .anything
  | .frozenSet => .frozenSet .anything
  | .tuple => .tupleOf .anything
  | .mapping => .mapping .anything .anything

/-- The rule for items of tuples. An ellipsis at the end stands for any number of the one before. -/
def ofPlaces (arguments : List Value) (rules : List (Except Refusal Rule)) : Except Refusal Rule :=
  match arguments.getLast?, rules with
  | some .ellipsis, [item, _] => item.map .tupleOf
  | some .ellipsis, _ => .error .badValue
  | _, rules => (rules.mapM id).map .tuple

/-- The rule for a collection with arguments, which stand beside their own rules. Arguments beyond
those wanted do not count. -/
def Collection.withArguments (c : Collection) (arguments : List Value)
    (rules : List (Except Refusal Rule)) : Except Refusal Rule :=
  match c, rules with
  | .tuple, rules => ofPlaces arguments rules
  | .list, item :: _ => item.map .list
  | .set, item :: _ => item.map .set
  | .frozenSet, item :: _ => item.map .frozenSet
  | .mapping, key :: value :: _ => do return .mapping (← key) (← value)
  | .mapping, [_] => .error .wrongKind
  | c, [] => .ok c.bare

/-- The rule for the other generic types, by name, beside the rule for the first argument. -/
def ofGeneric (family : AliasFamily) (name : String) (first : Option (Except Refusal Rule)) :
    Except Refusal Rule :=
  match name with
  | "Sequence" => (first.getD (.ok .anything)).map .sequence
  | "Iterable" | "Generator" => .ok .iterable
  | "Hashable" => .ok .hashable
  | "Callable" => .ok .callable
  | "Deque" | "Counter" | "Pattern" =>
    if family == .typing then .ok .anything else .error .unsupportedModelType
  | _ => .error .unsupportedModelType

/-- Is a name that of the type of classes? -/
def isClassType (family : AliasFamily) (name : String) : Bool :=
  (family == .builtin && name == "type") || (family == .typing && name == "Type")

/-- The rule for the type of classes with an argument. -/
def ofClassType : List Value → Except Refusal Rule
  | [] | [.anyType] | [.typeVar ..] => .ok (.classes none)
  | [.classToken c] => .ok (.classes (some c))
  | [.none] => .ok (.classes (some (.builtin "NoneType")))
  | _ => .error .wrongKind

/-- The rule for a builtin class by its name. -/
def ofBuiltin? (name : String) : Option Rule :=
  match name with
  | "int" => some .integer
  | "float" => some .real
  | "str" => some .text
  | "bytes" => some .octets
  | "bool" => some .truth
  | "NoneType" => some .nothing
  | "object" => some .anything
  | "complex" => some .complex
  | "type" => some (.classes none)
  | name => (Collection.ofName? .builtin name).map (·.bare)

/-- The rule for a class. -/
def ofClass (c : ClassName) : Except Refusal Rule :=
  match c.module with
  | "builtins" => ((ofBuiltin? c.qualname).map Except.ok).getD (.error .unsupportedModelType)
  | "collections.abc" =>
    ((Collection.ofName? .abstract c.qualname).map fun k => .ok k.bare).getD
      (ofGeneric .abstract c.qualname none)
  | "decimal" => .ok .decimal
  | "datetime" => .ok (if c.qualname == "date" then .date else .moment)
  | _ => .error .unsupportedModelType

mutual

/-- The rule for an annotation without texts. -/
def ofType : Value → Except Refusal Rule
  | .none => .ok .nothing
  | .anyType => .ok .anything
  | .classToken c => ofClass c
  | .union members => do return ofMembers (← (ofMemberTypes members).mapM id)
  | .pipe members => do return ofMembers (← (ofMemberTypes members).mapM id)
  | .alias family name arguments =>
    let rules := ofTypes arguments
    match Collection.ofName? family name with
    | some c =>
      if arguments.isEmpty && family != .builtin then .ok c.bare
      else c.withArguments arguments rules
    | none =>
      if isClassType family name then ofClassType arguments else ofGeneric family name rules.head?
  | .literal values => .ok (.literal values)
  | .annotated base _ => ofType base
  | .callable _ _ => .ok .callable
  | .typeVar .. => .ok .anything
  | _ => .error .unsupportedModelType

/-- The rules for annotations. -/
def ofTypes : List Value → List (Except Refusal Rule)
  | [] => []
  | v :: rest => ofType v :: ofTypes rest

/-- The rules for the members of a union, none standing for the class of `None`. -/
def ofMemberTypes : List Value → List (Except Refusal (Option Rule))
  | [] => []
  | v :: rest =>
    (if v.isNoneClass then .ok none else (ofType v).map some) :: ofMemberTypes rest

end

/-! ## Names of rules -/

mutual

/-- What a rule is called where the members of a choice are told apart. -/
def label : Rule → String
  | .anything => "any"
  | .nothing => "none"
  | .integer => "int"
  | .real => "float"
  | .decimal => "decimal"
  | .complex => "complex"
  | .date => "date"
  | .moment => "datetime"
  | .text => "str"
  | .octets => "bytes"
  | .truth => "bool"
  | .list item => "list[" ++ label item ++ "]"
  | .set item => "set[" ++ label item ++ "]"
  | .frozenSet item => "frozenset[" ++ label item ++ "]"
  | .tupleOf item => "tuple[" ++ label item ++ ", ...]"
  | .tuple rules => "tuple[" ++ ", ".intercalate (labels rules) ++ "]"
  | .mapping key value => "dict[" ++ label key ++ "," ++ label value ++ "]"
  | .sequence item =>
    let instanceLabel := "is-instance[Sequence]"
    "json-or-python[json=list[" ++ label item ++ "],python=" ++
      (match item with
        | .anything => instanceLabel
        | _ => "chain[" ++ instanceLabel ++ ",function-wrap[sequence_validator()]]") ++ "]"
  | .iterable => "generator"
  | .callable => "callable"
  | .classes none => "is-instance[type]"
  | .classes (some c) => "is-subclass[" ++ c.qualname ++ "]"
  | .hashable => "is-instance[Hashable]"
  | .literal values => "literal[" ++ ",".intercalate (values.map Value.shown) ++ "]"
  | .optional inner => "nullable[" ++ label inner ++ "]"
  | .choice members => "union[" ++ ",".intercalate (labels members) ++ "]"

def labels : List Rule → List String
  | [] => []
  | r :: rest => label r :: labels rest

end

end Rule

end RecordSchema
