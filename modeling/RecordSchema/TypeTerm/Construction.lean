import RecordSchema.Error
import RecordSchema.TypeTerm.Expression

/-!
# Building type annotations

Unions are kept flat and free of repetitions, in the order of first mention; a union of one member
is that member. Inside a typing construct `None` stands for its class and a text, which has to be an
expression, for what it is resolved to later. What is no type cannot stand there: a bare tuple, an
annotation that qualifies a name rather than typing it, such as one of a class variable, and what
only serves to make classes generic.
-/

set_option autoImplicit false

namespace RecordSchema.TypeTerm

open RecordSchema.Value

/-- `None` as its class, and any other value as it is. -/
def withNoneClass : Value → Value
  | .none => noneClass
  | v => v

/-- A value as it stands inside a typing construct, before it is checked. -/
def lifted : Value → Except Refusal Value
  | .text s => (Expression.ofText s).map fun _ => .forwardRef s
  | v => .ok (withNoneClass v)

/-- The base of all generic classes. -/
def genericClass : ClassName := ⟨"typing", "Generic"⟩

/-- Is a value one of the two classes that other classes are made generic by? They are no types. -/
def isGenericBase : Value → Bool
  | .classToken c => c == genericClass || c == ⟨"typing", "Protocol"⟩
  | _ => false

/-- Is a value a bare typing form? The one of class variables stands apart; any other is an object
that is told by its printed form. -/
def isForm : Value → Bool
  | .bareClassVar => true
  | .handle _ (.object className) _ =>
    className == "_SpecialForm" || className == "_LiteralSpecialForm"
  | _ => false

/-- The forms that are types without arguments. -/
def typeForms : List String :=
  ["typing.LiteralString", "typing.NoReturn", "typing.Never", "typing.Self", "typing.TypeAlias"]

/-- Is a value a form that qualifies a name, of a class variable or of one that is set only once? -/
def isQualifier (v : Value) : Bool :=
  isForm v && (v.shown == "typing.ClassVar" || v.shown == "typing.Final")

/-- Is a value no type, so that no typing construct takes it? Of a type with notes it matters only
what the notes are on. -/
def isNoType : Value → Bool
  | .classVar _ | .tuple _ => true
  | .alias .typing name _ => ["Generic", "Protocol", "Final"].contains name
  | .annotated base _ => isGenericBase base || isQualifier base
  | v => isGenericBase v || isForm v && !typeForms.contains v.shown

/-- A value that may stand inside a typing construct, as it stands there. -/
def member (v : Value) : Except Refusal Value :=
  if isNoType v then .error .wrongKind else lifted v

/-- The members of a union, a value that is no union being its own only member. -/
def flattened : Value → List Value
  | .union members => members
  | .pipe members => members
  | v => [v]

/-- The union of members in their order, each once; a member that can be no key is refused. -/
def unionOfMembers (members : List Value) : Except Refusal Value :=
  let members := members.flatMap flattened
  if !allHashable members then .error .wrongKind
  else
    match distinct members with
    | [one] => .ok one
    | members => .ok (.union members)

/-- The union of at least one value. -/
def unionOf (values : List Value) : Except Refusal Value := do
  if values.isEmpty then throw .wrongKind
  unionOfMembers (← values.mapM member)

/-- A value or `None`. -/
def optional (v : Value) : Except Refusal Value := do
  unionOfMembers [← member v, noneClass]

/-- Can a value stand beside a bar without making the union a typing construct? -/
def isPlainPart : Value → Bool
  | .none => true
  | .classToken _ | .recordClass _ | .anyType | .handle _ .classObject _ => true
  | .alias family _ _ => family != .typing
  | .pipe _ => true
  | _ => false

/-- Does a value beside a bar make the union a typing construct? -/
def isTypingPart : Value → Bool
  | .union _ | .literal _ | .annotated _ _ | .callable _ _ | .bareClassVar | .classVar _
  | .typeVar .. | .forwardRef _ => true
  | .alias family _ _ => family == .typing
  | _ => false

/-- Two values with a bar between them. -/
def bar (a b : Value) : Except Refusal Value :=
  if isTypingPart a || isTypingPart b then unionOf [a, b]
  else if isPlainPart a && isPlainPart b && !(a.equal .none && b.equal .none) then
    match distinct ((flattened (withNoneClass a)) ++ (flattened (withNoneClass b))) with
    | [one] => .ok one
    | members => .ok (.pipe members)
  else .error .wrongKind

/-- Values with bars between them, from the left. -/
def pipeOf : List Value → Except Refusal Value
  | [] => .error .wrongKind
  | v :: rest => rest.foldlM bar v

/-- The typing names that take no arguments at all. -/
def plainNames : List String := ["Hashable", "Sized", "ByteString"]

/-- The typing names that take two arguments. -/
def pairNames : List String :=
  ["Dict", "DefaultDict", "OrderedDict", "ChainMap", "Mapping", "MutableMapping", "ItemsView",
   "AsyncGenerator"]

/-- The typing names that take three arguments. -/
def tripleNames : List String := ["Generator", "Coroutine"]

/-- How many arguments a typing name takes; `none` if any number will do. -/
def arity? (name : String) : Option Nat :=
  if name == "Tuple" then Option.none
  else if plainNames.contains name then some 0
  else if pairNames.contains name then some 2
  else if tripleNames.contains name then some 3
  else some 1

/-- A typing name with arguments, or bare if there are none. -/
def typingAlias (name : String) (args : List Value) : Except Refusal Value := do
  let args ← args.mapM member
  let right := match arity? name with
    | some n => args.isEmpty || args.length == n
    | Option.none => true
  if right then return .alias .typing name args else throw .wrongKind

/-- The builtin classes that can be given arguments between brackets. -/
def subscriptable : List String :=
  ["list", "dict", "tuple", "set", "frozenset", "type", "enumerate", "BaseExceptionGroup",
   "ExceptionGroup"]

/-- A builtin class with arguments, which are kept as they are. -/
def builtinAlias (name : String) (args : List Value) : Except Refusal Value :=
  if subscriptable.contains name then .ok (.alias .builtin name args) else .error .wrongKind

/-- An abstract collection type, which without arguments is a class. -/
def abstractAlias (name : String) (args : List Value) : Except Refusal Value :=
  if args.isEmpty then .ok (.classToken ⟨"collections.abc", name⟩)
  else if ["Hashable", "Sized"].contains name then .error .wrongKind
  else .ok (.alias .abstract name args)

/-- The type of the given values, each once; values of different types are different here even if
they are equal. -/
def literalOf (values : List Value) : Value :=
  let values := values.flatMap fun
    | .literal inner => inner
    | v => [v]
  if allHashable values then
    .literal (values.foldl
      (fun kept v =>
        if kept.any (fun w => alike v w && literalKind v == literalKind w) then kept
        else kept ++ [v]) [])
  else .literal values

/-- Does a value belong to a kind that records no module, neither its own nor that of its class? -/
def isModuleless : Value → Bool
  | .bool _ | .int _ | .real _ | .bytes _ | .list _ _ | .mapping _ | .set _ | .frozenSet _
  | .date _ | .clock _ | .moment _ | .ellipsis => true
  | _ => false

/-- Does a value qualify a name, by a form with or without a type? -/
def qualifies : Value → Bool
  | .classVar _ => true
  | .alias .typing name _ => name == "Final"
  | v => isQualifier v

/-- A type with a note, after the notes that it already has; what is noted has to have a module. -/
def annotatedWith (base note : Value) : Except Refusal Value :=
  match base with
  | .annotated inner notes => .ok (.annotated inner (notes ++ [note]))
  | base =>
    if qualifies base then .ok (.annotated base [note])
    else if isModuleless base then .error .absentAttribute
    else (member base).map fun b => .annotated b [note]

def callableOf (parameters : List Value) (result : Value) : Except Refusal Value := do
  let result ← member result
  return .callable (← parameters.mapM lifted) result

def classVarOf (inner : Value) : Except Refusal Value :=
  (member inner).map .classVar

end RecordSchema.TypeTerm
