import RecordSchema.Value.Equality

/-!
# What a value counts as

Whether a value counts as true, whether it can be a key, the name of its kind, and the mappings
built from key and value pairs.
-/

set_option autoImplicit false

namespace RecordSchema.Value

/-- Empty collections, zeros, `None`, the absent default and objects without elements count as
false; everything else counts as true. -/
def truthy : Value → Bool
  | .none => false
  | .bool b => b
  | .int n => n != 0
  | .real x => !x.isZero
  | .text s => s != ""
  | .bytes octets => !octets.isEmpty
  | .list _ items => !items.isEmpty
  | .tuple items => !items.isEmpty
  | .mapping entries => !entries.isEmpty
  | .set items => !items.isEmpty
  | .frozenSet items => !items.isEmpty
  | .decimal d => !d.isZero
  | .missing => false
  | .handle _ (.emptyObject _) _ => false
  | _ => true

/-- Can it be told what the value counts as? -/
def hasTruth : Value → Bool
  | .record _ c _ => c.isTrue
  | .handle _ (.undecided _) _ => false
  | _ => true

/-- What the value counts as, if that can be told. -/
def truth (v : Value) : Except Refusal Bool :=
  if v.hasTruth then .ok v.truthy else .error .wrongKind

mutual

/-- Can the value be a key? Nothing that can change can be, nor a signalling "not a number", nor
anything that holds such a value. -/
def hashable : Value → Bool
  | .list _ _ => false
  | .mapping _ => false
  | .set _ => false
  | .decimal d => !d.isSignalling
  | .tuple items => allHashable items
  | .union members => allHashable members
  | .pipe members => allHashable members
  | .alias _ _ args => allHashable args
  | .literal values => allHashable values
  | .annotated base notes => hashable base && allHashable notes
  | .callable parameters result => allHashable parameters && hashable result
  | .classVar inner => hashable inner
  | .orNone inner => hashable inner
  | .record _ c _ => c.hashing.isUsable
  | .handle _ (.keyless _) _ => false
  | .handle _ (.undecided _) _ => false
  | _ => true

def allHashable : List Value → Bool
  | [] => true
  | v :: rest => hashable v && allHashable rest

end

/-- The name of a value's kind. -/
def kindName : Value → String
  | .none => "NoneType"
  | .bool _ => "bool"
  | .int _ => "int"
  | .real _ => "float"
  | .text _ => "str"
  | .bytes _ => "bytes"
  | .list _ _ => "list"
  | .tuple _ => "tuple"
  | .mapping _ => "dict"
  | .set _ => "set"
  | .frozenSet _ => "frozenset"
  | .date _ => "date"
  | .clock _ => "time"
  | .moment _ => "datetime"
  | .decimal _ => "Decimal"
  | .token _ => "Token"
  | .missing => "_MissingType"
  | .anyType => "_AnyMeta"
  | .ellipsis => "ellipsis"
  | .union _ => "_UnionGenericAlias"
  | .pipe _ => "UnionType"
  | .alias .typing _ [] => "_SpecialGenericAlias"
  | .alias .typing _ _ => "_GenericAlias"
  | .alias _ _ _ => "GenericAlias"
  | .literal _ => "_LiteralGenericAlias"
  | .annotated _ _ => "_AnnotatedAlias"
  | .callable _ _ => "_CallableGenericAlias"
  | .bareClassVar => "_SpecialForm"
  | .classVar _ => "_GenericAlias"
  | .typeVar .. => "TypeVar"
  | .forwardRef _ => "ForwardRef"
  | .orNone _ => "OrNone"
  | .record _ c _ => c.title
  | .classToken _ => "type"
  | .recordClass _ => "type"
  | .handle _ (.object className) _ => className
  | .handle _ (.keyless className) _ => className
  | .handle _ (.emptyObject className) _ => className
  | .handle _ (.undecided className) _ => className
  | .handle _ .classObject _ => "type"

/-- Is the value a class? -/
def isClass : Value → Bool
  | .classToken _ => true
  | .recordClass _ => true
  | .anyType => true
  | .handle _ .classObject _ => true
  | _ => false

/-- Can the value be called? Classes and generic types can. -/
def isCallable : Value → Bool
  | .union _ | .alias .. | .literal _ | .annotated .. | .callable .. | .bareClassVar
  | .classVar _ => true
  | v => v.isClass

/-- The value under a key, compared as keys are. -/
def lookupKey (key : Value) (entries : List (Value × Value)) : Option Value :=
  (entries.find? fun e => alike key e.1).map (·.2)

/-- The value under a text key. -/
def lookupText (key : String) (entries : List (Value × Value)) : Option Value :=
  lookupKey (.text key) entries

/-- Sets the value under a key: an entry that is there keeps its place and its key, a new one goes
to the end. -/
def setEntry (entries : List (Value × Value)) (key v : Value) : List (Value × Value) :=
  match entries with
  | [] => [(key, v)]
  | e :: rest => if alike key e.1 then (e.1, v) :: rest else e :: setEntry rest key v

/-- The entries of a mapping given by pairs, later ones winning. -/
def ofPairs (pairs : List (Value × Value)) : List (Value × Value) :=
  pairs.foldl (fun entries p => setEntry entries p.1 p.2) []

/-- The elements of a set given with repetitions; the first of alike elements stays. -/
def distinct (items : List Value) : List Value :=
  items.foldl (fun kept v => if kept.any (alike v) then kept else kept ++ [v]) []

end RecordSchema.Value
