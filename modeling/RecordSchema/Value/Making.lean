import RecordSchema.Value.Conversion
import RecordSchema.Value.Kind

/-!
# Values made by classes

A class of values that is called makes a value: the empty one of nothing, and of one value what the
class takes it for. Classes of other names make nothing here.
-/

set_option autoImplicit false

namespace RecordSchema.Value

/-- The binary number that a value denotes. -/
def toReal : Value → Except Refusal Binary64
  | .bool b => .ok (if b then .one else .zero)
  | .int n => ((Binary64.ofInt? n).map Except.ok).getD (.error .outOfRange)
  | .real x => .ok x
  | .decimal d => ((d.real?).map Except.ok).getD (.error .badValue)
  | .text s => ((Numeral.real? s).map Except.ok).getD (.error .badValue)
  | .bytes octets =>
    (((asciiText? octets).bind Numeral.real?).map Except.ok).getD (.error .badValue)
  | _ => .error .wrongKind

/-- A number below 256. -/
def octet : Value → Except Refusal UInt8
  | .bool b => .ok (if b then 1 else 0)
  | .int n => if 0 ≤ n && n < 256 then .ok (UInt8.ofNat n.toNat) else .error .badValue
  | _ => .error .wrongKind

/-- The octets that a value denotes: a number so many zeros, a collection its numbers. -/
def toOctets : Value → Except Refusal (List UInt8)
  | .text _ => .error .wrongKind
  | .bool b => .ok (if b then [0] else [])
  | .int n => if n < 0 then .error .badValue else .ok (List.replicate n.toNat 0)
  | v => do (← v.elements).mapM octet

/-- The elements of a collection that can all be keys. -/
def keys (v : Value) : Except Refusal (List Value) := do
  let items ← v.elements
  if allHashable items then return distinct items else throw .wrongKind

/-- The class that a value belongs to. -/
def classOf : Value → Value
  | .record _ c _ => .recordClass c
  | .date _ => .classToken ⟨"datetime", "date"⟩
  | .clock _ => .classToken ⟨"datetime", "time"⟩
  | .moment _ => .classToken ⟨"datetime", "datetime"⟩
  | .decimal _ => .classToken ⟨"decimal", "Decimal"⟩
  | v => builtinClass v.kindName

/-- The value that a builtin class makes of what it is called with. -/
def made (className : String) (given : List Value) : Except Refusal Value := do
  match className, given with
  | "int", [] => return .int 0
  | "int", [v] => .int <$> v.toInteger
  | "float", [] => return .real .zero
  | "float", [v] => .real <$> v.toReal
  | "str", [] => return .text ""
  | "str", [v] => return .text v.display
  | "bool", [] => return .bool false
  | "bool", [v] => .bool <$> v.truth
  | "bytes", [] => return .bytes []
  | "bytes", [v] => .bytes <$> v.toOctets
  | "list", [] => return .ofList []
  | "list", [v] => .ofList <$> v.elements
  | "tuple", [] => return .tuple []
  | "tuple", [v] => .tuple <$> v.elements
  | "set", [] => return .set []
  | "set", [v] => .set <$> v.keys
  | "frozenset", [] => return .frozenSet []
  | "frozenset", [v] => .frozenSet <$> v.keys
  | "dict", [] => return .mapping []
  | "dict", [v] => .mapping <$> v.toEntries
  | "NoneType", [] => return .none
  | "type", [v] => return v.classOf
  | _, _ => throw .wrongKind

end RecordSchema.Value
