import RecordSchema.Error
import RecordSchema.Number.Numeral

/-!
# Conversions between values

A collection as the list of its elements, pairs as a mapping, and numbers and texts as integers.
What cannot be converted is refused.
-/

set_option autoImplicit false

namespace RecordSchema.Value

/-- The elements of a collection: characters of a text, octets as numbers, keys of a mapping. -/
def elements : Value → Except Refusal (List Value)
  | .text s => .ok (s.toList.map fun c => .text (String.singleton c))
  | .bytes octets => .ok (octets.map fun o => .int o.toNat)
  | .list _ items => .ok items
  | .tuple items => .ok items
  | .set items => .ok items
  | .frozenSet items => .ok items
  | .mapping entries => .ok (entries.map (·.1))
  | _ => .error .wrongKind

/-- A collection of two elements whose first can be a key, as a key and a value. -/
def pair (v : Value) : Except Refusal (Value × Value) := do
  match ← v.elements with
  | [k, w] => if k.hashable then return (k, w) else throw .wrongKind
  | _ => throw .badValue

/-- The entries of a mapping, or of a collection of pairs. -/
def toEntries : Value → Except Refusal (List (Value × Value))
  | .mapping entries => .ok entries
  | v => do return ofPairs (← (← v.elements).mapM pair)

/-- Octets as characters, if all are ASCII. -/
def asciiText? (octets : List UInt8) : Option String :=
  if octets.all (· < 0x80) then some (String.ofList (octets.map fun o => Char.ofNat o.toNat))
  else Option.none

/-- The integer that a value denotes: numbers lose their fraction, text is read. -/
def toInteger : Value → Except Refusal Int
  | .bool b => .ok (if b then 1 else 0)
  | .int n => .ok n
  | .real x =>
    match x with
    | .nan _ => .error .badValue
    | .infinite _ => .error .outOfRange
    | x => .ok ((x.ratio?.map Ratio.truncate).getD 0)
  | .decimal d =>
    match d with
    | .nan .. => .error .badValue
    | .infinite _ => .error .outOfRange
    | d => .ok ((d.ratio?.map Ratio.truncate).getD 0)
  | .text s => ((Numeral.int? s).map Except.ok).getD (.error .badValue)
  | .bytes octets =>
    (((asciiText? octets).bind Numeral.int?).map Except.ok).getD (.error .badValue)
  | _ => .error .wrongKind

/-- What stands under a name in a mapping; other values have no names. -/
def member (v : Value) (name : String) : Except Refusal Value :=
  match v with
  | .mapping entries => ((lookupText name entries).map Except.ok).getD (.error .absentKey)
  | _ => .error .wrongKind

end RecordSchema.Value
