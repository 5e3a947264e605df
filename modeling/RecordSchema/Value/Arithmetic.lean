import RecordSchema.Refusal
import RecordSchema.Value.Basic
import RecordSchema.Text.Template

/-!
# Arithmetic on values

Doubling, halving and the remainder on division by two, each in the way of the value's kind. An
integer and a floating-point number are divided downward, a decimal toward zero. A sequence is
doubled by repeating it, and the remainder of a text is the text as a template with the number two
in its place.
-/

set_option autoImplicit false

namespace RecordSchema

/-- A fault of decimal arithmetic as a refusal. -/
def Decimal.Fault.refusal : Decimal.Fault → Refusal
  | .invalid => .invalidOperation
  | .overflow => .decimalOverflow

namespace Value

/-- A decimal as the result of an operation. -/
def ofDecimal (r : Except Decimal.Fault Decimal) : Except Refusal Value :=
  match r with
  | .ok d => .ok (.decimal d)
  | .error fault => .error fault.refusal

def truthNumber (b : Bool) : Int := if b then 1 else 0

/-- A value twice over: a number doubled, a sequence repeated. -/
def doubled : Value → Except Refusal Value
  | .bool b => .ok (.int (2 * truthNumber b))
  | .int n => .ok (.int (2 * n))
  | .real x => .ok (.real (x.add x))
  | .decimal d => ofDecimal d.twice
  | .text s => .ok (.text (s ++ s))
  | .bytes octets => .ok (.bytes (octets ++ octets))
  | .list _ items => .ok (.ofList (items ++ items))
  | .tuple items => .ok (.tuple (items ++ items))
  | _ => .error .wrongKind

/-- Half of a number as an integer. -/
def halved : Value → Except Refusal Value
  | .bool _ => .ok (.int 0)
  | .int n => .ok (.int (n / 2))
  | .real x => .ok (.real x.floorHalf)
  | .decimal d => ofDecimal d.half
  | _ => .error .wrongKind

/-- The remainder on division by two. -/
def modTwo : Value → Except Refusal Value
  | .bool b => .ok (.int (truthNumber b))
  | .int n => .ok (.int (n % 2))
  | .real x => .ok (.real x.modTwo)
  | .decimal d => ofDecimal d.modTwo
  | .text s => (Text.Template.fillText s).map .text
  | .bytes octets => (Text.Template.fillOctets octets).map .bytes
  | _ => .error .wrongKind

end Value

end RecordSchema
