import RecordSchema.Text.Casing
import RecordSchema.TypeTerm.Column
import RecordSchema.Value.Basic
import RecordSchema.Yaml.Base64
import RecordSchema.Yaml.Node

/-!
# Scalars of YAML

What the text of a scalar stands for under each of the tags that YAML defines. A text that its tag
does not fit is refused.

Main function: `Yaml.scalarValue`.
-/

set_option autoImplicit false

namespace RecordSchema.Yaml

open RecordSchema.Text

/-- A scalar that the rules of values refuse. -/
def refused {α : Type} (cause : Refusal) : Except DocumentFault α := .error (.refused cause)

def ofOption {α : Type} (cause : Refusal) (o : Option α) : Except DocumentFault α :=
  match o with
  | some a => .ok a
  | none => refused cause

def withoutUnderscores (s : String) : List Char := s.toList.filter (· != '_')

/-- Splits off a sign; there has to be a character before and after it. -/
def signAndBody (cs : List Char) : Except DocumentFault (Bool × List Char) :=
  match cs with
  | [] => refused .badIndex
  | cs => .ok (Numeral.takeSign cs)

/-- Digits of any script in a base, with a mark of the base allowed in front, and blanks around. -/
def basedInteger (base : Nat) (mark : Char) (cs : List Char) : Except DocumentFault Int :=
  let digit (c : Char) : Option Nat :=
    match digitIn? base c with
    | some d => some d
    | none => (digit? c).filter (· < base)
  let (negative, body) := Numeral.takeSign (trimSpacing cs)
  let body :=
    match body with
    | '0' :: m :: rest => if m == mark || m == mark.toUpper then rest else body
    | body => body
  match Numeral.takeDigits digit body with
  | (d :: ds, []) => .ok (Numeral.signed negative (ofDigits base (d :: ds)))
  | _ => refused .badValue

def decimalInteger (cs : List Char) : Except DocumentFault Int :=
  ofOption .badValue (Numeral.int? (String.ofList cs))

/-- Parts in base sixty, the first being the most significant. -/
def sexagesimal (parts : List Int) : Int := parts.foldl (fun n p => n * 60 + p) 0

def integer (s : String) : Except DocumentFault Int := do
  let (negative, body) ← signAndBody (withoutUnderscores s)
  let signed (n : Int) : Int := if negative then -n else n
  match body with
  | ['0'] => return 0
  | '0' :: 'b' :: ds => return signed (← basedInteger 2 'b' ds)
  | '0' :: 'x' :: ds => return signed (← basedInteger 16 'x' ds)
  | '0' :: ds => return signed (← basedInteger 8 'o' ('0' :: ds))
  | [] => refused .badIndex
  | body =>
    if body.contains ':' then
      return signed (sexagesimal (← (TypeTerm.splitAt ':' body).mapM decimalInteger))
    else return signed (← decimalInteger body)

/-- Parts in base sixty as a floating-point number, the last being the least significant. Every step
is rounded, and no place may be too large for a floating-point number. -/
def sexagesimalReal (parts : List Binary64) : Except DocumentFault Binary64 := do
  let step (state : Binary64 × Nat) (part : Binary64) : Except DocumentFault (Binary64 × Nat) := do
    let place ← ofOption .outOfRange (Binary64.ofInt? state.2)
    return (state.1.add (part.mul place), state.2 * 60)
  return (← parts.reverse.foldlM step (.zero, 1)).1

def real (s : String) : Except DocumentFault Binary64 := do
  let (negative, body) ← signAndBody ((withoutUnderscores s).map lowerChar)
  let signed (x : Binary64) : Binary64 := if negative then x.negate else x
  let word := String.ofList body
  if word == ".inf" then return .infinite negative
  if word == ".nan" then return .nan 0
  if body.contains ':' then
    let parts ← (TypeTerm.splitAt ':' body).mapM fun p =>
      ofOption .badValue (Numeral.real? (String.ofList p))
    return signed (← sexagesimalReal parts)
  return signed (← ofOption .badValue (Numeral.real? word))

def truth (s : String) : Except DocumentFault Bool :=
  ofOption .absentKey ((truthWords.find? (·.1 == lower s)).map (·.2))

/-- A date, or a date and time; neither may be one that the calendar does not have, and the offset
has to be shorter than a day. -/
def timestamp (s : String) : Except DocumentFault Value := do
  let stamp ← ofOption .absentAttribute (stamp? s.toList)
  let date : Calendar.Date := ⟨stamp.year, stamp.month, stamp.day⟩
  match stamp.time with
  | none => if date.isValid then return .date date else refused .badValue
  | some (hour, minute, second, fraction) =>
    let micro := number ((fraction ++ List.replicate 6 '0').take 6)
    let clock : Calendar.Clock := ⟨hour, minute, second, micro⟩
    if (stamp.offset.getD 0).natAbs ≥ 86400 then refused .badValue
    else if date.isValid && clock.isValid then return .moment ⟨date, clock, stamp.offset⟩
    else refused .badValue

def octets (s : String) : Except DocumentFault Value :=
  match Base64.decode? s.toList with
  | some octets => if s.toList.all (·.toNat < 0x80) then .ok (.bytes octets) else malformed
  | none => malformed

/-- Is there a rule for scalars of a tag? -/
def isScalarTag (tag : String) : Bool :=
  ["null", "bool", "int", "float", "str", "timestamp", "binary"].any (coreTag · == tag)

/-- The value of a scalar by its tag. -/
def scalarValue (tag s : String) : Except DocumentFault Value :=
  if tag == coreTag "null" then .ok .none
  else if tag == coreTag "bool" then (truth s).map .bool
  else if tag == coreTag "int" then (integer s).map .int
  else if tag == coreTag "float" then (real s).map .real
  else if tag == coreTag "str" then .ok (.text s)
  else if tag == coreTag "timestamp" then timestamp s
  else if tag == coreTag "binary" then octets s
  else malformed

end RecordSchema.Yaml
