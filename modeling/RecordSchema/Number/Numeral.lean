import RecordSchema.Number.Binary64
import RecordSchema.Text.Blank
import RecordSchema.Text.Digits

/-!
# Reading numbers from text

An integer is a sign, if any, and decimal digits of any script, with single underscores between
digits allowed and blanks around the whole; it has at most 4300 digits. A floating-point number may
have a fraction and an exponent too, or be one of the words for infinity and "not a number".
-/

set_option autoImplicit false

namespace RecordSchema.Numeral

open RecordSchema.Text

/-- The most digits that an integer is read from or written with in base ten. -/
def maxDigits : Nat := 4300

/-- Has an integer few enough digits to be written? -/
def isWritable (n : Int) : Bool := (Nat.repr n.natAbs).length ≤ maxDigits

/-- The values of the digits that characters begin with, and what follows them. A single underscore
between two digits is skipped. -/
def takeDigits (digit : Char → Option Nat) : List Char → List Nat × List Char
  | [] => ([], [])
  | c :: rest =>
    match digit c with
    | none => ([], c :: rest)
    | some d =>
      match rest with
      | '_' :: tail =>
        if (tail.head?.bind digit).isSome then
          let (ds, after) := takeDigits digit tail
          (d :: ds, after)
        else ([d], rest)
      | rest =>
        let (ds, after) := takeDigits digit rest
        (d :: ds, after)

/-- Splits off a sign: is it a minus? -/
def takeSign : List Char → Bool × List Char
  | '-' :: rest => (true, rest)
  | '+' :: rest => (false, rest)
  | cs => (false, cs)

def signed (negative : Bool) (n : Nat) : Int :=
  if negative then -(n : Int) else n

/-- The integer that characters denote in a base, without blanks around it. -/
def intChars? (base : Nat) (digit : Char → Option Nat) (cs : List Char) : Option Int :=
  let (negative, body) := takeSign cs
  match takeDigits digit body with
  | ([], _) => none
  | (ds, []) => some (signed negative (ofDigits base ds))
  | _ => none

/-- The integer that a text denotes in base ten. -/
def int? (s : String) : Option Int :=
  let cs := trimSpacing s.toList
  let (_, body) := takeSign cs
  if maxDigits < (takeDigits digit? body).1.length then none else intChars? 10 digit? cs

/-- The exponent part at the front of characters, if it is complete; zero if there is none. -/
def takeExponent (cs : List Char) : Option (Int × List Char) :=
  match cs with
  | c :: rest =>
    if c == 'e' || c == 'E' then
      let (negative, body) := takeSign rest
      match takeDigits digit? body with
      | ([], _) => none
      | (ds, after) => some (signed negative (ofDigits 10 ds), after)
    else some (0, cs)
  | [] => some (0, [])

/-- Lower-case ASCII characters, for the comparison with words. -/
def wordIs (cs : List Char) (word : String) : Bool :=
  cs.map Char.toLower == word.toList

/-- The number that characters without blanks around them denote. -/
def realChars? (cs : List Char) : Option Binary64 :=
  let (negative, body) := takeSign cs
  if wordIs body "inf" || wordIs body "infinity" then some (.infinite negative)
  else if wordIs body "nan" then some (.nan 0)
  else
    let (whole, rest) := takeDigits digit? body
    let (fraction, rest) :=
      match rest with
      | '.' :: rest => takeDigits digit? rest
      | rest => ([], rest)
    match whole ++ fraction, takeExponent rest with
    | [], _ => none
    | ds, some (exponent, []) =>
      some (.ofDecimal negative ds (exponent - fraction.length))
    | _, _ => none

/-- The floating-point number that a text denotes. -/
def real? (s : String) : Option Binary64 :=
  realChars? (trimSpacing s.toList)

end RecordSchema.Numeral
