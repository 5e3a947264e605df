import RecordSchema.Refusal
import RecordSchema.Text.Digits

/-!
# Templates with one place

A text or a list of octets is a template: after a percent sign come flags, a width, a precision and
the letter of a form, and the number two is written there in that form. Exactly one number has to be
written; a star in place of a width or precision takes the number too. Two percent signs stand for
one.
-/

set_option autoImplicit false

namespace RecordSchema.Text.Template

/-- How a number is to be written. -/
structure Form where
  flags : List Char
  width : Nat
  precision : Option Nat
  letter : Char

namespace Form

def has (f : Form) (flag : Char) : Bool := f.flags.contains flag

/-- Characters filled up to the width: with blanks in front or behind, or, for a number, with zeros
behind its sign and base mark. -/
def fill (f : Form) (isNumber : Bool) (mark body : List Char) : List Char :=
  let sign :=
    if isNumber && f.has '+' then ['+'] else if isNumber && f.has ' ' then [' '] else []
  let free := f.width - (sign.length + mark.length + body.length)
  if f.has '-' then sign ++ mark ++ body ++ List.replicate free ' '
  else if isNumber && f.has '0' then sign ++ mark ++ List.replicate free '0' ++ body
  else List.replicate free ' ' ++ sign ++ mark ++ body

/-- The number two with digits behind the point; the point stands alone only if the form asks. -/
def fixed (f : Form) (places : Nat) : List Char :=
  if places == 0 then (if f.has '#' then ['2', '.'] else ['2'])
  else '2' :: '.' :: List.replicate places '0'

/-- The number two in a form; a form of texts is refused by octets. -/
def two (f : Form) (octets : Bool) : Except Refusal (List Char) :=
  let letter := f.letter
  if letter == 's' || letter == 'r' || letter == 'a' || letter == 'b' then
    if octets && (letter == 's' || letter == 'b') then .error .wrongKind
    else if letter == 'b' then .error .badValue
    else .ok (f.fill false [] (if f.precision == some 0 then [] else ['2']))
  else if letter == 'c' then .ok (f.fill false [] [Char.ofNat 2])
  else if ['d', 'i', 'u', 'o', 'x', 'X'].contains letter then
    let mark := if f.has '#' && ['o', 'x', 'X'].contains letter then ['0', letter] else []
    .ok (f.fill true mark (List.replicate (f.precision.getD 1 - 1) '0' ++ ['2']))
  else if letter == 'e' || letter == 'E' then
    .ok (f.fill true [] (f.fixed (f.precision.getD 6) ++ [letter, '+', '0', '0']))
  else if letter == 'f' || letter == 'F' then
    .ok (f.fill true [] (f.fixed (f.precision.getD 6)))
  else if letter == 'g' || letter == 'G' then
    .ok (f.fill true [] (f.fixed (if f.has '#' then f.precision.getD 6 - 1 else 0)))
  else .error .badValue

end Form

/-- A count at the front: digits, or a star that takes the number from those left. -/
def takeCount (left : Nat) : List Char → Except Refusal (Option Nat × Nat × List Char)
  | '*' :: rest => if left == 0 then .error .wrongKind else .ok (some 2, left - 1, rest)
  | cs =>
    match cs.takeWhile Char.isDigit with
    | [] => .ok (none, left, cs)
    | ds => .ok (some (ofDigits 10 (ds.filterMap (digitIn? 10))), left, cs.dropWhile Char.isDigit)

/-- The precision at the front, if there is one. -/
def takePrecision (left : Nat) : List Char → Except Refusal (Option Nat × Nat × List Char)
  | '.' :: rest => do
    let (count, left, rest) ← takeCount left rest
    return (some (count.getD 0), left, rest)
  | cs => .ok (none, left, cs)

/-- The form behind a percent sign, how many numbers are left, and what follows. -/
def takeForm (left : Nat) (cs : List Char) : Except Refusal (Form × Nat × List Char) := do
  let isFlag (c : Char) : Bool := "-+ #0".toList.contains c
  if cs.head? == some '(' then throw .wrongKind
  let (width, left, rest) ← takeCount left (cs.dropWhile isFlag)
  let (precision, left, rest) ← takePrecision left rest
  let rest := match rest with
    | c :: more => if c == 'h' || c == 'l' || c == 'L' then more else rest
    | [] => []
  match rest with
  | [] => throw .badValue
  | letter :: rest => return (⟨cs.takeWhile isFlag, width.getD 0, precision, letter⟩, left, rest)

/-- The characters of a filled template with so many numbers left; at most `fuel` characters are
read. -/
def fillFrom (octets : Bool) : Nat → Nat → List Char → Except Refusal (List Char)
  | 0, left, _ => if left == 0 then .ok [] else .error .wrongKind
  | _, left, [] => if left == 0 then .ok [] else .error .wrongKind
  | fuel + 1, left, c :: rest => do
    if c != '%' then return c :: (← fillFrom octets fuel left rest)
    if rest.head? == some '%' then return '%' :: (← fillFrom octets fuel left rest.tail)
    let (form, left, rest) ← takeForm left rest
    if left == 0 then throw .wrongKind
    let written ← form.two octets
    return written ++ (← fillFrom octets fuel (left - 1) rest)

/-- A text with the number two in its one place. -/
def fillText (s : String) : Except Refusal String := do
  return String.ofList (← fillFrom false s.length 1 s.toList)

/-- Octets with the number two in their one place. -/
def fillOctets (octets : List UInt8) : Except Refusal (List UInt8) := do
  let cs ← fillFrom true octets.length 1 (octets.map fun o => Char.ofNat o.toNat)
  return cs.map fun c => UInt8.ofNat c.toNat

end RecordSchema.Text.Template
