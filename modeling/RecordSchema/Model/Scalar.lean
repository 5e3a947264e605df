import RecordSchema.Model.Outcome
import RecordSchema.Number.Numeral
import RecordSchema.Number.Shortest
import RecordSchema.Number.Word
import RecordSchema.Text.Utf8

/-!
# Checks of numbers, texts and truth values

A number may be given by another number, by a text or by octets that encode one, a text by octets,
octets by a text, and a truth value by zero and one and the usual words. An integer has to be given
exactly.
-/

set_option autoImplicit false

namespace RecordSchema.Check

open RecordSchema.Text

/-! ## Integers -/

/-- Characters without a point behind which only zeros stand, at least one. -/
def withoutZeroFraction (cs : List Char) : List Char :=
  match cs.dropWhile (· != '.') with
  | '.' :: '0' :: fraction => if fraction.all (· == '0') then cs.takeWhile (· != '.') else cs
  | _ => cs

/-- The integer that a text stands for. -/
def integerText (s : String) : Checked :=
  let cs := withoutZeroFraction (trimSpacing s.toList)
  match Numeral.intChars? 10 (digitIn? 10) cs with
  | some n =>
    if Numeral.maxDigits < (cs.filter isAsciiDigit).length then failed .intParsingSize
    else .ok (.int n, .loose)
  | none => failed .intParsing

/-- The integer that an exact number is. -/
def integerRatio (r : Ratio) : Option Int :=
  if r.numerator % r.denominator == 0 then some (r.numerator / r.denominator) else none

/-- The integer that a floating-point number is. -/
def integerReal (x : Binary64) : Checked :=
  match x.ratio? with
  | none => failed .finiteNumber
  | some r =>
    match integerRatio r with
    | some n => if Word.holds 64 n then .ok (.int n, .loose) else failed .intParsingSize
    | none => failed .intFromFloat

def integer : Value → Checked
  | .int n => .ok (.int n, .exact)
  | .bool b => .ok (.int (Value.truthNumber b), .loose)
  | .real x => integerReal x
  | .decimal d =>
    match d, d.ratio?.map integerRatio with
    | .nan .., _ => broken .badValue
    | .infinite _, _ => broken .outOfRange
    | _, some (some n) => .ok (.int n, .loose)
    | _, _ => failed .intFromFloat
  | .text s => integerText s
  | .bytes octets => ((Utf8.decodeText? octets).map integerText).getD (failed .intParsing)
  | _ => failed .intType

/-! ## Other numbers -/

/-- The number that ASCII characters denote, if there is no underscore among them. -/
def plainReal? (cs : List Char) : Option Binary64 :=
  if cs.all fun c => c.toNat < 0x80 && c != '_' then Numeral.realChars? cs else none

/-- Do underscores stand only inside a text, and by themselves? -/
def hasSingleUnderscores (cs : List Char) : Bool :=
  cs.head? != some '_' && cs.getLast? != some '_' &&
    !(cs.zip (cs.drop 1)).any fun p => p.1 == '_' && p.2 == '_'

/-- The number that a text stands for. Underscores inside do not count, but then no white space may
stand around the number. -/
def realText (s : String) : Checked :=
  let cs := s.toList
  let bare := cs.filter (· != '_')
  let found := (plainReal? (trimSpacing cs)).or
    (if hasSingleUnderscores cs then plainReal? bare else none)
  match found with
  | some x => .ok (.real x, .loose)
  | none => failed .floatParsing

def real : Value → Checked
  | .real x => .ok (.real x, .exact)
  | .int n =>
    match Binary64.ofInt? n with
    | some x => .ok (.real x, .near)
    | none => failed .floatType
  | .bool b => .ok (.real (if b then .one else .zero), .loose)
  | .decimal d =>
    match d.real? with
    | some x => .ok (.real x, .near)
    | none => failed .floatType
  | .text s => realText s
  | .bytes octets => ((Utf8.decodeText? octets).map realText).getD (failed .floatParsing)
  | _ => failed .floatType

/-- The decimal that a text stands for. -/
def decimalText (s : String) : Checked :=
  match Decimal.ofText? 0 s with
  | some (.finite negative n e) => .ok (.decimal (.finite negative n e), .loose)
  | some _ => failed .finiteNumber
  | none => failed .decimalParsing

def decimal : Value → Checked
  | .decimal (.finite negative n e) => .ok (.decimal (.finite negative n e), .exact)
  | .decimal _ => failed .finiteNumber
  | .int n => .ok (.decimal (.finite (n < 0) n.natAbs 0), .loose)
  | .real x => decimalText x.text
  | .text s => decimalText s
  | _ => failed .decimalType

/-! ## Complex numbers -/

/-- The text of a number without a fraction of zero. -/
def shortText (x : Binary64) : String :=
  let cs := x.text.toList
  if cs.drop (cs.length - 2) == ['.', '0'] then String.ofList (cs.take (cs.length - 2)) else x.text

/-- Is a number zero and above no other zero? -/
def isPlainZero : Binary64 → Bool
  | .finite negative m _ => !negative && m == 0
  | _ => false

/-- The printed form of a complex number; a real part of zero is left out. -/
def complexShown (re im : Binary64) : String :=
  let imaginary := shortText im ++ "j"
  if isPlainZero re then imaginary
  else
    let sign := if imaginary.toList.head? == some '-' then "" else "+"
    "(" ++ shortText re ++ sign ++ imaginary ++ ")"

/-- A complex number as a value. -/
def complexValue (re im : Binary64) : Value :=
  .handle 0 (.object "complex") (complexShown re im)

/-- The longest number at the front of characters, and what follows it. -/
def takeReal? (cs : List Char) : Option (Binary64 × List Char) :=
  (List.range (cs.length + 1)).reverse.findSome? fun n =>
    (Numeral.realChars? (cs.take n)).map fun x => (x, cs.drop n)

/-- One with the sign at the front of characters, and what follows it. -/
def takeSignedOne (cs : List Char) : Binary64 × List Char :=
  let (negative, rest) := Numeral.takeSign cs
  (.ofRatio negative 1 1, rest)

/-- The imaginary part that characters denote. -/
def imaginary? (cs : List Char) : Option Binary64 :=
  match (takeReal? cs).getD (takeSignedOne cs) with
  | (x, ['j']) | (x, ['J']) => some x
  | _ => none

/-- The parts of the complex number that characters denote. -/
def complexChars? (cs : List Char) : Option (Binary64 × Binary64) :=
  match takeReal? cs with
  | some (x, []) => some (x, .zero)
  | some (x, c :: rest) =>
    if c == '+' || c == '-' then (imaginary? (c :: rest)).map fun y => (x, y)
    else (imaginary? cs).map fun y => (.zero, y)
  | none => (imaginary? cs).map fun y => (.zero, y)

/-- Characters without a pair of brackets around them and the blanks beside it. -/
def withoutBrackets (cs : List Char) : List Char :=
  match trimSpacing cs with
  | '(' :: rest => if rest.getLast? == some ')' then trimSpacing rest.dropLast else '(' :: rest
  | cs => cs

def complexText (s : String) : Checked :=
  match complexChars? (withoutBrackets s.toList) with
  | some (re, im) => .ok (complexValue re im, .loose)
  | none => failed .complexType

def complex (v : Value) : Checked :=
  match v with
  | .text s => complexText s
  | .int _ | .bool _ | .real _ | .decimal _ =>
    match real v with
    | .ok (.real x, _) => .ok (complexValue x .zero, .loose)
    | _ => failed .complexType
  | _ => failed .complexType

/-! ## Texts and truth values -/

def text : Value → Checked
  | .text s => .ok (.text s, .exact)
  | .bytes octets =>
    match Utf8.decodeText? octets with
    | some s => .ok (.text s, .loose)
    | none => failed .stringUnicode
  | _ => failed .stringType

def octets : Value → Checked
  | .bytes octets => .ok (.bytes octets, .exact)
  | .text s => .ok (.bytes (Utf8.encodeText s), .loose)
  | _ => failed .bytesType

def trueWords : List String := ["1", "on", "t", "true", "y", "yes"]

def falseWords : List String := ["0", "off", "f", "false", "n", "no"]

/-- The truth value that a word stands for. -/
def truthWord (s : String) : Checked :=
  let word := String.ofList (s.toList.map Char.toLower)
  if trueWords.contains word then .ok (.bool true, .loose)
  else if falseWords.contains word then .ok (.bool false, .loose)
  else failed .boolParsing

/-- The truth value that an integer stands for. -/
def truthInteger (n : Int) : Checked :=
  if n = 1 then .ok (.bool true, .loose)
  else if n = 0 then .ok (.bool false, .loose)
  else if Word.holds 64 n then failed .boolParsing
  else failed .boolType

/-- The truth value that a floating-point number stands for. -/
def truthReal (x : Binary64) : Checked :=
  match integerReal x with
  | .ok (.int n, _) => truthInteger n
  | _ => failed .boolType

def truth : Value → Checked
  | .bool b => .ok (.bool b, .exact)
  | .int n => truthInteger n
  | .real x => truthReal x
  | .decimal d => (d.real?.map truthReal).getD (failed .boolType)
  | .text s => truthWord s
  | .bytes octets => ((Utf8.decodeText? octets).map truthWord).getD (failed .boolParsing)
  | _ => failed .boolType

end RecordSchema.Check
