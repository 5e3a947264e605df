import RecordSchema.Error
import RecordSchema.Number.Numeral
import RecordSchema.Text.Utf8

/-!
# Reading JSON

A reader for JSON text that also takes the words `NaN`, `Infinity` and `-Infinity`. It reads one
value and lets only blanks follow. A fault tells what was expected, and where: line, column and
offset, the offset counted in characters from zero.

The readers work on the characters left; a place in the text is given by their number.
-/

set_option autoImplicit false

namespace RecordSchema.Json

open RecordSchema.Text

/-- Why a text is not JSON: what was wrong and how many characters were left there, or a number too
long to be read. -/
inductive Fault where
  | malformed (message : String) (left : Nat)
  | longNumber
deriving DecidableEq

def isJsonBlank (c : Char) : Bool := c == ' ' || c == '\t' || c == '\n' || c == '\r'

def skipBlanks (cs : List Char) : List Char := cs.dropWhile isJsonBlank

/-- A fault at the first of the characters left. -/
def faultAt {α : Type} (message : String) (cs : List Char) : Except Fault α :=
  .error (.malformed message cs.length)

/-- What a letter after a backslash stands for. -/
def escaped? (c : Char) : Option Char :=
  if c == '"' || c == '\\' || c == '/' then some c
  else if c == 'b' then some '\x08'
  else if c == 'f' then some '\x0c'
  else if c == 'n' then some '\n'
  else if c == 'r' then some '\r'
  else if c == 't' then some '\t'
  else none

/-- Four hexadecimal digits at the front, with at least one character after them. -/
def fourDigits? (cs : List Char) : Option (Nat × List Char) :=
  match cs with
  | a :: b :: c :: d :: rest =>
    if rest.isEmpty then none
    else (([a, b, c, d].mapM (digitIn? 16)).map (ofDigits 16)).map (·, rest)
  | _ => none

/-- A character given by its number behind `\u`, and the characters after it. A pair of surrogates,
each behind its own `\u`, gives one character. -/
def unicodeEscape (cs : List Char) : Except Fault (Char × List Char) :=
  let invalid (left : Nat) : Except Fault (Char × List Char) :=
    .error (.malformed "Invalid \\uXXXX escape" left)
  match fourDigits? cs with
  | none => invalid (cs.length + 1)
  | some (n, rest) =>
    match rest with
    | '\\' :: 'u' :: low =>
      if isHighSurrogate n && 4 < low.length then
        match fourDigits? low with
        | none => invalid (low.length + 1)
        | some (m, after) =>
          if isLowSurrogate m then
            .ok (Char.ofNat (0x10000 + (n - 0xD800) * 0x400 + (m - 0xDC00)), after)
          else .ok (unitChar n, rest)
      else .ok (unitChar n, rest)
    | _ => .ok (unitChar n, rest)

/-- The characters of a string up to its closing quote; at most `fuel` of them. `start` is the
number of characters left at the opening quote. -/
def stringChars (start : Nat) : Nat → List Char → Except Fault (List Char × List Char)
  | 0, _ => .error (.malformed "Unterminated string starting at" start)
  | _, [] => .error (.malformed "Unterminated string starting at" start)
  | fuel + 1, c :: rest =>
    if c == '"' then .ok ([], rest)
    else if c == '\\' then
      match rest with
      | [] => .error (.malformed "Unterminated string starting at" start)
      | 'u' :: digits => do
        let (d, rest) ← unicodeEscape digits
        let (ds, rest) ← stringChars start fuel rest
        return (d :: ds, rest)
      | e :: after =>
        match escaped? e with
        | some d => do
          let (ds, rest) ← stringChars start fuel after
          return (d :: ds, rest)
        | none => faultAt "Invalid \\escape" (c :: rest)
    else if c.toNat < 0x20 then faultAt "Invalid control character at" (c :: rest)
    else do
      let (ds, rest) ← stringChars start fuel rest
      return (c :: ds, rest)

/-- A string whose opening quote has been read. -/
def readString (rest : List Char) : Except Fault (String × List Char) := do
  let (cs, after) ← stringChars (rest.length + 1) (rest.length + 1) rest
  return (String.ofList cs, after)

/-- The characters after a word at the front, if it is there. -/
def afterWord? (word : String) (cs : List Char) : Option (List Char) :=
  if cs.take word.length == word.toList then some (cs.drop word.length) else none

/-- Leading ASCII digits and what follows. -/
def spanDigits (cs : List Char) : List Char × List Char :=
  (cs.takeWhile fun c => '0' ≤ c && c ≤ '9', cs.dropWhile fun c => '0' ≤ c && c ≤ '9')

/-- A fraction with at least one digit, without its point, if one follows. -/
def fractionPart (cs : List Char) : List Char × List Char :=
  match cs with
  | '.' :: rest =>
    match spanDigits rest with
    | ([], _) => ([], cs)
    | (ds, after) => (ds, after)
  | cs => ([], cs)

/-- An exponent with at least one digit, if one follows. -/
def exponentPart? (cs : List Char) : Option (Int × List Char) :=
  match cs with
  | c :: rest =>
    if c == 'e' || c == 'E' then
      let (negative, body) := Numeral.takeSign rest
      match spanDigits body with
      | ([], _) => none
      | (ds, after) =>
        some (Numeral.signed negative (ofDigits 10 (ds.filterMap (digitIn? 10))), after)
    else none
  | [] => none

/-- A number: digits without a leading zero, perhaps a fraction, perhaps an exponent. With either of
the last two it is a floating-point number. -/
def readNumber (cs : List Char) : Except Fault (Value × List Char) :=
  let (negative, body) : Bool × List Char :=
    match cs with
    | '-' :: rest => (true, rest)
    | cs => (false, cs)
  let (whole, rest) : List Char × List Char :=
    match body with
    | '0' :: rest => (['0'], rest)
    | body => spanDigits body
  if whole.isEmpty then faultAt "Expecting value" cs
  else
    let (fraction, rest) := fractionPart rest
    let exponent := exponentPart? rest
    let values (ds : List Char) : List Nat := ds.filterMap (digitIn? 10)
    if fraction.isEmpty && exponent.isNone then
      if Numeral.maxDigits < whole.length then .error .longNumber
      else .ok (.int (Numeral.signed negative (ofDigits 10 (values whole))), rest)
    else
      let (power, rest) := exponent.getD (0, rest)
      let digits := whole ++ fraction
      .ok (.real (.ofDecimal negative (values digits) (power - fraction.length)), rest)

mutual

/-- Reads a value that begins at the first character. The fuel bounds the steps: two for each
character are enough. -/
def readValue : Nat → List Char → Except Fault (Value × List Char)
  | 0, cs => faultAt "Expecting value" cs
  | _, [] => faultAt "Expecting value" []
  | fuel + 1, c :: rest =>
    if c == '"' then do
      let (s, rest) ← readString rest
      return (.text s, rest)
    else if c == '\x7b' then do
      let start := skipBlanks rest
      match start with
      | '\x7d' :: after => return (.mapping [], after)
      | start =>
        let (entries, after) ← readMembers fuel start
        return (.mapping (Value.ofPairs entries), after)
    else if c == '[' then do
      let start := skipBlanks rest
      match start with
      | ']' :: after => return (.ofList [], after)
      | start =>
        let (items, after) ← readItems fuel start
        return (.ofList items, after)
    else
      match afterWord? "null" (c :: rest), afterWord? "true" (c :: rest),
          afterWord? "false" (c :: rest), afterWord? "NaN" (c :: rest) with
      | some after, _, _, _ => .ok (.none, after)
      | _, some after, _, _ => .ok (.bool true, after)
      | _, _, some after, _ => .ok (.bool false, after)
      | _, _, _, some after => .ok (.real (.nan after.length), after)
      | _, _, _, _ =>
        match afterWord? "Infinity" (c :: rest), afterWord? "-Infinity" (c :: rest) with
        | some after, _ => .ok (.real (.infinite false), after)
        | _, some after => .ok (.real (.infinite true), after)
        | _, _ => readNumber (c :: rest)

/-- Reads the items of a list from its first one on, and the closing bracket. -/
def readItems : Nat → List Char → Except Fault (List Value × List Char)
  | 0, cs => faultAt "Expecting value" cs
  | fuel + 1, cs => do
    let (v, rest) ← readValue fuel cs
    match skipBlanks rest with
    | ']' :: after => return ([v], after)
    | ',' :: after =>
      let (vs, after) ← readItems fuel (skipBlanks after)
      return (v :: vs, after)
    | other => faultAt "Expecting ',' delimiter" other

/-- Reads the members of an object from its first key on, and the closing brace. -/
def readMembers : Nat → List Char → Except Fault (List (Value × Value) × List Char)
  | 0, cs => faultAt "Expecting value" cs
  | fuel + 1, cs =>
    match cs with
    | '"' :: rest => do
      let (k, rest) ← readString rest
      match skipBlanks rest with
      | ':' :: after =>
        let (v, rest) ← readValue fuel (skipBlanks after)
        match skipBlanks rest with
        | '\x7d' :: after => return ([(.text k, v)], after)
        | ',' :: after =>
          let (more, after) ← readMembers fuel (skipBlanks after)
          return ((.text k, v) :: more, after)
        | other => faultAt "Expecting ',' delimiter" other
      | other => faultAt "Expecting ':' delimiter" other
    | cs => faultAt "Expecting property name enclosed in double quotes" cs

end

/-- The value that a text denotes. -/
def decode (cs : List Char) : Except Fault Value :=
  match cs with
  | '\uFEFF' :: _ => faultAt "Unexpected UTF-8 BOM (decode using utf-8-sig)" cs
  | cs => do
    let (v, rest) ← readValue (2 * cs.length + 2) (skipBlanks cs)
    match skipBlanks rest with
    | [] => return v
    | other => faultAt "Extra data" other

/-- A fault's words with its place: line and column from one, offset from zero. -/
def placed (cs : List Char) (message : String) (left : Nat) : String :=
  let offset := cs.length - left
  let before := cs.take offset
  let line := before.count '\n' + 1
  let column := (before.reverse.takeWhile (· != '\n')).length + 1
  message ++ ": line " ++ Nat.repr line ++ " column " ++ Nat.repr column ++ " (char " ++
    Nat.repr offset ++ ")"

end RecordSchema.Json
