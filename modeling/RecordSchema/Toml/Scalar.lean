import RecordSchema.Document.Fault
import RecordSchema.Number.Numeral

/-!
# Scalars of TOML

Strings in their four spellings, dates and times, and numbers, each read from the front of the
characters left. Line ends are single line feeds here.
-/

set_option autoImplicit false

namespace RecordSchema.Toml

open RecordSchema.Text

/-- A fault of the text itself. -/
def malformed {α : Type} : Except DocumentFault α := .error .malformed

def isTomlBlank (c : Char) : Bool := c == ' ' || c == '\t'

/-- Control characters, which may stand nowhere; the tab is none of them. -/
def isControl (c : Char) : Bool := (c.toNat < 0x20 && c != '\t') || c.toNat == 0x7F

/-- What may not stand in a string, on one line or on several. -/
def isIllegal (multiline : Bool) (c : Char) : Bool :=
  isControl c && !(multiline && c == '\n')

def skipBlanks (cs : List Char) : List Char := cs.dropWhile isTomlBlank

/-- The characters after a word at the front, if it is there. -/
def afterWord? (word : String) (cs : List Char) : Option (List Char) :=
  if cs.take word.length == word.toList then some (cs.drop word.length) else none

/-- The character given by a number of hexadecimal digits. -/
def hexEscape (width : Nat) (cs : List Char) : Except DocumentFault (List Char × List Char) :=
  match (cs.take width).mapM (digitIn? 16) with
  | some ds =>
    let n := ofDigits 16 ds
    if ds.length == width && (n < 0xD800 || (0xE000 ≤ n && n ≤ 0x10FFFF)) then
      .ok ([Char.ofNat n], cs.drop width)
    else malformed
  | none => malformed

/-- What an escape stands for; `cs` follows the backslash. In a string of several lines a backslash
at the end of a line swallows the line end and all blanks after it. -/
def escape (multiline : Bool) (cs : List Char) : Except DocumentFault (List Char × List Char) :=
  match cs with
  | [] => malformed
  | c :: rest =>
    if multiline && (isTomlBlank c || c == '\n') then
      match skipBlanks cs with
      | [] => .ok ([], [])
      | '\n' :: after => .ok ([], after.dropWhile fun c => isTomlBlank c || c == '\n')
      | _ => malformed
    else if c == 'u' then hexEscape 4 rest
    else if c == 'U' then hexEscape 8 rest
    else if c == 'b' then .ok (['\x08'], rest)
    else if c == 't' then .ok (['\t'], rest)
    else if c == 'n' then .ok (['\n'], rest)
    else if c == 'f' then .ok (['\x0c'], rest)
    else if c == 'r' then .ok (['\r'], rest)
    else if c == '"' || c == '\\' then .ok ([c], rest)
    else malformed

/-- The characters of a double-quoted string, on one line or on several, up to its end. -/
def basicChars (multiline : Bool) : Nat → List Char → Except DocumentFault (List Char × List Char)
  | 0, _ => malformed
  | _, [] => malformed
  | fuel + 1, c :: rest =>
    if c == '"' then
      if !multiline then .ok ([], rest)
      else
        match afterWord? "\"\"\"" (c :: rest) with
        | some after => .ok ([], after)
        | none => do
          let (ds, after) ← basicChars multiline fuel rest
          return (c :: ds, after)
    else if c == '\\' then do
      let (e, rest) ← escape multiline rest
      let (ds, after) ← basicChars multiline fuel rest
      return (e ++ ds, after)
    else if isIllegal multiline c then malformed
    else do
      let (ds, after) ← basicChars multiline fuel rest
      return (c :: ds, after)

/-- The characters up to a closing mark, which may not be missing, and those after it. -/
def upTo (multiline : Bool) (mark : String) :
    List Char → Except DocumentFault (List Char × List Char)
  | [] => malformed
  | c :: rest =>
    match afterWord? mark (c :: rest) with
    | some after => .ok ([], after)
    | none =>
      if isIllegal multiline c then malformed
      else do
        let (ds, after) ← upTo multiline mark rest
        return (c :: ds, after)

/-- Up to two more quotes behind the end of a string of several lines belong to it. -/
def moreQuotes (quote : Char) (cs : List Char) : List Char × List Char :=
  let more := (cs.takeWhile (· == quote)).take 2
  (more, cs.drop more.length)

/-- A string of several lines whose opening marks have been read; a line end right after them is
dropped. -/
def multilineString (quote : Char) (cs : List Char) :
    Except DocumentFault (List Char × List Char) := do
  let start := match cs with
    | '\n' :: rest => rest
    | cs => cs
  let (body, rest) ←
    if quote == '"' then basicChars true (start.length + 1) start else upTo true "'''" start
  let (more, rest) := moreQuotes quote rest
  return (body ++ more, rest)

/-- A string on one line that begins with a quote. -/
def lineString (quote : Char) (rest : List Char) : Except DocumentFault (List Char × List Char) :=
  if quote == '"' then basicChars false (rest.length + 1) rest else upTo false "'" rest

/-- Two digits within limits. -/
def twoDigits? (low high : Nat) (cs : List Char) : Option (Nat × List Char) :=
  match cs with
  | a :: b :: rest => do
    let n := (← digitIn? 10 a) * 10 + (← digitIn? 10 b)
    if low ≤ n && n ≤ high then some (n, rest) else none
  | _ => none

/-- The microseconds of a fraction, of which six digits count. -/
def fraction (cs : List Char) : Nat × List Char :=
  match cs with
  | '.' :: rest =>
    let ds := rest.takeWhile isDigit
    if ds.isEmpty then (0, cs)
    else
      let six := (ds ++ List.replicate 6 '0').take 6
      (ofDigits 10 (six.filterMap (digitIn? 10)), rest.drop ds.length)
  | cs => (0, cs)
where
  isDigit (c : Char) : Bool := (digitIn? 10 c).isSome

/-- A time of day. -/
def clock? (cs : List Char) : Option (Calendar.Clock × List Char) := do
  let (hour, cs) ← twoDigits? 0 23 cs
  let (minute, cs) ← twoDigits? 0 59 (← afterWord? ":" cs)
  let (second, cs) ← twoDigits? 0 59 (← afterWord? ":" cs)
  let (micro, cs) := fraction cs
  return (⟨hour, minute, second, micro⟩, cs)

/-- A date, whose day may still be too high for its month. -/
def date? (cs : List Char) : Option (Calendar.Date × List Char) := do
  let year ← (cs.take 4).mapM (digitIn? 10)
  if year.length != 4 then none
  let (month, cs) ← twoDigits? 1 12 (← afterWord? "-" (cs.drop 4))
  let (day, cs) ← twoDigits? 1 31 (← afterWord? "-" cs)
  return (⟨ofDigits 10 year, month, day⟩, cs)

/-- An offset from universal time, in seconds. -/
def offset? (cs : List Char) : Option (Int × List Char) :=
  match cs with
  | c :: rest =>
    if c == 'Z' || c == 'z' then some (0, rest)
    else if c == '+' || c == '-' then do
      let (hours, rest) ← twoDigits? 0 23 rest
      let (minutes, rest) ← twoDigits? 0 59 (← afterWord? ":" rest)
      return (Numeral.signed (c == '-') (hours * 3600 + minutes * 60), rest)
    else none
  | [] => none

/-- A date, with a time of day and an offset if they follow; or a time of day alone. -/
def calendar? (cs : List Char) : Option (Except DocumentFault (Value × List Char)) :=
  match date? cs with
  | some (date, rest) =>
    let timed : Option (Value × List Char) :=
      match rest with
      | c :: after =>
        if c == 'T' || c == 't' || c == ' ' then
          (clock? after).map fun (clock, after) =>
            match offset? after with
            | some (offset, after) => (.moment ⟨date, clock, some offset⟩, after)
            | none => (.moment ⟨date, clock, none⟩, after)
        else none
      | [] => none
    some (if date.isValid then .ok (timed.getD (.date date, rest)) else malformed)
  | none => (clock? cs).map fun (clock, rest) => .ok (.clock clock, rest)

/-- An integer in base sixteen, eight or two behind its mark. -/
def basedInteger? (cs : List Char) : Option (Value × List Char) :=
  match cs with
  | '0' :: mark :: rest => do
    let base ←
      if mark == 'x' then some 16 else if mark == 'o' then some 8
      else if mark == 'b' then some 2 else none
    match Numeral.takeDigits (digitIn? base) rest with
    | ([], _) => none
    | (ds, after) => some (.int (ofDigits base ds), after)
  | _ => none

/-- The digits after a mark, if there is one digit at least. -/
def digitsAfter? (cs : List Char) : Option (List Nat × List Char) :=
  match Numeral.takeDigits (digitIn? 10) cs with
  | ([], _) => none
  | found => some found

/-- A number in base ten: an integer without leading zeros, perhaps a fraction, perhaps an
exponent. -/
def decimal? (cs : List Char) : Option (Except DocumentFault (Value × List Char)) := do
  let (negative, body) := Numeral.takeSign cs
  let (whole, rest) ←
    match body with
    | '0' :: rest => some ([0], rest)
    | body => digitsAfter? body
  let (places, rest) :=
    match (afterWord? "." rest).bind digitsAfter? with
    | some (ds, after) => (some ds, after)
    | none => (none, rest)
  let power : Option (Int × List Char) :=
    match rest with
    | c :: after =>
      if c == 'e' || c == 'E' then
        let (minus, after) := Numeral.takeSign after
        (digitsAfter? after).map fun (ds, after) => (Numeral.signed minus (ofDigits 10 ds), after)
      else none
    | [] => none
  if places.isNone && power.isNone then
    if Numeral.maxDigits < whole.length then some (.error (.refused .badValue))
    else some (.ok (.int (Numeral.signed negative (ofDigits 10 whole)), rest))
  else
    let digits := whole ++ places.getD []
    let (exponent, rest) := power.getD (0, rest)
    some (.ok (.real (.ofDecimal negative digits (exponent - (places.getD []).length)), rest))

/-- The words for infinity and "not a number", with a sign if any. -/
def special? (cs : List Char) : Option (Value × List Char) :=
  let (negative, body) := Numeral.takeSign cs
  match afterWord? "inf" body, afterWord? "nan" body with
  | some after, _ => some (.real (.infinite negative), after)
  | _, some after => some (.real (.nan after.length), after)
  | _, _ => none

/-- A date, a time or a number. -/
def plainScalar (cs : List Char) : Except DocumentFault (Value × List Char) :=
  match calendar? cs with
  | some found => found
  | none =>
    match basedInteger? cs with
    | some found => .ok found
    | none =>
      match decimal? cs with
      | some found => found
      | none => ((special? cs).map Except.ok).getD malformed

end RecordSchema.Toml
