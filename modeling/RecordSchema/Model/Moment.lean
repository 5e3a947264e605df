import RecordSchema.Model.Scalar
import RecordSchema.Text.Identifier

/-!
# Checks of days and moments

A day may be given by a moment at its beginning and a moment by a day. Either may be given by the
seconds, or if there are too many of them the milliseconds, since the beginning of 1970 in universal
time, or by a text: year, month and day, then for a moment a separator, hours and minutes, seconds
with a fraction if wanted, and an offset from universal time if wanted.
-/

set_option autoImplicit false

namespace RecordSchema.Check

open RecordSchema.Text Calendar

/-! ## Reading moments -/

/-- The number that two digits at the front of characters denote, and what follows them. -/
def pair? : List Char → Option (Nat × List Char)
  | a :: b :: rest => do return (ofDigits 10 [← digitIn? 10 a, ← digitIn? 10 b], rest)
  | _ => none

/-- The microseconds of a fraction of a second: its first six digits. -/
def microsOf (digits : List Char) : Nat :=
  ofDigits 10 (((digits ++ List.replicate 6 '0').take 6).map fun c => (digitIn? 10 c).getD 0)

/-- The seconds and microseconds at the front of characters, zero if there are none. -/
def seconds? (cs : List Char) : Option (Nat × Nat × List Char) :=
  match cs with
  | ':' :: rest => do
    let (second, rest) ← pair? rest
    match rest with
    | c :: fraction =>
      if c != '.' && c != ',' then return (second, 0, rest)
      let digits := fraction.takeWhile isAsciiDigit
      if digits.isEmpty then none
      else return (second, microsOf digits, fraction.dropWhile isAsciiDigit)
    | [] => return (second, 0, [])
  | cs => some (0, 0, cs)

/-- The offset that characters denote; nothing at all denotes none. -/
def offset? (cs : List Char) : Option (Option Int) :=
  match cs with
  | [] => some none
  | ['Z'] | ['z'] => some (some 0)
  | sign :: rest => do
    let factor : Int ←
      if sign == '+' then some 1 else if sign == '-' || sign == '\u2212' then some (-1) else none
    let (hours, rest) ← pair? rest
    let (minutes, rest) ← pair? (if rest.head? == some ':' then rest.drop 1 else rest)
    if rest.isEmpty && minutes < 60 && hours < 24 then
      return some (factor * ((hours * 60 + minutes) * 60 : Nat))
    else none

/-- The moment that a text denotes. -/
def momentOf? (s : String) : Option Moment := do
  let date ← Date.ofText? (String.ofList (s.toList.take 10))
  match s.toList.drop 10 with
  | separator :: rest =>
    if !(['T', 't', ' ', '_'].contains separator) then none
    else
      let (hour, rest) ← pair? rest
      if rest.head? != some ':' then none
      else
        let (minute, rest) ← pair? (rest.drop 1)
        let (second, micro, rest) ← seconds? rest
        let m : Moment := ⟨date, ⟨hour, minute, second, micro⟩, ← offset? rest⟩
        if date.isValid && m.clock.isValid then return m else none
  | [] => none

/-- The largest number that counts seconds rather than milliseconds. -/
def maxSeconds : Nat := 20000000000

/-- The moment so many seconds or milliseconds, and microseconds on top, after the beginning of
1970. -/
def momentAt (count : Int) (micros : Nat) : Option Moment :=
  let perSecond : Int := if count.natAbs ≤ maxSeconds then 1 else 1000
  let micros := (count % perSecond).toNat * 1000 + micros
  let whole := count / perSecond + (micros / 1000000 : Nat)
  let second := (whole % 86400).toNat
  if !(Word.holds 64 count) then none
  else (Date.ofEpochDays (whole / 86400)).map fun d =>
    ⟨d, ⟨second / 3600, second / 60 % 60, second % 60, micros % 1000000⟩, some 0⟩

/-- The moment that a number of seconds denotes. -/
def momentOfReal (x : Binary64) : Option Moment :=
  x.ratio?.bind fun r =>
    let whole := r.numerator / r.denominator
    momentAt whole
      (Binary64.roundHalfEven ((r.numerator - whole * r.denominator).toNat * 1000000) r.denominator)

/-- The moment that a text denotes, as such or as a number of seconds. -/
def momentText? (s : String) : Option Moment :=
  ((momentOf? s).or ((Numeral.intChars? 10 (digitIn? 10) s.toList).bind (momentAt · 0))).or
    ((plainReal? s.toList).bind momentOfReal)

/-! ## Moments -/

/-- A moment as a value. An offset is told by its seconds. -/
def momentValue (m : Moment) : Value :=
  match m.offset with
  | none => .moment m
  | some seconds =>
    .handle 0 (.object "datetime")
      (call "datetime.datetime"
        (m.date.numbers.map Nat.repr ++ m.clock.numbers.map Nat.repr ++
          ["tzinfo=TzInfo(" ++ intText seconds ++ ")"]))

/-- The beginning of a day. -/
def beginning (d : Date) : Moment := ⟨d, ⟨0, 0, 0, 0⟩, none⟩

def moment : Value → Checked
  | .moment m => .ok (.moment m, .exact)
  | .date d => .ok (.moment (beginning d), .loose)
  | .int n => kept .datetimeParsing (momentAt n 0)
  | .real x => kept .datetimeParsing (momentOfReal x)
  | .decimal d => kept .datetimeParsing (d.real?.bind momentOfReal)
  | .text s => ofText s
  | .bytes octets => ((Utf8.decodeText? octets).map ofText).getD (failed .datetimeFromDateParsing)
  | _ => failed .datetimeType
where
  kept (cause : Mismatch) (m : Option Moment) : Checked :=
    (m.map fun m => .ok (momentValue m, .loose)).getD (failed cause)
  ofText (s : String) : Checked :=
    let day := (Date.ofText? s).filter (·.isValid)
    kept .datetimeFromDateParsing ((momentText? s).or (day.map beginning))

/-! ## Days -/

/-- The day that begins at a moment. -/
def dayOf (m : Moment) : Checked :=
  if m.clock.micros = 0 then .ok (.date m.date, .loose) else failed .dateFromDatetimeInexact

/-- The day that begins at the moment found. -/
def dayFrom (m : Option Moment) : Checked := (m.map dayOf).getD (failed .dateFromDatetimeParsing)

/-- The day that a text stands for. -/
def dayText (s : String) : Checked :=
  match (Date.ofText? s).filter (·.isValid) with
  | some d => .ok (.date d, .loose)
  | none => dayFrom (momentText? s)

def day : Value → Checked
  | .date d => .ok (.date d, .exact)
  | .moment m => dayOf m
  | .int n => dayFrom (momentAt n 0)
  | .real x => dayFrom (momentOfReal x)
  | .decimal d => dayFrom (d.real?.bind momentOfReal)
  | .text s => dayText s
  | .bytes octets => ((Utf8.decodeText? octets).map dayText).getD (failed .dateFromDatetimeParsing)
  | _ => failed .dateType

end RecordSchema.Check
