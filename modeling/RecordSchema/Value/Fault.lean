import RecordSchema.Value.Kind

/-!
# Values that cannot be printed or compared

A record is printed and compared by its fields, and a field can be missing; a class can have a rule
for printing or for equality that is not usable; an integer can have too many digits to be written;
and a signalling "not a number" takes part in no comparison. `printFault?` and `equalFault?` find
what goes wrong first, in the order in which printing and comparison go through a value. Where they
find nothing, `shown` and `equal` are the answer.
-/

set_option autoImplicit false

namespace RecordSchema.Value

/-! ## Printing -/

/-- What goes wrong with reading a field, or with the values found, in the order of the keys. -/
def firstFault (c : RecordClass) (faults : List (String × Option Refusal)) : Option Refusal :=
  if !c.hasSchema then some .absentAttribute
  else
    c.keys.findSome? fun k =>
      if !c.isReadable then some .wrongKind
      else
        match lookup k faults with
        | some fault => fault
        | Option.none => some c.absence

mutual

/-- What goes wrong first when the value is printed. -/
def printFault? : Value → Option Refusal
  | .int n => if Numeral.isWritable n then Option.none else some .badValue
  | .list _ items => printFaultIn items
  | .tuple items => printFaultIn items
  | .set items => printFaultIn items
  | .frozenSet items => printFaultIn items
  | .mapping entries => printFaultInEntries entries
  | .union members => printFaultIn members
  | .pipe members => printFaultIn members
  | .alias _ _ args => printFaultIn args
  | .literal values => printFaultIn values
  | .annotated base notes => (printFault? base).or (printFaultIn notes)
  | .callable parameters result => (printFaultIn parameters).or (printFault? result)
  | .classVar inner => printFault? inner
  | .orNone inner => printFault? inner
  | .record _ c attributes =>
    match c.printing with
    | .byFields => firstFault c (printFaults attributes)
    | .fixed _ => Option.none
    | .unusable => some .wrongKind
  | _ => Option.none

def printFaultIn : List Value → Option Refusal
  | [] => Option.none
  | v :: rest => (printFault? v).or (printFaultIn rest)

def printFaultInEntries : List (Value × Value) → Option Refusal
  | [] => Option.none
  | (k, v) :: rest => ((printFault? k).or (printFault? v)).or (printFaultInEntries rest)

def printFaults : List (String × Value) → List (String × Option Refusal)
  | [] => []
  | (k, v) :: rest => (k, printFault? v) :: printFaults rest

end

/-- The printed form of a value that can be printed. -/
def print (v : Value) : Except Refusal String :=
  match v.printFault? with
  | some cause => .error cause
  | Option.none => .ok v.shown

/-- The form of a value that stands alone, if it can be printed. -/
def displayed (v : Value) : Except Refusal String :=
  match v.printFault? with
  | some cause => .error cause
  | Option.none => .ok v.display

/-! ## Equality -/

/-- Is a value a number? -/
def isNumber (v : Value) : Bool := (magnitude? v).isSome

/-- Is a value a signalling "not a number"? -/
def isSignalling : Value → Bool
  | .decimal d => d.isSignalling
  | _ => false

/-- What goes wrong when the remainder of a field is asked for. -/
def parityFault? (field : String) (c : RecordClass) (attributes : List (String × Value)) :
    Option Refusal :=
  if !c.isReadable then some .wrongKind
  else
    match lookup field attributes with
    | some v =>
      match v.modTwo with
      | .error cause => some cause
      | .ok _ => Option.none
    | Option.none => some c.absence

/-- What goes wrong when a record stands behind a value that does not know records. -/
def behindFault? : Value → Option Refusal
  | .record _ c _ =>
    match c.comparison with
    | .unusable => some .wrongKind
    | .byFields => if c.isReadable then Option.none else some .wrongKind
    | _ => Option.none
  | _ => Option.none

/-- What goes wrong in the comparison of records field by field: `outcomes` has for each attribute
of the first what goes wrong in its comparison and whether it is equal to that of the second. -/
def fieldsFault? (c d : RecordClass) (outcomes : List (String × Option Refusal × Bool))
    (second : List (String × Value)) : List String → Option Refusal
  | [] => Option.none
  | k :: rest =>
    if !c.isReadable || !d.isReadable then some .wrongKind
    else
      match lookup k outcomes, lookup k second with
      | some (some cause, _), some _ => some cause
      | some (Option.none, same), some _ =>
        if same then fieldsFault? c d outcomes second rest else Option.none
      | some _, Option.none => some d.absence
      | Option.none, _ => some c.absence

/-- What goes wrong in the comparison of a value with one whose truth cannot be told. -/
def undecidedFault? : Value → Option Refusal
  | .handle _ (.undecided _) _ => some .wrongKind
  | _ => Option.none

mutual

/-- What goes wrong first when two values are compared. -/
def equalFault? : Value → Value → Option Refusal
  | .list _ xs, .list _ ys => if xs.length == ys.length then equalFaultIn xs ys else Option.none
  | .tuple xs, .tuple ys => equalFaultIn xs ys
  | .mapping xs, .mapping ys =>
    if xs.length == ys.length then equalFaultInEntries xs ys else Option.none
  | .alias f m xs, .alias g n ys =>
    if f == g && m == n then equalFaultIn xs ys else Option.none
  | .annotated a xs, .annotated b ys =>
    (equalFault? a b).or (if a.equal b then equalFaultIn xs ys else Option.none)
  | .orNone a, .orNone b => if sameObject a b then Option.none else equalFault? a b
  | .record _ c xs, b =>
    match c.comparison, b with
    | .unusable, _ => some .wrongKind
    | .byParity field, .record _ d ys =>
      if c.id == d.id then (parityFault? field c xs).or (parityFault? field d ys) else Option.none
    | .byParity _, _ => Option.none
    | .byFields, .record _ d ys =>
      if !c.isReadable || !d.isReadable then some .wrongKind
      else if c.id != d.id then behindFault? b
      else if !c.hasSchema then some .absentAttribute
      else fieldsFault? c d (equalFaults xs ys) ys c.keys
    | .byFields, _ => if c.isReadable then Option.none else some .wrongKind
    | .byIdentity, b => behindFault? b
  | a, b =>
    if (isSignalling a && isNumber b) || (isNumber a && isSignalling b) then some .invalidOperation
    else ((undecidedFault? a).or (undecidedFault? b)).or (behindFault? b)
termination_by structural a => a

/-- What goes wrong first in two lists, up to the first difference. -/
def equalFaultIn : List Value → List Value → Option Refusal
  | [], _ => Option.none
  | x :: xs, ys =>
    match ys with
    | [] => Option.none
    | y :: ys =>
      if sameObject x y then equalFaultIn xs ys
      else
        match equalFault? x y with
        | some cause => some cause
        | Option.none => if x.equal y then equalFaultIn xs ys else Option.none
termination_by structural xs => xs

/-- What goes wrong first in two mappings, up to the first difference. -/
def equalFaultInEntries : List (Value × Value) → List (Value × Value) → Option Refusal
  | [], _ => Option.none
  | (k, v) :: rest, ys =>
    match lookupKey k ys with
    | Option.none => Option.none
    | some w =>
      if sameObject v w then equalFaultInEntries rest ys
      else
        match equalFault? v w with
        | some cause => some cause
        | Option.none => if v.equal w then equalFaultInEntries rest ys else Option.none
termination_by structural xs => xs

/-- For each attribute of the first record what goes wrong in its comparison with that of the
second, and whether it is equal to it. -/
def equalFaults : List (String × Value) → List (String × Value) →
    List (String × Option Refusal × Bool)
  | [], _ => []
  | (k, v) :: rest, ys =>
    (match lookup k ys with
      | some w => (k, equalFault? v w, v.equal w)
      | Option.none => (k, Option.none, false)) :: equalFaults rest ys
termination_by structural xs => xs

end

/-- Are two values equal, as far as they can be compared? -/
def compare (a b : Value) : Except Refusal Bool :=
  match equalFault? a b with
  | some cause => .error cause
  | Option.none => .ok (a.equal b)

end RecordSchema.Value
