import RecordSchema.Model.Moment
import RecordSchema.Model.Rule

/-!
# Checking values against rules

A value that is not of the kind that a rule asks for may still stand for one, and collections of one
kind may for another. The value kept is then of the kind asked for. Among the members of a choice
the first wins that the value is exactly of, or else the one that it comes closest to.
-/

set_option autoImplicit false

namespace RecordSchema

namespace Check

/-! ## Literals -/

/-- Is a value a number or a text that literals tell apart at once? -/
def isPrimitive : Value → Bool
  | .int _ | .text _ | .bool _ => true
  | _ => false

/-- The literal value of the very kind of a value. -/
def literalExactly? (values : List Value) (v : Value) : Option Value :=
  values.find? fun w =>
    match v, w with
    | .bool a, .bool b => a == b
    | .int a, .int b => a == b && Word.holds 64 a
    | .text a, .text b => a == b
    | _, _ => false

/-- The last of the literal values that a value is alike to, if it can be a key. -/
def literalByKey? (values : List Value) (v : Value) : Option Value :=
  if v.hashable then values.reverse.find? v.alike else none

/-- The literal value that a value is: one of its own kind first; then truth values and those that
are neither integers nor texts; then those that can be no keys; then all the others. -/
def literal (values : List Value) (v : Value) : Checked :=
  let others := values.filter fun w => w.hashable && match w with
    | .int _ | .text _ => false
    | _ => true
  let found := (((literalExactly? values v).or (literalByKey? others v)).or
    ((values.filter (!·.hashable)).find? v.equal)).or (literalByKey? (values.filter isPrimitive) v)
  match found with
  | some w => .ok (w, .exact)
  | none => failed .literalError

/-! ## Collections -/

/-- The items of a value that may stand for a list or another collection. -/
def itemsOf? : Value → Option (List Value)
  | .list _ items => some items
  | .tuple items => some items
  | .set items => some items
  | .frozenSet items => some items
  | _ => none

/-- The step to the value under a key. -/
def keyStep : Value → Step
  | .text s => .key s
  | .int n => if Word.holds 64 n then .place n else .key (Value.int n).shown
  | .bool b => .place (Value.truthNumber b)
  | v => .key v.shown

/-- The first good outcome of a choice that is exact, or else the closest of them; all mismatches if
none is good. A check that breaks off before an exact outcome breaks off the choice. -/
def closest (best : Option (Value × Closeness)) (complaints : List Complaint) :
    List (String × Checked) → Checked
  | [] => (best.map Except.ok).getD (.error (.mismatches complaints))
  | (label, outcome) :: rest =>
    match outcome with
    | .error (.broken cause) => broken cause
    | .error (.mismatches more) =>
      closest best (complaints ++ under (.key label) more) rest
    | .ok (v, .exact) => .ok (v, .exact)
    | .ok found =>
      let better := best.elim true fun b => b.2.rank < found.2.rank
      closest (if better then some found else best) complaints rest

/-- The values and the closeness of good outcomes, or all mismatches by place. -/
def gather (closeness : Closeness) (outcomes : List Checked) :
    Except Rejection (List Value × Closeness) :=
  match firstBreak? outcomes with
  | some cause => .error (.broken cause)
  | none =>
    let complaints :=
      (outcomes.zipIdx.map fun o => under (.place o.2) (complaintsOf o.1)).flatten
    let good := outcomes.filterMap (·.toOption)
    if complaints.isEmpty then
      .ok (good.map (·.1), good.foldl (fun c g => c.least g.2) closeness)
    else .error (.mismatches complaints)

/-- The outcomes for the items of a set: a value that cannot be in a set is a mismatch. -/
def keyable (outcomes : List Checked) : List Checked :=
  outcomes.map fun o =>
    match o with
    | .ok (v, closeness) => if v.hashable then .ok (v, closeness) else failed .setItemNotHashable
    | o => o

/-- The outcomes for the first places of a tuple; an item that is not there is missing. -/
def atPlaces (rules : Nat) (outcomes : List Checked) : List Checked :=
  outcomes ++ List.replicate (rules - outcomes.length) (failed .missing)

/-- The outcomes for the entries of a mapping, put together. -/
def gatherEntries (outcomes : List (Value × Checked × Checked)) : Checked :=
  match firstBreak? (outcomes.flatMap fun o => [o.2.1, o.2.2]) with
  | some cause => broken cause
  | none =>
    let complaints := outcomes.flatMap fun o =>
      let step := keyStep o.1
      under step (under (.key "[key]") (complaintsOf o.2.1)) ++ under step (complaintsOf o.2.2)
    let good := outcomes.filterMap fun o =>
      match o.2.1.toOption, o.2.2.toOption with
      | some key, some value => some (key, value)
      | _, _ => none
    if !good.all (·.1.1.hashable) then broken .wrongKind
    else if complaints.isEmpty then
      .ok (.mapping (Value.ofPairs (good.map fun g => (g.1.1, g.2.1))),
        good.foldl (fun c g => (c.least g.1.2).least g.2.2) .exact)
    else .error (.mismatches complaints)

/-- The outcomes for the items of a list or a set under a rule, which is not looked at where
anything will do. -/
def eachItem (item : Rule) (check : Value → Checked) (items : List Value) : List Checked :=
  match item with
  | .anything => items.map fun v => .ok (v, .exact)
  | _ => items.map check

/-- How close a value is to a kind of collection before its items are looked at. -/
def collectionCloseness (c : Rule.Collection) (v : Value) : Closeness :=
  match c, v with
  | .list, .list _ _ | .set, .set _ | .frozenSet, .frozenSet _ | .tuple, .tuple _ => .exact
  | _, _ => .loose

/-- Checks a sequence, which stays of its kind; without a rule for the items whatever is a sequence
will do, and otherwise neither texts nor octets will. -/
def sequence (item : Rule) (check : Value → Checked) (v : Value) : Checked :=
  match item, v with
  | .anything, .list _ _ | .anything, .tuple _ | .anything, .text _ | .anything, .bytes _ =>
    .ok (v, .exact)
  | _, .list _ items => do
    let (kept, closeness) ← gather .exact (items.map check)
    return (Value.ofList kept, closeness)
  | _, .tuple items => do
    let (kept, closeness) ← gather .exact (items.map check)
    return (.tuple kept, closeness)
  | _, .text _ | _, .bytes _ => failed .sequenceText
  | _, _ => failed .instanceType

/-! ## Kinds of objects -/

/-- Has a value items? -/
def hasItems : Value → Bool
  | .mapping _ | .text _ | .bytes _ => true
  | v => (itemsOf? v).isSome

/-- Is a value of a kind that can be a key? -/
def isHashableKind : Value → Bool
  | .tuple _ | .decimal _ => true
  | v => v.hashable

/-- Is a class another one or below it? -/
def isBelow (c bound : ClassName) : Bool :=
  c == bound || bound == .builtin "object" || (c == .builtin "bool" && bound == .builtin "int") ||
    (c == ⟨"datetime", "datetime"⟩ && bound == ⟨"datetime", "date"⟩)

/-- Checks that a value is a class, below another one if that is given. -/
def classes (bound : Option ClassName) (v : Value) : Checked :=
  match bound, v with
  | none, v => if v.isClass then .ok (v, .exact) else failed .classType
  | some bound, .classToken c => if isBelow c bound then .ok (v, .exact) else failed .subclassType
  | some bound, v =>
    if v.isClass && bound == .builtin "object" then .ok (v, .exact) else failed .subclassType

/-- A value as it is, if it satisfies a test. -/
def unchanged (test : Bool) (cause : Mismatch) (v : Value) : Checked :=
  if test then .ok (v, .exact) else failed cause

end Check

mutual

/-- Checks a value against a rule. -/
def Rule.check : Rule → Value → Checked
  | .anything, v => .ok (v, .loose)
  | .nothing, v =>
    match v with
    | .none => .ok (.none, .exact)
    | _ => Check.failed .noneRequired
  | .integer, v => Check.integer v
  | .real, v => Check.real v
  | .decimal, v => Check.decimal v
  | .complex, v => Check.complex v
  | .date, v => Check.day v
  | .moment, v => Check.moment v
  | .text, v => Check.text v
  | .octets, v => Check.octets v
  | .truth, v => Check.truth v
  | .list item, v =>
    match Check.itemsOf? v with
    | some items => do
      let (kept, closeness) ← Check.gather (Check.collectionCloseness .list v)
        (Check.eachItem item (Rule.check item) items)
      return (Value.ofList kept, closeness)
    | none => Check.failed .listType
  | .set item, v =>
    match Check.itemsOf? v with
    | some items => do
      let (kept, closeness) ← Check.gather (Check.collectionCloseness .set v)
        (Check.keyable (Check.eachItem item (Rule.check item) items))
      return (.set (Value.distinct kept), closeness)
    | none => Check.failed .setType
  | .frozenSet item, v =>
    match Check.itemsOf? v with
    | some items => do
      let (kept, closeness) ← Check.gather (Check.collectionCloseness .frozenSet v)
        (Check.keyable (Check.eachItem item (Rule.check item) items))
      return (.frozenSet (Value.distinct kept), closeness)
    | none => Check.failed .frozenSetType
  | .tupleOf item, v =>
    match Check.itemsOf? v with
    | some items => do
      let (kept, closeness) ← Check.gather (Check.collectionCloseness .tuple v)
        (items.map (Rule.check item))
      return (.tuple kept, closeness)
    | none => Check.failed .tupleType
  | .tuple rules, v =>
    match Check.itemsOf? v with
    | some items =>
      let outcomes := Rule.checkPlaces rules items
      match Check.firstBreak? outcomes with
      | some cause => Check.broken cause
      | none =>
        if rules.length < items.length then Check.failed .tooLong
        else do
          let (kept, closeness) ← Check.gather (Check.collectionCloseness .tuple v)
            (Check.atPlaces rules.length outcomes)
          return (.tuple kept, closeness)
    | none => Check.failed .tupleType
  | .mapping key value, v =>
    match v with
    | .mapping entries =>
      Check.gatherEntries (entries.map fun e => (e.1, Rule.check key e.1, Rule.check value e.2))
    | _ => Check.failed .dictType
  | .sequence item, v => Check.sequence item (Rule.check item) v
  | .iterable, v => Check.unchanged (Check.hasItems v) .iterableType v
  | .literal values, v => Check.literal values v
  | .callable, v => Check.unchanged v.isCallable .callableType v
  | .classes bound, v => Check.classes bound v
  | .hashable, v => Check.unchanged (Check.isHashableKind v) .hashableType v
  | .optional inner, v =>
    match v with
    | .none => .ok (.none, .exact)
    | v => Rule.check inner v
  | .choice members, v => Check.closest none [] (Rule.checkEach members v)
termination_by structural r => r

/-- Checks a value against each of several rules. -/
def Rule.checkEach : List Rule → Value → List (String × Checked)
  | [], _ => []
  | r :: rest, v => (r.label, Rule.check r v) :: Rule.checkEach rest v
termination_by structural rs => rs

/-- Checks values against rules, one by one. -/
def Rule.checkPlaces : List Rule → List Value → List Checked
  | [], _ => []
  | r :: rest, vs =>
    match vs with
    | [] => []
    | v :: vs => Rule.check r v :: Rule.checkPlaces rest vs
termination_by structural rs => rs

end

end RecordSchema
