import RecordSchema.Value.Arithmetic
import RecordSchema.Value.Printing

/-!
# Equality of values

Numbers of all kinds are equal when their exact values are, so `1`, `1.0` and `True` are one value;
"not a number" equals nothing. Lists differ from tuples, mappings and sets ignore order, and unions
are equal as sets of members, however they are written.

`equal` compares two values. `alike` compares elements of collections and keys: there, an object is
also alike to itself, which matters for "not a number" and for records that compare by a rule of
their own.
-/

set_option autoImplicit false

namespace RecordSchema.Value

/-- The exact size of a number, the infinities and "not a number" apart. -/
inductive Magnitude where
  | exact (r : Ratio)
  /-- `n · 10 ^ exponent`, where `n` does not end in a zero. -/
  | scaled (n exponent : Int)
  | infinite (negative : Bool)
  | nan

/-- The size of a value that is a number. -/
def magnitude? : Value → Option Magnitude
  | .bool b => some (.exact (.ofInt (if b then 1 else 0)))
  | .int n => some (.exact (.ofInt n))
  | .real x =>
    match x with
    | .nan _ => some .nan
    | .infinite negative => some (.infinite negative)
    | x => x.ratio?.map .exact
  | .decimal d =>
    match d with
    | .nan .. => some .nan
    | .infinite negative => some (.infinite negative)
    | .finite negative n e =>
      let (n, e) := Decimal.reduced negative n e
      some (.scaled n e)
  | _ => Option.none

namespace Magnitude

def equal : Magnitude → Magnitude → Bool
  | exact a, exact b => a.equal b
  | exact a, scaled n e => Decimal.matchesRatio a n e
  | scaled n e, exact a => Decimal.matchesRatio a n e
  | scaled m e, scaled n f => m == n && e == f
  | infinite a, infinite b => a == b
  | _, _ => false

/-- Is a size below another? Decimals are told apart by `equal` only. -/
def less : Magnitude → Magnitude → Bool
  | exact a, exact b => a.less b
  | infinite a, exact _ => a
  | exact _, infinite b => !b
  | infinite a, infinite b => a && !b
  | _, _ => false

end Magnitude

/-- Are two values numbers of the same size? -/
def sameNumber (a b : Value) : Bool :=
  match magnitude? a, magnitude? b with
  | some x, some y => x.equal y
  | _, _ => false

/-- The same object, for the kinds of value that can be unequal to themselves or hold
such values. -/
def sameObject : Value → Value → Bool
  | .list a _, .list b _ => a == b && a != 0
  | .real (.nan a), .real (.nan b) => a == b
  | .decimal (.nan _ _ _ a), .decimal (.nan _ _ _ b) => a == b
  | .record a _ _, .record b _ _ => a == b
  | _, _ => false

/-- Have two values the same remainder on division by two? -/
def sameParity (a b : Option Value) : Bool :=
  match a.map modTwo, b.map modTwo with
  | some (.ok (.text s)), some (.ok (.text t)) => s == t
  | some (.ok (.bytes s)), some (.ok (.bytes t)) => s == t
  | some (.ok x), some (.ok y) => sameNumber x y
  | _, _ => false

/-- Of what type a literal value is, as far as equal values can differ in it. -/
def literalKind : Value → Nat
  | .bool _ => 1
  | .real _ => 2
  | .decimal _ => 3
  | _ => 0

/-- The members of a union, however it is written. -/
def unionMembers? : Value → Option (List Value)
  | .union members => some members
  | .pipe members => some members
  | _ => Option.none

mutual

/-- Are two values equal? -/
def equal : Value → Value → Bool
  | .none, .none => true
  | .text s, .text t => s == t
  | .bytes a, .bytes b => a == b
  | .list _ xs, .list _ ys => alikeAll xs ys
  | .tuple xs, .tuple ys => alikeAll xs ys
  | .mapping xs, .mapping ys => xs.length == ys.length && entriesIn xs ys
  | .set xs, .set ys => xs.length == ys.length && allIn xs ys
  | .set xs, .frozenSet ys => xs.length == ys.length && allIn xs ys
  | .frozenSet xs, .set ys => xs.length == ys.length && allIn xs ys
  | .frozenSet xs, .frozenSet ys => xs.length == ys.length && allIn xs ys
  | .date a, .date b => a == b
  | .clock a, .clock b => a == b
  | .moment a, .moment b => a.equal b
  | .token a, .token b => a == b
  | .missing, .missing => true
  | .classToken a, .classToken b => a == b
  | .anyType, .anyType => true
  | .ellipsis, .ellipsis => true
  | .union xs, other =>
    match unionMembers? other with
    | some ys => xs.length == ys.length && allIn xs ys
    | Option.none => false
  | .pipe xs, other =>
    match unionMembers? other with
    | some ys => xs.length == ys.length && allIn xs ys
    | Option.none => false
  | .alias f m xs, .alias g n ys => f == g && m == n && alikeAll xs ys
  | .literal xs, .literal ys => xs.length == ys.length && literalsIn xs ys
  | .annotated a x, .annotated b y =>
    (sameObject a b || equal a b) && alikeAll x y
  | .callable xs a, .callable ys b => alikeAll xs ys && (sameObject a b || equal a b)
  | .bareClassVar, .bareClassVar => true
  | .classVar a, .classVar b => sameObject a b || equal a b
  | .typeVar a _, .typeVar b _ => a == b
  | .forwardRef a, .forwardRef b => a == b
  | .orNone a, .orNone b => sameObject a b || equal a b
  | .recordClass a, .recordClass b => a.id == b.id
  | .record a c xs, .record b d ys =>
    c.id == d.id &&
      match c.comparison with
      | .byFields => fieldsEqual xs ys c.keys
      | .byParity field => sameParity (lookup field xs) (lookup field ys)
      | .byIdentity => a == b
      | .unusable => false
  | .handle a _ _, .handle b _ _ => a == b
  | a, b => sameNumber a b
termination_by structural a => a

def alikeAll : List Value → List Value → Bool
  | [], [] => true
  | x :: xs, y :: ys => (sameObject x y || equal x y) && alikeAll xs ys
  | _, _ => false
termination_by structural xs => xs

/-- Is each of the first values alike to one of the second? -/
def allIn : List Value → List Value → Bool
  | [], _ => true
  | x :: xs, ys => ys.any (fun y => sameObject x y || equal x y) && allIn xs ys
termination_by structural xs => xs

/-- Is each of the first values found among the second with the same type? -/
def literalsIn : List Value → List Value → Bool
  | [], _ => true
  | x :: xs, ys =>
    ys.any (fun y => (sameObject x y || equal x y) && literalKind x == literalKind y) &&
      literalsIn xs ys
termination_by structural xs => xs

def entriesIn : List (Value × Value) → List (Value × Value) → Bool
  | [], _ => true
  | (k, v) :: rest, ys => ys.any (fun y =>
        (sameObject k y.1 || equal k y.1) && (sameObject v y.2 || equal v y.2)) &&
      entriesIn rest ys
termination_by structural xs => xs

/-- Have both records equal attributes under each of the names? -/
def fieldsEqual : List (String × Value) → List (String × Value) → List String → Bool
  | [], _, _ => true
  | (k, v) :: rest, ys, keys =>
    (!keys.contains k ||
      (match lookup k ys with
        | some w => equal v w
        | Option.none => false)) && fieldsEqual rest ys keys
termination_by structural xs => xs

end

/-- Are two elements of collections, or two keys, alike? -/
def alike (a b : Value) : Bool := sameObject a b || equal a b

end RecordSchema.Value
