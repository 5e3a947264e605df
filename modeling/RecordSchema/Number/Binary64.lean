import RecordSchema.Number.Ratio
import RecordSchema.Text.Digits

/-!
# Binary floating-point numbers

The numbers of the 64-bit binary format as exact data: a sign, a mantissa below `2 ^ 53` and a
power of two, or an infinity, or not a number. A value has one representation: the mantissa is at
least `2 ^ 52` unless the exponent is the least one, `-1074`. All arithmetic is exact until the one
rounding step `ofRatio`, which goes to the nearest number and, in the middle, to the even mantissa.
-/

set_option autoImplicit false

namespace RecordSchema

/-- A binary floating-point number. Two occurrences of "not a number" are the same object iff their
labels agree; by value they always differ. -/
inductive Binary64 where
  | finite (negative : Bool) (mantissa : Nat) (exponent : Int)
  | infinite (negative : Bool)
  | nan (label : Nat)
deriving DecidableEq

namespace Binary64

/-- The number of binary digits. -/
def bitLength (n : Nat) : Nat :=
  if n = 0 then 0 else Nat.log2 n + 1

/-- The quotient rounded to the nearest integer, a half to the even neighbour. -/
def roundHalfEven (num den : Nat) : Nat :=
  let low := num / den
  let twice := 2 * (num % den)
  if twice < den then low
  else if den < twice then low + 1
  else if low % 2 = 0 then low
  else low + 1

/-- `num / den` over `2 ^ q`, as a fraction. -/
def overPower (num den : Nat) (q : Int) : Nat × Nat :=
  match q with
  | .ofNat k => (num, den * Nat.pow 2 k)
  | .negSucc k => (num * Nat.pow 2 (k + 1), den)

/-- The number nearest to `num / den`, with a sign. -/
def ofRatio (negative : Bool) (num den : Nat) : Binary64 :=
  if num = 0 then finite negative 0 (-1074)
  else
    let guess : Int := max (-1074) ((bitLength num : Int) - bitLength den - 53)
    let (n, d) := overPower num den guess
    let q := if Nat.pow 2 53 ≤ n / d then guess + 1 else guess
    let (n, d) := overPower num den q
    let m := roundHalfEven n d
    let (m, q) := if m = Nat.pow 2 53 then (Nat.pow 2 52, q + 1) else (m, q)
    if 971 < q then infinite negative else finite negative m q

/-- The number nearest to `n · 10 ^ exponent`, where `n` has `count` decimal digits. Far outside the
format's range the answer needs no powers of ten. -/
def ofScaled (negative : Bool) (n count : Nat) (exponent : Int) : Binary64 :=
  if n = 0 then finite negative 0 (-1074)
  else if 400 < exponent + count then infinite negative
  else if exponent + count < -400 then finite negative 0 (-1074)
  else
    match exponent with
    | .ofNat e => ofRatio negative (n * Nat.pow 10 e) 1
    | .negSucc e => ofRatio negative n (Nat.pow 10 (e + 1))

/-- The number nearest to decimal digits times `10 ^ exponent`. Zeros in front do not count. -/
def ofDecimal (negative : Bool) (digits : List Nat) (exponent : Int) : Binary64 :=
  let significant := digits.dropWhile (· == 0)
  ofScaled negative (Text.ofDigits 10 significant) significant.length exponent

/-- The nearest number to an integer, unless it lies beyond the format. -/
def ofInt? (n : Int) : Option Binary64 :=
  match ofRatio (n < 0) n.natAbs 1 with
  | infinite _ => none
  | x => some x

def zero : Binary64 := finite false 0 (-1074)

def one : Binary64 := ofRatio false 1 1

def isZero : Binary64 → Bool
  | finite _ m _ => m == 0
  | _ => false

/-- The exact value of a finite number. -/
def ratio? : Binary64 → Option Ratio
  | finite negative m e =>
    some (Ratio.scaled (if negative then -(m : Int) else m) 2 (by decide) e)
  | _ => none

/-- The number nearest to an exact ratio; a zero is positive. -/
def ofExact (r : Ratio) : Binary64 :=
  ofRatio (r.numerator < 0) r.numerator.natAbs r.denominator

def negate : Binary64 → Binary64
  | finite negative m e => finite (!negative) m e
  | infinite negative => infinite (!negative)
  | nan label => nan label

def isNegative : Binary64 → Bool
  | finite negative _ _ => negative
  | infinite negative => negative
  | nan _ => false

/-- A zero with a sign. -/
def signedZero (negative : Bool) : Binary64 := finite negative 0 (-1074)

/-- The sum, rounded. A sum that is exactly zero is negative only if both numbers are. -/
def add (x y : Binary64) : Binary64 :=
  match x, y with
  | nan label, _ => nan label
  | _, nan label => nan label
  | infinite s, infinite t => if s == t then infinite s else nan 0
  | infinite s, _ => infinite s
  | _, infinite t => infinite t
  | finite _ _ _, finite _ _ _ =>
    match x.ratio?, y.ratio? with
    | some a, some b =>
      let n := a.numerator * b.denominator + b.numerator * a.denominator
      if n = 0 then signedZero (x.isNegative && y.isNegative)
      else ofExact ⟨n, a.denominator * b.denominator,
        Nat.mul_pos a.denominator_pos b.denominator_pos⟩
    | _, _ => nan 0

/-- The product, rounded. -/
def mul (x y : Binary64) : Binary64 :=
  let negative := x.isNegative != y.isNegative
  match x, y with
  | nan label, _ => nan label
  | _, nan label => nan label
  | infinite _, finite _ m _ => if m = 0 then nan 0 else infinite negative
  | finite _ m _, infinite _ => if m = 0 then nan 0 else infinite negative
  | infinite _, infinite _ => infinite negative
  | finite _ m q, finite _ n r =>
    let (num, den) := overPower (m * n) 1 (-(q + r))
    ofRatio negative num den

/-- The remainder of a number by two, with the sign of two, rounded. -/
def modTwo (x : Binary64) : Binary64 :=
  match x with
  | finite _ _ _ =>
    match x.ratio? with
    | some a =>
      let n := a.numerator % (2 * a.denominator : Int)
      if n = 0 then zero else ofExact ⟨n, a.denominator, a.denominator_pos⟩
    | none => nan 0
  | _ => nan 0

/-- Half of a number, rounded down to an integer. Half of a zero is the same zero. -/
def floorHalf (x : Binary64) : Binary64 :=
  match x with
  | finite negative m _ =>
    match x.ratio? with
    | some a =>
      if m = 0 then x
      else
        let n := a.numerator / (2 * a.denominator : Int)
        if n = 0 then signedZero negative else ofExact (Ratio.ofInt n)
    | none => nan 0
  | _ => nan 0

end Binary64

end RecordSchema
