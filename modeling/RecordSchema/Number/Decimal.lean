import RecordSchema.Number.Ratio
import RecordSchema.Number.Numeral

/-!
# Decimal numbers

An exact decimal keeps its digits as written: `1.50` and `1.5` are equal numbers with different
texts. The text is positional unless the exponent is positive or more than five zeros would follow
the point. Beside the numbers there are two infinities and "not a number", which may carry digits
and may be signalling.

Arithmetic keeps 28 digits, a half going to the even neighbour. A result beyond the format's range
is a fault, and so is one that no number stands for.
-/

set_option autoImplicit false

namespace RecordSchema

inductive Decimal where
  /-- The number `± coefficient · 10 ^ exponent`, as written. -/
  | finite (negative : Bool) (coefficient : Nat) (exponent : Int)
  | infinite (negative : Bool)
  /-- Two occurrences of "not a number" are the same object iff their labels agree. -/
  | nan (negative signalling : Bool) (payload label : Nat)
deriving DecidableEq

namespace Decimal

open RecordSchema.Text

/-- Why an operation on decimals gives no result. -/
inductive Fault where
  | invalid
  | overflow
deriving DecidableEq

/-- The number of digits of a coefficient; zero has one. -/
def digitCount (n : Nat) : Nat := (Nat.repr n).length

/-- The exponent of the first digit. -/
def adjusted (coefficient : Nat) (exponent : Int) : Int :=
  exponent + digitCount coefficient - 1

def isZero : Decimal → Bool
  | finite _ n _ => n == 0
  | _ => false

/-- Is the number "not a number" of the kind that takes part in no comparison? -/
def isSignalling : Decimal → Bool
  | nan _ signalling _ _ => signalling
  | _ => false

/-- The exact value of a finite number. -/
def ratio? : Decimal → Option Ratio
  | finite negative n e => some (Ratio.scaled (Numeral.signed negative n) 10 (by decide) e)
  | _ => none

/-- The nearest floating-point number; a signalling "not a number" has none. -/
def real? : Decimal → Option Binary64
  | finite negative n e => some (.ofScaled negative n (digitCount n) e)
  | infinite negative => some (.infinite negative)
  | nan _ signalling _ label => if signalling then none else some (.nan label)

/-! ## Text -/

/-- The largest exponent of a first digit that can be written. -/
def maxWritten : Int := 999999999999999999

/-- The decimal that characters without a sign denote, as a number. -/
def finiteChars? (negative : Bool) (cs : List Char) : Option Decimal :=
  let (whole, rest) := Numeral.takeDigits digit? cs
  let (fraction, rest) :=
    match rest with
    | '.' :: rest => Numeral.takeDigits digit? rest
    | rest => ([], rest)
  match whole ++ fraction, Numeral.takeExponent rest with
  | [], _ => none
  | ds, some (exponent, []) =>
    let n := ofDigits 10 ds
    let e := exponent - fraction.length
    if maxWritten < adjusted n e || e < -2 * maxWritten + 1 then none
    else some (finite negative n e)
  | _, _ => none

/-- The digits behind a word for "not a number". -/
def payload? (cs : List Char) : Option Nat :=
  match Numeral.takeDigits digit? cs with
  | (ds, []) => some (ofDigits 10 ds)
  | _ => none

/-- The decimal that a text denotes; "not a number" gets the label. Underscores do not count. -/
def ofText? (label : Nat) (s : String) : Option Decimal :=
  let (negative, body) := Numeral.takeSign ((trimChars s.toList).filter (· != '_'))
  if Numeral.wordIs body "inf" || Numeral.wordIs body "infinity" then some (infinite negative)
  else if Numeral.wordIs (body.take 3) "nan" then
    (payload? (body.drop 3)).map fun digits => nan negative false digits label
  else if Numeral.wordIs (body.take 4) "snan" then
    (payload? (body.drop 4)).map fun digits => nan negative true digits label
  else finiteChars? negative body

/-- The text of a number. -/
def finiteText (coefficient : Nat) (exponent : Int) : List Char :=
  let digits := (Nat.repr coefficient).toList
  let left : Int := exponent + digits.length
  let plain := exponent ≤ 0 && -6 < left
  let point : Int := if plain then left else 1
  let body :=
    match point with
    | .ofNat 0 => '0' :: '.' :: digits
    | .ofNat k =>
      if k < digits.length then digits.take k ++ '.' :: digits.drop k
      else digits ++ List.replicate (k - digits.length) '0'
    | .negSucc k => '0' :: '.' :: List.replicate (k + 1) '0' ++ digits
  let power :=
    if left == point then []
    else 'E' :: (if left < point then '-' else '+') :: (Nat.repr (left - point).natAbs).toList
  body ++ power

/-- The text of a decimal. -/
def text (d : Decimal) : String :=
  let withSign (negative : Bool) (cs : List Char) : String :=
    String.ofList (if negative then '-' :: cs else cs)
  match d with
  | finite negative n e => withSign negative (finiteText n e)
  | infinite negative => withSign negative "Infinity".toList
  | nan negative signalling payload _ =>
    withSign negative ((if signalling then "sNaN" else "NaN").toList ++
      (if payload == 0 then [] else (Nat.repr payload).toList))

/-! ## Arithmetic -/

/-- The most digits that a result has. -/
def precision : Nat := 28

/-- The largest exponent of the first digit of a result. -/
def maxAdjusted : Int := 999999

/-- The least exponent of a result. -/
def minExponent : Int := -1000026

/-- A coefficient without its last digits, rounded. -/
def withoutLast (n count : Nat) : Nat :=
  if digitCount n < count then 0 else Binary64.roundHalfEven n (Nat.pow 10 count)

/-- The result nearest to `± n · 10 ^ e`. -/
def rounded (negative : Bool) (n : Nat) (e : Int) : Except Fault Decimal :=
  if n = 0 then .ok (finite negative 0 (max minExponent (min e maxAdjusted)))
  else if maxAdjusted < adjusted n e then .error .overflow
  else
    let cut := max (digitCount n - precision) (minExponent - e).toNat
    let (n, e) := (withoutLast n cut, e + cut)
    let (n, e) := if precision < digitCount n then (n / 10, e + 1) else (n, e)
    if maxAdjusted < adjusted n e then .error .overflow else .ok (finite negative n e)

/-- "Not a number" as the result of an operation on one. -/
def propagated (negative signalling : Bool) (payload : Nat) : Except Fault Decimal :=
  if signalling then .error .invalid else .ok (nan negative false payload 0)

/-- Twice a number. -/
def twice : Decimal → Except Fault Decimal
  | finite negative n e => rounded negative (2 * n) e
  | infinite negative => .ok (infinite negative)
  | nan negative signalling payload _ => propagated negative signalling payload

/-- The quotient by two toward zero and the remainder as a coefficient, for a number whose quotient
has not too many digits. The remainder has the number's exponent, or zero if that is positive. -/
def divideByTwo (n : Nat) (e : Int) : Except Fault (Nat × Nat) :=
  if n = 0 then .ok (0, 0)
  else if (precision : Int) < adjusted n e then .error .invalid
  else
    let (quotient, remainder) :=
      match e with
      | .ofNat k => ((n * Nat.pow 10 k) / 2, (n * Nat.pow 10 k) % 2)
      | .negSucc k =>
        if digitCount n < k + 1 then (0, n)
        else (n / (2 * Nat.pow 10 (k + 1)), n % (2 * Nat.pow 10 (k + 1)))
    if precision < digitCount quotient then .error .invalid else .ok (quotient, remainder)

/-- Half of a number, rounded toward zero. -/
def half : Decimal → Except Fault Decimal
  | finite negative n e => do return finite negative (← divideByTwo n e).1 0
  | infinite negative => .ok (infinite negative)
  | nan negative signalling payload _ => propagated negative signalling payload

/-- The remainder on division by two, with the sign of the number. -/
def modTwo : Decimal → Except Fault Decimal
  | finite negative n e => do rounded negative (← divideByTwo n e).2 (min e 0)
  | infinite _ => .error .invalid
  | nan negative signalling payload _ => propagated negative signalling payload

/-! ## Comparison -/

/-- A coefficient without zeros at its end and how many there were; at most `fuel` are taken off. -/
def withoutZeros : Nat → Nat → Nat × Nat
  | 0, n => (n, 0)
  | fuel + 1, n =>
    if n % 10 = 0 then
      let (m, count) := withoutZeros fuel (n / 10)
      (m, count + 1)
    else (n, 0)

/-- The number `n · 10 ^ e` with the shortest `n`; zero has the exponent zero. -/
def reduced (negative : Bool) (n : Nat) (e : Int) : Int × Int :=
  if n = 0 then (0, 0)
  else
    let (m, count) := withoutZeros (digitCount n) n
    (Numeral.signed negative m, e + count)

/-- Is a ratio equal to `n · 10 ^ e`, where `n` does not end in a zero? An exponent far from the
size of the ratio needs no powers of ten. -/
def matchesRatio (r : Ratio) (n e : Int) : Bool :=
  match e with
  | .ofNat k =>
    if n != 0 && Binary64.bitLength r.numerator.natAbs < k then false
    else r.numerator == n * Nat.pow 10 k * r.denominator
  | .negSucc k =>
    if Binary64.bitLength r.denominator < k then false
    else r.numerator * Nat.pow 10 (k + 1) == n * r.denominator

end Decimal

end RecordSchema
