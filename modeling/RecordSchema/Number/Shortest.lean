import RecordSchema.Number.Binary64
import RecordSchema.Text.Digits

/-!
# Shortest decimal text of a binary number

A finite number is written with the fewest decimal digits that read back as the same number, and of
the candidates with that many digits the nearest. Up to sixteen digits before the point, and down to
three zeros behind it, the text is positional, with at least one digit on each side of the point;
beyond that it has an exponent of at least two digits with its sign.
-/

set_option autoImplicit false

namespace RecordSchema.Binary64

open RecordSchema.Text

/-- How often `num` can be multiplied by ten and stay below `den`; at most `fuel` times. -/
def leadingZeros (den : Nat) : Nat → Nat → Nat
  | 0, _ => 0
  | fuel + 1, num => if num * 10 < den then leadingZeros den fuel (num * 10) + 1 else 0

/-- The place of the decimal point: the least `k` with `num / den < 10 ^ k`. -/
def pointPlace (num den : Nat) : Int :=
  if den ≤ num then ((Nat.repr (num / den)).length : Int) else -(leadingZeros den 400 num : Int)

/-- The two neighbours of `num / den` on the grid of multiples of `10 ^ scale`, the nearer first. -/
def gridNeighbours (num den : Nat) (scale : Int) : List Nat :=
  let (n, d) : Nat × Nat :=
    match scale with
    | .ofNat e => (num, den * Nat.pow 10 e)
    | .negSucc e => (num * Nat.pow 10 (e + 1), den)
  let low := n / d
  if 2 * (n % d) < d || (2 * (n % d) == d && low % 2 == 0) then [low, low + 1] else [low + 1, low]

/-- Looks for a neighbour that reads back, on ever finer grids: with `digits`, `digits + 1`, …
decimal digits. -/
def shortestFrom (m : Nat) (e : Int) (num den : Nat) (point : Int) : Nat → Nat → Nat × Int
  | digits, 0 => ((gridNeighbours num den (point - digits)).headD 0, point - digits)
  | digits, more + 1 =>
    let scale := point - digits
    let reads (c : Nat) : Bool := ofScaled false c (Nat.repr c).length scale == finite false m e
    match (gridNeighbours num den scale).find? reads with
    | some c => (c, scale)
    | none => shortestFrom m e num den point (digits + 1) more

/-- The shortest `digits · 10 ^ exponent` that reads back as `m · 2 ^ e`, for `m` above zero. -/
def shortest (m : Nat) (e : Int) : Nat × Int :=
  let (num, den) : Nat × Nat :=
    match e with
    | .ofNat k => (m * Nat.pow 2 k, 1)
    | .negSucc k => (m, Nat.pow 2 (k + 1))
  shortestFrom m e num den (pointPlace num den) 1 16

/-- The digits of a number without the zeros at its end, and how many were dropped. -/
def dropZeros (cs : List Char) : List Char × Nat :=
  let kept := (cs.reverse.dropWhile (· == '0')).reverse
  (kept, cs.length - kept.length)

/-- Digits with the decimal point at a place counted from their front. -/
def positional (digits : List Char) (point : Int) : List Char :=
  match point with
  | .ofNat 0 => '0' :: '.' :: digits
  | .ofNat k =>
    if k < digits.length then digits.take k ++ '.' :: digits.drop k
    else digits ++ List.replicate (k - digits.length) '0' ++ ['.', '0']
  | .negSucc k => '0' :: '.' :: List.replicate (k + 1) '0' ++ digits

/-- One digit, the others behind a point, and an exponent. -/
def withExponent (digits : List Char) (exponent : Int) : List Char :=
  let mantissa :=
    match digits with
    | d :: rest@(_ :: _) => d :: '.' :: rest
    | digits => digits
  let size := exponent.natAbs
  let width := if size < 10 then 2 else (Nat.repr size).length
  mantissa ++ 'e' :: (if exponent < 0 then '-' else '+') :: fixedDigits 10 width size

/-- The digits of the shortest text of `m · 2 ^ e`, positional or with an exponent. -/
def magnitudeChars (m : Nat) (e : Int) : List Char :=
  if m = 0 then ['0', '.', '0']
  else
    let (digits, scale) := shortest m e
    let (kept, dropped) := dropZeros (Nat.repr digits).toList
    let point : Int := kept.length + dropped + scale
    if -4 < point && point ≤ 16 then positional kept point else withExponent kept (point - 1)

/-- The text of a number. -/
def text : Binary64 → String
  | finite negative m e =>
    String.ofList (if negative then '-' :: magnitudeChars m e else magnitudeChars m e)
  | infinite negative => if negative then "-inf" else "inf"
  | nan _ => "nan"

end RecordSchema.Binary64
