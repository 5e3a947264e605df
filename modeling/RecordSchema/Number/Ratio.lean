/-!
# Exact ratios

Numbers of different kinds are compared by the exact ratio of an integer and a positive natural
number, so no comparison rounds.
-/

set_option autoImplicit false

namespace RecordSchema

/-- The exact number `numerator / denominator`. -/
structure Ratio where
  numerator : Int
  denominator : Nat
  denominator_pos : 0 < denominator := by decide
deriving DecidableEq

namespace Ratio

def ofInt (n : Int) : Ratio := ⟨n, 1, by decide⟩

/-- `n · base ^ exponent`, for a base above zero. -/
def scaled (n : Int) (base : Nat) (base_pos : 0 < base) (exponent : Int) : Ratio :=
  match exponent with
  | .ofNat e => ⟨n * Nat.pow base e, 1, by decide⟩
  | .negSucc e => ⟨n, Nat.pow base (e + 1), Nat.pow_pos base_pos⟩

def equal (a b : Ratio) : Bool :=
  a.numerator * b.denominator == b.numerator * a.denominator

def less (a b : Ratio) : Bool :=
  a.numerator * b.denominator < b.numerator * a.denominator

/-- The integer part, toward zero. -/
def truncate (a : Ratio) : Int :=
  a.numerator.tdiv a.denominator

end Ratio

end RecordSchema
