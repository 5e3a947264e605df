/-!
# Signed words

Some formats keep an integer in a word of a fixed number of bits, in two's complement.
-/

set_option autoImplicit false

namespace RecordSchema.Word

/-- The least natural number that a signed word of so many bits cannot hold. -/
def bound (bits : Nat) : Nat := Nat.pow 2 (bits - 1)

/-- Does a signed word of so many bits hold an integer? -/
def holds (bits : Nat) (n : Int) : Bool := -(bound bits : Int) ≤ n && n < bound bits

end RecordSchema.Word
