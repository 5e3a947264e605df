/-!
# UTF-8

Characters as octets and back. Decoding is strict: no overlong form, no surrogate, nothing beyond
`U+10FFFF`, no octet out of place.

A text is a sequence of characters. The two halves of a surrogate pair are numbers that no character
has, so a text with half of a pair in it is not among them.
-/

set_option autoImplicit false

namespace RecordSchema.Text

/-! ## Surrogate pairs -/

def isHighSurrogate (n : Nat) : Bool := 0xD800 ≤ n && n ≤ 0xDBFF

def isLowSurrogate (n : Nat) : Bool := 0xDC00 ≤ n && n ≤ 0xDFFF

/-- The character with a number. Half of a pair on its own has none, and the replacement character
stands for it. -/
def unitChar (n : Nat) : Char :=
  if isHighSurrogate n || isLowSurrogate n then '\uFFFD' else Char.ofNat n

/-! ## Octets -/

namespace Utf8

/-- The octets of a list of characters. -/
def encode (cs : List Char) : List UInt8 :=
  cs.flatMap String.utf8EncodeChar

/-- The octets of a text. -/
def encodeText (s : String) : List UInt8 :=
  encode s.toList

/-- The low six bits of an octet between `low` and `high`, which are the limits of
a continuation. -/
def continuation? (low high : UInt8) (o : UInt8) : Option Nat :=
  if low ≤ o && o ≤ high then some (o.toNat % 64) else none

/-- Adds the six bits of one continuation. -/
def join (n : Nat) (bits : Nat) : Nat := n * 64 + bits

/-- The characters that octets encode, if they do. -/
def decode? : List UInt8 → Option (List Char)
  | [] => some []
  | o :: rest =>
    if o < 0x80 then (decode? rest).map (Char.ofNat o.toNat :: ·)
    else if 0xC2 ≤ o && o ≤ 0xDF then
      match rest with
      | a :: rest => do
        let a ← continuation? 0x80 0xBF a
        let tail ← decode? rest
        some (Char.ofNat (join (o.toNat % 32) a) :: tail)
      | _ => none
    else if 0xE0 ≤ o && o ≤ 0xEF then
      match rest with
      | a :: b :: rest => do
        let low : UInt8 := if o == 0xE0 then 0xA0 else 0x80
        let high : UInt8 := if o == 0xED then 0x9F else 0xBF
        let a ← continuation? low high a
        let b ← continuation? 0x80 0xBF b
        let tail ← decode? rest
        some (Char.ofNat (join (join (o.toNat % 16) a) b) :: tail)
      | _ => none
    else if 0xF0 ≤ o && o ≤ 0xF4 then
      match rest with
      | a :: b :: c :: rest => do
        let low : UInt8 := if o == 0xF0 then 0x90 else 0x80
        let high : UInt8 := if o == 0xF4 then 0x8F else 0xBF
        let a ← continuation? low high a
        let b ← continuation? 0x80 0xBF b
        let c ← continuation? 0x80 0xBF c
        let tail ← decode? rest
        some (Char.ofNat (join (join (join (o.toNat % 8) a) b) c) :: tail)
      | _ => none
    else none

/-- The text that octets encode, if they do. -/
def decodeText? (octets : List UInt8) : Option String :=
  (decode? octets).map String.ofList

end Utf8

end RecordSchema.Text
