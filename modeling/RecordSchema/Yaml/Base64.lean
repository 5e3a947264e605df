import RecordSchema.Document.Fault

/-!
# Base 64

Octets from letters of the base-64 alphabet. Other characters are passed over; padding that
completes a group of four ends the data, and a group that stays incomplete is a fault.
-/

set_option autoImplicit false

namespace RecordSchema.Yaml.Base64

/-- The six bits of a letter. -/
def sextet? (c : Char) : Option Nat :=
  if 'A' ≤ c && c ≤ 'Z' then some (c.toNat - 65)
  else if 'a' ≤ c && c ≤ 'z' then some (c.toNat - 71)
  else if '0' ≤ c && c ≤ '9' then some (c.toNat + 4)
  else if c == '+' then some 62
  else if c == '/' then some 63
  else none

/-- Decodes the characters left, `place` letters into a group, with the bits left over from the last
letter and the number of padding marks since. -/
def decodeFrom (place left pads : Nat) : List Char → Option (List UInt8)
  | [] => if place == 0 then some [] else none
  | c :: rest =>
    if c == '=' then
      if 2 ≤ place && 4 ≤ place + pads + 1 then some []
      else decodeFrom place left (if 2 ≤ place then pads + 1 else pads) rest
    else
      match sextet? c with
      | none => decodeFrom place left pads rest
      | some bits =>
        match place with
        | 0 => decodeFrom 1 bits 0 rest
        | 1 => (decodeFrom 2 (bits % 16) 0 rest).map (UInt8.ofNat (left * 4 + bits / 16) :: ·)
        | 2 => (decodeFrom 3 (bits % 4) 0 rest).map (UInt8.ofNat (left * 16 + bits / 4) :: ·)
        | _ => (decodeFrom 0 0 0 rest).map (UInt8.ofNat (left * 64 + bits) :: ·)

/-- The octets that a text stands for, if its groups are complete. -/
def decode? (cs : List Char) : Option (List UInt8) := decodeFrom 0 0 0 cs

end RecordSchema.Yaml.Base64
