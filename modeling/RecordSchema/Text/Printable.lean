import RecordSchema.Text.Ranges
import RecordSchema.Text.PrintableTable

/-!
# Printable characters

The characters that stand for themselves in quoted text; all others are written as escapes.
-/

set_option autoImplicit false

namespace RecordSchema.Text

/-- Does the character stand for itself in quoted text? -/
def isPrintable (c : Char) : Bool :=
  if c.toNat < 0x80 then 0x20 ≤ c.toNat && c.toNat < 0x7F else !inClass unprintableSwitches c

end RecordSchema.Text
