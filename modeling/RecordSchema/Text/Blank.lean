/-!
# Blanks

The characters that count as white space throughout this library, and the text left when they are
taken off both ends. The set is that of Unicode's bidirectional classes WS, B and S together with
the separators: the control characters `U+0009` to `U+000D` and `U+001C` to `U+001F`, the space,
`U+0085`, and the space separators.
-/

set_option autoImplicit false

namespace RecordSchema.Text

/-- White space. -/
def isBlank (c : Char) : Bool :=
  let n := c.toNat
  (0x09 ≤ n && n ≤ 0x0D) || (0x1C ≤ n && n ≤ 0x20) || n == 0x85 || n == 0xA0 || n == 0x1680 ||
    (0x2000 ≤ n && n ≤ 0x200A) || n == 0x2028 || n == 0x2029 || n == 0x202F || n == 0x205F ||
    n == 0x3000

/-- The blanks that may stand around a number: all but the separators of ASCII. -/
def isSpacing (c : Char) : Bool :=
  isBlank c && !(0x1C ≤ c.toNat && c.toNat ≤ 0x1F)

/-- The characters left when the blanks around a number are dropped. -/
def trimSpacing (cs : List Char) : List Char :=
  ((cs.dropWhile isSpacing).reverse.dropWhile isSpacing).reverse

/-- The characters left when blanks are dropped from the end. -/
def trimEnd (cs : List Char) : List Char :=
  (cs.reverse.dropWhile isBlank).reverse

/-- The characters left when blanks are dropped from both ends. -/
def trimChars (cs : List Char) : List Char :=
  trimEnd (cs.dropWhile isBlank)

/-- A text without the blanks at its ends. -/
def trim (s : String) : String :=
  String.ofList (trimChars s.toList)

end RecordSchema.Text
