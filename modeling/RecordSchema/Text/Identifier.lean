import RecordSchema.Text.Ranges
import RecordSchema.Text.IdentifierTable
import RecordSchema.Text.WordTable

/-!
# Identifiers and word characters

An identifier is a start character followed by continuation characters, by the Unicode classes
`XID_Start` and `XID_Continue` with the underscore added to the first. On ASCII the classes are
spelled out, so the common case needs no table.
-/

set_option autoImplicit false

namespace RecordSchema.Text

def isAsciiLower (c : Char) : Bool := 'a' ≤ c && c ≤ 'z'

def isAsciiUpper (c : Char) : Bool := 'A' ≤ c && c ≤ 'Z'

def isAsciiDigit (c : Char) : Bool := '0' ≤ c && c ≤ '9'

/-- May a character begin an identifier? -/
def isIdentifierStart (c : Char) : Bool :=
  isAsciiLower c || isAsciiUpper c || c == '_' || inClass identifierStartSwitches c

/-- May a character stand inside an identifier? -/
def isIdentifierContinue (c : Char) : Bool :=
  isAsciiLower c || isAsciiUpper c || isAsciiDigit c || c == '_' ||
    inClass identifierContinueSwitches c

def isIdentifierChars : List Char → Bool
  | [] => false
  | c :: rest => isIdentifierStart c && rest.all isIdentifierContinue

/-- Is the whole text one identifier? -/
def isIdentifier (s : String) : Bool :=
  isIdentifierChars s.toList

/-- Letters, numerals and the underscore. -/
def isWord (c : Char) : Bool :=
  isAsciiLower c || isAsciiUpper c || isAsciiDigit c || c == '_' || inClass wordSwitches c

end RecordSchema.Text
