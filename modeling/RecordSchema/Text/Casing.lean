/-!
# Letter case for comparison with ASCII words

Words such as the names of policies and levels are recognised whatever their letter case. What is
compared is always an ASCII word, so only the case mappings with an ASCII result matter; a character
without one is kept, and it can match no such word.
-/

set_option autoImplicit false

namespace RecordSchema.Text

/-- The lower-case form of a character if that form is ASCII, else the character. -/
def lowerChar (c : Char) : Char :=
  if c == '\u212A' then 'k' else c.toLower

/-- The upper-case form of a character if that form is ASCII, else the character. -/
def upperChar (c : Char) : List Char :=
  match c with
  | '\u00DF' => ['S', 'S']
  | '\u0131' => ['I']
  | '\u017F' => ['S']
  | '\uFB00' => ['F', 'F']
  | '\uFB01' => ['F', 'I']
  | '\uFB02' => ['F', 'L']
  | '\uFB03' => ['F', 'F', 'I']
  | '\uFB04' => ['F', 'F', 'L']
  | '\uFB05' => ['S', 'T']
  | '\uFB06' => ['S', 'T']
  | c => [c.toUpper]

def lower (s : String) : String :=
  String.ofList (s.toList.map lowerChar)

def upper (s : String) : String :=
  String.ofList (s.toList.flatMap upperChar)

end RecordSchema.Text
