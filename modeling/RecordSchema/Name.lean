import RecordSchema.Text.Identifier
import RecordSchema.Text.Casing
import RecordSchema.Text.Blank
import RecordSchema.Value.Kind

/-!
# Field names

A field name becomes an attribute and a keyword argument, so it is an identifier, no reserved word,
and no name between double underscores, which belong to the record classes themselves. The stricter
of the two policies also wants lower-case letters, digits and underscores after a lower-case letter.
-/

set_option autoImplicit false

namespace RecordSchema

open RecordSchema.Text

/-- Which field names a block accepts. -/
inductive NamePolicy where
  /-- Any identifier that is free for use. -/
  | identifier
  /-- In addition, lower-case letters, digits and underscores after a letter. -/
  | lowerSnake
deriving DecidableEq

namespace NamePolicy

def all : List NamePolicy := [.identifier, .lowerSnake]

/-- The word for a policy in settings. -/
def word : NamePolicy → String
  | .identifier => "python"
  | .lowerSnake => "lower_snake"

/-- The name of a policy among its kind. -/
def label : NamePolicy → String
  | .identifier => "PYTHON"
  | .lowerSnake => "LOWER_SNAKE"

/-- The printed form of a policy. -/
def shown (p : NamePolicy) : String := "<NamePolicy." ++ p.label ++ ": '" ++ p.word ++ "'>"

def ofWord? (word : String) : Option NamePolicy :=
  all.find? (·.word == word)

/-- The policy that a word denotes, whatever its letter case and the blanks around it. -/
def ofLooseWord? (word : String) : Option NamePolicy :=
  ofWord? (lower (trim word))

end NamePolicy

namespace FieldName

/-- The words that cannot name a field. -/
def reserved : List String :=
  ["False", "None", "True", "and", "as", "assert", "async", "await", "break", "class", "continue",
   "def", "del", "elif", "else", "except", "finally", "for", "from", "global", "if", "import", "in",
   "is", "lambda", "nonlocal", "not", "or", "pass", "raise", "return", "try", "while", "with",
   "yield"]

def isReserved (s : String) : Bool := reserved.contains s

def isSnakeChar (c : Char) : Bool := isAsciiLower c || isAsciiDigit c || c == '_'

/-- Characters of lower snake case after the first; one line feed may end them. -/
def isSnakeTail : List Char → Bool
  | [] => true
  | ['\n'] => true
  | c :: rest => isSnakeChar c && isSnakeTail rest

def isSnakeChars : List Char → Bool
  | [] => false
  | c :: rest => isAsciiLower c && isSnakeTail rest

/-- Is a text in lower snake case? A line feed at its very end is overlooked. -/
def isLowerSnake (s : String) : Bool := isSnakeChars s.toList

/-- Does a text stand between double underscores? -/
def isDunder (s : String) : Bool :=
  let cs := s.toList
  4 < cs.length && cs.take 2 == ['_', '_'] && cs.reverse.take 2 == ['_', '_']

/-- Is a text usable as a field name under a policy? -/
def isAllowed (s : String) (policy : NamePolicy) : Bool :=
  isIdentifier s && !isReserved s && !isDunder s &&
    match policy with
    | .identifier => true
    | .lowerSnake => isLowerSnake s

/-- The field name that a value is, if a policy accepts it. -/
def ofValue? (v : Value) (policy : NamePolicy) : Option String :=
  match v with
  | .text s => if isAllowed s policy then some s else none
  | _ => none

end FieldName

end RecordSchema
