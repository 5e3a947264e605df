import RecordSchema.Text.Digits
import RecordSchema.Text.Printable

/-!
# Quoted text and quoted octets

Text in messages and printed values stands between quotes: single ones, or double ones if the text
has a single quote and no double one. The quote in use and the backslash are written after a
backslash, tab, line feed and carriage return as `\t`, `\n` and `\r`, and every other character that
is not printable by its number, in two, four or eight hexadecimal digits after `\x`, `\u` or `\U`.
-/

set_option autoImplicit false

namespace RecordSchema.Text

/-- The quote to stand around characters: single unless only a double one needs no escape. -/
def quoteFor (cs : List Char) : Char :=
  if cs.contains '\'' && !cs.contains '"' then '"' else '\''

/-- A character inside quotes. -/
def quotedChar (quote c : Char) : List Char :=
  if c == quote || c == '\\' then ['\\', c]
  else if c == '\t' then ['\\', 't']
  else if c == '\n' then ['\\', 'n']
  else if c == '\r' then ['\\', 'r']
  else if isPrintable c then [c]
  else if c.toNat < 0x100 then '\\' :: 'x' :: fixedDigits 16 2 c.toNat
  else if c.toNat < 0x10000 then '\\' :: 'u' :: fixedDigits 16 4 c.toNat
  else '\\' :: 'U' :: fixedDigits 16 8 c.toNat

def quotedChars (cs : List Char) : List Char :=
  quoteFor cs :: cs.flatMap (quotedChar (quoteFor cs)) ++ [quoteFor cs]

/-- A text between quotes. -/
def quoted (s : String) : String :=
  String.ofList (quotedChars s.toList)

/-- Octets between quotes, after the letter `b`; an octet outside printable ASCII is an escape. -/
def quotedOctets (octets : List UInt8) : String :=
  let cs := octets.map fun o => Char.ofNat o.toNat
  let quote := quoteFor cs
  let one (c : Char) : List Char :=
    if c.toNat < 0x80 then quotedChar quote c else '\\' :: 'x' :: fixedDigits 16 2 c.toNat
  String.ofList ('b' :: quote :: cs.flatMap one ++ [quote])

/-- A list of texts, each quoted, between brackets. -/
def quotedList (items : List String) : String :=
  "[" ++ ", ".intercalate (items.map quoted) ++ "]"

/-- A list of texts, each quoted, between parentheses; a single one is followed by a comma. -/
def quotedTuple (items : List String) : String :=
  match items with
  | [one] => "(" ++ quoted one ++ ",)"
  | items => "(" ++ ", ".intercalate (items.map quoted) ++ ")"

end RecordSchema.Text
