import RecordSchema.Document.Fault
import RecordSchema.Text.Digits

/-!
# Moving through YAML text

The place in a text: the characters left, how many have been read, and the line and column, counted
from zero. A column does not count byte order marks. Beyond the end every character reads as NUL,
which stands in no YAML text.
-/

set_option autoImplicit false

namespace RecordSchema.Yaml

open RecordSchema.Text

/-- A place in a text. -/
structure Cursor where
  rest : List Char
  index : Nat := 0
  line : Nat := 0
  column : Nat := 0

/-- A fault of the text itself. -/
def malformed {α : Type} : Except DocumentFault α := .error .malformed

def isBreak (c : Char) : Bool :=
  c == '\n' || c == '\r' || c == '\u0085' || c == '\u2028' || c == '\u2029'

/-- A line break or the end. -/
def isBreakOrEnd (c : Char) : Bool := c == '\x00' || isBreak c

/-- A space, a line break or the end. -/
def isSpaceOrEnd (c : Char) : Bool := c == ' ' || isBreakOrEnd c

/-- A space, a tab, a line break or the end. -/
def isGapOrEnd (c : Char) : Bool := c == '\t' || isSpaceOrEnd c

/-- Characters of anchors, directive names and tag handles. -/
def isWordChar (c : Char) : Bool :=
  ('0' ≤ c && c ≤ '9') || ('A' ≤ c && c ≤ 'Z') || ('a' ≤ c && c ≤ 'z') || c == '-' || c == '_'

def isDigit (c : Char) : Bool := '0' ≤ c && c ≤ '9'

def isOneOf (s : String) (c : Char) : Bool := s.toList.contains c

namespace Cursor

/-- The character `n` places ahead. -/
def peek (c : Cursor) (n : Nat) : Char := c.rest.getD n '\x00'

def current (c : Cursor) : Char := c.peek 0

def atEnd (c : Cursor) : Bool := c.rest.isEmpty

/-- The place after one character. -/
def next (c : Cursor) : Cursor :=
  match c.rest with
  | [] => c
  | ch :: rest =>
    if ch == '\n' || ch == '\u0085' || ch == '\u2028' || ch == '\u2029' ||
        (ch == '\r' && rest.head? != some '\n') then
      ⟨rest, c.index + 1, c.line + 1, 0⟩
    else ⟨rest, c.index + 1, c.line, if ch == '\uFEFF' then c.column else c.column + 1⟩

/-- The place after `n` characters. -/
def forward (c : Cursor) : Nat → Cursor
  | 0 => c
  | n + 1 => c.next.forward n

/-- The characters from here on that satisfy a condition. -/
def spanned (c : Cursor) (p : Char → Bool) : List Char := c.rest.takeWhile p

/-- The place after the characters that satisfy a condition. -/
def skip (c : Cursor) (p : Char → Bool) : Cursor := c.forward (c.spanned p).length

def skipSpaces (c : Cursor) : Cursor := c.skip (· == ' ')

/-- The place at the end of the line. -/
def skipLine (c : Cursor) : Cursor := c.skip fun ch => !isBreakOrEnd ch

/-- The line break here as it is kept, and the place after it; nothing if there is none. -/
def lineBreak (c : Cursor) : List Char × Cursor :=
  match c.rest with
  | '\r' :: '\n' :: _ => (['\n'], c.forward 2)
  | ch :: _ =>
    if ch == '\n' || ch == '\r' || ch == '\u0085' then (['\n'], c.next)
    else if ch == '\u2028' || ch == '\u2029' then ([ch], c.next)
    else ([], c)
  | [] => ([], c)

/-- Do three equal marks stand here, with a gap after them? -/
def threeMarks (c : Cursor) (mark : Char) : Bool :=
  c.peek 0 == mark && c.peek 1 == mark && c.peek 2 == mark && isGapOrEnd (c.peek 3)

/-- Does a mark that begins or ends a document stand here? -/
def documentMark (c : Cursor) : Bool := c.threeMarks '-' || c.threeMarks '.'

/-- Skips a comment, if one follows the spaces here, to the end of its line, and the break there. -/
def ignoreLine (c : Cursor) : Except DocumentFault Cursor :=
  let c := c.skipSpaces
  let c := if c.current == '#' then c.skipLine else c
  if isBreakOrEnd c.current then .ok c.lineBreak.2 else malformed

end Cursor

end RecordSchema.Yaml
