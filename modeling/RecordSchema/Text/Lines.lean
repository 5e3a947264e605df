/-!
# Line ends

Text files end their lines with a line feed, a carriage return, or both. Readers that tell lines
apart see a line feed each time.
-/

set_option autoImplicit false

namespace RecordSchema.Text

/-- The text with every line end as a single line feed. -/
def unifyLines : List Char → List Char
  | '\r' :: '\n' :: rest => '\n' :: unifyLines rest
  | '\r' :: rest => '\n' :: unifyLines rest
  | c :: rest => c :: unifyLines rest
  | [] => []

end RecordSchema.Text
