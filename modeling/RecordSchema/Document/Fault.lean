import RecordSchema.Error

/-!
# Faults of documents

Why the text of a document could not be read: it is not of its format, or one of its scalars was
refused by the rules of values.
-/

set_option autoImplicit false

namespace RecordSchema

/-- Why a document could not be read. -/
inductive DocumentFault where
  | malformed
  | refused (cause : Refusal)
deriving DecidableEq

/-- What stands for the words of a reader whose faults are not told in detail. -/
def DocumentFault.untold : String := "..."

end RecordSchema
