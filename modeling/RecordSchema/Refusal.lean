/-!
# Refusals

What the rules of values themselves refuse: operations on the wrong kind of value, absent keys and
attributes, numbers out of range. A refusal is told by its cause alone.
-/

set_option autoImplicit false

namespace RecordSchema

/-- Refusals by the rules of values, without words. -/
inductive Refusal where
  /-- A value of a kind that the operation does not take. -/
  | wrongKind
  /-- A value of the right kind that is not acceptable. -/
  | badValue
  /-- A place beyond the end of a sequence. -/
  | badIndex
  /-- A key that a mapping does not have. -/
  | absentKey
  /-- An attribute that an object does not have. -/
  | absentAttribute
  /-- A number too large for its destination. -/
  | outOfRange
  /-- An operation on decimals that no number is the result of. -/
  | invalidOperation
  /-- A decimal beyond the range of its arithmetic. -/
  | decimalOverflow
  /-- An annotation in text that is no expression. -/
  | badSyntax
  /-- Octets that encode no text. -/
  | undecodable
  /-- A path that no file can have. -/
  | unusablePath
  /-- An attribute that cannot be assigned. -/
  | frozen
  /-- A body that broke off on its own. -/
  | interrupted
  /-- A name in a session that stands for nothing. -/
  | unboundName
  /-- Columns of different lengths. -/
  | unevenColumns
  /-- Two columns of one name. -/
  | repeatedColumn
  /-- A name that a validating model keeps for itself. -/
  | reservedName
  /-- A field of a validating model whose default is its type itself. -/
  | defaultIsType
  /-- A validating model one of whose types is not known yet. -/
  | undefinedModel
  /-- A validating model with an unknown rule for extra fields. -/
  | unknownModelRule
  /-- A type that validating models do not know. -/
  | unsupportedModelType
deriving DecidableEq

end RecordSchema
