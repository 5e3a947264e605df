import RecordSchema.Schema.Builder

/-!
# Settings

What the readers of documents and the command line are told: whether unknown options are refused,
which field names are accepted, how much is logged, and how descriptors are laid out. The values are
as they were given; a policy is looked up only when a block is opened.
-/

set_option autoImplicit false

namespace RecordSchema

structure Settings where
  strict : Value := .bool false
  policy : Value := .text "python"
  logLevel : Value := .text "WARNING"
  /-- The unit of indentation of descriptors; `None` asks for canonical text. -/
  indent : Value := .none

namespace Settings

/-- The policy in force; only the exact word of a policy will do. -/
def namePolicy (s : Settings) : Except Refusal NamePolicy :=
  match s.policy with
  | .text word => ((NamePolicy.ofWord? word).map Except.ok).getD (.error .badValue)
  | _ => .error .badValue

/-- A new block under these settings. -/
def openBlock (s : Settings) (name : Value) : Except Refusal Builder := do
  return Builder.new name s.strict (← s.namePolicy)

end Settings

end RecordSchema
