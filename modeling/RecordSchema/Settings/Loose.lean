import RecordSchema.Settings.Basic
import RecordSchema.Value.Conversion

/-!
# Settings from loose values

A mapping of settings comes from a file or from the environment and can hold anything. Each of the
four settings is taken from it on its own: a value that says something replaces the setting, any
other value leaves it as it is. A truth value is read into whatever stands for strictness.
-/

set_option autoImplicit false

namespace RecordSchema.Settings

open RecordSchema.Text Value

/-- The words that mean yes. -/
def affirmative : List String := ["1", "true", "t", "yes", "y", "on"]

/-- The truth value that a value denotes: numbers are true unless zero, texts if they mean yes. -/
def flag : Value → Bool
  | .bool b => b
  | .int n => n != 0
  | .real x => !x.isZero
  | .text s => affirmative.contains (lower (trim s))
  | _ => false

/-- A policy by its word. -/
def policyFrom (given : Value) : Option Value :=
  match given with
  | .text s => (NamePolicy.ofLooseWord? s).map fun p => .text p.word
  | _ => Option.none

/-- A level by its word. -/
def levelFrom (given : Value) : Option Value :=
  match given with
  | .text s => (Level.ofWord? (upper (trim s))).map fun level => .text level.word
  | _ => Option.none

/-- Does a value ask for no indentation? -/
def isUnset : Value → Bool
  | .none => true
  | .text s => trim s == "" || lower (trim s) == "none"
  | _ => false

/-- An indentation: none, or a whole number. Infinities are refused. -/
def indentFrom (given : Value) : Except Refusal (Option Value) :=
  if isUnset given then .ok (some .none)
  else
    match given.toInteger with
    | .ok n => .ok (some (.int n))
    | .error .wrongKind => .ok Option.none
    | .error .badValue => .ok Option.none
    | .error cause => .error cause

/-- The settings with those of a mapping in their place. -/
def applyEntries (s : Settings) (entries : List (Value × Value)) : Except Refusal Settings := do
  let indent ←
    match lookupText "descriptor_indent" entries with
    | some given => indentFrom given
    | Option.none => pure Option.none
  return {
    strict := ((lookupText "strict_options" entries).map fun v => .bool (flag v)).getD s.strict
    policy := ((lookupText "name_policy" entries).bind policyFrom).getD s.policy
    logLevel := ((lookupText "log_level" entries).bind levelFrom).getD s.logLevel
    indent := indent.getD s.indent }

/-- The settings with those that a value gives; only a mapping gives any. -/
def apply (s : Settings) : Value → Except Refusal Settings
  | .mapping entries => s.applyEntries entries
  | _ => .ok s

end RecordSchema.Settings
