import RecordSchema.Error

/-!
# Outcomes of checks

A check of a value against a rule gives the value kept and tells how close the given one was, or it
tells every mismatch, each with its place. A check can also break off, when arithmetic on the value
does.
-/

set_option autoImplicit false

namespace RecordSchema

/-- How close a value is to what a rule asks for. -/
inductive Closeness where
  | loose
  | near
  | exact
deriving DecidableEq

namespace Closeness

def rank : Closeness → Nat
  | .loose => 0
  | .near => 1
  | .exact => 2

def least (a b : Closeness) : Closeness := if a.rank ≤ b.rank then a else b

end Closeness

/-- Why a check did not succeed. -/
inductive Rejection where
  | mismatches (complaints : List Complaint)
  | broken (cause : Refusal)

/-- The value kept and how close the given one was, or why there is none. -/
abbrev Checked := Except Rejection (Value × Closeness)

namespace Check

def failed (cause : Mismatch) : Checked := .error (.mismatches [⟨cause, []⟩])

def broken (cause : Refusal) : Checked := .error (.broken cause)

/-- Mismatches, seen from one step further out. -/
def under (step : Step) (complaints : List Complaint) : List Complaint :=
  complaints.map fun c => { c with place := step :: c.place }

/-- The mismatches that a check told. -/
def complaintsOf : Checked → List Complaint
  | .error (.mismatches complaints) => complaints
  | _ => []

/-- Why a check broke off, if it did. -/
def breakOf? : Checked → Option Refusal
  | .error (.broken cause) => some cause
  | _ => none

/-- The first reason in a list of checks to break off. -/
def firstBreak? (outcomes : List Checked) : Option Refusal := outcomes.findSome? breakOf?

end Check

end RecordSchema
