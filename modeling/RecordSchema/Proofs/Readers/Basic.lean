import RecordSchema.Number.Numeral
import RecordSchema.Proofs.Report
import RecordSchema.Text.Lines
import Mathlib.Data.List.Infix

/-!
# Readers

A reader takes a value from the front of a text and leaves the rest, or finds a fault. What is
proved of readers has two sides: what they leave is an end of the text, and the faults that they
find are among those that the text may have (`Faults.Reads`). Both are kept when one reader goes on
where another one stopped (`Faults.Reads.bind`).

A text has an overlong number if a run of its digits and underscores has more digits than an integer
is read from (`HasLongNumber`).
-/

set_option autoImplicit false

namespace RecordSchema

/-! ## Outcomes -/

/-- Something comes to a value of a good kind or to a fault of an admissible one. -/
def Ensures {ε α : Type} (fault : ε → Prop) (good : α → Prop) : Except ε α → Prop
  | .ok a => good a
  | .error e => fault e

namespace Ensures

variable {ε α β : Type} {fault fault' : ε → Prop} {good good' : α → Prop} {next : β → Prop}

@[simp] theorem ok_iff (a : α) : Ensures fault good (.ok a) ↔ good a := Iff.rfl

@[simp] theorem pure_iff (a : α) : Ensures fault good (Pure.pure a) ↔ good a := Iff.rfl

@[simp] theorem error_iff (e : ε) : Ensures fault good (.error e : Except ε α) ↔ fault e := Iff.rfl

theorem mono {r : Except ε α} (h : Ensures fault good r) (hfault : ∀ e, fault e → fault' e)
    (hgood : ∀ a, good a → good' a) : Ensures fault' good' r := by
  cases r with
  | ok a => exact hgood a h
  | error e => exact hfault e h

theorem bind {r : Except ε α} {f : α → Except ε β} (hr : Ensures fault good r)
    (hf : ∀ a, good a → Ensures fault next (f a)) : Ensures fault next (r >>= f) := by
  cases r with
  | ok a => exact hf a hr
  | error e => exact hr

theorem map {r : Except ε α} {f : α → β} (hr : Ensures fault good r)
    (hf : ∀ a, good a → next (f a)) : Ensures fault next (r.map f) := by
  cases r with
  | ok a => exact hf a hr
  | error e => exact hr

theorem of_eq_ok {r : Except ε α} (h : Ensures fault good r) {a : α} (ha : r = .ok a) : good a := by
  rw [ha] at h
  exact h

theorem of_eq_error {r : Except ε α} (h : Ensures fault good r) {e : ε} (he : r = .error e) :
    fault e := by
  rw [he] at h
  exact h

/-- One after another, each keeping what the next one needs. -/
theorem foldlM {xs : List β} {f : α → β → Except ε α} {a : α} (ha : good a)
    (hf : ∀ a, good a → ∀ x ∈ xs, Ensures fault good (f a x)) :
    Ensures fault good (xs.foldlM f a) := by
  induction xs generalizing a with
  | nil => exact ha
  | cons x xs ih =>
    rw [List.foldlM_cons]
    refine (hf a ha x List.mem_cons_self).bind fun b hb => ih hb ?_
    exact fun c hc y hy => hf c hc y (List.mem_cons_of_mem x hy)

theorem mapM {xs : List β} {f : β → Except ε α} (hf : ∀ x ∈ xs, Ensures fault good (f x)) :
    Ensures fault (fun as : List α => ∀ a ∈ as, good a) (xs.mapM f) := by
  induction xs with
  | nil => simp
  | cons x xs ih =>
    rw [List.mapM_cons]
    refine (hf x List.mem_cons_self).bind fun a ha => ?_
    refine (ih fun y hy => hf y (List.mem_cons_of_mem x hy)).bind fun as has => ?_
    exact List.forall_mem_cons.2 ⟨ha, has⟩

end Ensures

/-! ## Readers of texts -/

/-- The faults that a text may have: those of an end of it are among them. -/
structure Faults (ε : Type) where
  inText : List Char → ε → Prop
  mono : ∀ {cs rest : List Char} {e : ε}, rest <:+ cs → inText rest e → inText cs e

namespace Faults

variable {ε α β : Type} (F : Faults ε)

/-- What a reader makes of a text: it leaves an end of the text, or finds a fault that the text may
have. -/
def Reads (cs : List Char) (r : Except ε (α × List Char)) : Prop :=
  Ensures (F.inText cs) (fun p => p.2 <:+ cs) r

variable {F} {cs rest : List Char}

theorem Reads.ok {a : α} (h : rest <:+ cs) : F.Reads cs (.ok (a, rest)) := h

theorem Reads.mono {r : Except ε (α × List Char)} (hrest : rest <:+ cs) (h : F.Reads rest r) :
    F.Reads cs r :=
  Ensures.mono h (fun _ => F.mono hrest) fun _ hp => hp.trans hrest

/-- A reader goes on where another one stopped. -/
theorem Reads.bind {r : Except ε (α × List Char)} {f : α × List Char → Except ε (β × List Char)}
    (hr : F.Reads cs r) (hf : ∀ a rest, rest <:+ cs → F.Reads rest (f (a, rest))) :
    F.Reads cs (r >>= f) :=
  Ensures.bind hr fun p hp => (hf p.1 p.2 hp).mono hp

end Faults

theorem suffix_of_cons_suffix {α : Type} {a : α} {l l' : List α} (h : a :: l <:+ l') : l <:+ l' :=
  (List.suffix_cons a l).trans h

/-! ## Overlong numbers -/

theorem suffix_takeSign (cs : List Char) : (Numeral.takeSign cs).2 <:+ cs := by
  unfold Numeral.takeSign
  split
  · exact List.suffix_cons _ _
  · exact List.suffix_cons _ _
  · exact List.suffix_refl _

theorem suffix_takeDigits (digit : Char → Option Nat) (cs : List Char) :
    (Numeral.takeDigits digit cs).2 <:+ cs := by
  fun_induction Numeral.takeDigits digit cs with
  | case1 => exact List.suffix_refl _
  | case2 c rest hc => exact List.suffix_refl _
  | case3 c d hc tail hnext ds after htail ih =>
    rw [htail] at ih
    exact ih.trans (List.suffix_append [c, '_'] tail)
  | case4 c d hc tail hnext => exact List.suffix_cons c _
  | case5 c d hc rest hrest ds after htail ih =>
    rw [htail] at ih
    exact ih.trans (List.suffix_cons c rest)

section LongNumbers

open Text

/-- Is a character an ASCII digit? -/
def isDecimal (c : Char) : Bool := (digitIn? 10 c).isSome

/-- A run of digits and underscores, with the number of its digits. -/
inductive DigitRun : List Char → Nat → Prop where
  | nil : DigitRun [] 0
  | digit {c : Char} {run : List Char} {n : Nat} (isDigit : isDecimal c = true)
      (rest : DigitRun run n) : DigitRun (c :: run) (n + 1)
  | underscore {run : List Char} {n : Nat} (rest : DigitRun run n) : DigitRun ('_' :: run) n

theorem DigitRun.newline_notMem {run : List Char} {n : Nat} (h : DigitRun run n) : '\n' ∉ run := by
  induction h with
  | nil => simp
  | digit isDigit rest ih =>
    intro hmem
    rcases List.mem_cons.1 hmem with rfl | hmem
    · exact absurd isDigit (by decide)
    · exact ih hmem
  | underscore rest ih =>
    intro hmem
    rcases List.mem_cons.1 hmem with hne | hmem
    · exact absurd hne (by decide)
    · exact ih hmem

theorem digitRun_of_forall {run : List Char} (h : ∀ c ∈ run, isDecimal c = true) :
    DigitRun run run.length := by
  induction run with
  | nil => exact .nil
  | cons c run ih =>
    exact .digit (h c List.mem_cons_self) (ih fun d hd => h d (List.mem_cons_of_mem c hd))

/-- A text has a run with more digits than an integer may have. -/
def HasLongNumber (cs : List Char) : Prop :=
  ∃ run n, run <:+: cs ∧ DigitRun run n ∧ Numeral.maxDigits < n

theorem HasLongNumber.mono {cs cs' : List Char} (h : HasLongNumber cs) (hcs : cs <:+: cs') :
    HasLongNumber cs' := by
  obtain ⟨run, n, hrun, hlong⟩ := h
  exact ⟨run, n, hrun.trans hcs, hlong⟩

/-- The digits that a text begins with make a run of it. -/
theorem exists_run_of_takeDigits (cs : List Char) :
    ∃ run, run ++ (Numeral.takeDigits (digitIn? 10) cs).2 = cs ∧
      DigitRun run (Numeral.takeDigits (digitIn? 10) cs).1.length := by
  fun_induction Numeral.takeDigits (digitIn? 10) cs with
  | case1 => exact ⟨[], rfl, .nil⟩
  | case2 c rest hc => exact ⟨[], rfl, .nil⟩
  | case3 c d hc tail hnext ds after htail ih =>
    obtain ⟨run, hrun, hdigits⟩ := ih
    rw [htail] at hrun hdigits
    -- The underscore between two digits is of the run.
    refine ⟨c :: '_' :: run, congrArg (c :: '_' :: ·) hrun, .digit ?_ (.underscore hdigits)⟩
    rw [isDecimal, hc, Option.isSome_some]
  | case4 c d hc tail hnext =>
    refine ⟨[c], rfl, .digit ?_ .nil⟩
    rw [isDecimal, hc, Option.isSome_some]
  | case5 c d hc rest hrest ds after htail ih =>
    obtain ⟨run, hrun, hdigits⟩ := ih
    rw [htail] at hrun hdigits
    refine ⟨c :: run, congrArg (c :: ·) hrun, .digit ?_ hdigits⟩
    rw [isDecimal, hc, Option.isSome_some]

theorem hasLongNumber_of_takeDigits {cs : List Char}
    (h : Numeral.maxDigits < (Numeral.takeDigits (digitIn? 10) cs).1.length) :
    HasLongNumber cs := by
  obtain ⟨run, hrun, hdigits⟩ := exists_run_of_takeDigits cs
  exact ⟨run, _, ⟨[], _, hrun⟩, hdigits, h⟩

/-- A text and the same text with single line feeds for its line ends. -/
inductive LinesUnified : List Char → List Char → Prop where
  | nil : LinesUnified [] []
  | keep {cs us : List Char} (c : Char) (rest : LinesUnified cs us) :
      LinesUnified (c :: cs) (c :: us)
  | lineEnd {cs us : List Char} (ending : List Char) (rest : LinesUnified cs us) :
      LinesUnified (ending ++ cs) ('\n' :: us)

theorem linesUnified_unifyLines (cs : List Char) : LinesUnified cs (unifyLines cs) := by
  fun_induction unifyLines cs with
  | case1 rest ih => exact .lineEnd ['\r', '\n'] ih
  | case2 rest hrest ih => exact .lineEnd ['\r'] ih
  | case3 c rest hc hc' ih => exact .keep c ih
  | case4 => exact .nil

namespace LinesUnified

variable {cs us run : List Char}

theorem run_at_front (h : LinesUnified cs us) (hrun : '\n' ∉ run) (hfront : run <+: us) :
    run <+: cs := by
  induction h generalizing run with
  | nil => exact hfront
  | keep c rest ih =>
    rcases List.prefix_cons_iff.1 hfront with rfl | ⟨tail, rfl, htail⟩
    · exact List.nil_prefix
    · exact List.prefix_cons_inj c |>.2 (ih (fun h => hrun (List.mem_cons_of_mem c h)) htail)
  | lineEnd ending rest ih =>
    -- Nothing but the empty run begins at a line end.
    rcases List.prefix_cons_iff.1 hfront with rfl | ⟨tail, rfl, -⟩
    · exact List.nil_prefix
    · exact absurd List.mem_cons_self hrun

theorem run_within (h : LinesUnified cs us) (hrun : '\n' ∉ run) (hwithin : run <:+: us) :
    run <:+: cs := by
  induction h with
  | nil => exact hwithin
  | keep c rest ih =>
    -- A run that lies within the text begins at its front or lies within the rest.
    rcases List.infix_cons_iff.1 hwithin with hfront | hwithin
    · exact ((rest.keep c).run_at_front hrun hfront).isInfix
    · exact (ih hwithin).trans (List.suffix_cons c _).isInfix
  | lineEnd ending rest ih =>
    rcases List.infix_cons_iff.1 hwithin with hfront | hwithin
    · exact ((rest.lineEnd ending).run_at_front hrun hfront).isInfix
    · exact (ih hwithin).trans (List.suffix_append ending _).isInfix

/-- Line ends are no part of a number. -/
theorem hasLongNumber (h : LinesUnified cs us) (hlong : HasLongNumber us) : HasLongNumber cs := by
  obtain ⟨run, n, hrun, hdigits, hn⟩ := hlong
  exact ⟨run, n, h.run_within hdigits.newline_notMem hrun, hdigits, hn⟩

end LinesUnified

end LongNumbers

end RecordSchema
