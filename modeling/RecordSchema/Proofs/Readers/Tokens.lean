import RecordSchema.Proofs.Readers.Basic
import RecordSchema.Yaml.TokenStream

/-!
# Faults among YAML tokens

The tokens of a YAML text end where its fault shows, and that fault is one that a YAML text can
have: the text is malformed, or an escape in a quoted scalar stands for no character
(`Yaml.isSound_of_mem_tokens`). No reader of a token makes a fault of its own, and no step of the
stream of tokens puts one among them.
-/

set_option autoImplicit false

namespace RecordSchema.Yaml

open RecordSchema.Text

/-! ## The faults of a text -/

/-- What the rules of values refuse in a YAML text. -/
def refusals : List Refusal :=
  [.wrongKind, .badValue, .badIndex, .absentKey, .absentAttribute, .outOfRange]

/-- A fault that a YAML text can have. -/
def IsFault (e : DocumentFault) : Prop := e = .malformed ∨ ∃ cause ∈ refusals, e = .refused cause

/-- What fails has a fault of a YAML text. -/
def Sound {α : Type} (r : Except DocumentFault α) : Prop := Ensures IsFault (fun _ => True) r

section Sound

variable {α β : Type} {good : α → Prop}

theorem ensures_malformed : Ensures IsFault good malformed := Or.inl rfl

theorem ensures_malformed_bind {f : β → Except DocumentFault α} :
    Ensures IsFault good (malformed >>= f) :=
  Or.inl rfl

theorem ensures_refused {cause : Refusal} (h : cause ∈ refusals) :
    Ensures IsFault good (.error (.refused cause)) :=
  Or.inr ⟨cause, h, rfl⟩

theorem Sound.bind {r : Except DocumentFault β} {f : β → Except DocumentFault α} (hr : Sound r)
    (hf : ∀ b, Ensures IsFault good (f b)) : Ensures IsFault good (r >>= f) :=
  Ensures.bind hr fun b _ => hf b

end Sound

/-- A token that is no fault, or one of a YAML text. -/
def Token.IsSound : Token → Prop
  | .fault cause => IsFault cause
  | _ => True

/-- A reader of a token. -/
def Scans (r : Except DocumentFault (Token × Cursor)) : Prop :=
  Ensures IsFault (fun p => p.1.IsSound) r

/-! ## Readers of tokens -/

theorem sound_ignoreLine (c : Cursor) : Sound c.ignoreLine := by
  unfold Cursor.ignoreLine
  extract_lets spaces line
  split
  · trivial
  · exact ensures_malformed

theorem sound_scanWord (c : Cursor) : Sound (scanWord c) := by
  unfold scanWord
  split
  · exact ensures_malformed
  · trivial

theorem sound_scanAnchor (c : Cursor) : Sound (scanAnchor c) := by
  unfold scanAnchor
  refine (sound_scanWord c.next).bind fun p => ?_
  dsimp only
  split
  · trivial
  · exact ensures_malformed

theorem sound_scanTagHandle (c : Cursor) : Sound (scanTagHandle c) := by
  unfold scanTagHandle
  split
  · exact ensures_malformed
  split
  · trivial
  · dsimp only
    split
    · trivial
    · exact ensures_malformed

theorem sound_uriOctets (fuel : Nat) (c : Cursor) : Sound (uriOctets fuel c) := by
  induction fuel generalizing c with
  | zero => trivial
  | succ fuel ih =>
    unfold uriOctets
    split
    · split
      · exact (ih _).bind fun _ => trivial
      · exact ensures_malformed
    · trivial

theorem sound_uriChars (fuel : Nat) (c : Cursor) : Sound (uriChars fuel c) := by
  induction fuel generalizing c with
  | zero => trivial
  | succ fuel ih =>
    unfold uriChars
    split
    · refine (sound_uriOctets _ c).bind fun p => ?_
      dsimp only
      split
      · exact ensures_malformed
      · exact (ih _).bind fun _ => trivial
    split
    · exact (ih _).bind fun _ => trivial
    · trivial

theorem sound_scanUri (c : Cursor) : Sound (scanUri c) := by
  unfold scanUri
  refine (sound_uriChars _ c).bind fun p => ?_
  dsimp only
  split
  · exact ensures_malformed
  · trivial

theorem scans_scanTag (c : Cursor) : Scans (scanTag c) := by
  unfold scanTag
  -- All four ways of writing a tag end in a blank.
  have hend (handle : Option String) (suffix : String) (c : Cursor) :
      Scans (if isSpaceOrEnd c.current then .ok (Token.tag handle suffix, c) else malformed) := by
    split
    · trivial
    · exact ensures_malformed
  dsimp only
  split
  · refine (sound_scanUri _).bind fun p => ?_
    split
    · exact ensures_malformed_bind
    · exact hend _ _ _
  split
  · exact hend _ _ _
  split
  · exact (sound_scanTagHandle c).bind fun p => (sound_scanUri p.2).bind fun q => hend _ _ _
  · exact (sound_scanUri c.next).bind fun p => hend _ _ _

theorem sound_scanNumber (c : Cursor) : Sound (scanNumber c) := by
  unfold scanNumber
  split
  · exact ensures_malformed
  · trivial

theorem scans_scanDirective (c : Cursor) : Scans (scanDirective c) := by
  unfold scanDirective
  -- Nothing but a comment follows a directive on its line.
  have hend (p : Directive × Cursor) : Scans (Pure.pure p >>= fun p =>
      p.2.ignoreLine >>= fun after => Pure.pure (.directive p.1, after)) := by
    rw [pure_bind]
    exact (sound_ignoreLine p.2).bind fun _ => trivial
  refine (sound_scanWord c.next).bind fun p => ?_
  dsimp only
  split
  · exact ensures_malformed_bind
  split
  · refine (sound_scanNumber _).bind fun q => ?_
    split
    · exact ensures_malformed_bind
    · refine (sound_scanNumber _).bind fun r => ?_
      split
      · exact ensures_malformed_bind
      · apply hend
  split
  · refine (sound_scanTagHandle _).bind fun q => ?_
    split
    · exact ensures_malformed_bind
    · refine (sound_scanUri _).bind fun r => ?_
      split
      · exact ensures_malformed_bind
      · apply hend
  · apply hend

theorem sound_scanBlockHeader (c : Cursor) : Sound (scanBlockHeader c) := by
  unfold scanBlockHeader
  have hend (chomping : Chomping) (increment : Option Nat) (c : Cursor) :
      Sound (if isSpaceOrEnd c.current then .ok (chomping, increment, c) else malformed) := by
    split
    · trivial
    · exact ensures_malformed
  have hdigit (c : Cursor) : Sound (if isDigit c.current then
      if c.current == '0' then malformed else .ok (digitIn? 10 c.current, c.next)
      else .ok (none, c) : Except DocumentFault (Option Nat × Cursor)) := by
    split
    · split
      · exact ensures_malformed
      · trivial
    · trivial
  -- The sign and the digit of a header come in either order.
  dsimp only
  split
  · exact (hdigit _).bind fun p => hend _ _ _
  · refine (hdigit _).bind fun p => ?_
    split
    · exact hend _ _ _
    · exact hend _ _ _

theorem scans_scanBlockScalar (folded : Bool) (outer : Int) (c : Cursor) :
    Scans (scanBlockScalar folded outer c) := by
  unfold scanBlockScalar
  exact (sound_scanBlockHeader c.next).bind fun p => (sound_ignoreLine _).bind fun c => trivial

theorem sound_hexChar (width : Nat) (c : Cursor) : Sound (hexChar width c) := by
  unfold hexChar
  split
  · dsimp only
    split
    · exact ensures_malformed
    -- The only refusals of a token: numbers beyond all characters.
    split
    · exact ensures_refused (by decide)
    split
    · exact ensures_refused (by decide)
    · trivial
  · exact ensures_malformed

theorem sound_quotedBreaks (fuel : Nat) (c : Cursor) : Sound (quotedBreaks fuel c) := by
  induction fuel generalizing c with
  | zero => trivial
  | succ fuel ih =>
    unfold quotedBreaks
    split
    · exact ensures_malformed
    · dsimp only
      split
      · exact (ih _).bind fun _ => trivial
      · trivial

theorem sound_quotedChars (quote : Char) (fuel : Nat) (c : Cursor) :
    Sound (quotedChars quote fuel c) := by
  induction fuel generalizing c with
  | zero => exact ensures_malformed
  | succ fuel ih =>
    have hkeep (cs : List Char) (c : Cursor) :
        Sound (quotedChars quote fuel c >>= fun p => Pure.pure (cs ++ p.1, p.2)) :=
      (ih c).bind fun _ => trivial
    unfold quotedChars
    dsimp only
    split
    · exact ensures_malformed
    split
    · exact hkeep _ _
    split
    · trivial
    split
    · -- An escape: a letter, a number, or a line end.
      split
      · exact hkeep _ _
      · exact (sound_hexChar _ _).bind fun p => hkeep _ _
      · split
        · exact (sound_quotedBreaks _ _).bind fun p => hkeep _ _
        · exact ensures_malformed
    split
    · -- Blanks: within a line, or around a line end.
      split
      · exact ensures_malformed
      split
      · exact (sound_quotedBreaks _ _).bind fun p => hkeep _ _
      · exact hkeep _ _
    · exact hkeep _ _

theorem scans_scanQuoted (c : Cursor) : Scans (scanQuoted c) := by
  unfold scanQuoted
  exact (sound_quotedChars _ _ _).bind fun _ => trivial

/-! ## The stream of tokens -/

namespace TokenStream

/-- The tokens found so far are no faults but those of a YAML text. -/
def IsSound (s : TokenStream) : Prop := ∀ t ∈ s.tokens, t.IsSound

/-- A step of a stream keeps what is said of the tokens. -/
def Keeps (r : Except DocumentFault TokenStream) : Prop := Ensures IsFault IsSound r

variable {s : TokenStream}

theorem Keeps.bind {r : Except DocumentFault TokenStream}
    {f : TokenStream → Except DocumentFault TokenStream} (hr : Keeps r)
    (hf : ∀ s, s.IsSound → Keeps (f s)) : Keeps (r >>= f) :=
  Ensures.bind hr hf

theorem Keeps.ite {c : Prop} [Decidable c] {r r' : Except DocumentFault TokenStream} (hr : Keeps r)
    (hr' : Keeps r') : Keeps (if c then r else r') := by
  split
  · exact hr
  · exact hr'

theorem IsSound.push (h : s.IsSound) {t : Token} (ht : t.IsSound) : (s.push t).IsSound := by
  intro t' ht'
  rcases Array.mem_push.1 ht' with hmem | rfl
  · exact h t' hmem
  · exact ht

theorem IsSound.insert (h : s.IsSound) {t : Token} (ht : t.IsSound) (place : Nat) :
    (s.insert place t).IsSound := by
  intro t' ht'
  simp only [TokenStream.insert, Array.insertIdxIfInBounds] at ht'
  split at ht'
  · rcases Array.mem_insertIdx.1 ht' with rfl | hmem
    · exact ht
    · exact h t' hmem
  · exact h t' ht'

theorem keeps_dropStale (h : s.IsSound) : Keeps s.dropStale := by
  unfold dropStale
  dsimp only
  split
  · exact ensures_malformed
  · exact h

theorem keeps_dropPossible (h : s.IsSound) : Keeps s.dropPossible := by
  unfold dropPossible
  split
  · exact ensures_malformed
  · exact h

theorem keeps_savePossible (h : s.IsSound) : Keeps s.savePossible := by
  unfold savePossible
  split
  · exact (keeps_dropPossible h).bind fun s hs => hs
  · exact h

theorem isSound_unwind_go (h : s.IsSound) (column : Int) (outer : List Int) :
    (unwind.go column s outer).IsSound := by
  induction outer generalizing s with
  | nil => exact h
  | cons indent outer ih =>
    unfold unwind.go
    split
    · exact ih (h.push trivial)
    · exact h

theorem IsSound.unwind (h : s.IsSound) (column : Int) : (s.unwind column).IsSound := by
  unfold TokenStream.unwind
  split
  · exact h
  · exact isSound_unwind_go h column _

theorem IsSound.addIndent (h : s.IsSound) {column : Nat} {s' : TokenStream}
    (hadd : s.addIndent column = some s') : s'.IsSound := by
  unfold TokenStream.addIndent at hadd
  split at hadd
  · rw [← Option.some.inj hadd]
    exact h
  · cases hadd

theorem IsSound.skipToToken (h : s.IsSound) (fuel : Nat) : (s.skipToToken fuel).IsSound := by
  induction fuel generalizing s with
  | zero => exact h
  | succ fuel ih =>
    unfold TokenStream.skipToToken
    extract_lets spaces line
    split
    · exact h
    · exact ih h

theorem keeps_leaveBlocks (h : s.IsSound) : Keeps s.leaveBlocks :=
  (keeps_dropPossible (h.unwind (-1))).bind fun _ hs => hs

theorem keeps_fetchDirective (h : s.IsSound) : Keeps s.fetchDirective := by
  refine (keeps_leaveBlocks h).bind fun s hs => ?_
  exact Ensures.bind (scans_scanDirective s.cursor) fun p hp => hs.push hp

theorem keeps_fetchDocumentMark (h : s.IsSound) {t : Token} (ht : t.IsSound) :
    Keeps (s.fetchDocumentMark t) :=
  (keeps_leaveBlocks h).bind fun _ hs => hs.push ht

theorem keeps_fetchFlowStart (h : s.IsSound) {t : Token} (ht : t.IsSound) :
    Keeps (s.fetchFlowStart t) :=
  (keeps_savePossible h).bind fun _ hs => hs.push ht

theorem keeps_fetchFlowEnd (h : s.IsSound) {t : Token} (ht : t.IsSound) :
    Keeps (s.fetchFlowEnd t) :=
  (keeps_dropPossible h).bind fun _ hs => hs.push ht

theorem keeps_fetchFlowEntry (h : s.IsSound) : Keeps s.fetchFlowEntry :=
  (keeps_dropPossible (s := { s with keyAllowed := true }) h).bind fun _ hs => hs.push trivial

theorem keeps_beginBlock (h : s.IsSound) (start : Token) (hstart : start.IsSound) :
    Keeps (s.beginBlock start) := by
  unfold beginBlock
  split
  · exact h
  split
  · exact ensures_malformed
  · cases hadd : s.addIndent s.cursor.column with
    | none => exact h
    | some s' => exact (h.addIndent hadd).push hstart

theorem keeps_fetchBlockEntry (h : s.IsSound) : Keeps s.fetchBlockEntry := by
  refine (keeps_beginBlock h .blockSequenceStart trivial).bind fun s hs => ?_
  exact (keeps_dropPossible (s := { s with keyAllowed := true }) hs).bind fun _ hs =>
    hs.push trivial

theorem keeps_fetchKey (h : s.IsSound) : Keeps s.fetchKey := by
  refine (keeps_beginBlock h .blockMappingStart trivial).bind fun s hs => ?_
  exact (keeps_dropPossible (s := { s with keyAllowed := !s.inFlow }) hs).bind fun _ hs =>
    hs.push trivial

theorem keeps_fetchValue (h : s.IsSound) : Keeps s.fetchValue := by
  unfold fetchValue
  split
  · rename_i k hk
    extract_lets cleared keyed opened
    -- The key's mark goes to its place among the tokens, and before it the mark of a block, if any.
    have hkeyed : keyed.IsSound := by
      unfold keyed
      split
      · exact IsSound.insert (s := cleared) (t := .key) h trivial k.place
      · exact IsSound.push (s := cleared) h trivial
    have hopened : opened.IsSound := by
      unfold opened
      split
      · exact hkeyed
      · cases hadd : keyed.addIndent k.column with
        | none => exact hkeyed
        | some s' => exact (hkeyed.addIndent hadd).insert (t := .blockMappingStart) trivial k.place
    exact hopened.push trivial
  · refine (keeps_beginBlock h .blockMappingStart trivial).bind fun s hs => ?_
    exact (keeps_dropPossible (s := { s with keyAllowed := !s.inFlow }) hs).bind fun _ hs =>
      hs.push trivial

theorem keeps_fetchScanned (h : s.IsSound) {scan : Cursor → Except DocumentFault (Token × Cursor)}
    (hscan : ∀ c, Scans (scan c)) : Keeps (s.fetchScanned scan) := by
  refine (keeps_savePossible h).bind fun s hs => ?_
  exact Ensures.bind (hscan s.cursor) fun p hp => hs.push hp

theorem keeps_fetchBlockScalar (h : s.IsSound) (folded : Bool) :
    Keeps (s.fetchBlockScalar folded) := by
  refine (keeps_dropPossible (s := { s with keyAllowed := true }) h).bind fun s hs => ?_
  exact Ensures.bind (scans_scanBlockScalar folded s.indent s.cursor) fun p hp => hs.push hp

theorem keeps_fetchPlain (h : s.IsSound) : Keeps s.fetchPlain :=
  (keeps_savePossible h).bind fun _ hs => hs.push trivial

theorem scans_scanAnchor (token : String → Token) (htoken : ∀ name, (token name).IsSound)
    (c : Cursor) : Scans ((scanAnchor c).map fun p => (token p.1, p.2)) :=
  Ensures.map (sound_scanAnchor c) fun p _ => htoken p.1

/-- A step of the stream of tokens. -/
theorem keeps_fetch (h : s.IsSound) : Keeps s.fetch := by
  unfold fetch
  refine (keeps_dropStale (h.skipToToken _)).bind fun settled hsettled => ?_
  have hs := hsettled.unwind settled.cursor.column
  extract_lets s c ch gapAhead
  -- One line for each kind of token, in the order in which they are tried.
  refine .ite ((keeps_leaveBlocks hs).bind fun _ hs => hs) ?_
  refine .ite (keeps_fetchDirective hs) ?_
  refine .ite (keeps_fetchDocumentMark hs trivial) ?_
  refine .ite (keeps_fetchDocumentMark hs trivial) ?_
  refine .ite (keeps_fetchFlowStart hs trivial) ?_
  refine .ite (keeps_fetchFlowStart hs trivial) ?_
  refine .ite (keeps_fetchFlowEnd hs trivial) ?_
  refine .ite (keeps_fetchFlowEnd hs trivial) ?_
  refine .ite (keeps_fetchFlowEntry hs) ?_
  refine .ite (keeps_fetchBlockEntry hs) ?_
  refine .ite (keeps_fetchKey hs) ?_
  refine .ite (keeps_fetchValue hs) ?_
  refine .ite (keeps_fetchScanned hs (scans_scanAnchor .aliasName fun _ => trivial)) ?_
  refine .ite (keeps_fetchScanned hs (scans_scanAnchor .anchor fun _ => trivial)) ?_
  refine .ite (keeps_fetchScanned hs scans_scanTag) ?_
  refine .ite (keeps_fetchBlockScalar hs false) ?_
  refine .ite (keeps_fetchBlockScalar hs true) ?_
  refine .ite (keeps_fetchScanned hs scans_scanQuoted) ?_
  exact .ite (keeps_fetchPlain hs) ensures_malformed

/-- A run of the stream ends with a fault of a YAML text, if with any. -/
theorem isSound_of_mem_run (fuel : Nat) (h : s.IsSound) : ∀ t ∈ s.run fuel, t.IsSound := by
  induction fuel generalizing s with
  | zero => exact fun t ht => h t (Array.mem_toList_iff.1 ht)
  | succ fuel ih =>
    intro t ht
    unfold run at ht
    -- A run that fails keeps the tokens that were complete and ends with its fault.
    have hcut {n : Nat} {cause : DocumentFault} (hcause : IsFault cause)
        (ht : t ∈ s.tokens.toList.take n ++ [.fault cause]) : t.IsSound := by
      rcases List.mem_append.1 ht with hmem | hmem
      · exact h t (Array.mem_toList_iff.1 (List.mem_of_mem_take hmem))
      · rw [List.mem_singleton.1 hmem]
        exact hcause
    split at ht
    · rename_i cause hstale
      exact hcut ((keeps_dropStale h).of_eq_error hstale) ht
    · rename_i settled hsettled
      have hs := (keeps_dropStale h).of_eq_ok hsettled
      split at ht
      · rename_i cause hfetch
        exact hcut ((keeps_fetch hs).of_eq_error hfetch) ht
      · rename_i next hfetch
        have hnext := (keeps_fetch hs).of_eq_ok hfetch
        split at ht
        · exact hnext t (Array.mem_toList_iff.1 ht)
        · exact ih hnext t ht

end TokenStream

/-- The fault that the tokens of a text end with, if any, is one of a YAML text. -/
theorem isSound_of_mem_tokens (cs : List Char) : ∀ t ∈ tokens cs, t.IsSound := by
  intro t ht
  unfold tokens at ht
  split at ht
  · rw [List.mem_singleton.1 ht]
    exact Or.inl rfl
  · refine TokenStream.isSound_of_mem_run _ ?_ t ht
    exact fun t ht => absurd ht (Array.not_mem_empty t)

end RecordSchema.Yaml
