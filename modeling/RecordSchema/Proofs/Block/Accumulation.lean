import RecordSchema.Proofs.Block.Collection

/-!
# What an accumulator remembers

An accumulator keeps the fields it was given, their names, the names of the enforced ones and
whether it was ended. All four follow from the calls that were made on it, in whatever order they
came: the fields are those given before the first end (`Accumulator.entries`), and the others go by
them (`Accumulator.Remembers`, which every call keeps). So the calls made so far tell what the next
one comes to, before the end (`Accumulator.Grows`) and after it (`Accumulator.Rests`); the whole is
`Accumulator.accumulation`.

A field can be given that does not tell whether it is enforced. It is refused, but only when it is
there already: giving a field adds it in any case (`Accumulator.refused_field_stays`).
-/

set_option autoImplicit false

namespace RecordSchema

/-- Is a field noted as required? It has to tell that it is enforced. -/
def Field.isNoted (f : Field) : Bool := f.enforced.hasTruth && f.isEnforced

theorem Field.isNoted_iff {f : Field} : f.isNoted = true ↔ f.enforced.truth = .ok true := by
  unfold isNoted isEnforced Value.truth
  cases f.enforced.hasTruth with
  | true => simp
  | false => simp

namespace Accumulator

/-! ## Calls -/

/-- A call on an accumulator. -/
inductive Call where
  | append (f : Field)
  | finalize
  | fields
  | required
  | emit

/-- What a call gives if it does not fail. -/
inductive Given where
  | field (f : Field)
  | fields (fields : List Field)
  | names (names : List String)
  | schema (s : Schema)

namespace Call

def isEnd : Call → Bool
  | finalize => true
  | _ => false

/-- The field that a call brings. -/
def field? : Call → Option Field
  | append f => some f
  | _ => none

/-- Does a call only ask for what was accumulated? -/
def isQuestion : Call → Bool
  | fields | required | emit => true
  | append _ | finalize => false

theorem isEnd_of_isQuestion {c : Call} (h : c.isQuestion = true) : c.isEnd = false := by
  cases c with
  | fields | required | emit => rfl
  | append _ | finalize => cases h

theorem field?_of_isQuestion {c : Call} (h : c.isQuestion = true) : c.field? = none := by
  cases c with
  | fields | required | emit => rfl
  | append _ | finalize => cases h

end Call

/-- The accumulator after a call, and what the call comes to. -/
def call (a : Accumulator) : Call → Accumulator × Except Error Given
  | .append f => ((a.append f).1, (a.append f).2.result.map .field)
  | .finalize =>
    match a.finalize.result with
    | .ok ended => (ended, .ok (.fields ended.fields))
    | .error e => (a, .error e)
  | .fields => (a, a.finalFields.map .fields)
  | .required => (a, a.finalRequired.map .names)
  | .emit => (a, a.emit.map .schema)

/-- What a call comes to. -/
def reply (a : Accumulator) (c : Call) : Except Error Given := (a.call c).2

/-- The accumulator after calls, whatever they come to. -/
def after (a : Accumulator) (calls : List Call) : Accumulator :=
  calls.foldl (fun a c => (a.call c).1) a

theorem after_concat (a : Accumulator) (calls : List Call) (c : Call) :
    a.after (calls ++ [c]) = ((a.after calls).call c).1 := by
  rw [after, List.foldl_concat]
  rfl

/-! ## The rules -/

/-- The accumulator with one more field, noted as required if it tells that it is. -/
def grown (a : Accumulator) (f : Field) : Accumulator :=
  { a with
    fields := a.fields ++ [f]
    names := a.names ++ [f.name]
    required := a.required ++ if f.isNoted then [f.name] else [] }

theorem push_eq_grown {a : Accumulator} {f : Field} (told : f.enforced.hasTruth = true) :
    a.push f = a.grown f := by
  rw [push, grown, Field.isNoted, told, Bool.true_and]
  cases f.isEnforced with
  | true => rfl
  | false => rw [if_neg Bool.false_ne_true, if_neg Bool.false_ne_true, List.append_nil]

theorem pushSpared_eq_grown {a : Accumulator} {f : Field} (untold : f.enforced.hasTruth = false) :
    a.pushSpared f = a.grown f := by
  rw [pushSpared, grown, Field.isNoted, untold, Bool.false_and, if_neg Bool.false_ne_true,
    List.append_nil]

/-- A field that does not tell whether it is enforced is added and refused. -/
theorem append_of_untold {a : Accumulator} {f : Field} (going : a.finalized = false)
    (untold : f.enforced.hasTruth = false) :
    (a.append f).1 = a.grown f ∧ (a.append f).2.result = .error (.refused .wrongKind) := by
  rw [← pushSpared_eq_grown untold, append, going, Value.truth, untold]
  exact ⟨rfl, rfl⟩

/-- All that a call on an accumulator can do: the accumulator after it, and what it comes to. -/
inductive Step (a : Accumulator) : Call → Accumulator → Except Error Given → Prop where
  /-- Before the end a field is added. -/
  | add {f : Field} (going : a.finalized = false) (told : f.enforced.hasTruth = true) :
      Step a (.append f) (a.grown f) (.ok (.field f))
  /-- A field that does not tell whether it is enforced is added, and then refused. -/
  | stick {f : Field} (going : a.finalized = false) (untold : f.enforced.hasTruth = false) :
      Step a (.append f) (a.grown f) (.error (.refused .wrongKind))
  /-- After the end no field is added. -/
  | late {f : Field} (ended : a.finalized = true) :
      Step a (.append f) a (.error (Error.appendAfterFinalize a.name f.name).raised)
  /-- The first end gives the fields. -/
  | finish (going : a.finalized = false) : Step a .finalize a.ended (.ok (.fields a.fields))
  /-- There is no second end. -/
  | again (ended : a.finalized = true) :
      Step a .finalize a (.error (Error.finalizeTwice a.name).raised)
  /-- Before the end no question is answered. -/
  | early {c : Call} (going : a.finalized = false) (question : c.isQuestion = true) :
      Step a c a (.error (Error.emitWhileOpen a.name).raised)
  | fields (ended : a.finalized = true) : Step a .fields a (.ok (.fields a.fields))
  | required (ended : a.finalized = true) : Step a .required a (.ok (.names a.required))
  | emit (ended : a.finalized = true) : Step a .emit a (.ok (.schema a.outcome))

section Rules

variable {a a' : Accumulator} {c : Call} {r : Except Error Given}

/-- A call does what the rule that it follows says. -/
theorem Step.call_eq (h : Step a c a' r) : a.call c = (a', r) := by
  cases h with
  | @add f going told =>
    obtain ⟨hstate, hresult⟩ := append_of_told going told
    rw [call, hstate, hresult, push_eq_grown told]
    rfl
  | @stick f going untold =>
    obtain ⟨hstate, hresult⟩ := append_of_untold going untold
    rw [call, hstate, hresult]
    rfl
  | late ended =>
    rw [call, append, ended]
    rfl
  | finish going =>
    rw [call, result_finalize going]
    rfl
  | again ended =>
    rw [call, finalize, ended]
    rfl
  | early going question =>
    -- Three questions can be asked too early.
    cases c with
    | fields =>
      rw [call, finalFields, going]
      rfl
    | required =>
      rw [call, finalRequired, going]
      rfl
    | emit =>
      rw [call, Accumulator.emit, finalFields, going]
      rfl
    | append _ | finalize => cases question
  | fields ended =>
    rw [call, finalFields, ended]
    rfl
  | required ended =>
    rw [call, finalRequired, ended]
    rfl
  | emit ended =>
    rw [call, emit_of_finalized ended]
    rfl

/-- There is a rule for every call. -/
theorem exists_step (a : Accumulator) (c : Call) : ∃ a' r, Step a c a' r := by
  cases hfinalized : a.finalized with
  | true =>
    cases c with
    | append f => exact ⟨_, _, .late hfinalized⟩
    | finalize => exact ⟨_, _, .again hfinalized⟩
    | fields => exact ⟨_, _, .fields hfinalized⟩
    | required => exact ⟨_, _, .required hfinalized⟩
    | emit => exact ⟨_, _, .emit hfinalized⟩
  | false =>
    cases c with
    | append f =>
      cases htold : f.enforced.hasTruth with
      | true => exact ⟨_, _, .add hfinalized htold⟩
      | false => exact ⟨_, _, .stick hfinalized htold⟩
    | finalize => exact ⟨_, _, .finish hfinalized⟩
    | fields | required | emit => exact ⟨_, _, .early hfinalized rfl⟩

theorem step_call (a : Accumulator) (c : Call) : Step a c (a.call c).1 (a.reply c) := by
  obtain ⟨a', r, h⟩ := exists_step a c
  rw [reply, h.call_eq]
  exact h

theorem Step.reply_eq (h : Step a c a' r) : a.reply c = r := congrArg Prod.snd h.call_eq

end Rules

/-! ## What calls leave -/

/-- Is an end among the calls? -/
def isEnded (calls : List Call) : Bool := calls.any Call.isEnd

/-- The fields given before the first end, in order. -/
def entries (calls : List Call) : List Field :=
  (calls.takeWhile (!·.isEnd)).filterMap Call.field?

/-- The names of the fields that are noted as required among those given before the first end. -/
def noted (calls : List Call) : List String :=
  ((entries calls).filter (·.isNoted)).map (·.name)

section History

variable {a a' : Accumulator} {name : Value} {calls : List Call} {c : Call}
  {r : Except Error Given}

theorem isEnded_concat : isEnded (calls ++ [c]) = (isEnded calls || c.isEnd) := by
  simp [isEnded]

/-- One more call brings its field if there was no end yet. -/
theorem entries_concat :
    entries (calls ++ [c]) = entries calls ++ if isEnded calls then [] else c.field?.toList := by
  -- The first end decides, so the calls are gone through from the front.
  induction calls with
  | nil => cases c <;> rfl
  | cons d calls ih =>
    cases d with
    | append f => exact congrArg (f :: ·) ih
    | finalize => rfl
    | fields | required | emit => exact ih

/-- No field is brought by a call that comes too late or that has none. -/
theorem entries_concat_of_idle (h : isEnded calls = true ∨ c.field? = none) :
    entries (calls ++ [c]) = entries calls := by
  rw [entries_concat]
  rcases h with hended | hnone
  · rw [hended, if_pos rfl, List.append_nil]
  · rw [hnone, Option.toList_none, ite_self, List.append_nil]

theorem entries_concat_append {f : Field} (h : isEnded calls = false) :
    entries (calls ++ [.append f]) = entries calls ++ [f] := by
  rw [entries_concat, h]
  rfl

theorem mem_noted_iff {n : String} :
    n ∈ noted calls ↔ ∃ f ∈ entries calls, f.enforced.truth = .ok true ∧ f.name = n := by
  simp only [noted, List.mem_map, List.mem_filter, Field.isNoted_iff, and_assoc]

/-- What an accumulator holds is what the calls on it say. -/
structure Remembers (a : Accumulator) (name : Value) (calls : List Call) : Prop where
  name_eq : a.name = name
  fields_eq : a.fields = entries calls
  names_eq : a.names = (entries calls).map (·.name)
  required_eq : a.required = noted calls
  finalized_eq : a.finalized = isEnded calls

theorem remembers_new (name : Value) : Remembers { name } name [] := ⟨rfl, rfl, rfl, rfl, rfl⟩

theorem Remembers.contains_iff (h : a.Remembers name calls) {n : String} :
    a.contains n = true ↔ ∃ f ∈ entries calls, f.name = n := by
  rw [contains, List.contains_iff_mem, h.names_eq, List.mem_map]

/-- A call that comes too late, or only asks, leaves all as it is. -/
theorem Remembers.idle (h : a.Remembers name calls)
    (hidle : isEnded calls = true ∨ c.isQuestion = true) : a.Remembers name (calls ++ [c]) := by
  have hentries : entries (calls ++ [c]) = entries calls :=
    entries_concat_of_idle (hidle.imp_right Call.field?_of_isQuestion)
  have hended : isEnded (calls ++ [c]) = isEnded calls := by
    rw [isEnded_concat]
    rcases hidle with hended | hquestion
    · rw [hended, Bool.true_or]
    · rw [Call.isEnd_of_isQuestion hquestion, Bool.or_false]
  exact
    { name_eq := h.name_eq
      fields_eq := h.fields_eq.trans hentries.symm
      names_eq := by rw [hentries, h.names_eq]
      required_eq := by rw [noted, hentries, h.required_eq, noted]
      finalized_eq := h.finalized_eq.trans hended.symm }

/-- A field given before the end is remembered, also if it is refused. -/
theorem Remembers.grown (h : a.Remembers name calls) (going : a.finalized = false) (f : Field) :
    (a.grown f).Remembers name (calls ++ [.append f]) := by
  have hopen : isEnded calls = false := h.finalized_eq.symm.trans going
  have hentries : entries (calls ++ [.append f]) = entries calls ++ [f] :=
    entries_concat_append hopen
  have hnoted : noted (calls ++ [.append f]) =
      noted calls ++ if f.isNoted then [f.name] else [] := by
    -- What is noted goes by the field alone, and not by what its call comes to.
    rw [noted, noted, hentries, List.filter_append, List.map_append, List.filter_singleton]
    cases f.isNoted <;> rfl
  exact
    { name_eq := h.name_eq
      fields_eq := by rw [hentries, ← h.fields_eq]; rfl
      names_eq := by rw [hentries, List.map_append, ← h.names_eq]; rfl
      required_eq := by rw [hnoted, ← h.required_eq]; rfl
      finalized_eq := by rw [isEnded_concat, ← h.finalized_eq]; exact (Bool.or_false _).symm }

/-- The first end is remembered, and no field comes with it. -/
theorem Remembers.ended (h : a.Remembers name calls) :
    a.ended.Remembers name (calls ++ [.finalize]) := by
  have hentries : entries (calls ++ [.finalize]) = entries calls :=
    entries_concat_of_idle (.inr rfl)
  exact
    { name_eq := h.name_eq
      fields_eq := h.fields_eq.trans hentries.symm
      names_eq := by rw [hentries]; exact h.names_eq
      required_eq := by rw [noted, hentries]; exact h.required_eq
      finalized_eq := by rw [isEnded_concat]; exact (Bool.or_true _).symm }

/-- Every call is remembered. -/
theorem Step.remembers (hstep : Step a c a' r) (h : a.Remembers name calls) :
    a'.Remembers name (calls ++ [c]) := by
  cases hstep with
  | add going _ | stick going _ => exact h.grown going _
  | finish _ => exact h.ended
  | late ended | again ended | fields ended | required ended | emit ended =>
    exact h.idle (.inl (h.finalized_eq.symm.trans ended))
  | early _ question => exact h.idle (.inr question)

/-- An accumulator remembers all calls that were made on it. -/
theorem remembers_after (name : Value) (calls : List Call) :
    (after { name } calls).Remembers name calls := by
  -- From the back, since what is remembered is kept by one more call.
  induction calls using List.reverseRecOn with
  | nil => exact remembers_new name
  | append_singleton calls c ih =>
    rw [after_concat]
    exact (step_call _ c).remembers ih

/-- Once there was an end, no calls change anything. -/
theorem after_of_finalized (ended : a.finalized = true) (later : List Call) :
    a.after later = a := by
  induction later with
  | nil => rfl
  | cons c later ih =>
    have hcall : (a.call c).1 = a := by
      cases c with
      | append f => exact congrArg Prod.fst (Step.late ended).call_eq
      | finalize => exact congrArg Prod.fst (Step.again ended).call_eq
      | fields | required | emit => rfl
    rw [after, List.foldl_cons, hcall]
    exact ih

end History

/-! ## What the next call comes to -/

/-- What the next call comes to if there was no end yet. -/
structure Grows (a : Accumulator) (name : Value) (held : List Field) : Prop where
  /-- A field is added, whatever comes of the call. -/
  append_added : ∀ f, (a.call (.append f)).1.fields = held ++ [f]
  /-- It is given back if it tells whether it is enforced. -/
  append_told : ∀ f, f.enforced.hasTruth = true → a.reply (.append f) = .ok (.field f)
  /-- It is refused otherwise. -/
  append_untold : ∀ f, f.enforced.hasTruth = false →
    a.reply (.append f) = .error (.refused .wrongKind)
  finalize : a.reply .finalize = .ok (.fields held)
  question : ∀ c, c.isQuestion = true → a.reply c = .error (Error.emitWhileOpen name).raised

/-- What the next calls come to if there was an end. -/
structure Rests (a : Accumulator) (name : Value) (held : List Field) (needed : List String) :
    Prop where
  append : ∀ f, a.reply (.append f) = .error (Error.appendAfterFinalize name f.name).raised
  finalize : a.reply .finalize = .error (Error.finalizeTwice name).raised
  fields : a.reply .fields = .ok (.fields held)
  required : a.reply .required = .ok (.names needed)
  emit : a.reply .emit = .ok (.schema ⟨name, held, needed⟩)
  /-- No calls change what there is, so the answers stay the same. -/
  lasting : ∀ later, a.after later = a

section Next

variable {a : Accumulator} {name : Value} {calls : List Call}

theorem Remembers.grows (h : a.Remembers name calls) (hopen : isEnded calls = false) :
    a.Grows name (entries calls) := by
  have going : a.finalized = false := h.finalized_eq.trans hopen
  have hfields := h.fields_eq
  have hname := h.name_eq
  subst hname
  rw [← hfields]
  exact
    { append_added := fun f => by
        -- Added or refused, the field is among the entries of the calls with this one.
        have hadded := ((step_call a (.append f)).remembers h).fields_eq
        rw [hadded, hfields, entries_concat_append hopen]
      append_told := fun f told => (Step.add going told).reply_eq
      append_untold := fun f untold => (Step.stick going untold).reply_eq
      finalize := (Step.finish going).reply_eq
      question := fun c hquestion => (Step.early going hquestion).reply_eq }

theorem Remembers.rests (h : a.Remembers name calls) (hended : isEnded calls = true) :
    a.Rests name (entries calls) (noted calls) := by
  have ended : a.finalized = true := h.finalized_eq.trans hended
  have hname := h.name_eq
  subst hname
  rw [← h.fields_eq, ← h.required_eq]
  exact
    { append := fun f => (Step.late ended).reply_eq
      finalize := (Step.again ended).reply_eq
      fields := (Step.fields ended).reply_eq
      required := (Step.required ended).reply_eq
      emit := (Step.emit ended).reply_eq
      lasting := after_of_finalized ended }

end Next

/-- **An accumulator goes by the calls made on it.** After any calls it has the fields given before
the first end, in order, and their names; the required names are those of the fields that tell that
they are enforced. As long as there was no end it grows by each field given, and once there was one
it rests. What it refuses out of turn it refuses by a fault of its state if its name can be
printed. -/
theorem accumulation (name : Value) (calls : List Call) :
    (after { name } calls).fields = entries calls ∧
    (∀ n, (after { name } calls).contains n = true ↔ ∃ f ∈ entries calls, f.name = n) ∧
    (after { name } calls).required = noted calls ∧
    (∀ n, n ∈ noted calls ↔ ∃ f ∈ entries calls, f.enforced.truth = .ok true ∧ f.name = n) ∧
    (isEnded calls = false → (after { name } calls).Grows name (entries calls)) ∧
    (isEnded calls = true → (after { name } calls).Rests name (entries calls) (noted calls)) ∧
    ((Error.finalizeTwice name).raised.isState = true ↔ name.printFault? = none) ∧
    ((Error.emitWhileOpen name).raised.isState = true ↔ name.printFault? = none) ∧
    ∀ n, (Error.appendAfterFinalize name n).raised.isState = true ↔ name.printFault? = none := by
  have hremembers := remembers_after name calls
  refine ⟨hremembers.fields_eq, fun n => hremembers.contains_iff, hremembers.required_eq,
    fun n => mem_noted_iff, hremembers.grows, hremembers.rests, ?_, ?_, fun n => ?_⟩
  · exact Error.isState_raised_iff_of_shown rfl rfl
  · exact Error.isState_raised_iff_of_shown rfl rfl
  · exact Error.isState_raised_iff_of_shown rfl rfl

/-- A record of a class by which it cannot be told what its records count as. -/
def doubtfulRecord : Value :=
  .record 0 { id := 0, title := "P", name := .builtin "P", keys := [], isTrue := false } []

/-- A field that does not tell whether it is enforced. -/
def doubtfulField : Field :=
  ⟨"n", .int 1, Value.builtinClass "int", Value.builtinClass "int", doubtfulRecord⟩

/-- Given to a new accumulator, such a field is refused and stays. -/
theorem refused_field_stays :
    isEnded [] = false ∧
    reply { name := .text "S" } (.append doubtfulField) = .error (.refused .wrongKind) ∧
    (¬ ∃ g, reply { name := .text "S" } (.append doubtfulField) = .ok g) ∧
    (after { name := .text "S" } [.append doubtfulField]).fields = [doubtfulField] := by
  have hreply :
      reply { name := .text "S" } (.append doubtfulField) = .error (.refused .wrongKind) := rfl
  refine ⟨rfl, hreply, ?_, rfl⟩
  rintro ⟨g, hok⟩
  cases hreply.symm.trans hok

end Accumulator

end RecordSchema
