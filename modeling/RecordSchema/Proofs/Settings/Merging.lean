import RecordSchema.Proofs.Settings.Precedence

/-!
# What a mapping makes of settings

A mapping of loose values is merged into settings. Each setting is looked up under its name: what
says something for it replaces it, and what does not is passed over (`Settings.Key.Becomes`). Two
things stand out. Anything that is no truth value turns strictness off, where the other settings
would stay as they are; and an indentation without bounds keeps the whole mapping from being taken.
`Settings.merged_iff` says that this is all that can happen.
-/

set_option autoImplicit false

namespace RecordSchema.Settings

open RecordSchema.Text

namespace Key

variable {k : Key} {given old new : Value}

/-! ## What says something for a setting -/

/-- The words for truth values, those that mean yes and those that mean no. -/
def truthWords : List String :=
  ["1", "0", "true", "false", "t", "f", "yes", "no", "y", "n", "on", "off"]

/-- `k.Recognises given` if a given value says something for the setting `k`. -/
inductive Recognises : Key → Value → Prop where
  | truth (b : Bool) : Recognises .strict (.bool b)
  | whole (n : Int) : Recognises .strict (.int n)
  | real (x : Binary64) : Recognises .strict (.real x)
  | truthWord {s : String} (word : lower (trim s) ∈ truthWords) : Recognises .strict (.text s)
  | policy {s : String} (p : NamePolicy) (word : lower (trim s) = p.word) :
      Recognises .policy (.text s)
  | level {s : String} (l : Level) (word : upper (trim s) = l.word) : Recognises .level (.text s)
  | nothing : Recognises .indent .none
  | blank {s : String} (empty : trim s = "") : Recognises .indent (.text s)
  | noneWord {s : String} (word : lower (trim s) = "none") : Recognises .indent (.text s)
  | number {given : Value} {n : Int} (integer : given.toInteger = .ok n) : Recognises .indent given

/-- What is recognised is acceptable. -/
theorem Recognises.exists_accepts (h : k.Recognises given) : ∃ v, k.Accepts given v := by
  cases h with
  | truth b => exact ⟨_, .flag _⟩
  | whole n => exact ⟨_, .flag _⟩
  | real x => exact ⟨_, .flag _⟩
  | truthWord word => exact ⟨_, .flag _⟩
  | policy p word => exact ⟨_, .policy p word⟩
  | level l word => exact ⟨_, .level l word⟩
  | nothing => exact ⟨_, .nothing⟩
  | blank empty => exact ⟨_, .blank empty⟩
  | noneWord word => exact ⟨_, .noneWord word⟩
  | number integer =>
    cases hset : isUnset given with
    | true => exact ⟨_, (accepts_of_isUnset hset).2 rfl⟩
    | false => exact ⟨_, .number hset integer⟩

/-- What is acceptable is recognised, but for strictness, which accepts anything. -/
theorem Accepts.recognises (hk : k ≠ .strict) (h : k.Accepts given new) : k.Recognises given := by
  cases h with
  | flag => exact absurd rfl hk
  | policy p word => exact .policy p word
  | level l word => exact .level l word
  | nothing => exact .nothing
  | blank empty => exact .blank empty
  | noneWord word => exact .noneWord word
  | number _ integer => exact .number integer

/-- Every word that means yes is a word for a truth value. -/
theorem affirmative_subset : affirmative ⊆ truthWords := by decide

/-- What is no truth value means no. -/
theorem flag_eq_false (h : ¬ Recognises .strict given) : Settings.flag given = false := by
  cases given with
  | bool b => exact absurd (.truth b) h
  | int n => exact absurd (.whole n) h
  | real x => exact absurd (.real x) h
  | text s =>
    have hword : lower (trim s) ∉ affirmative := fun hmem =>
      h (.truthWord (affirmative_subset hmem))
    simpa [Settings.flag] using hword
  | _ => rfl

/-! ## What becomes of one setting -/

/-- `k.Becomes found old new` if a merge turns the setting `k` from `old` into `new`, where `found`
is what the mapping holds under its name. -/
inductive Becomes (k : Key) : Option Value → Value → Value → Prop where
  | untold {old : Value} : Becomes k none old old
  | replaced {given old new : Value} (recognised : k.Recognises given)
      (accepts : k.Accepts given new) : Becomes k (some given) old new
  | kept {given old : Value} (other : k ≠ .strict) (strange : ¬ k.Recognises given) :
      Becomes k (some given) old old
  | denied {given old : Value} (strictness : k = .strict) (strange : ¬ k.Recognises given) :
      Becomes k (some given) old (.bool false)

theorem Becomes.unique {found : Option Value} {new' : Value} (h : k.Becomes found old new)
    (h' : k.Becomes found old new') : new = new' := by
  cases h with
  | untold =>
    cases h'
    rfl
  | replaced recognised accepts =>
    cases h' with
    | replaced _ accepts' => exact accepts.unique accepts'
    | kept _ strange => exact absurd recognised strange
    | denied _ strange => exact absurd recognised strange
  | kept other strange =>
    cases h' with
    | replaced recognised => exact absurd recognised strange
    | kept => rfl
    | denied strictness => exact absurd strictness other
  | denied strictness strange =>
    cases h' with
    | replaced recognised => exact absurd recognised strange
    | kept other => exact absurd strictness other
    | denied => rfl

/-- What is read for a setting is what becomes of it. -/
theorem becomes_of_read {found read : Option Value} (h : found.elim (.ok none) k.read = .ok read) :
    k.Becomes found old (read.getD old) := by
  cases found with
  | none =>
    obtain rfl := Except.ok.inj h
    exact .untold
  | some given =>
    have haccepts : ∀ v, read = some v ↔ k.Accepts given v := fun v => read_eq_some_iff h
    by_cases hrecognised : k.Recognises given
    · obtain ⟨v, hv⟩ := hrecognised.exists_accepts
      rw [(haccepts v).2 hv]
      exact .replaced hrecognised hv
    · by_cases hstrict : k = .strict
      · -- The flag takes whatever it does not recognise for a denial.
        subst hstrict
        rw [(haccepts _).2 (.flag given), flag_eq_false hrecognised]
        exact .denied rfl hrecognised
      · have hnone : read = none := Option.eq_none_iff_forall_ne_some.2 fun v hv =>
          hrecognised (((haccepts v).1 hv).recognises hstrict)
        rw [hnone]
        exact .kept hstrict hrecognised

end Key

/-! ## Merging -/

/-- What comes of merging a mapping into settings: settings, each on its own, or the refusal of an
indentation without bounds. -/
inductive Merged (s : Settings) (entries : List (Value × Value)) :
    Except Refusal Settings → Prop where
  | taken {s' : Settings}
      (bounded : ∀ given ∈ Value.lookupText "descriptor_indent" entries, ¬ given.IsInfinite)
      (becomes : ∀ k, Key.Becomes k (Value.lookupText k.name entries) (s.value k) (s'.value k)) :
      Merged s entries (.ok s')
  | refused {given : Value}
      (found : Value.lookupText "descriptor_indent" entries = some given)
      (infinite : given.IsInfinite) : Merged s entries (.error .outOfRange)

section Merging

variable {s s' : Settings} {entries : List (Value × Value)}

theorem merged_apply (s : Settings) (entries : List (Value × Value)) :
    Merged s entries (s.apply (.mapping entries)) := by
  cases h : s.apply (.mapping entries) with
  | error cause =>
    obtain ⟨rfl, given, found, infinite⟩ := applyEntries_eq_error_iff.1 h
    exact .refused found infinite
  | ok s' =>
    refine .taken (fun given hgiven hinfinite => ?_) fun k => ?_
    · have hrefused : s.apply (.mapping entries) = .error .outOfRange :=
        applyEntries_eq_error_iff.2 ⟨rfl, given, hgiven, hinfinite⟩
      cases hrefused.symm.trans h
    · obtain ⟨read, hread, hvalue⟩ := exists_value_applyEntries h k
      rw [hvalue]
      exact Key.becomes_of_read hread

/-- Settings are what the four of them are. -/
theorem ext_value (h : ∀ k, s.value k = s'.value k) : s = s' := by
  obtain ⟨strict, policy, level, indent⟩ := s
  obtain rfl : strict = s'.strict := h .strict
  obtain rfl : policy = s'.policy := h .policy
  obtain rfl : level = s'.logLevel := h .level
  obtain rfl : indent = s'.indent := h .indent
  rfl

theorem Merged.apply_eq {result : Except Refusal Settings} (h : Merged s entries result) :
    s.apply (.mapping entries) = result := by
  have happly := merged_apply s entries
  generalize s.apply (.mapping entries) = result' at happly
  cases h with
  | taken bounded becomes =>
    cases happly with
    | taken _ becomes' => rw [ext_value fun k => (becomes' k).unique (becomes k)]
    | refused found infinite => exact absurd infinite (bounded _ found)
  | refused found infinite =>
    cases happly with
    | taken bounded => exact absurd infinite (bounded _ found)
    | refused => rfl

/-- A merge takes from a mapping what it recognises, setting by setting, and changes nothing that
the mapping does not name. Of what is not recognised strictness makes a no, and the other settings
nothing. Only an indentation without bounds is refused. -/
theorem merged_iff {result : Except Refusal Settings} :
    Merged s entries result ↔ s.apply (.mapping entries) = result :=
  ⟨Merged.apply_eq, fun h => h ▸ merged_apply s entries⟩

end Merging

/-- A number without bounds is no indentation, and yet it is not passed over. A word that is no
truth value is not passed over either, for it turns strictness off. -/
theorem strange_values_effective :
    (({} : Settings).apply (.mapping [(.text "descriptor_indent", .real (.infinite false))]) =
      .error .outOfRange ∧ ¬ Key.indent.Recognises (.real (.infinite false))) ∧
    ∃ s' : Settings, ({ strict := .bool true } : Settings).apply
        (.mapping [(.text "strict_options", .text "maybe")]) = .ok s' ∧
      ¬ Key.strict.Recognises (.text "maybe") ∧ s'.strict = .bool false := by
  have hindent : ¬ Key.indent.Recognises (.real (.infinite false)) := by
    intro h
    cases h with
    | number integer => cases integer
  have hstrict : ¬ Key.strict.Recognises (.text "maybe") := by
    intro h
    cases h with
    | truthWord word => exact absurd word (by decide +kernel)
  refine ⟨⟨rfl, hindent⟩, _, rfl, hstrict, ?_⟩
  show Value.bool (flag (.text "maybe")) = .bool false
  rw [Key.flag_eq_false hstrict]

end RecordSchema.Settings
