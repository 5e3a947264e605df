import RecordSchema.Proofs.Settings.Reading

/-!
# Which source decides a setting

A setting can be given by a variable of the environment and by the table of settings of a file. The
sources are asked in turn, variables first: the first that gives a value which is acceptable for the
setting decides it, and where none does the default stands (`Settings.Key.Decides`). A value that is
not acceptable is passed over, it does not end the search.

Settings come about by merging one mapping after the other into the default. One merge puts its
mapping in front of the sources that decided so far (`Settings.Key.Decides.merge`), so the last one
is asked first. The four settings do not see each other: each is decided by what the sources hold
for it alone (`Settings.decided_of_load`).
-/

set_option autoImplicit false

namespace RecordSchema

open RecordSchema.Text

namespace Environment

/-- A variable that is set and not empty. -/
def given? (e : Environment) (name : String) : Option String :=
  (e.get? name).filter (· != "")

end Environment

theorem NamePolicy.ofWord?_eq_some_iff {word : String} {p : NamePolicy} :
    ofWord? word = some p ↔ word = p.word := by
  constructor
  · intro h
    have hword := List.find?_some h
    exact (eq_of_beq hword).symm
  · rintro rfl
    cases p <;> rfl

theorem Level.ofWord?_eq_some_iff {word : String} {l : Level} :
    ofWord? word = some l ↔ word = l.word := by
  constructor
  · intro h
    have hword := List.find?_some h
    exact (eq_of_beq hword).symm
  · rintro rfl
    cases l <;> rfl

namespace Settings

/-! ## Settings and what is acceptable for them -/

/-- The four settings. -/
inductive Key where
  | strict
  | policy
  | level
  | indent

/-- What a setting is. -/
def value (s : Settings) : Key → Value
  | .strict => s.strict
  | .policy => s.policy
  | .level => s.logLevel
  | .indent => s.indent

namespace Key

/-- The name of a setting in a table of settings. -/
def name : Key → String
  | .strict => "strict_options"
  | .policy => "name_policy"
  | .level => "log_level"
  | .indent => "descriptor_indent"

/-- The name of the variable for a setting. -/
def variableName : Key → String
  | .strict => "TYPEDSTRUCT_STRICT_OPTIONS"
  | .policy => "TYPEDSTRUCT_NAME_POLICY"
  | .level => "TYPEDSTRUCT_LOG_LEVEL"
  | .indent => "TYPEDSTRUCT_DESCRIPTOR_INDENT"

/-- `k.Accepts given v` if a given value is acceptable for the setting `k` and makes it `v`. -/
inductive Accepts : Key → Value → Value → Prop where
  | flag (given : Value) : Accepts .strict given (.bool (flag given))
  | policy {s : String} (p : NamePolicy) (word : lower (trim s) = p.word) :
      Accepts .policy (.text s) (.text p.word)
  | level {s : String} (l : Level) (word : upper (trim s) = l.word) :
      Accepts .level (.text s) (.text l.word)
  | nothing : Accepts .indent .none .none
  | blank {s : String} (empty : trim s = "") : Accepts .indent (.text s) .none
  | noneWord {s : String} (word : lower (trim s) = "none") : Accepts .indent (.text s) .none
  | number {given : Value} {n : Int} (set : isUnset given = false)
      (integer : given.toInteger = .ok n) : Accepts .indent given (.int n)

/-- A setting is decided by sources, asked in turn: by the first that gives an acceptable value, or
by the default. -/
inductive Decides (k : Key) : List (Option Value) → Value → Prop where
  | accepted {given v : Value} {rest : List (Option Value)} (accepts : k.Accepts given v) :
      Decides k (some given :: rest) v
  | passed {source : Option Value} {rest : List (Option Value)} {v : Value}
      (silent : ∀ given ∈ source, ∀ w, ¬ k.Accepts given w) (decided : Decides k rest v) :
      Decides k (source :: rest) v
  | default : Decides k [] (({} : Settings).value k)

variable {k : Key} {given v w : Value}

theorem accepts_of_isUnset (h : isUnset given = true) : Accepts .indent given v ↔ v = .none := by
  constructor
  · intro hv
    cases hv with
    | number set => cases h.symm.trans set
    | _ => rfl
  · rintro rfl
    cases given with
    | none => exact .nothing
    | text s =>
      rcases Bool.or_eq_true_iff.1 h with h | h
      · exact .blank (eq_of_beq h)
      · exact .noneWord (eq_of_beq h)
    | _ => cases h

theorem accepts_of_isSet (h : isUnset given = false) :
    Accepts .indent given v ↔ ∃ n, given.toInteger = .ok n ∧ v = .int n := by
  constructor
  · intro hv
    cases hv with
    | number _ integer => exact ⟨_, integer, rfl⟩
    | nothing => cases h
    | blank empty => simp [isUnset, empty] at h
    | noneWord word => simp [isUnset, word] at h
  · rintro ⟨n, integer, rfl⟩
    exact .number h integer

/-- A value makes one thing of a setting at most. -/
theorem Accepts.unique (hv : k.Accepts given v) (hw : k.Accepts given w) : v = w := by
  cases k with
  | strict =>
    cases hv
    cases hw
    rfl
  | policy =>
    cases hv with
    | policy p word =>
      cases hw with
      | policy q word' => rw [← word, word']
  | level =>
    cases hv with
    | level l word =>
      cases hw with
      | level m word' => rw [← word, word']
  | indent =>
    cases hset : isUnset given with
    | true => rw [(accepts_of_isUnset hset).1 hv, (accepts_of_isUnset hset).1 hw]
    | false =>
      obtain ⟨m, hm, rfl⟩ := (accepts_of_isSet hset).1 hv
      obtain ⟨n, hn, rfl⟩ := (accepts_of_isSet hset).1 hw
      rw [Except.ok.inj (hm.symm.trans hn)]

/-- Sources decide a setting in one way only. -/
theorem Decides.unique {sources : List (Option Value)} (hv : k.Decides sources v)
    (hw : k.Decides sources w) : v = w := by
  induction hv with
  | accepted accepts =>
    cases hw with
    | accepted accepts' => exact accepts.unique accepts'
    | passed silent => exact absurd accepts (silent _ rfl _)
  | passed silent _ ih =>
    cases hw with
    | accepted accepts' => exact absurd accepts' (silent _ rfl _)
    | passed _ decided' => exact ih decided'
  | default =>
    cases hw with
    | default => rfl

/-! ## One merge -/

/-- What is read for a setting: nothing if the value is not acceptable. -/
def read : Key → Value → Except Refusal (Option Value)
  | .strict, given => .ok (some (.bool (Settings.flag given)))
  | .policy, given => .ok (policyFrom given)
  | .level, given => .ok (levelFrom given)
  | .indent, given => indentFrom given

theorem policyFrom_eq_some_iff : policyFrom given = some v ↔ Accepts .policy given v := by
  unfold policyFrom NamePolicy.ofLooseWord?
  cases given with
  | text s =>
    simp only [Option.map_eq_some_iff, NamePolicy.ofWord?_eq_some_iff]
    constructor
    · rintro ⟨p, word, rfl⟩
      exact .policy p word
    · intro h
      cases h with
      | policy p word => exact ⟨p, word, rfl⟩
  | _ => exact iff_of_false nofun nofun

theorem levelFrom_eq_some_iff : levelFrom given = some v ↔ Accepts .level given v := by
  unfold levelFrom
  cases given with
  | text s =>
    simp only [Option.map_eq_some_iff, Level.ofWord?_eq_some_iff]
    constructor
    · rintro ⟨l, word, rfl⟩
      exact .level l word
    · intro h
      cases h with
      | level l word => exact ⟨l, word, rfl⟩
  | _ => exact iff_of_false nofun nofun

theorem indentFrom_eq_some_iff {r : Option Value} (h : indentFrom given = .ok r) :
    r = some v ↔ Accepts .indent given v := by
  unfold indentFrom at h
  cases hset : isUnset given with
  | true =>
    rw [if_pos hset] at h
    rw [accepts_of_isUnset hset, ← Except.ok.inj h, Option.some_inj, eq_comm]
  | false =>
    rw [if_neg (by simp [hset])] at h
    rw [accepts_of_isSet hset]
    split at h
    · next n hn =>
      rw [← Except.ok.inj h, hn]
      simp [eq_comm]
    · next hn => simp [← Except.ok.inj h, hn]
    · next hn => simp [← Except.ok.inj h, hn]
    · cases h

/-- What is read is what is acceptable. -/
theorem read_eq_some_iff {r : Option Value} (h : k.read given = .ok r) :
    r = some v ↔ k.Accepts given v := by
  cases k with
  | strict =>
    obtain rfl := Except.ok.inj h
    constructor
    · intro hv
      exact Option.some.inj hv ▸ .flag given
    · intro hv
      rw [(Accepts.flag given).unique hv]
  | policy => exact Except.ok.inj h ▸ policyFrom_eq_some_iff
  | level => exact Except.ok.inj h ▸ levelFrom_eq_some_iff
  | indent => exact indentFrom_eq_some_iff h

end Key

section Merging

variable {s s' : Settings} {entries : List (Value × Value)}

/-- A merge treats every setting alike: what is read for it replaces it. -/
theorem exists_value_applyEntries (h : s.applyEntries entries = .ok s') (k : Key) :
    ∃ r, (Value.lookupText k.name entries).elim (.ok none) k.read = .ok r ∧
      s'.value k = r.getD (s.value k) := by
  rw [applyEntries_eq, map_eq_ok_iff] at h
  obtain ⟨indent, hindent, rfl⟩ := h
  cases k with
  | strict =>
    refine ⟨(Value.lookupText "strict_options" entries).map fun v => .bool (flag v), ?_, rfl⟩
    show (Value.lookupText "strict_options" entries).elim _ _ = _
    cases Value.lookupText "strict_options" entries <;> rfl
  | policy =>
    refine ⟨(Value.lookupText "name_policy" entries).bind policyFrom, ?_, rfl⟩
    show (Value.lookupText "name_policy" entries).elim _ _ = _
    cases Value.lookupText "name_policy" entries <;> rfl
  | level =>
    refine ⟨(Value.lookupText "log_level" entries).bind levelFrom, ?_, rfl⟩
    show (Value.lookupText "log_level" entries).elim _ _ = _
    cases Value.lookupText "log_level" entries <;> rfl
  | indent =>
    refine ⟨indent, ?_, rfl⟩
    rw [← hindent, givenIndent]
    show (Value.lookupText "descriptor_indent" entries).elim _ _ = _
    cases Value.lookupText "descriptor_indent" entries <;> rfl

/-- A merge asks its mapping before the sources that decided so far. -/
theorem Key.Decides.merge {k : Key} {sources : List (Option Value)}
    (h : s.applyEntries entries = .ok s') (hs : k.Decides sources (s.value k)) :
    k.Decides (Value.lookupText k.name entries :: sources) (s'.value k) := by
  obtain ⟨r, hr, hvalue⟩ := exists_value_applyEntries h k
  rw [hvalue]
  cases hgiven : Value.lookupText k.name entries with
  | none =>
    rw [hgiven] at hr
    obtain rfl := Except.ok.inj hr
    exact .passed nofun hs
  | some given =>
    rw [hgiven] at hr
    have hread : ∀ w, r = some w ↔ k.Accepts given w := fun w => Key.read_eq_some_iff hr
    -- What is not recognised is passed over, as if it were not there.
    cases r with
    | some v => exact .accepted ((hread v).1 rfl)
    | none =>
      refine .passed (fun given' hgiven' w hw => ?_) hs
      obtain rfl := Option.some.inj hgiven'
      cases (hread w).2 hw

/-- What a table of settings holds for a setting. -/
def tabled (found : Option Value) (k : Key) : Option Value :=
  match found with
  | some (.mapping entries) => Value.lookupText k.name entries
  | _ => none

/-- A merge of something that is no mapping changes nothing. -/
theorem Key.Decides.merge_table {k : Key} {sources : List (Option Value)} {found : Option Value}
    (h : s.apply (found.getD .none) = .ok s') (hs : k.Decides sources (s.value k)) :
    k.Decides (tabled found k :: sources) (s'.value k) := by
  unfold tabled
  split
  · exact hs.merge h
  · next hmapping =>
    have hsame : s = s' := by
      cases found with
      | none => exact Except.ok.inj h
      | some t =>
        cases t with
        | mapping entries => exact absurd rfl (hmapping entries)
        | _ => exact Except.ok.inj h
    exact .passed nofun (hsame ▸ hs)

end Merging

/-! ## Variables -/

section Variables

variable {e : Environment} {head : String}

/-- What a variable contributes to a mapping of settings. -/
def contribution (e : Environment) (head : String) (setting : String × String) :
    Option (Value × Value) :=
  (e.given? (head ++ setting.2)).map fun s => (.text setting.1, .text s)

theorem fromVariables_eq (e : Environment) (head : String) :
    fromVariables e head = variableTails.filterMap (contribution e head) := by
  refine congrArg (variableTails.filterMap ·) (funext fun setting => ?_)
  unfold contribution Environment.given?
  cases e.get? (head ++ setting.2) with
  | none => rfl
  | some s =>
    dsimp only
    by_cases hs : s = ""
    · simp [hs, Option.filter]
    · simp [hs, Option.filter]

theorem lookupText_cons_text (key name : String) (v : Value) (rest : List (Value × Value)) :
    Value.lookupText key ((.text name, v) :: rest) =
      if key = name then some v else Value.lookupText key rest := by
  unfold Value.lookupText Value.lookupKey
  by_cases h : key = name
  · rw [if_pos h, List.find?_cons_of_pos (by simpa using h)]
    rfl
  · rw [if_neg h, List.find?_cons_of_neg (by simpa using h)]

theorem lookupText_contributions_cons (first : String × String) (rest : List (String × String))
    (key : String) :
    Value.lookupText key ((first :: rest).filterMap (contribution e head)) =
      (if key = first.1 then (e.given? (head ++ first.2)).map .text else none).or
        (Value.lookupText key (rest.filterMap (contribution e head))) := by
  cases hgiven : e.given? (head ++ first.2) with
  | none =>
    have hnone : contribution e head first = none := by rw [contribution, hgiven]; rfl
    rw [List.filterMap_cons_none hnone]
    simp
  | some s =>
    have hsome : contribution e head first = some (.text first.1, .text s) := by
      rw [contribution, hgiven]
      rfl
    rw [List.filterMap_cons_some hsome, lookupText_cons_text]
    split
    · rfl
    · rfl

theorem lookupText_contributions_of_notMem {settings : List (String × String)} {key : String}
    (h : key ∉ settings.map Prod.fst) :
    Value.lookupText key (settings.filterMap (contribution e head)) = none := by
  induction settings with
  | nil => rfl
  | cons first rest ih =>
    rw [List.map_cons, List.mem_cons, not_or] at h
    rw [lookupText_contributions_cons, if_neg h.1, ih h.2]
    rfl

/-- The names of settings are distinct, so under the name of a setting its own variable is found. -/
theorem lookupText_contributions {settings : List (String × String)}
    (hnodup : (settings.map Prod.fst).Nodup) {setting : String × String}
    (hmem : setting ∈ settings) :
    Value.lookupText setting.1 (settings.filterMap (contribution e head)) =
      (e.given? (head ++ setting.2)).map .text := by
  induction settings with
  | nil => cases hmem
  | cons first rest ih =>
    obtain ⟨hfirst, hrest⟩ := List.nodup_cons.1 hnodup
    rw [lookupText_contributions_cons]
    rcases List.mem_cons.1 hmem with rfl | hmem
    · rw [if_pos rfl, lookupText_contributions_of_notMem hfirst, Option.or_none]
    · have hne : setting.1 ≠ first.1 := fun h => hfirst (h ▸ List.mem_map_of_mem hmem)
      rw [if_neg hne, ih hrest hmem]
      rfl

theorem Key.exists_mem_variableTails (k : Key) :
    ∃ tail, (k.name, tail) ∈ variableTails ∧ variableHead ++ tail = k.variableName := by
  cases k with
  | strict => exact ⟨"STRICT_OPTIONS", by simp [variableTails, name], rfl⟩
  | policy => exact ⟨"NAME_POLICY", by simp [variableTails, name], rfl⟩
  | level => exact ⟨"LOG_LEVEL", by simp [variableTails, name], rfl⟩
  | indent => exact ⟨"DESCRIPTOR_INDENT", by simp [variableTails, name], rfl⟩

theorem lookupText_fromVariables (e : Environment) (k : Key) :
    Value.lookupText k.name (fromVariables e variableHead) =
      (e.given? k.variableName).map .text := by
  have hnodup : (variableTails.map Prod.fst).Nodup := by decide
  obtain ⟨tail, hmem, hname⟩ := k.exists_mem_variableTails
  rw [fromVariables_eq, lookupText_contributions hnodup hmem, hname]

/-- The variables are asked before the sources that decided so far. -/
theorem Key.Decides.overrule {s s' : Settings} {k : Key} {sources : List (Option Value)}
    (h : s.overruled e variableHead = .ok s') (hs : k.Decides sources (s.value k)) :
    k.Decides ((e.given? k.variableName).map .text :: sources) (s'.value k) :=
  lookupText_fromVariables e k ▸ hs.merge h

end Variables

/-! ## The table that is selected -/

/-- The table of settings that is selected among paths: the first that has anything in it. Paths
without a file are passed over, and files without a table, or with an empty one. -/
inductive Selects (files : FileTree) : List Path → Option Value → Prop where
  | found {p : Path} {t : Value} (rest : List Path)
      (table : (tableOf files p).result = .ok (some t)) (full : t.truthy = true) :
      Selects files (p :: rest) (some t)
  | absent {p : Path} {rest : List Path} {found : Option Value}
      (nothing : p.isUnusable = true ∨ files.find? p = none) (later : Selects files rest found) :
      Selects files (p :: rest) found
  | empty {p : Path} {rest : List Path} {t found : Option Value}
      (table : (tableOf files p).result = .ok t) (blank : t.any Value.truthy = false)
      (later : Selects files rest found) : Selects files (p :: rest) found
  | nothing : Selects files [] none

theorem selects_of_firstTable {files : FileTree} {paths : List Path} {found : Option Value}
    (h : (firstTable files paths).result = .ok found) : Selects files paths found := by
  induction paths generalizing found with
  | nil => exact Except.ok.inj h ▸ .nothing
  | cons p rest ih =>
    rw [firstTable] at h
    split at h
    · next hunusable => exact .absent (.inl hunusable) (ih h)
    · dsimp only at h
      split at h
      · -- A path that is too long is refused.
        rw [Report.result_bind] at h
        cases h
      split at h
      · next habsent => exact .absent (.inr (Option.isNone_iff_eq_none.1 habsent)) (ih h)
      · rw [Report.result_bind] at h
        obtain ⟨t, ht, h⟩ := bind_eq_ok_iff.1 h
        cases t with
        | none => exact .empty ht rfl (ih h)
        | some t =>
          dsimp only at h
          split at h
          · next hfull => exact Except.ok.inj h ▸ .found rest ht hfull
          · next hempty => exact .empty ht (by simpa using hempty) (ih h)

/-- Settings that come about are in order, so their policy is in force, and each of the four is
decided on its own: by its variable, then by the table that is selected, then by the default. -/
theorem decided_of_load {files : FileTree} {e : Environment} {path : Option String} {s : Settings}
    (h : (load files e path).result = .ok s) :
    s.IsRead ∧ (∃ p, s.namePolicy = .ok p) ∧
      ∃ found, Selects files (candidates path) found ∧
        ∀ k v, s.value k = v ↔
          k.Decides [(e.given? k.variableName).map .text, tabled found k] v := by
  have hread := isRead_of_load h
  refine ⟨hread, hread.exists_namePolicy, ?_⟩
  rw [result_load_merges, bind_eq_ok_iff] at h
  obtain ⟨found, hfound, h⟩ := h
  obtain ⟨merged, hmerged, h⟩ := bind_eq_ok_iff.1 h
  refine ⟨found, selects_of_firstTable hfound, fun k v => ?_⟩
  have hdefault : k.Decides [] (({} : Settings).value k) := .default
  have hdecides := (hdefault.merge_table (mapError_eq_ok_iff.1 hmerged)).overrule
    (mapError_eq_ok_iff.1 h)
  constructor
  · rintro rfl
    exact hdecides
  · exact hdecides.unique

/-- A file that says something for three settings, the level in a word that is none. -/
def mixedFiles : FileTree where
  entries := [([ownFile], .file (Utf8.encodeText
    "name_policy = 'Lower_Snake'\nlog_level = 'loud'\ndescriptor_indent = 2\n"))]

/-- Variables that say something for three settings, the policy in a word that is none. -/
def mixedVariables : Environment where
  bindings := [("TYPEDSTRUCT_STRICT_OPTIONS", "yes"), ("TYPEDSTRUCT_NAME_POLICY", "kebab"),
    ("TYPEDSTRUCT_LOG_LEVEL", ""), ("TYPEDSTRUCT_DESCRIPTOR_INDENT", " None ")]

/-- The variable for the policy says nothing, so the file decides it; neither says anything for the
level. -/
theorem decided_of_mixture :
    ∃ s, (load mixedFiles mixedVariables none).result = .ok s ∧
      s.strict.equal (.bool true) = true ∧ s.policy.equal (.text "lower_snake") = true ∧
      s.logLevel.equal (.text "WARNING") = true ∧ s.indent.equal .none = true ∧
      s.IsRead ∧ (∃ p, s.namePolicy = .ok p) ∧
      ∃ found, Selects mixedFiles (candidates none) found ∧
        ∀ k v, s.value k = v ↔
          k.Decides [(mixedVariables.given? k.variableName).map .text, tabled found k] v := by
  have hchecked : (load mixedFiles mixedVariables none).result.toOption.any (fun s =>
      s.strict.equal (.bool true) && s.policy.equal (.text "lower_snake") &&
        s.logLevel.equal (.text "WARNING") && s.indent.equal .none) = true := by
    rw [result_load, result_firstTable]
    decide +kernel
  cases hload : (load mixedFiles mixedVariables none).result with
  | error fault =>
    rw [hload] at hchecked
    cases hchecked
  | ok s =>
    rw [hload] at hchecked
    simp only [Except.toOption, Option.any_some, Bool.and_eq_true] at hchecked
    obtain ⟨⟨⟨hstrict, hpolicy⟩, hlevel⟩, hindent⟩ := hchecked
    exact ⟨s, rfl, hstrict, hpolicy, hlevel, hindent, decided_of_load hload⟩

end Settings

end RecordSchema
