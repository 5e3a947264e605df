import RecordSchema.Proofs.Document.Loading
import RecordSchema.Proofs.Names
import RecordSchema.Settings.EnvironmentFile

/-!
# Settings that are read

Whatever files and variables say, the settings that come of them are in order: the policy and the
level are words of theirs, and the indentation is none or a number (`Settings.isRead_of_load`).

There can also come nothing of them. Variables can only be refused for what an environment file says
(`EnvironmentFile.Refused`), for variables of the environment itself always give settings. Settings
can only be refused for octets that are no text, for numbers that are too long, and for an infinite
indentation (`Settings.Refused`).
-/

set_option autoImplicit false

namespace RecordSchema

open RecordSchema.Text

/-! ## Environment files -/

namespace Environment

theorem get?_set_of_ne {e : Environment} {name other : String} (h : other ≠ name)
    (value : String) : (e.set name value).get? other = e.get? other := by
  unfold get? set
  rw [List.reverse_append, List.reverse_singleton, List.singleton_append,
    List.find?_cons_of_neg (by simpa using h.symm)]

end Environment

namespace Schema

theorem nodup_keys_put {α : Type} {ps : List (String × α)} (h : (ps.map Prod.fst).Nodup)
    (name : String) (a : α) : ((put ps name a).map Prod.fst).Nodup := by
  by_cases hmem : name ∈ ps.map Prod.fst
  · rwa [keys_put_of_mem hmem]
  · rw [put_of_notMem hmem, List.map_append]
    refine List.nodup_append.2 ⟨h, List.nodup_singleton _, fun x hx y hy hxy => ?_⟩
    rw [hxy, List.mem_singleton.1 hy] at hx
    exact hmem hx

end Schema

namespace EnvironmentFile

theorem nodup_assignments (e : Environment) (cs : List Char) :
    ((assignments e cs).map Prod.fst).Nodup := by
  unfold assignments
  -- Every statement keeps the names distinct, for it puts its variable in its place.
  suffices h : ∀ (ss : List (Nat × Statement)) (known : List (String × Option String)),
      (known.map Prod.fst).Nodup → ((ss.foldl _ known).map Prod.fst).Nodup from
    h (statements cs) [] List.nodup_nil
  intro ss
  induction ss with
  | nil => exact fun known hknown => hknown
  | cons s ss ih =>
    intro known hknown
    rw [List.foldl_cons]
    refine ih _ ?_
    split
    · exact Schema.nodup_keys_put hknown _ _
    · exact hknown

/-- What adding one variable does. -/
def add (e : Environment) (v : String × Option String) : Except Refusal Environment :=
  match v.2 with
  | none => .ok e
  | some value =>
    if (e.get? v.1).isSome then .ok e
    else if isSettable v.1 value then .ok (e.set v.1 value)
    else .error .badValue

/-- A variable that the environment does not have and that cannot be set. -/
def IsUnsettable (e : Environment) (v : String × Option String) : Prop :=
  ∃ value, v.2 = some value ∧ e.get? v.1 = none ∧ isSettable v.1 value = false

theorem add_of_unsettable {e : Environment} {v : String × Option String} (h : IsUnsettable e v) :
    add e v = .error .badValue := by
  obtain ⟨value, hvalue, hnone, hbad⟩ := h
  rw [add, hvalue]
  simp [hnone, hbad]

/-- A variable that is added makes no difference to the others. -/
theorem exists_add {e : Environment} {v : String × Option String} (h : ¬ IsUnsettable e v) :
    ∃ e', add e v = .ok e' ∧ ∀ other, other ≠ v.1 → e'.get? other = e.get? other := by
  obtain ⟨name, given⟩ := v
  cases given with
  | none => exact ⟨e, rfl, fun _ _ => rfl⟩
  | some value =>
    unfold add
    dsimp only
    -- A variable that is set already stays as it is.
    by_cases hset : (e.get? name).isSome = true
    · rw [if_pos hset]
      exact ⟨e, rfl, fun _ _ => rfl⟩
    · have hnone : e.get? name = none := by simpa using hset
      have hsettable : isSettable name value = true := by
        cases hbad : isSettable name value with
        | true => rfl
        | false => exact absurd ⟨value, rfl, hnone, hbad⟩ h
      rw [if_neg hset, if_pos hsettable]
      exact ⟨_, rfl, fun other hother => Environment.get?_set_of_ne hother value⟩

/-- Variables are added one by one, and the first that cannot be set is refused. As their names are
distinct, each meets its name in the environment as it was at the start. -/
theorem foldlM_add_eq_error_iff {vs : List (String × Option String)}
    (hvs : (vs.map Prod.fst).Nodup) {e : Environment} {cause : Refusal} :
    vs.foldlM add e = .error cause ↔ cause = .badValue ∧ ∃ v ∈ vs, IsUnsettable e v := by
  induction vs generalizing e with
  | nil => exact iff_of_false (fun h => by cases h) (by simp)
  | cons v vs ih =>
    obtain ⟨hnotMem, hnodup⟩ := List.nodup_cons.1 hvs
    rw [List.foldlM_cons]
    by_cases hv : IsUnsettable e v
    · rw [add_of_unsettable hv, error_bind]
      constructor
      · intro h
        exact ⟨(Except.error.inj h).symm, v, List.mem_cons_self .., hv⟩
      · rintro ⟨rfl, -⟩
        rfl
    · obtain ⟨e', he', hsame⟩ := exists_add hv
      -- The other variables meet what they met before this one was set.
      have hiff : ∀ w ∈ vs, IsUnsettable e' w ↔ IsUnsettable e w := by
        intro w hw
        have hne : w.1 ≠ v.1 := fun heq => hnotMem (heq ▸ List.mem_map_of_mem hw)
        rw [IsUnsettable, IsUnsettable, hsame w.1 hne]
      rw [he', ok_bind, ih hnodup]
      refine and_congr_right fun _ => ?_
      constructor
      · rintro ⟨w, hw, hbad⟩
        exact ⟨w, List.mem_cons_of_mem v hw, (hiff w hw).1 hbad⟩
      · rintro ⟨w, hw, hbad⟩
        rcases List.mem_cons.1 hw with rfl | hw
        · exact absurd hbad hv
        · exact ⟨w, hw, (hiff w hw).2 hbad⟩

theorem additions_eq_error_iff {e : Environment} {cs : List Char} {cause : Refusal} :
    additions e cs = .error cause ↔
      cause = .badValue ∧ ∃ v ∈ assignments e cs, IsUnsettable e v :=
  foldlM_add_eq_error_iff (nodup_assignments e cs)

/-- An environment file is refused: its octets are no text, or it adds a variable that cannot be
set, for the name is empty or there is a NUL in the value. -/
inductive Refused (files : FileTree) (e : Environment) : Prop where
  | undecodable {octets : List UInt8} (on : isSwitchedOff e = false)
      (held : files.read (Path.ofText ".env") = .ok octets)
      (nothing : Utf8.decode? octets = none)
  | unsettable {octets : List UInt8} {cs : List Char} {v : String × Option String}
      (on : isSwitchedOff e = false) (held : files.read (Path.ofText ".env") = .ok octets)
      (text : Utf8.decode? octets = some cs) (assigned : v ∈ assignments e (unifyLines cs))
      (unsettable : IsUnsettable e v)

theorem result_forM_say (ss : List (Nat × Statement)) (words : Nat × Statement → Report PUnit)
    (h : ∀ s, (words s).result = .ok ()) : (ss.forM words).result = .ok () := by
  induction ss with
  | nil => rfl
  | cons s ss ih =>
    show (words s >>= fun _ => ss.forM words).result = _
    rw [Report.result_bind, h, ok_bind, ih]

theorem result_load_of_text {files : FileTree} {e : Environment} {octets : List UInt8}
    {cs : List Char} (on : isSwitchedOff e = false)
    (held : files.read (Path.ofText ".env") = .ok octets) (text : Utf8.decode? octets = some cs) :
    (load files e).result = (additions e (unifyLines cs)).mapError .refused := by
  unfold load
  simp only [on, held, text, Bool.false_eq_true, if_false, Report.result_bind]
  rw [result_forM_say _ _ fun s => ?_]
  · rfl
  · split
    · rfl
    · rfl

theorem result_load_of_off {files : FileTree} {e : Environment} (off : isSwitchedOff e = true) :
    (load files e).result = .ok e := by
  simp [load, off]

theorem result_load_of_unread {files : FileTree} {e : Environment} {fault : FileFault}
    (unread : files.read (Path.ofText ".env") = .error fault) : (load files e).result = .ok e := by
  cases hon : isSwitchedOff e with
  | true => exact result_load_of_off hon
  | false => simp [load, hon, unread]

theorem result_load_of_undecodable {files : FileTree} {e : Environment} {octets : List UInt8}
    (on : isSwitchedOff e = false) (held : files.read (Path.ofText ".env") = .ok octets)
    (nothing : Utf8.decode? octets = none) :
    (load files e).result = .error (.refused .undecodable) := by
  simp [load, on, held, nothing, Report.refuse, Error.raised, Error.shownValues]

/-- An environment file whose octets are a text can only be refused for a variable. -/
theorem refused_iff_of_text {files : FileTree} {e : Environment} {octets : List UInt8}
    {cs : List Char} (on : isSwitchedOff e = false)
    (held : files.read (Path.ofText ".env") = .ok octets) (text : Utf8.decode? octets = some cs) :
    Refused files e ↔ ∃ v ∈ assignments e (unifyLines cs), IsUnsettable e v := by
  constructor
  · intro h
    cases h with
    | undecodable _ held' nothing =>
      obtain rfl := Except.ok.inj (held.symm.trans held')
      cases text.symm.trans nothing
    | unsettable _ held' text' assigned unsettable =>
      obtain rfl := Except.ok.inj (held.symm.trans held')
      obtain rfl := Option.some.inj (text.symm.trans text')
      exact ⟨_, assigned, unsettable⟩
  · rintro ⟨v, assigned, unsettable⟩
    exact .unsettable on held text assigned unsettable

/-- What is wrong with an environment file is the only thing that can go wrong with it. -/
theorem refusedIff_load (files : FileTree) (e : Environment) :
    RefusedIff (Refused files e) (load files e).result := by
  cases hon : isSwitchedOff e with
  | true =>
    rw [result_load_of_off hon]
    refine .ok (fun h => ?_) e
    cases h with
    | undecodable on | unsettable on => cases on.symm.trans hon
  | false =>
    cases hheld : files.read (Path.ofText ".env") with
    | error fault =>
      rw [result_load_of_unread hheld]
      refine .ok (fun h => ?_) e
      cases h with
      | undecodable _ held | unsettable _ held => cases held.symm.trans hheld
    | ok octets =>
      cases htext : Utf8.decode? octets with
      | none =>
        rw [result_load_of_undecodable hon hheld htext]
        exact .refused (.undecodable hon hheld htext) _
      | some cs =>
        rw [result_load_of_text hon hheld htext]
        refine .of_mapError ?_
        rw [refused_iff_of_text hon hheld htext]
        simp only [additions_eq_error_iff, exists_eq_left]

end EnvironmentFile

/-! ## Loose values -/

/-- A number without bounds. -/
inductive Value.IsInfinite : Value → Prop where
  | real (negative : Bool) : (Value.real (.infinite negative)).IsInfinite
  | decimal (negative : Bool) : (Value.decimal (.infinite negative)).IsInfinite

namespace Settings

/-- Settings as they can be: a truth value, the word of a policy, that of a level, and none or a
number for the indentation. -/
structure IsRead (s : Settings) : Prop where
  strict : ∃ b, s.strict = .bool b
  policy : ∃ p : NamePolicy, s.policy = .text p.word
  level : ∃ level : Level, s.logLevel = .text level.word
  indent : s.indent = .none ∨ ∃ n, s.indent = .int n

theorem isRead_default : IsRead {} :=
  ⟨⟨false, rfl⟩, ⟨.identifier, rfl⟩, ⟨.warning, rfl⟩, .inl rfl⟩

/-- The policy of such settings is in force. -/
theorem IsRead.exists_namePolicy {s : Settings} (h : s.IsRead) :
    ∃ policy, s.namePolicy = .ok policy := by
  obtain ⟨p, hp⟩ := h.policy
  refine ⟨p, ?_⟩
  rw [namePolicy, hp]
  cases p <;> rfl

/-- A value gives an integer or none, or is refused for having no bounds. -/
theorem toInteger_cases (v : Value) :
    (¬ v.IsInfinite ∧ ((∃ n, v.toInteger = .ok n) ∨ v.toInteger = .error .wrongKind ∨
      v.toInteger = .error .badValue)) ∨ v.IsInfinite ∧ v.toInteger = .error .outOfRange := by
  -- Texts and octets hold a numeral or are refused.
  have htext : ∀ n? : Option Int, (∃ n, (n?.map Except.ok).getD (.error Refusal.badValue) = .ok n) ∨
      (n?.map Except.ok).getD (.error Refusal.badValue) = .error .badValue := by
    intro n?
    cases n? with
    | none => exact .inr rfl
    | some n => exact .inl ⟨n, rfl⟩
  cases v with
  | real x =>
    cases x with
    | infinite negative => exact .inr ⟨.real negative, rfl⟩
    | nan _ => exact .inl ⟨nofun, .inr (.inr rfl)⟩
    | finite => exact .inl ⟨nofun, .inl ⟨_, rfl⟩⟩
  | decimal d =>
    cases d with
    | infinite negative => exact .inr ⟨.decimal negative, rfl⟩
    | nan _ _ => exact .inl ⟨nofun, .inr (.inr rfl)⟩
    | finite => exact .inl ⟨nofun, .inl ⟨_, rfl⟩⟩
  | bool b => exact .inl ⟨nofun, .inl ⟨_, rfl⟩⟩
  | int n => exact .inl ⟨nofun, .inl ⟨n, rfl⟩⟩
  | text s => exact .inl ⟨nofun, (htext _).imp id .inr⟩
  | bytes octets => exact .inl ⟨nofun, (htext _).imp id .inr⟩
  | _ => exact .inl ⟨nofun, .inr (.inl rfl)⟩

/-- What is read as an indentation is one, and nothing but a number without bounds is refused. -/
theorem indentFrom_cases (given : Value) :
    (¬ given.IsInfinite ∧ ∃ r, indentFrom given = .ok r ∧
      ∀ v, r = some v → v = .none ∨ ∃ n, v = .int n) ∨
    given.IsInfinite ∧ indentFrom given = .error .outOfRange := by
  unfold indentFrom
  by_cases hunset : isUnset given = true
  · rw [if_pos hunset]
    refine .inl ⟨fun h => ?_, some .none, rfl, fun v hv => .inl (Option.some.inj hv).symm⟩
    cases h with
    | real => cases hunset
    | decimal => cases hunset
  · rw [if_neg hunset]
    rcases toInteger_cases given with ⟨hfinite, hinteger⟩ | ⟨hinfinite, hinteger⟩
    · refine .inl ⟨hfinite, ?_⟩
      rcases hinteger with ⟨n, hn⟩ | hn | hn
      · rw [hn]
        exact ⟨_, rfl, fun v hv => .inr ⟨n, (Option.some.inj hv).symm⟩⟩
      · rw [hn]
        exact ⟨_, rfl, fun v hv => by cases hv⟩
      · rw [hn]
        exact ⟨_, rfl, fun v hv => by cases hv⟩
    · rw [hinteger]
      exact .inr ⟨hinfinite, rfl⟩

/-- The indentation among loose values, if there is one. -/
def givenIndent (entries : List (Value × Value)) : Except Refusal (Option Value) :=
  match Value.lookupText "descriptor_indent" entries with
  | some given => indentFrom given
  | none => .ok none

theorem givenIndent_eq_error_iff {entries : List (Value × Value)} {cause : Refusal} :
    givenIndent entries = .error cause ↔
      cause = .outOfRange ∧
        ∃ given, Value.lookupText "descriptor_indent" entries = some given ∧ given.IsInfinite := by
  unfold givenIndent
  cases Value.lookupText "descriptor_indent" entries with
  | none => exact iff_of_false (fun h => by cases h) (by simp)
  | some given =>
    dsimp only
    rcases indentFrom_cases given with ⟨hfinite, r, hr, -⟩ | ⟨hinfinite, hr⟩
    · rw [hr]
      refine iff_of_false (fun h => by cases h) ?_
      rintro ⟨-, given', hgiven', hinfinite⟩
      exact hfinite (Option.some.inj hgiven' ▸ hinfinite)
    · rw [hr]
      constructor
      · intro h
        exact ⟨(Except.error.inj h).symm, given, rfl, hinfinite⟩
      · rintro ⟨rfl, -⟩
        rfl

theorem kind_of_givenIndent {entries : List (Value × Value)} {v : Value}
    (h : givenIndent entries = .ok (some v)) : v = .none ∨ ∃ n, v = .int n := by
  unfold givenIndent at h
  split at h
  · next given _ =>
    rcases indentFrom_cases given with ⟨-, r, hr, hkind⟩ | ⟨-, hr⟩
    · exact hkind v (Except.ok.inj (hr.symm.trans h))
    · cases hr.symm.trans h
  · cases h

section Entries

variable {s s' : Settings} {entries : List (Value × Value)}

/-- Only an indentation can keep loose values from being taken. -/
theorem applyEntries_eq (s : Settings) (entries : List (Value × Value)) :
    s.applyEntries entries = (givenIndent entries).map fun indent =>
      { strict := ((Value.lookupText "strict_options" entries).map fun v =>
          .bool (flag v)).getD s.strict
        policy := ((Value.lookupText "name_policy" entries).bind policyFrom).getD s.policy
        logLevel := ((Value.lookupText "log_level" entries).bind levelFrom).getD s.logLevel
        indent := indent.getD s.indent } := by
  unfold applyEntries givenIndent
  cases Value.lookupText "descriptor_indent" entries with
  | none => rfl
  | some given =>
    dsimp only
    cases indentFrom given with
    | ok indent => rfl
    | error cause => rfl

theorem applyEntries_eq_error_iff {cause : Refusal} :
    s.applyEntries entries = .error cause ↔
      cause = .outOfRange ∧
        ∃ given, Value.lookupText "descriptor_indent" entries = some given ∧
          given.IsInfinite := by
  rw [applyEntries_eq, map_eq_error_iff, givenIndent_eq_error_iff]

/-- What is read as a policy is the word of one. -/
theorem exists_word_of_policyFrom {v word : Value} (h : policyFrom v = some word) :
    ∃ p : NamePolicy, word = .text p.word := by
  unfold policyFrom at h
  split at h
  · obtain ⟨p, -, rfl⟩ := Option.map_eq_some_iff.1 h
    exact ⟨p, rfl⟩
  · cases h

/-- What is read as a level is the word of one. -/
theorem exists_word_of_levelFrom {v word : Value} (h : levelFrom v = some word) :
    ∃ level : Level, word = .text level.word := by
  unfold levelFrom at h
  split at h
  · obtain ⟨level, -, rfl⟩ := Option.map_eq_some_iff.1 h
    exact ⟨level, rfl⟩
  · cases h

/-- Loose values leave settings in order. -/
theorem isRead_applyEntries (hs : s.IsRead) (h : s.applyEntries entries = .ok s') : s'.IsRead := by
  rw [applyEntries_eq, map_eq_ok_iff] at h
  obtain ⟨indent, hindent, rfl⟩ := h
  -- Each setting is as it was, or what its loose value is read as.
  constructor
  · cases Value.lookupText "strict_options" entries with
    | none => exact hs.strict
    | some v => exact ⟨_, rfl⟩
  · dsimp only
    cases hword : (Value.lookupText "name_policy" entries).bind policyFrom with
    | none => exact hs.policy
    | some word =>
      obtain ⟨v, -, hv⟩ := Option.bind_eq_some_iff.1 hword
      exact exists_word_of_policyFrom hv
  · dsimp only
    cases hword : (Value.lookupText "log_level" entries).bind levelFrom with
    | none => exact hs.level
    | some word =>
      obtain ⟨v, -, hv⟩ := Option.bind_eq_some_iff.1 hword
      exact exists_word_of_levelFrom hv
  · cases indent with
    | none => exact hs.indent
    | some v => exact kind_of_givenIndent hindent

theorem isRead_apply (hs : s.IsRead) {given : Value} (h : s.apply given = .ok s') : s'.IsRead := by
  cases given with
  | mapping entries => exact isRead_applyEntries hs h
  | _ => exact Except.ok.inj h ▸ hs

theorem exists_apply_eq_error_iff {given : Value} :
    (∃ cause, s.apply given = .error cause) ↔
      ∃ entries v, given = .mapping entries ∧
        Value.lookupText "descriptor_indent" entries = some v ∧ v.IsInfinite := by
  constructor
  · rintro ⟨cause, h⟩
    cases given with
    | mapping entries =>
      obtain ⟨-, v, hv, hinfinite⟩ := applyEntries_eq_error_iff.1 h
      exact ⟨entries, v, rfl, hv, hinfinite⟩
    | _ => cases h
  · rintro ⟨entries, v, rfl, hv, hinfinite⟩
    exact ⟨.outOfRange, applyEntries_eq_error_iff.2 ⟨rfl, v, hv, hinfinite⟩⟩

/-- Variables are texts, and no text is without bounds, so they always give settings. -/
theorem exists_overruled (s : Settings) (e : Environment) (head : String) :
    ∃ s', s.overruled e head = .ok s' := by
  cases h : s.overruled e head with
  | ok s' => exact ⟨s', rfl⟩
  | error cause =>
    obtain ⟨-, given, hgiven, hinfinite⟩ := applyEntries_eq_error_iff.1 h
    obtain ⟨entry, hentry, rfl⟩ := Option.map_eq_some_iff.1 hgiven
    obtain ⟨setting, -, hsetting⟩ := List.mem_filterMap.1 (List.mem_of_find?_eq_some hentry)
    split at hsetting
    · split at hsetting
      · cases hsetting
      · obtain rfl := Option.some.inj hsetting
        cases hinfinite
    · cases hsetting

end Entries

/-! ## Files of settings -/

section Files

variable {files : FileTree}

theorem refuses_toml_iff {octets : List UInt8} {cs : List Char}
    (htext : Utf8.decode? octets = some cs) {cause : Refusal} :
    Document.Refuses .toml octets cause ↔ Toml.decode cs = .error (.refused cause) :=
  Document.refuses_iff_of_text htext

/-- A file of settings is refused for what a document in the same format is refused for. -/
theorem refusedIff_tableOf (files : FileTree) (p : Path) :
    RefusedIff
      (∃ octets cause, files.read p = .ok octets ∧ Document.Refuses .toml octets cause)
      (tableOf files p).result := by
  unfold tableOf
  cases hheld : files.read p with
  | error fault =>
    refine .ok ?_ none
    rintro ⟨octets, _, h, -⟩
    cases h
  | ok octets =>
    dsimp only
    cases htext : Utf8.decode? octets with
    | none => exact .refused ⟨octets, _, rfl, .undecodable htext⟩ .undecodable
    | some cs =>
      dsimp only
      have hiff : (∃ octets' cause, Except.ok octets = (.ok octets' : Except FileFault _) ∧
          Document.Refuses .toml octets' cause) ↔
            ∃ cause, Toml.decode cs = .error (.refused cause) := by
        simp [refuses_toml_iff htext]
      rw [hiff]
      cases Toml.decode cs with
      | error fault =>
        cases fault with
        | refused cause => exact .refused ⟨cause, rfl⟩ cause
        | malformed => exact .ok (fun ⟨_, h⟩ => by cases h) none
      | ok v =>
        have hfails : ¬ ∃ cause, Except.ok v = (.error (.refused cause) : Except DocumentFault _) :=
          fun ⟨_, h⟩ => by cases h
        -- Anything but a mapping is passed over, without a refusal.
        cases v with
        | mapping content => exact .ok hfails _
        | _ => exact .ok hfails _

/-- A file that is not there has no table. -/
theorem result_tableOf_of_absent {p : Path} {place : List String}
    (hplace : files.place p = .ok place) (hat : files.at? place = none) :
    (tableOf files p).result = .ok none := by
  have hread : files.read p = .error ⟨.noSuchFile, p.text, none⟩ := by
    rw [FileTree.read, hplace, ok_bind, hat]
    rfl
  rw [tableOf, hread]
  rfl

/-- The first file whose table has anything in it decides. -/
theorem result_firstTable_cons {p : Path} (husable : p.isUnusable = false) {place : List String}
    (hplace : files.place p = .ok place) (rest : List Path) :
    (firstTable files (p :: rest)).result = (tableOf files p).result >>= fun found =>
      if found.any Value.truthy then .ok found else (firstTable files rest).result := by
  have hfind : files.find? p = files.at? place := by
    rw [FileTree.find?, hplace]
    rfl
  rw [firstTable]
  simp only [husable, hplace, hfind, Bool.false_eq_true, if_false]
  -- Where nothing is found, no table is read either.
  cases hat : files.at? place with
  | none =>
    rw [result_tableOf_of_absent hplace hat]
    rfl
  | some entry =>
    rw [if_neg (by simp), Report.result_bind]
    refine congrArg _ (funext fun found => ?_)
    cases found with
    | none => rfl
    | some t =>
      dsimp only [Option.any_some]
      split
      · rfl
      · rfl

theorem place_ownFile (files : FileTree) :
    files.place (Path.ofText ownFile) = .ok (files.current ++ [ownFile]) := rfl

theorem place_sharedFile (files : FileTree) :
    files.place (Path.ofText sharedFile) = .ok (files.current ++ [sharedFile]) := rfl

/-- Settings are refused for the octets of a file or a number in it, or for an indentation without
bounds. The second file matters only if the first has no table with anything in it. -/
inductive Refused (files : FileTree) : Prop where
  | own {octets : List UInt8} {cause : Refusal}
      (held : files.read (Path.ofText ownFile) = .ok octets)
      (refuses : Document.Refuses .toml octets cause)
  | shared {found : Option Value} {octets : List UInt8} {cause : Refusal}
      (silent : (tableOf files (Path.ofText ownFile)).result = .ok found)
      (empty : found.any Value.truthy = false)
      (held : files.read (Path.ofText sharedFile) = .ok octets)
      (refuses : Document.Refuses .toml octets cause)
  | indent {entries : List (Value × Value)} {given : Value}
      (found : (firstTable files [Path.ofText ownFile, Path.ofText sharedFile]).result =
        .ok (some (.mapping entries)))
      (given_eq : Value.lookupText "descriptor_indent" entries = some given)
      (infinite : given.IsInfinite)

/-- The second file decides if the first has no table with anything in it. -/
theorem result_firstTable (files : FileTree) :
    (firstTable files [Path.ofText ownFile, Path.ofText sharedFile]).result =
      (tableOf files (Path.ofText ownFile)).result >>= fun found =>
        if found.any Value.truthy then .ok found
        else (tableOf files (Path.ofText sharedFile)).result >>= fun found =>
          .ok (if found.any Value.truthy then found else none) := by
  have hown : (Path.ofText ownFile).isUnusable = false := Path.isUnusable_ofText (by decide)
  have hshared : (Path.ofText sharedFile).isUnusable = false := Path.isUnusable_ofText (by decide)
  rw [result_firstTable_cons hown (place_ownFile files),
    result_firstTable_cons hshared (place_sharedFile files)]
  refine congrArg _ (funext fun found => ?_)
  split
  · rfl
  · refine congrArg _ (funext fun found => ?_)
    split
    · rfl
    · rfl

/-- The paths among which a table of settings is looked for. -/
def candidates (path : Option String) : List Path :=
  match path with
  | some s => [Path.ofText s]
  | none => [Path.ofText ownFile, Path.ofText sharedFile]

/-- The settings of files come about by a merge of the table that is found. -/
theorem result_ofFiles (files : FileTree) (path : Option String) :
    (ofFiles files path).result =
      (firstTable files (candidates path)).result >>= fun found =>
        (({} : Settings).apply (found.getD .none)).mapError .refused := by
  show (firstTable files (List.map Path.ofText _) >>= fun found => _ : Report Settings).result = _
  rw [Report.result_bind]
  cases path with
  | none =>
    refine congrArg _ (funext fun found => ?_)
    cases found <;> rfl
  | some s =>
    refine congrArg _ (funext fun found => ?_)
    cases found <;> rfl

/-- Settings come about by two merges: of the table that is found, and of the variables. -/
theorem result_load_merges (files : FileTree) (e : Environment) (path : Option String) :
    (load files e path).result =
      (firstTable files (candidates path)).result >>= fun found =>
        ((({} : Settings).apply (found.getD .none)).mapError .refused) >>= fun s =>
          (s.overruled e variableHead).mapError .refused := by
  show ((ofFiles files path) >>= fun s => _ : Report Settings).result = _
  rw [Report.result_bind, result_ofFiles]
  cases (firstTable files (candidates path)).result with
  | error fault => rfl
  | ok found => rfl

theorem result_load (files : FileTree) (e : Environment) :
    (load files e none).result =
      (firstTable files [Path.ofText ownFile, Path.ofText sharedFile]).result >>= fun found =>
        ((({} : Settings).apply (found.getD .none)).mapError .refused) >>= fun s =>
          (s.overruled e variableHead).mapError .refused :=
  result_load_merges files e none

/-- Settings that come about are in order. -/
theorem isRead_of_load {files : FileTree} {e : Environment} {path : Option String} {s : Settings}
    (h : (load files e path).result = .ok s) : s.IsRead := by
  rw [result_load_merges, bind_eq_ok_iff] at h
  obtain ⟨found, -, h⟩ := h
  obtain ⟨s', hs', h⟩ := bind_eq_ok_iff.1 h
  have hread := isRead_apply isRead_default (mapError_eq_ok_iff.1 hs')
  exact isRead_applyEntries hread (mapError_eq_ok_iff.1 h)

theorem refusedIff_firstTable (files : FileTree) :
    RefusedIff
      ((∃ octets cause, files.read (Path.ofText ownFile) = .ok octets ∧
        Document.Refuses .toml octets cause) ∨
      ∃ found, (tableOf files (Path.ofText ownFile)).result = .ok found ∧
        found.any Value.truthy = false ∧
        ∃ octets cause, files.read (Path.ofText sharedFile) = .ok octets ∧
          Document.Refuses .toml octets cause)
      (firstTable files [Path.ofText ownFile, Path.ofText sharedFile]).result := by
  rw [result_firstTable]
  refine (refusedIff_tableOf files _).bind fun found _ => ?_
  by_cases hfound : found.any Value.truthy = true
  · rw [if_pos hfound]
    exact .ok (fun h => by cases hfound.symm.trans h.1) found
  · rw [if_neg hfound]
    have hshared := (refusedIff_tableOf files (Path.ofText sharedFile)).bind
      (f := fun found => .ok (if found.any Value.truthy then found else none))
      fun found _ => .ok not_false _
    exact hshared.congr (by simp [hfound])

/-- Of the two merges only that of a table can be refused, for an indentation without bounds. -/
theorem refusedIff_merges (e : Environment) (found : Option Value) :
    RefusedIff
      (∃ entries v, found.getD .none = .mapping entries ∧
        Value.lookupText "descriptor_indent" entries = some v ∧ v.IsInfinite)
      ((({} : Settings).apply (found.getD .none)).mapError .refused >>= fun s =>
        (s.overruled e variableHead).mapError .refused) := by
  have happly : RefusedIff _ ((({} : Settings).apply (found.getD .none)).mapError .refused) :=
    .of_mapError exists_apply_eq_error_iff
  have hboth := happly.bind (f := fun s => (s.overruled e variableHead).mapError .refused)
    fun s _ => by
      obtain ⟨s', hs'⟩ := exists_overruled s e variableHead
      rw [hs']
      exact .ok not_false s'
  exact hboth.congr (by simp)

/-- There are settings unless they are refused. -/
theorem refusedIff_load (files : FileTree) (e : Environment) :
    RefusedIff (Refused files) (load files e none).result := by
  rw [result_load]
  refine ((refusedIff_firstTable files).bind fun found _ => refusedIff_merges e found).congr ?_
  constructor
  · rintro ((⟨_, _, held, refuses⟩ | ⟨found, silent, empty, _, _, held, refuses⟩) |
      ⟨found, hfound, entries, v, hentries, hv, hinfinite⟩)
    · exact .own held refuses
    · exact .shared silent empty held refuses
    · cases found with
      | none => cases hentries
      | some t =>
        rw [Option.getD_some] at hentries
        exact .indent (hentries ▸ hfound) hv hinfinite
  · intro h
    cases h with
    | own held refuses => exact .inl (.inl ⟨_, _, held, refuses⟩)
    | shared silent empty held refuses =>
      exact .inl (.inr ⟨_, silent, empty, _, _, held, refuses⟩)
    | indent found given_eq infinite => exact .inr ⟨_, found, _, _, rfl, given_eq, infinite⟩

end Files

end Settings

end RecordSchema
