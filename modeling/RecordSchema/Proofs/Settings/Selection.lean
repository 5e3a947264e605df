import RecordSchema.Proofs.Settings.Merging

/-!
# The one table that decides

Two files of the current directory can hold settings: one for this program alone, and one that holds
them among others. The table that decides is that of the first file which can be read and has a
table with anything in it (`Settings.Chosen`); the other file then has no say, and where neither has
such a table the settings are the default.

A file that is not there, is a directory, or is malformed is passed over. One whose octets are no
text, or in which a number is too long, is not: it bars the way to any settings, unless the other
file has decided before (`Settings.Barred`). `Settings.settled_iff` puts this together with what a
merge makes of a table.
-/

set_option autoImplicit false

namespace RecordSchema.Settings

open RecordSchema.Text

/-! ## The tables of the two files -/

/-- The two files that can hold settings. -/
inductive Source where
  | own
  | shared

namespace Source

variable {files : FileTree} {src : Source} {content entries entries' : List (Value × Value)}

/-- The name of a file in the current directory. -/
def file : Source → String
  | .own => ownFile
  | .shared => sharedFile

/-- A file can be read, and its text is a document with this content. -/
def Holds (files : FileTree) (src : Source) (content : List (Value × Value)) : Prop :=
  ∃ octets cs, files.read (Path.ofText src.file) = .ok octets ∧ Utf8.decode? octets = some cs ∧
    Toml.decode cs = .ok (.mapping content)

/-- The table of settings in a content. The file for this program has it under a name of its own, or
is such a table as a whole; the other file has it among the tools. -/
inductive IsTable : Source → List (Value × Value) → List (Value × Value) → Prop where
  | named {content entries : List (Value × Value)}
      (under : Value.lookupText "compiler" content = some (.mapping entries)) :
      IsTable .own content entries
  | whole {content : List (Value × Value)}
      (unnamed : ∀ entries, Value.lookupText "compiler" content ≠ some (.mapping entries)) :
      IsTable .own content content
  | tool {content tools entries : List (Value × Value)}
      (among : Value.lookupText "tool" content = some (.mapping tools))
      (under : Value.lookupText "typedstruct" tools = some (.mapping entries)) :
      IsTable .shared content entries

/-- A file can be read and has this table of settings. -/
def Tabulates (files : FileTree) (src : Source) (entries : List (Value × Value)) : Prop :=
  ∃ content, Holds files src content ∧ IsTable src content entries

/-- A file has no table with anything in it. -/
def Silent (files : FileTree) (src : Source) : Prop :=
  ∀ entries, src.Tabulates files entries → entries = []

/-- A file is legible unless its octets encode no text or a number in it is refused. -/
def Legible (files : FileTree) (src : Source) : Prop :=
  ∀ octets cause, files.read (Path.ofText src.file) = .ok octets →
    ¬ Document.Refuses .toml octets cause

theorem isTable_own_iff :
    IsTable .own content entries ↔ table (file .own) content = .mapping entries := by
  have hfile : (file .own == sharedFile) = false := by decide +kernel
  unfold table
  rw [if_neg (by simp [hfile])]
  constructor
  · intro h
    cases h with
    | named under => rw [under]
    | whole unnamed =>
      split
      · next found => exact absurd found (unnamed _)
      · rfl
  · intro h
    split at h
    · next found =>
      obtain rfl := Value.mapping.inj h
      exact .named found
    · next unnamed =>
      obtain rfl := Value.mapping.inj h
      exact .whole unnamed

theorem isTable_shared_iff :
    IsTable .shared content entries ↔ table (file .shared) content = .mapping entries := by
  have hfile : (file .shared == sharedFile) = true := beq_self_eq_true _
  unfold table
  rw [if_pos hfile]
  constructor
  · intro h
    cases h with
    | tool among under => simp [among, under]
  · -- Both names have to be there, and tables have to stand under them.
    intro h
    cases hamong : Value.lookupText "tool" content with
    | none =>
      rw [hamong] at h
      cases h
    | some tools =>
      rw [hamong, Option.getD_some] at h
      cases tools with
      | mapping tools =>
        dsimp only at h
        cases hunder : Value.lookupText "typedstruct" tools with
        | none =>
          rw [hunder] at h
          cases h
        | some t =>
          rw [hunder, Option.getD_some] at h
          subst h
          exact .tool hamong hunder
      | _ => cases h

theorem isTable_iff : src.IsTable content entries ↔ table src.file content = .mapping entries := by
  cases src with
  | own => exact isTable_own_iff
  | shared => exact isTable_shared_iff

/-- What a file holds is the content of its octets. -/
theorem holds_iff {octets : List UInt8} {cs : List Char}
    (hread : files.read (Path.ofText src.file) = .ok octets)
    (htext : Utf8.decode? octets = some cs) :
    src.Holds files content ↔ Toml.decode cs = .ok (.mapping content) := by
  refine ⟨?_, fun hdecode => ⟨octets, cs, hread, htext, hdecode⟩⟩
  rintro ⟨octets', cs', held, text, hdecode⟩
  obtain rfl := Except.ok.inj (hread.symm.trans held)
  obtain rfl := Option.some.inj (htext.symm.trans text)
  exact hdecode

/-- A file has one content at most. -/
theorem Holds.unique {content' : List (Value × Value)} (h : src.Holds files content)
    (h' : src.Holds files content') : content = content' := by
  obtain ⟨octets, cs, hread, htext, hdecode⟩ := h
  exact Value.mapping.inj (Except.ok.inj (hdecode.symm.trans ((holds_iff hread htext).1 h')))

/-- A file has one table at most. -/
theorem Tabulates.unique (h : src.Tabulates files entries) (h' : src.Tabulates files entries') :
    entries = entries' := by
  obtain ⟨content, holds, htable⟩ := h
  obtain ⟨content', holds', htable'⟩ := h'
  obtain rfl := holds.unique holds'
  exact Value.mapping.inj ((isTable_iff.1 htable).symm.trans (isTable_iff.1 htable'))

/-- What comes of reading a file: a refusal, its content, or nothing. -/
inductive Reads (files : FileTree) (src : Source) : Except Error (Option Value) → Prop where
  | refused {octets : List UInt8} {cause : Refusal}
      (held : files.read (Path.ofText src.file) = .ok octets)
      (refuses : Document.Refuses .toml octets cause) :
      Reads files src (.error (.refused cause))
  | content {content : List (Value × Value)} (legible : src.Legible files)
      (holds : src.Holds files content) :
      Reads files src (.ok (some (table src.file content)))
  | nothing (legible : src.Legible files) (empty : ∀ content, ¬ src.Holds files content) :
      Reads files src (.ok none)

theorem name_ofText_file (src : Source) : (Path.ofText src.file).name = src.file := by
  cases src <;> decide +kernel

theorem legible_of_text {octets : List UInt8} {cs : List Char}
    (hread : files.read (Path.ofText src.file) = .ok octets)
    (htext : Utf8.decode? octets = some cs)
    (h : ∀ cause, Toml.decode cs ≠ .error (.refused cause)) : src.Legible files := by
  intro octets' cause held hrefuses
  obtain rfl := Except.ok.inj (hread.symm.trans held)
  exact h cause ((refuses_toml_iff htext).1 hrefuses)

theorem reads_tableOf (files : FileTree) (src : Source) :
    Reads files src (tableOf files (Path.ofText src.file)).result := by
  unfold tableOf
  rw [name_ofText_file]
  cases hread : files.read (Path.ofText src.file) with
  | error fault =>
    refine .nothing (fun octets cause held => ?_) ?_
    · cases hread.symm.trans held
    · rintro content ⟨octets, cs, held, -⟩
      cases hread.symm.trans held
  | ok octets =>
    dsimp only
    cases htext : Utf8.decode? octets with
    | none => exact .refused hread (.undecodable htext)
    | some cs =>
      have hlegible := legible_of_text hread htext
      -- There is a content exactly if the text is a document, and documents are mappings.
      have hholds {content : List (Value × Value)} (h : src.Holds files content) :=
        (holds_iff hread htext).1 h
      dsimp only
      cases hdecode : Toml.decode cs with
      | error fault =>
        rw [hdecode] at hholds hlegible
        cases fault with
        | refused cause => exact .refused hread (.scalar htext hdecode)
        | malformed => exact .nothing (hlegible nofun) fun content h => nomatch hholds h
      | ok v =>
        rw [hdecode] at hholds hlegible
        cases v with
        | mapping content => exact .content (hlegible nofun) ((holds_iff hread htext).2 hdecode)
        | _ => exact .nothing (hlegible nofun) fun content h => nomatch hholds h

end Source

/-! ## The table that decides -/

section Selection

variable {files : FileTree} {entries : List (Value × Value)} {cause : Refusal}

/-- The table that decides: that of the first file which has one with anything in it, or an empty
one if neither has. -/
inductive Chosen (files : FileTree) : List (Value × Value) → Prop where
  | own {entries : List (Value × Value)} (table : Source.own.Tabulates files entries)
      (full : entries ≠ []) : Chosen files entries
  | shared {entries : List (Value × Value)} (passed : Source.own.Silent files)
      (table : Source.shared.Tabulates files entries) (full : entries ≠ []) : Chosen files entries
  | nothing (passed : ∀ src : Source, src.Silent files) : Chosen files []

/-- Why the files give no settings: the first is not legible, or the second is not and the first has
not decided. -/
inductive Barred (files : FileTree) : Refusal → Prop where
  | own {octets : List UInt8} {cause : Refusal}
      (held : files.read (Path.ofText Source.own.file) = .ok octets)
      (refuses : Document.Refuses .toml octets cause) : Barred files cause
  | shared {octets : List UInt8} {cause : Refusal} (legible : Source.own.Legible files)
      (passed : Source.own.Silent files)
      (held : files.read (Path.ofText Source.shared.file) = .ok octets)
      (refuses : Document.Refuses .toml octets cause) : Barred files cause

/-- One table decides at most. -/
theorem Chosen.unique {entries' : List (Value × Value)} (h : Chosen files entries)
    (h' : Chosen files entries') : entries = entries' := by
  -- A table that is not empty cannot have been passed over for another.
  cases h with
  | own table full =>
    cases h' with
    | own table' => exact table.unique table'
    | shared passed => exact absurd (passed _ table) full
    | nothing passed => exact absurd (passed _ _ table) full
  | shared passed table full =>
    cases h' with
    | own table' full' => exact absurd (passed _ table') full'
    | shared _ table' => exact table.unique table'
    | nothing passed' => exact absurd (passed' _ _ table) full
  | nothing passed =>
    cases h' with
    | own table full => exact absurd (passed _ _ table) full
    | shared _ table full => exact absurd (passed _ _ table) full
    | nothing => rfl

/-- Octets are refused for one cause. -/
theorem refuses_toml_unique {octets : List UInt8} {cause' : Refusal}
    (h : Document.Refuses .toml octets cause) (h' : Document.Refuses .toml octets cause') :
    cause = cause' := by
  cases h with
  | undecodable nothing =>
    cases h' with
    | undecodable => rfl
    | scalar text => cases nothing.symm.trans text
  | scalar text refused =>
    have hdecode := (refuses_toml_iff text).1 h'
    exact DocumentFault.refused.inj (Except.error.inj (Eq.trans (Eq.symm refused) hdecode))

theorem Barred.unique {cause' : Refusal} (h : Barred files cause) (h' : Barred files cause') :
    cause = cause' := by
  cases h with
  | own held refuses =>
    cases h' with
    | own held' refuses' =>
      obtain rfl := Except.ok.inj (held.symm.trans held')
      exact refuses_toml_unique refuses refuses'
    | shared legible => exact absurd refuses (legible _ _ held)
  | shared legible _ held refuses =>
    cases h' with
    | own held' refuses' => exact absurd refuses' (legible _ _ held')
    | shared _ _ held' refuses' =>
      obtain rfl := Except.ok.inj (held.symm.trans held')
      exact refuses_toml_unique refuses refuses'

/-- What comes of looking for a table: a refusal, or something that holds what the table that
decides holds. -/
inductive Finds (files : FileTree) : Except Error (Option Value) → Prop where
  | barred {cause : Refusal} (barred : Barred files cause) :
      Finds files (.error (.refused cause))
  | table {entries : List (Value × Value)} (legible : ∀ cause, ¬ Barred files cause)
      (chosen : Chosen files entries) : Finds files (.ok (some (.mapping entries)))
  | nothing {found : Option Value} (legible : ∀ cause, ¬ Barred files cause)
      (chosen : Chosen files []) (empty : ∀ entries, found ≠ some (.mapping entries)) :
      Finds files (.ok found)

theorem truthy_mapping : (Value.mapping entries).truthy = true ↔ entries ≠ [] := by
  simp [Value.truthy]

namespace Source

variable {src : Source}

/-- The file for this program always has a table. -/
theorem exists_isTable_own (content : List (Value × Value)) :
    ∃ entries, IsTable .own content entries := by
  by_cases h : ∃ entries, Value.lookupText "compiler" content = some (.mapping entries)
  · obtain ⟨entries, under⟩ := h
    exact ⟨entries, .named under⟩
  · exact ⟨content, .whole fun entries under => h ⟨entries, under⟩⟩

theorem silent_of_nothing (h : ∀ content, ¬ src.Holds files content) : src.Silent files := by
  rintro entries ⟨content, hcontent, -⟩
  exact absurd hcontent (h content)

/-- A table that counts for nothing is empty. -/
theorem silent_of_content {content : List (Value × Value)} (holds : src.Holds files content)
    (h : ∀ entries, table src.file content = .mapping entries → entries = []) :
    src.Silent files := by
  rintro entries ⟨content', holds', htable⟩
  obtain rfl := holds.unique holds'
  exact h entries (isTable_iff.1 htable)

end Source

theorem not_barred_of_legible (own : Source.own.Legible files)
    (shared : Source.shared.Legible files) : ∀ cause, ¬ Barred files cause := by
  intro cause hbarred
  cases hbarred with
  | own held refuses => exact own _ _ held refuses
  | shared _ _ held refuses => exact shared _ _ held refuses

theorem chosen_of_silent (own : Source.own.Silent files) (shared : Source.shared.Silent files) :
    Chosen files [] :=
  .nothing fun src => by
    cases src with
    | own => exact own
    | shared => exact shared

/-- The file for this program has not decided; then it is up to the other. -/
theorem finds_shared (legible : Source.own.Legible files) (passed : Source.own.Silent files) :
    Finds files ((tableOf files (Path.ofText sharedFile)).result >>= fun found =>
      .ok (if found.any Value.truthy then found else none)) := by
  have hread := Source.reads_tableOf files .shared
  change Source.Reads files .shared (tableOf files (Path.ofText sharedFile)).result at hread
  generalize (tableOf files (Path.ofText sharedFile)).result = result at hread
  cases hread with
  | refused held refuses => exact .barred (.shared legible passed held refuses)
  | nothing legible' empty =>
    have hsilent : Source.shared.Silent files := Source.silent_of_nothing empty
    exact .nothing (not_barred_of_legible legible legible') (chosen_of_silent passed hsilent) nofun
  | content legible' holds =>
    have hopen := not_barred_of_legible legible legible'
    rw [ok_bind]
    split
    · next hfull =>
      rw [Option.any_some] at hfull
      generalize htable : table Source.shared.file _ = t at hfull
      -- Only a mapping is a table; anything else in its place is silent.
      cases t with
      | mapping entries =>
        have hentries : Source.shared.Tabulates files entries :=
          ⟨_, holds, Source.isTable_iff.2 htable⟩
        exact .table hopen (.shared passed hentries (truthy_mapping.1 hfull))
      | _ =>
        have hsilent : Source.shared.Silent files :=
          Source.silent_of_content holds fun entries h => by cases htable.symm.trans h
        exact .nothing hopen (chosen_of_silent passed hsilent) nofun
    · next hempty =>
      have hsilent : Source.shared.Silent files :=
        Source.silent_of_content holds fun entries h => by
          by_contra hne
          rw [h] at hempty
          exact hempty (truthy_mapping.2 hne)
      exact .nothing hopen (chosen_of_silent passed hsilent) nofun

theorem finds_firstTable (files : FileTree) :
    Finds files (firstTable files [Path.ofText ownFile, Path.ofText sharedFile]).result := by
  rw [result_firstTable]
  have hread := Source.reads_tableOf files .own
  change Source.Reads files .own (tableOf files (Path.ofText ownFile)).result at hread
  generalize (tableOf files (Path.ofText ownFile)).result = result at hread
  cases hread with
  | refused held refuses => exact .barred (.own held refuses)
  | nothing legible empty => exact finds_shared legible (Source.silent_of_nothing empty)
  | @content content legible holds =>
    obtain ⟨entries, htable⟩ := Source.exists_isTable_own content
    have hentries : Source.own.Tabulates files entries := ⟨content, holds, htable⟩
    rw [ok_bind, Source.isTable_iff.1 htable, Option.any_some]
    -- A table with entries decides, and an empty one leaves it to the other file.
    by_cases hfull : entries = []
    · subst hfull
      refine finds_shared legible fun entries h => ?_
      exact h.unique hentries
    · rw [if_pos (truthy_mapping.2 hfull)]
      refine .table (fun cause hbarred => ?_) (.own hentries hfull)
      cases hbarred with
      | own held refuses => exact legible _ _ held refuses
      | shared _ passed => exact hfull (passed _ hentries)

/-! ## The settings of the files -/

/-- What comes of the files: the default with the one table merged into it that decides, a refusal
of what cannot be read, or the refusal of an indentation without bounds in that table. -/
inductive Settled (files : FileTree) : Except Error Settings → Prop where
  | settled {entries : List (Value × Value)} {s : Settings}
      (legible : ∀ cause, ¬ Barred files cause) (chosen : Chosen files entries)
      (merged : Merged {} entries (.ok s)) : Settled files (.ok s)
  | barred {cause : Refusal} (barred : Barred files cause) :
      Settled files (.error (.refused cause))
  | unbounded {entries : List (Value × Value)} {cause : Refusal}
      (legible : ∀ cause, ¬ Barred files cause) (chosen : Chosen files entries)
      (refused : Merged {} entries (.error cause)) : Settled files (.error (.refused cause))

theorem Settled.unique {r r' : Except Error Settings} (h : Settled files r)
    (h' : Settled files r') : r = r' := by
  -- A barred file is not legible, and the table that decides is one, so two ways never meet.
  cases h with
  | settled legible chosen merged =>
    cases h' with
    | settled _ chosen' merged' =>
      obtain rfl := chosen.unique chosen'
      have hsame := merged.apply_eq.symm.trans merged'.apply_eq
      rw [Except.ok.inj hsame]
    | barred barred => exact absurd barred (legible _)
    | unbounded _ chosen' refused =>
      obtain rfl := chosen.unique chosen'
      cases merged.apply_eq.symm.trans refused.apply_eq
  | barred barred =>
    cases h' with
    | settled legible => exact absurd barred (legible _)
    | barred barred' => rw [barred.unique barred']
    | unbounded legible => exact absurd barred (legible _)
  | unbounded legible chosen refused =>
    cases h' with
    | settled _ chosen' merged =>
      obtain rfl := chosen.unique chosen'
      cases merged.apply_eq.symm.trans refused.apply_eq
    | barred barred => exact absurd barred (legible _)
    | unbounded _ chosen' refused' =>
      obtain rfl := chosen.unique chosen'
      have hsame := refused.apply_eq.symm.trans refused'.apply_eq
      rw [Except.error.inj hsame]

theorem settled_ofFiles (files : FileTree) : Settled files (ofFiles files none).result := by
  have hfinds := finds_firstTable files
  rw [result_ofFiles]
  change Finds files (firstTable files (candidates none)).result at hfinds
  generalize (firstTable files (candidates none)).result = result at hfinds
  cases hfinds with
  | barred barred => exact .barred barred
  | @table entries legible chosen =>
    have hmerged := merged_apply {} entries
    rw [ok_bind, Option.getD_some]
    generalize ({} : Settings).apply (.mapping entries) = result at hmerged
    cases result with
    | ok s => exact .settled legible chosen hmerged
    | error cause => exact .unbounded legible chosen hmerged
  | @nothing found legible chosen empty =>
    -- What is no mapping leaves the default as it is, and so does an empty one.
    have hdefault : ({} : Settings).apply (found.getD .none) = .ok {} := by
      cases found with
      | none => rfl
      | some t =>
        cases t with
        | mapping entries => exact absurd rfl (empty entries)
        | _ => rfl
    rw [ok_bind, hdefault]
    exact .settled legible chosen (merged_apply {} [])

theorem Settled.result_eq {r : Except Error Settings} (h : Settled files r) :
    (ofFiles files none).result = r := (settled_ofFiles files).unique h

/-- Unless a file is looked at that is not legible, or the table that decides asks for an
indentation without bounds, there are settings: the default with one table merged into it, that of
the first file which has one with anything in it, and nothing of the other file. -/
theorem settled_iff {r : Except Error Settings} :
    Settled files r ↔ (ofFiles files none).result = r :=
  ⟨Settled.result_eq, fun h => h ▸ settled_ofFiles files⟩

end Selection

/-- A file with one octet that is no text. -/
def octetFiles : FileTree where
  entries := [([ownFile], .file [0xff])]

/-- Such a file cannot be read, so no table decides; but it bars the way to the default. -/
theorem octet_bars_default :
    Chosen octetFiles [] ∧ (ofFiles octetFiles none).result = .error (.refused .undecodable) := by
  have hheld : octetFiles.read (Path.ofText Source.own.file) = .ok [0xff] := by decide +kernel
  have hnone : octetFiles.read (Path.ofText Source.shared.file) =
      .error ⟨.noSuchFile, sharedFile, none⟩ := by decide +kernel
  have htext : Utf8.decode? [0xff] = none := by decide +kernel
  refine ⟨.nothing fun src => Source.silent_of_nothing ?_,
    Settled.result_eq (.barred (.own hheld ?_))⟩
  · rintro content ⟨octets, cs, held, text, -⟩
    cases src with
    | own =>
      obtain rfl := Except.ok.inj (hheld.symm.trans held)
      cases htext.symm.trans text
    | shared => cases hnone.symm.trans held
  · exact .undecodable htext

end RecordSchema.Settings
