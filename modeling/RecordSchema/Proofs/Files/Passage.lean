import RecordSchema.Proofs.Document.Refusal
import RecordSchema.Proofs.Files.AllOrNothing

/-!
# Which texts are written

The names of a path lead from place to place (`FileTree.course`). The directories on the way are
there in the end exactly if no name is too long and no file is in the way (`FileTree.Passable`), and
then these directories are all that is new (`FileTree.ensureDirectories_outcome`). From this follows
for which paths all steps of writing are taken (`FileTree.Admits`).

So every writing concludes in one of four ways (`FileTree.concludes_writeText`): the text is
written, or an error tells what kept it from being written, or the path is refused. A path that
names nothing is refused before the first step (`FileTree.nameless_refused`), one with a NUL in it
after some directories may have been made.
-/

set_option autoImplicit false

namespace RecordSchema

open RecordSchema.Text

/-- A text that, as a path, has no name in it: nothing, or only slashes and single dots. -/
def NamesNothing (path : String) : Prop :=
  ∀ part ∈ TypeTerm.splitAt '/' path.toList, part = [] ∨ part = ['.']

instance (path : String) : Decidable (NamesNothing path) :=
  inferInstanceAs (Decidable (∀ part ∈ TypeTerm.splitAt '/' path.toList, part = [] ∨ part = ['.']))

theorem Path.name_ofText_eq_iff {path : String} : (ofText path).name = "" ↔ NamesNothing path := by
  have hkept : ∀ s ∈ (ofText path).parts, s ≠ "" := by
    intro s hs
    have hmem := (List.mem_filter.1 hs).2
    simp only [Bool.and_eq_true, bne_iff_ne] at hmem
    exact hmem.1
  have hnil : (ofText path).name = "" ↔ (ofText path).parts = [] := by
    refine ⟨fun hname => ?_, fun hparts => by rw [name, hparts, List.getLastD_nil]⟩
    by_contra hne
    refine hkept _ (List.getLast_mem hne) ?_
    rw [← FileTree.name_eq_getLast hne, hname]
  rw [hnil, ofText, List.filter_eq_nil_iff, List.forall_mem_map, NamesNothing]
  refine forall₂_congr fun part _ => ?_
  have hlist (text : String) : String.ofList part = text ↔ part = text.toList := by
    rw [← String.toList_inj, String.toList_ofList]
  simp only [Bool.and_eq_true, bne_iff_ne, ne_eq, hlist, not_and_or, not_not]
  exact Iff.rfl

theorem Path.isUnusable_ofText_iff {path : String} :
    (ofText path).isUnusable = true ↔ '\x00' ∈ path.toList := by
  constructor
  · intro h
    by_contra hplain
    cases h.symm.trans (isUnusable_ofText hplain)
  · intro hmem
    cases h : (ofText path).isUnusable with
    | false => exact absurd hmem (notMem_of_isUnusable h)
    | true => rfl

/-- The path of the file beside a destination is the longer one. -/
theorem Path.utf8ByteSize_le_beside {target : Path} (hname : target.name ≠ "") :
    target.text.utf8ByteSize ≤ target.beside.text.utf8ByteSize := by
  have hparts : target.beside.parts = target.parent.parts ++ [target.name ++ ".tmp"] := rfl
  rw [FileTree.utf8ByteSize_text, FileTree.utf8ByteSize_text, hparts,
    FileTree.parts_eq_concat hname, FileTree.utf8ByteSize_intercalate_concat,
    FileTree.utf8ByteSize_intercalate_concat, String.utf8ByteSize_append]
  show max 1 (target.root.utf8ByteSize + _) ≤ max 1 (target.root.utf8ByteSize + _)
  split <;> omega

namespace FileTree

variable {t t' : FileTree} {p q : List String} {path target : Path} {names : List String}
  {name : String}

/-! ## The course of a path -/

/-- The places to which names lead, one after the other. -/
def course (p : List String) : List String → List (List String)
  | [] => []
  | name :: rest => onward p name :: course (onward p name) rest

/-- The place to which names lead in the end. -/
def landing (p : List String) (names : List String) : List String := names.foldl onward p

theorem landing_concat (p : List String) (names : List String) (name : String) :
    landing p (names ++ [name]) = onward (landing p names) name := by
  rw [landing, List.foldl_append]
  rfl

theorem course_concat (p : List String) (names : List String) (name : String) :
    course p (names ++ [name]) = course p names ++ [onward (landing p names) name] := by
  induction names generalizing p with
  | nil => rfl
  | cons first rest ih =>
    rw [List.cons_append, course, ih, course, List.cons_append]
    rfl

theorem landing_mem_course (p : List String) (h : names ≠ []) :
    landing p names ∈ course p names := by
  obtain ⟨front, last, rfl⟩ := List.eq_nil_or_concat names |>.resolve_left h
  rw [List.concat_eq_append, course_concat, landing_concat]
  exact List.mem_append_right _ (List.mem_singleton_self _)

/-- Names can be followed, with directories made on the way: none of them is too long, and no file
is in the way. -/
structure Passable (t : FileTree) (p : List String) (names : List String) : Prop where
  short : ∀ name ∈ names, name.utf8ByteSize ≤ 255
  free : ∀ q ∈ course p names, ∀ octets, t.at? q ≠ some (.file octets)

instance (e : Option Entry) : Decidable (∀ octets, e ≠ some (.file octets)) :=
  match e with
  | some (.file octets) => .isFalse fun h => h octets rfl
  | some .directory => .isTrue nofun
  | none => .isTrue nofun

instance (t : FileTree) (p names : List String) : Decidable (t.Passable p names) :=
  decidable_of_iff ((∀ name ∈ names, name.utf8ByteSize ≤ 255) ∧
      ∀ q ∈ course p names, ∀ octets, t.at? q ≠ some (.file octets))
    ⟨fun h => ⟨h.1, h.2⟩, fun h => ⟨h.short, h.free⟩⟩

theorem passable_nil (t : FileTree) (p : List String) : t.Passable p [] := ⟨nofun, nofun⟩

theorem passable_concat :
    t.Passable p (names ++ [name]) ↔
      t.Passable p names ∧ name.utf8ByteSize ≤ 255 ∧
        ∀ octets, t.at? (onward (landing p names) name) ≠ some (.file octets) := by
  constructor
  · rintro ⟨hshort, hfree⟩
    rw [course_concat] at hfree
    rw [List.forall_mem_append, List.forall_mem_singleton] at hshort hfree
    exact ⟨⟨hshort.1, hfree.1⟩, hshort.2, hfree.2⟩
  · rintro ⟨⟨hshort, hfree⟩, hname, hlast⟩
    refine ⟨?_, ?_⟩
    · exact List.forall_mem_append.2 ⟨hshort, List.forall_mem_singleton.2 hname⟩
    · rw [course_concat]
      exact List.forall_mem_append.2 ⟨hfree, List.forall_mem_singleton.2 hlast⟩

/-- A tree that differs from another in that there are directories at certain places. -/
structure Paved (t t' : FileTree) (places : List (List String)) : Prop where
  current : t'.current = t.current
  there : ∀ q ∈ places, t'.at? q = some .directory
  elsewhere : ∀ q, q ∉ places → t'.at? q = t.at? q

theorem Paved.trans {t'' : FileTree} {places more : List (List String)} (h : Paved t t' places)
    (h' : Paved t' t'' more) : Paved t t'' (places ++ more) where
  current := h'.current.trans h.current
  there q hq := by
    by_cases hmore : q ∈ more
    · exact h'.there q hmore
    · rw [h'.elsewhere q hmore]
      exact h.there q ((List.mem_append.1 hq).resolve_right hmore)
  elsewhere q hq := by
    rw [List.mem_append, not_or] at hq
    rw [h'.elsewhere q hq.2, h.elsewhere q hq.1]

theorem Paved.directory_iff {places : List (List String)} (h : Paved t t' places) :
    t'.at? q = some .directory ↔ q ∈ places ∨ t.at? q = some .directory := by
  by_cases hq : q ∈ places
  · simp [hq, h.there q hq]
  · simp [hq, h.elsewhere q hq]

theorem Paved.file_iff {places : List (List String)} (h : Paved t t' places)
    (hfree : ∀ r ∈ places, ∀ octets, t.at? r ≠ some (.file octets)) {octets : List UInt8} :
    t'.at? q = some (.file octets) ↔ t.at? q = some (.file octets) := by
  by_cases hq : q ∈ places
  · simp [hfree q hq, h.there q hq]
  · rw [h.elsewhere q hq]

/-- Names that lead through directories can be walked. -/
theorem walk_of_course (hp : t.Reached p) (hshort : ∀ name ∈ names, name.utf8ByteSize ≤ 255)
    (hcourse : ∀ q ∈ course p names, t.at? q = some .directory) :
    t.walk p names = .ok (landing p names) ∧ t.at? (landing p names) = some .directory := by
  induction names using List.reverseRecOn with
  | nil => exact ⟨rfl, hp.self⟩
  | append_singleton front name ih =>
    rw [course_concat] at hcourse
    rw [List.forall_mem_append, List.forall_mem_singleton] at hshort hcourse
    obtain ⟨hwalk, hdir⟩ := ih hshort.1 hcourse.1
    rw [walk_concat hp, hwalk, landing_concat]
    exact ⟨descend_eq_ok_iff.2 ⟨hdir, hshort.2, rfl⟩, hcourse.2⟩

theorem eq_landing_of_walk (hp : t.Reached p) (h : t.walk p names = .ok q) :
    q = landing p names := by
  induction names using List.reverseRecOn generalizing q with
  | nil => exact (Except.ok.inj h).symm
  | append_singleton front name ih =>
    rw [walk_concat hp, bind_eq_ok_iff] at h
    obtain ⟨r, hr, hdescend⟩ := h
    rw [(descend_eq_ok_iff.1 hdescend).2.2, ih hr, landing_concat]

/-- Names are walked to a directory only through directories. -/
theorem course_of_walk (hp : t.Reached p) (h : t.walk p names = .ok q)
    (hdir : t.at? q = some .directory) :
    t.Passable p names ∧ Paved t t (course p names) := by
  induction names using List.reverseRecOn generalizing q with
  | nil => exact ⟨t.passable_nil p, rfl, nofun, fun _ _ => rfl⟩
  | append_singleton front name ih =>
    rw [walk_concat hp, bind_eq_ok_iff] at h
    obtain ⟨r, hr, hdescend⟩ := h
    obtain ⟨hrdir, hname, rfl⟩ := descend_eq_ok_iff.1 hdescend
    obtain ⟨hpassable, hpaved⟩ := ih hr hrdir
    obtain rfl := eq_landing_of_walk hp hr
    refine ⟨passable_concat.2 ⟨hpassable, hname, by simp [hdir]⟩, ?_⟩
    rw [course_concat]
    refine hpaved.trans ⟨rfl, ?_, fun _ _ => rfl⟩
    rwa [List.forall_mem_singleton]

/-- A walk that ends early for another reason than that something is missing cannot be helped. -/
theorem not_passable_of_walk {rule : FileRule} (hp : t.Reached p)
    (h : t.walk p names = .error rule) (hrule : rule ≠ .noSuchFile) : ¬ t.Passable p names := by
  induction names using List.reverseRecOn with
  | nil => cases h
  | append_singleton front name ih =>
    rw [passable_concat]
    rintro ⟨hpassable, hname, -⟩
    rw [walk_concat hp] at h
    cases hwalk : t.walk p front with
    | error rule' =>
      rw [hwalk] at h
      obtain rfl := Except.error.inj h
      exact ih hwalk hpassable
    | ok q =>
      rw [hwalk, ok_bind] at h
      unfold descend at h
      split at h
      · rw [if_neg (by omega)] at h
        split at h <;> cases h
      · next octets hfile =>
        obtain rfl := eq_landing_of_walk hp hwalk
        -- The start is no file, so this is a place to which one of the names leads.
        have hne : front ≠ [] := by
          rintro rfl
          cases hp.self.symm.trans hfile
        exact hpassable.free _ (landing_mem_course p hne) octets hfile
      · exact hrule (Except.error.inj h).symm

/-! ## Making directories -/

section Making

variable {root : String}

theorem ensureDirectory_of_fault {rule : FileRule}
    (h : t.walk (t.base path) path.parts = .error rule)
    (hlength : path.text.utf8ByteSize ≤ longestPath) :
    t.ensureDirectory path = .error ⟨rule, path.text, none⟩ := by
  have hplace : t.place path = .error ⟨rule, path.text, none⟩ := by
    unfold place
    rw [if_neg (Nat.not_lt.2 hlength), ← base, h]
  have hmake : t.makeDirectory path = .error ⟨rule, path.text, none⟩ := by
    unfold makeDirectory
    rw [hplace]
    rfl
  have hthere : t.isDirectory path = false := by
    rw [isDirectory, find?, hplace]
    rfl
  rw [ensureDirectory, hmake]
  simp [hthere]

/-- What is at the end of the names is made a directory, unless it is a file. -/
theorem ensureDirectory_of_place (h : t.place path = .ok q) :
    (∃ t', t.ensureDirectory path = .ok t' ∧ (∀ octets, t.at? q ≠ some (.file octets)) ∧
      Paved t t' [q]) ∨
    ∃ octets fault, t.ensureDirectory path = .error fault ∧ fault.rule ≠ .noSuchFile ∧
      t.at? q = some (.file octets) := by
  have hthere : t.isDirectory path = (t.at? q == some .directory) := by
    rw [isDirectory, find?_of_place h]
  unfold ensureDirectory makeDirectory
  rw [h, ok_bind, hthere]
  cases hat : t.at? q with
  | none =>
    have habove := not_prefix_of_at? (t := t) (q := q) (by simp [hat])
    refine .inl ⟨t.put q .directory, rfl, by simp, t.current_put q _, ?_, ?_⟩
    · rw [List.forall_mem_singleton]
      exact at?_put_self habove
    · intro r hr
      exact at?_put_of_ne (by simpa using hr)
  | some e =>
    cases e with
    | file octets => exact .inr ⟨octets, _, rfl, by simp, rfl⟩
    | directory => exact .inl ⟨t, rfl, by simp, rfl, by simpa using hat, fun _ _ => rfl⟩

/-- The last of the directories on the way, once the others are there. -/
theorem ensureDirectory_last {start : List String} (hstart : t.base ⟨root, names ++ [name]⟩ = start)
    (hlength : (Path.text ⟨root, names ++ [name]⟩).utf8ByteSize ≤ longestPath)
    {earlier : FileTree} (hpassable : earlier.Passable start names)
    (hpaved : Paved earlier t (course start names)) :
    (earlier.Passable start (names ++ [name]) ∧
      ∃ t', t.ensureDirectory ⟨root, names ++ [name]⟩ = .ok t' ∧
        Paved earlier t' (course start (names ++ [name]))) ∨
    (¬ earlier.Passable start (names ++ [name]) ∧
      ∃ fault, t.ensureDirectory ⟨root, names ++ [name]⟩ = .error fault ∧
        fault.rule ≠ .noSuchFile) := by
  have hreached : t.Reached start := hstart ▸ t.reached_base _
  obtain ⟨hwalk, hdir⟩ := walk_of_course hreached hpassable.short hpaved.there
  have hlast : t.walk start (names ++ [name]) = t.descend (landing start names) name := by
    rw [walk_concat hreached, hwalk, ok_bind]
  rw [passable_concat, course_concat]
  by_cases hshort : name.utf8ByteSize ≤ 255
  · have hplace : t.place ⟨root, names ++ [name]⟩ = .ok (onward (landing start names) name) := by
      refine place_eq_ok_iff.2 ⟨hlength, ?_⟩
      rw [hstart, hlast]
      exact descend_eq_ok_iff.2 ⟨hdir, hshort, rfl⟩
    rcases ensureDirectory_of_place hplace with
      ⟨t', hensure, hfree, hmade⟩ | ⟨octets, fault, hensure, hrule, hfile⟩
    · refine .inl ⟨⟨hpassable, hshort, fun octets hfile => ?_⟩, t', hensure, hpaved.trans hmade⟩
      exact hfree octets ((hpaved.file_iff hpassable.free).2 hfile)
    · refine .inr ⟨fun hall => ?_, fault, hensure, hrule⟩
      exact hall.2.2 octets ((hpaved.file_iff hpassable.free).1 hfile)
  · have hlong : t.walk (t.base ⟨root, names ++ [name]⟩) (names ++ [name]) =
        .error .nameTooLong := by
      rw [hstart, hlast, descend_of_directory hdir, if_pos (by omega)]
    exact .inr ⟨fun hall => hshort hall.2.1, _, ensureDirectory_of_fault hlong hlength, nofun⟩

theorem go_of_ok {fuel : Nat} (h : t.ensureDirectory ⟨root, names⟩ = .ok t') :
    ensureDirectories.go t root fuel names = (t', none) := by
  unfold ensureDirectories.go
  dsimp only
  rw [h]

theorem go_of_fault {fuel : Nat} {fault : FileFault}
    (h : t.ensureDirectory ⟨root, names⟩ = .error fault) (hrule : fault.rule ≠ .noSuchFile) :
    ensureDirectories.go t root fuel names = (t, some fault) := by
  unfold ensureDirectories.go
  dsimp only
  rw [h]
  cases fuel with
  | zero => rfl
  | succ fuel =>
    dsimp only
    rw [if_pos (by simp [hrule])]

/-- If something is missing, the directory above is made first. -/
theorem go_of_missing {fuel : Nat} {fault : FileFault}
    (h : t.ensureDirectory ⟨root, names⟩ = .error fault) (hrule : fault.rule = .noSuchFile)
    (hne : names ≠ []) :
    ensureDirectories.go t root (fuel + 1) names =
      match ensureDirectories.go t root fuel names.dropLast with
      | (t, some fault) => (t, some fault)
      | (t, none) =>
        match t.ensureDirectory ⟨root, names⟩ with
        | .ok t => (t, none)
        | .error fault => (t, some fault) := by
  rw [ensureDirectories.go]
  dsimp only
  rw [h]
  dsimp only
  exact if_neg (by simp [hrule, hne])

/-- Where the names start, a directory is there already. -/
theorem exists_go_start {start : List String} (hstart : t.base ⟨root, []⟩ = start)
    (hlength : (Path.text ⟨root, []⟩).utf8ByteSize ≤ longestPath) (fuel : Nat) :
    ∃ t', ensureDirectories.go t root fuel [] = (t', none) ∧ Paved t t' (course start []) := by
  have hdir : t.at? start = some .directory := (hstart ▸ t.reached_base _ : t.Reached start).self
  have hplace : t.place ⟨root, []⟩ = .ok start := by
    refine place_eq_ok_iff.2 ⟨hlength, ?_⟩
    rw [hstart]
    rfl
  rcases ensureDirectory_of_place hplace with ⟨t', hensure, -, hmade⟩ | ⟨octets, -, -, -, hfile⟩
  · refine ⟨t', go_of_ok hensure, hmade.current, nofun, fun q _ => ?_⟩
    by_cases hq : q = start
    · rw [hq, hdir]
      exact hmade.there start (List.mem_singleton_self _)
    · exact hmade.elsewhere q (by simpa using hq)
  · cases hdir.symm.trans hfile

/-- All directories on the way are made if the names can be followed, and only then. The induction
takes the names from the back, as the directories are tried. -/
theorem go_outcome (t : FileTree) {start : List String} {fuel : Nat}
    (hstart : t.base ⟨root, names⟩ = start)
    (hlength : (Path.text ⟨root, names⟩).utf8ByteSize ≤ longestPath) (hfuel : names.length ≤ fuel) :
    (t.Passable start names ∧ ∃ t', ensureDirectories.go t root fuel names = (t', none) ∧
      Paved t t' (course start names)) ∨
    (¬ t.Passable start names ∧ ∃ t' fault,
      ensureDirectories.go t root fuel names = (t', some fault)) := by
  have hreached : t.Reached start := hstart ▸ t.reached_base _
  induction names using List.reverseRecOn generalizing fuel with
  | nil =>
    obtain ⟨t', hgo, hmade⟩ := exists_go_start hstart hlength fuel
    exact .inl ⟨t.passable_nil start, t', hgo, hmade⟩
  | append_singleton front name ih =>
    cases hwalk : t.walk start (front ++ [name]) with
    | ok q =>
      -- All directories but the last are there already.
      rw [walk_concat hreached, bind_eq_ok_iff] at hwalk
      obtain ⟨p, hp, hdescend⟩ := hwalk
      obtain ⟨hpassable, hpaved⟩ := course_of_walk hreached hp (descend_eq_ok_iff.1 hdescend).1
      rcases ensureDirectory_last hstart hlength hpassable hpaved with
        ⟨hall, t', hensure, hmade⟩ | ⟨hnot, fault, hensure, hrule⟩
      · exact .inl ⟨hall, t', go_of_ok hensure, hmade⟩
      · exact .inr ⟨hnot, t, fault, go_of_fault hensure hrule⟩
    | error rule =>
      have hensure : t.ensureDirectory ⟨root, front ++ [name]⟩ = .error ⟨rule, _, none⟩ :=
        ensureDirectory_of_fault (hstart ▸ hwalk) hlength
      by_cases hrule : rule = .noSuchFile
      · -- One of them is missing, so those above are made first, and then the last is tried again.
        have hparent := Nat.le_trans (utf8ByteSize_parent ⟨root, front ++ [name]⟩) hlength
        rw [Path.parent, List.dropLast_concat] at hparent
        rw [List.length_append, List.length_singleton] at hfuel
        obtain ⟨fuel, rfl⟩ := Nat.exists_eq_add_one.2 (Nat.lt_of_lt_of_le (Nat.succ_pos _) hfuel)
        rw [go_of_missing hensure hrule (by simp), List.dropLast_concat]
        rcases ih hstart hparent (Nat.le_of_succ_le_succ hfuel) with
          ⟨hpassable, grown, hgrown, hpaved⟩ | ⟨hnot, t', fault, hgrown⟩
        · rw [hgrown]
          dsimp only
          have hstart' : grown.base ⟨root, front ++ [name]⟩ = start :=
            (base_eq hpaved.current root _ _).trans hstart
          rcases ensureDirectory_last hstart' hlength hpassable hpaved with
            ⟨hall, t', hagain, hmade⟩ | ⟨hnot, fault, hagain, -⟩
          · exact .inl ⟨hall, t', by rw [hagain], hmade⟩
          · exact .inr ⟨hnot, grown, fault, by rw [hagain]⟩
        · refine .inr ⟨fun hall => hnot (passable_concat.1 hall).1, t', fault, ?_⟩
          rw [hgrown]
      · exact .inr ⟨not_passable_of_walk hreached hwalk hrule, t, _, go_of_fault hensure hrule⟩

end Making

theorem ensureDirectories_outcome (t : FileTree) {directory : Path}
    (hlength : directory.text.utf8ByteSize ≤ longestPath) :
    (t.Passable (t.base directory) directory.parts ∧ ∃ t',
      t.ensureDirectories directory.root directory.parts = (t', none) ∧
        Paved t t' (course (t.base directory) directory.parts)) ∨
    (¬ t.Passable (t.base directory) directory.parts ∧ ∃ t' fault,
      t.ensureDirectories directory.root directory.parts = (t', some fault)) :=
  go_outcome t rfl hlength (Nat.le_refl _)

/-! ## All steps -/

/-- Where a name would be in the directory of a path, once that is there. -/
def arrival (t : FileTree) (target : Path) (name : String) : List String :=
  landing (t.base target) target.parent.parts ++ [name]

/-- A text can be written to a path: the directories on the way are there or can be made, the
destination and the file beside it have names that are not too long, and none of the two is or
becomes a directory. -/
structure Admits (t : FileTree) (target : Path) : Prop where
  passable : t.Passable (t.base target) target.parent.parts
  forward : target.name ≠ ".."
  short : target.beside.text.utf8ByteSize ≤ longestPath
  shortName : target.beside.name.utf8ByteSize ≤ 255
  room : ∀ name ∈ [target.name, target.beside.name],
    t.arrival target name ∉ course (t.base target) target.parent.parts ∧
      t.at? (t.arrival target name) ≠ some .directory

instance (t : FileTree) (target : Path) : Decidable (t.Admits target) :=
  decidable_of_iff (t.Passable (t.base target) target.parent.parts ∧ target.name ≠ ".." ∧
      target.beside.text.utf8ByteSize ≤ longestPath ∧ target.beside.name.utf8ByteSize ≤ 255 ∧
      ∀ name ∈ [target.name, target.beside.name],
        t.arrival target name ∉ course (t.base target) target.parent.parts ∧
          t.at? (t.arrival target name) ≠ some .directory)
    ⟨fun ⟨hpassable, hforward, hlength, hshort, hroom⟩ =>
        ⟨hpassable, hforward, hlength, hshort, hroom⟩,
      fun h => ⟨h.passable, h.forward, h.short, h.shortName, h.room⟩⟩

theorem name_beside (target : Path) : target.beside.name = target.name ++ ".tmp" :=
  name_withName ..

theorem name_beside_ne (target : Path) : target.beside.name ≠ ".." := by
  rw [name_beside]
  exact append_tmp_ne target.name

/-- Once the directories are there, a short path leads to its name in the last of them. -/
theorem place_of_paved (hpassable : t.Passable (t.base target) target.parent.parts)
    (hpaved : Paved t t' (course (t.base target) target.parent.parts)) {path : Path}
    (hroot : path.root = target.root) (hparent : path.parts = target.parent.parts ++ [name])
    (hlength : path.text.utf8ByteSize ≤ longestPath) (hname : name.utf8ByteSize ≤ 255)
    (hforward : name ≠ "..") : t'.place path = .ok (t.arrival target name) := by
  have hstart : t'.base path = t.base target := by
    unfold base Path.isAbsolute
    rw [hroot, hpaved.current]
  have hreached : t'.Reached (t.base target) := hstart ▸ t'.reached_base path
  obtain ⟨hwalk, hdir⟩ := walk_of_course hreached hpassable.short hpaved.there
  refine place_eq_ok_iff.2 ⟨hlength, ?_⟩
  rw [hstart, hparent, walk_concat hreached, hwalk]
  refine descend_eq_ok_iff.2 ⟨hdir, hname, ?_⟩
  rw [onward, if_neg (by simpa using hforward), arrival]

/-- Then the destination and the file beside it are in that directory. -/
theorem places_of_paved (hname : target.name ≠ "") (hforward : target.name ≠ "..")
    (hlength : target.beside.text.utf8ByteSize ≤ longestPath)
    (hshort : target.beside.name.utf8ByteSize ≤ 255)
    (hpassable : t.Passable (t.base target) target.parent.parts)
    (hpaved : Paved t t' (course (t.base target) target.parent.parts)) :
    t'.place target = .ok (t.arrival target target.name) ∧
      t'.place target.beside = .ok (t.arrival target target.beside.name) := by
  constructor
  · refine place_of_paved hpassable hpaved rfl (parts_eq_concat hname)
      (Nat.le_trans (Path.utf8ByteSize_le_beside hname) hlength) ?_ hforward
    rw [name_beside, String.utf8ByteSize_append] at hshort
    omega
  · refine place_of_paved hpassable hpaved rfl ?_ hlength hshort (name_beside_ne target)
    rw [name_beside]
    rfl

theorem writeSteps_of_admits (hname : target.name ≠ "") (h : t.Admits target)
    (octets : List UInt8) : ∃ t', t.writeSteps target target.beside octets = (t', none) := by
  have hlength := Nat.le_trans (Path.utf8ByteSize_le_beside hname) h.short
  obtain ⟨-, grown, hgrown, hpaved⟩ | ⟨hnot, -⟩ :=
    ensureDirectories_outcome t (Nat.le_trans (utf8ByteSize_parent target) hlength)
  · obtain ⟨htarget, hbeside⟩ :=
      places_of_paved hname h.forward h.short h.shortName h.passable hpaved
    have hfree : ∀ name ∈ [target.name, target.beside.name],
        grown.at? (t.arrival target name) ≠ some .directory := fun name hmem hdir =>
      (hpaved.directory_iff.1 hdir).elim (h.room name hmem).1 (h.room name hmem).2
    rw [List.forall_mem_cons, List.forall_mem_singleton] at hfree
    -- The text is put beside the destination, and from there it can be moved.
    have hwrite : grown.write target.beside octets =
        .ok (grown.put (t.arrival target target.beside.name) (.file octets)) :=
      write_eq_ok_iff.2 ⟨_, hbeside, hfree.2, rfl⟩
    have hput := Keeps.put hfree.2 (.file octets)
    have hroom : (grown.put (t.arrival target target.beside.name) (.file octets)).at?
        (t.arrival target target.name) ≠ some .directory := by
      rw [at?_put_of_ne (ne_of_place_beside hname htarget hbeside)]
      exact hfree.1
    exact ⟨_, writeSteps_eq_none_iff.2 ⟨grown, _, hgrown, hwrite, replace_eq_ok_iff.2
      ⟨h.forward, _, _, octets, hput.place_eq hbeside, hput.place_eq htarget,
        at?_put_self (not_prefix_of_at? hfree.2), hroom, rfl⟩⟩⟩
  · exact absurd h.passable hnot

theorem admits_of_writeSteps (hname : target.name ≠ "") {octets : List UInt8}
    (h : t.writeSteps target target.beside octets = (t', none)) : t.Admits target := by
  obtain ⟨grown, filled, hgrown, hwrite, hreplace⟩ := writeSteps_eq_none_iff.1 h
  obtain ⟨b, hb, hfreeb, rfl⟩ := write_eq_ok_iff.1 hwrite
  obtain ⟨hforward, p, q, held, hp, hq, -, hfreeq, -⟩ := replace_eq_ok_iff.1 hreplace
  have hlength := (place_eq_ok_iff.1 hb).1
  have hparent := Nat.le_trans (utf8ByteSize_parent target)
    (Nat.le_trans (Path.utf8ByteSize_le_beside hname) hlength)
  obtain ⟨d, -, -, hdescend⟩ := place_parent (by simp [name_beside]) hb
  have hshort := (descend_eq_ok_iff.1 hdescend).2.1
  obtain ⟨hpassable, grown', hgrown', hpaved⟩ | ⟨-, t', fault, hfault⟩ :=
    ensureDirectories_outcome t hparent
  · -- The places are known once the way is paved, and what was free then was free before.
    obtain rfl : grown = grown' := (Prod.mk.inj (hgrown.symm.trans hgrown')).1
    obtain ⟨htarget, hbeside⟩ := places_of_paved hname hforward hlength hshort hpassable hpaved
    obtain rfl := Except.ok.inj (hbeside.symm.trans hb)
    obtain rfl := Except.ok.inj (((Keeps.put hfreeb _).place_eq htarget).symm.trans hq)
    rw [at?_put_of_ne (ne_of_place_beside hname htarget hbeside)] at hfreeq
    refine ⟨hpassable, hforward, hlength, hshort, ?_⟩
    rw [List.forall_mem_cons, List.forall_mem_singleton]
    exact ⟨not_or.1 (mt hpaved.directory_iff.2 hfreeq), not_or.1 (mt hpaved.directory_iff.2 hfreeb)⟩
  · cases (Prod.mk.inj (hgrown.symm.trans hfault)).2

/-! ## All paths -/

/-- How the writing of a text concludes. A path that names nothing is refused as such and leaves
everything as it is; a path with a NUL in it is refused too, perhaps when the directories on the way
are made. Otherwise the text is written if the tree admits that, and what keeps it from being
written is told if not. -/
inductive Concludes (t : FileTree) (name text : String) :
    FileTree × Except Error Written → Prop where
  | refused (unfit : NamesNothing name) :
      Concludes t name text (t, .error (.refused .badValue))
  | unusable {t' : FileTree} (nul : '\x00' ∈ name.toList)
      (made : t.MadeAlong (Path.ofText name).root (Path.ofText name).parent.parts t') :
      Concludes t name text (t', .error (.refused .badValue))
  | unwritten {t' : FileTree} {fault : FileFault} (fit : ¬ NamesNothing name)
      (plain : '\x00' ∉ name.toList) (barred : ¬ t.Admits (Path.ofText name)) :
      Concludes t name text (t', .error (.unwritable (Path.ofText name).text fault.message))
  | written {t' : FileTree} (fit : ¬ NamesNothing name) (plain : '\x00' ∉ name.toList)
      (admitted : t.Admits (Path.ofText name)) :
      Concludes t name text (t', .ok ⟨Path.ofText name, (Utf8.encodeText text).length⟩)

theorem writeText_of_unfit {name : String} (h : NamesNothing name ∨ '\x00' ∈ name.toList)
    (text : String) :
    t.writeText name text = (t.afterRefusal (Path.ofText name), .error (.refused .badValue)) := by
  unfold writeText
  dsimp only
  rw [← Path.name_ofText_eq_iff, ← Path.isUnusable_ofText_iff] at h
  rw [if_pos (by simpa using h)]

theorem writeText_of_namesNothing {name : String} (h : NamesNothing name) (text : String) :
    t.writeText name text = (t, .error (.refused .badValue)) := by
  rw [writeText_of_unfit (.inl h), afterRefusal_of_nameless (Path.name_ofText_eq_iff.2 h)]

/-- Every writing concludes so, whatever the tree, the path and the text. -/
theorem concludes_writeText (t : FileTree) (name text : String) :
    Concludes t name text (t.writeText name text) := by
  by_cases hfit : NamesNothing name
  · rw [writeText_of_namesNothing hfit]
    exact .refused hfit
  by_cases hplain : '\x00' ∈ name.toList
  · rw [writeText_of_unfit (.inr hplain)]
    exact .unusable hplain (madeAlong_afterRefusal ..)
  · have hname : (Path.ofText name).name ≠ "" := mt Path.name_ofText_eq_iff.1 hfit
    rw [writeText_eq hname hplain]
    split
    · next hsteps =>
      refine .unwritten hfit hplain fun hadmits => ?_
      obtain ⟨t', hdone⟩ := writeSteps_of_admits hname hadmits (Utf8.encodeText text)
      cases (Prod.mk.inj (hsteps.symm.trans hdone)).2
    · next hsteps => exact .written hfit hplain (admits_of_writeSteps hname hsteps)

/-- A way back over a directory that is made for it is possible, but not to that directory. -/
example : Admits {} (Path.ofText "x/../y/a.json") ∧ ¬ Admits {} (Path.ofText "x/../x") := by
  decide +kernel

/-- The current directory is refused as a destination, and so is the empty path, and neither with
words. -/
theorem nameless_refused :
    ('\x00' ∉ ".".toList ∧ writeText {} "." "hi" = ({}, .error (.refused .badValue))) ∧
      '\x00' ∉ "".toList ∧ writeText {} "" "hi" = ({}, .error (.refused .badValue)) := by
  have hdot : NamesNothing "." := by decide +kernel
  have hempty : NamesNothing "" := by decide +kernel
  exact ⟨⟨by decide, writeText_of_namesNothing hdot "hi"⟩, by decide,
    writeText_of_namesNothing hempty "hi"⟩

end FileTree

end RecordSchema
