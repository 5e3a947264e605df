import RecordSchema.Files.Atomic
import RecordSchema.Proofs.Files.Places

/-!
# What writing leaves behind

A text that is written can be read from its path (`read_of_writeText`). If writing fails, what stood
at the place of the path still stands there, and no file has changed or come to be beside the one
that would have been moved (`unchanged_of_writeText`); what may be new are directories on the way.
-/

set_option autoImplicit false

namespace RecordSchema

open RecordSchema.Text

namespace FileTree

variable {t t' : FileTree} {p q : List String} {path target : Path}

/-! ## Making directories -/

/-- A tree has grown from another by directories: all that was there is, and no file is new. -/
structure Grows (t t' : FileTree) : Prop where
  current : t'.current = t.current
  kept : ∀ q e, t.at? q = some e → t'.at? q = some e
  files : ∀ q octets, t'.at? q = some (.file octets) → t.at? q = some (.file octets)

theorem Grows.refl (t : FileTree) : t.Grows t := ⟨rfl, fun _ _ h => h, fun _ _ h => h⟩

theorem Grows.trans {t'' : FileTree} (h : t.Grows t') (h' : t'.Grows t'') : t.Grows t'' where
  current := h'.current.trans h.current
  kept q e hq := h'.kept q e (h.kept q e hq)
  files q octets hq := h.files q octets (h'.files q octets hq)

theorem Grows.keeps (h : t.Grows t') : t.Keeps t' := ⟨h.current, fun q => h.kept q .directory⟩

theorem Grows.file_iff (h : t.Grows t') {octets : List UInt8} :
    t'.at? q = some (.file octets) ↔ t.at? q = some (.file octets) :=
  ⟨h.files q octets, h.kept q (.file octets)⟩

theorem grows_put_directory (h : t.at? p = none) : t.Grows (t.put p .directory) := by
  have hp : ¬ p <+: t.current := not_prefix_of_at? (by simp [h])
  refine ⟨t.current_put p _, fun q e hq => ?_, fun q octets hq => ?_⟩
  · have hne : q ≠ p := by
      rintro rfl
      cases h.symm.trans hq
    rwa [at?_put_of_ne hne]
  · have hne : q ≠ p := by
      rintro rfl
      rw [at?_put_self hp] at hq
      cases hq
    rwa [at?_put_of_ne hne] at hq

theorem grows_makeDirectory (h : t.makeDirectory path = .ok t') : t.Grows t' := by
  obtain ⟨q, -, h⟩ := bind_eq_ok_iff.1 h
  split at h
  · cases h
  · next hnone =>
    obtain rfl := Except.ok.inj h
    exact grows_put_directory (by simpa using hnone)

theorem grows_ensureDirectory (h : t.ensureDirectory path = .ok t') : t.Grows t' := by
  unfold ensureDirectory at h
  split at h
  · next hmade =>
    obtain rfl := Except.ok.inj h
    exact grows_makeDirectory hmade
  · split at h
    · obtain rfl := Except.ok.inj h
      exact .refl t
    · cases h

/-- The trees that come of one as directories are made along names, the parents before the directory
itself and as far as it goes. -/
inductive MadeAlong (t : FileTree) (root : String) : List String → FileTree → Prop where
  | nothing (names : List String) : MadeAlong t root names t
  | parents {names : List String} {grown : FileTree}
      (above : MadeAlong t root names.dropLast grown) : MadeAlong t root names grown
  | directory {names : List String} {grown made : FileTree}
      (before : MadeAlong t root names grown)
      (ensured : grown.ensureDirectory ⟨root, names⟩ = .ok made) : MadeAlong t root names made

theorem madeAlong_go (t : FileTree) (root : String) (fuel : Nat) (names : List String) :
    t.MadeAlong root names (ensureDirectories.go t root fuel names).1 := by
  induction fuel generalizing names with
  | zero =>
    unfold ensureDirectories.go
    dsimp only
    split
    · exact .directory (.nothing names) ‹_›
    · exact .nothing names
  | succ fuel ih =>
    unfold ensureDirectories.go
    dsimp only
    split
    · exact .directory (.nothing names) ‹_›
    split
    · exact .nothing names
    · -- The parents are made first, and if that goes well the directory is tried again.
      have hparents := ih names.dropLast
      split
      · next hgo =>
        rw [hgo] at hparents
        exact .parents hparents
      · next hgo =>
        rw [hgo] at hparents
        split
        · exact .directory (.parents hparents) ‹_›
        · exact .parents hparents

theorem madeAlong_ensureDirectories (t : FileTree) (root : String) (names : List String) :
    t.MadeAlong root names (t.ensureDirectories root names).1 :=
  madeAlong_go t root names.length names

/-- Whether or not all directories can be made, the tree grows by directories only. -/
theorem MadeAlong.grows {root : String} {names : List String} (h : t.MadeAlong root names t') :
    t.Grows t' := by
  induction h with
  | nothing => exact .refl t
  | parents above ih => exact ih
  | directory before ensured ih => exact ih.trans (grows_ensureDirectory ensured)

theorem grows_ensureDirectories (t : FileTree) (root : String) (names : List String) :
    t.Grows (t.ensureDirectories root names).1 :=
  (madeAlong_ensureDirectories t root names).grows

/-- Nothing is made where there is a directory. -/
theorem ensureDirectories_of_directory {root : String} {names : List String}
    (hplace : t.place ⟨root, names⟩ = .ok p) (hdir : t.at? p = some .directory) :
    t.ensureDirectories root names = (t, none) := by
  have hmake : t.makeDirectory ⟨root, names⟩ =
      .error ⟨.exists, Path.text ⟨root, names⟩, none⟩ := by
    unfold makeDirectory
    rw [hplace, ok_bind, hdir]
    rfl
  have hthere : t.isDirectory ⟨root, names⟩ = true := by
    rw [isDirectory, find?, hplace]
    simp [Except.toOption, hdir]
  have hensure : t.ensureDirectory ⟨root, names⟩ = .ok t := by
    rw [ensureDirectory, hmake]
    simp [hthere]
  unfold ensureDirectories ensureDirectories.go
  dsimp only
  rw [hensure]

/-! ## Writing and moving -/

theorem write_eq_ok_iff {octets : List UInt8} :
    t.write path octets = .ok t' ↔
      ∃ p, t.place path = .ok p ∧ t.at? p ≠ some .directory ∧ t' = t.put p (.file octets) := by
  unfold write
  rw [bind_eq_ok_iff]
  refine exists_congr fun p => and_congr_right fun _ => ?_
  by_cases hdir : t.at? p = some .directory
  · simp [hdir, throw, throwThe, MonadExceptOf.throw, bind, Except.bind]
  · simp only [hdir, bind, Except.bind, pure, Except.pure, beq_iff_eq, if_false, ne_eq,
      not_false_eq_true, true_and, Except.ok.injEq]
    exact eq_comm

/-- A file is moved to where there is none or another one; two dots are no name to move it to. -/
theorem replace_eq_ok_iff {source : Path} :
    t.replace source target = .ok t' ↔
      target.name ≠ ".." ∧ ∃ p q octets, t.place source = .ok p ∧ t.place target = .ok q ∧
        t.at? p = some (.file octets) ∧ t.at? q ≠ some .directory ∧
        t' = (t.remove p).put q (.file octets) := by
  constructor
  · intro h
    unfold replace at h
    dsimp only at h
    split at h
    · next p q hp hq =>
      split at h
      · cases h
      next hup =>
      split at h
      · cases h
      · next octets hat hnot =>
        -- A name of two dots denotes a place too, but is refused before it is looked at.
        refine ⟨by simpa using hup, p, q, octets, hp, hq, hat, fun hdir => hnot hdir, ?_⟩
        exact (Except.ok.inj h).symm
      · cases h
      · cases h
    · cases h
    · cases h
  · rintro ⟨hup, p, q, octets, hp, hq, hat, hfree, rfl⟩
    unfold replace
    simp only [hp, hq, hat]
    rw [if_neg (by simpa using hup)]
    rfl

/-- A tree differs from another at most in what stands at one place, which is no directory. -/
structure SameBut (p : List String) (t t' : FileTree) : Prop where
  keeps : t.Keeps t'
  elsewhere : ∀ q, q ≠ p → t'.at? q = t.at? q

theorem SameBut.trans {t'' : FileTree} (h : SameBut p t t') (h' : SameBut p t' t'') :
    SameBut p t t'' :=
  ⟨h.keeps.trans h'.keeps, fun q hq => (h'.elsewhere q hq).trans (h.elsewhere q hq)⟩

theorem sameBut_put (hp : t.at? p ≠ some .directory) (e : Entry) : SameBut p t (t.put p e) :=
  ⟨.put hp e, fun _ hq => at?_put_of_ne hq⟩

theorem sameBut_remove (hp : t.at? p ≠ some .directory) : SameBut p t (t.remove p) :=
  ⟨.remove hp, fun _ hq => at?_remove_of_ne hq⟩

/-- Discarding a file touches nothing else. -/
theorem discard_cases (t : FileTree) (path : Path) :
    t.discard path = t ∨ ∃ p, t.place path = .ok p ∧ SameBut p t (t.discard path) := by
  unfold discard
  cases hplace : t.place path with
  | error fault => exact .inl rfl
  | ok p =>
    dsimp only
    cases hat : t.at? p with
    | none => exact .inl rfl
    | some e =>
      cases e with
      | directory => exact .inl rfl
      | file octets => exact .inr ⟨p, rfl, sameBut_remove (by simp [hat])⟩

/-! ## The steps of writing -/

section Steps

variable {beside : Path} {octets : List UInt8}

/-- A file that is moved over another place can be read there. -/
theorem read_of_replace {source : Path} (hplace : t.place source = .ok p)
    (hat : t.at? p = some (.file octets)) (h : t.replace source target = .ok t') :
    t'.read target = .ok octets := by
  obtain ⟨-, p', q, held, hp', hq, hat', hfree, rfl⟩ := replace_eq_ok_iff.1 h
  obtain rfl : p = p' := Except.ok.inj (hplace.symm.trans hp')
  obtain rfl := Entry.file.inj (Option.some.inj (hat.symm.trans hat'))
  have hfile : t.at? p ≠ some .directory := by simp [hat]
  have hremoved : t.Keeps (t.remove p) := .remove hfile
  have hfree' := free_remove hfile hfree
  refine read_eq_ok_iff.2 ⟨q, (hremoved.trans (.put hfree' _)).place_eq hq, ?_⟩
  exact at?_put_self (by simpa using not_prefix_of_at? hfree)

/-- All steps are taken if each of them is. -/
theorem writeSteps_eq_none_iff :
    t.writeSteps target beside octets = (t', none) ↔
      ∃ grown filled, t.ensureDirectories target.root target.parent.parts = (grown, none) ∧
        grown.write beside octets = .ok filled ∧ filled.replace beside target = .ok t' := by
  unfold writeSteps
  generalize t.ensureDirectories target.root target.parent.parts = made
  obtain ⟨grown, _ | fault⟩ := made
  · dsimp only
    cases hwrite : grown.write beside octets with
    | error fault => simp [hwrite]
    | ok filled => cases hreplace : filled.replace beside target <;> simp [hwrite, hreplace]
  · simp

/-- Once all steps are taken, the file is there. -/
theorem read_of_writeSteps (h : t.writeSteps target beside octets = (t', none)) :
    t'.read target = .ok octets := by
  obtain ⟨grown, filled, -, hwrite, hreplace⟩ := writeSteps_eq_none_iff.1 h
  obtain ⟨p, hp, hfree, rfl⟩ := write_eq_ok_iff.1 hwrite
  exact read_of_replace ((Keeps.put hfree _).place_eq hp)
    (at?_put_self (not_prefix_of_at? hfree)) hreplace

/-- What a step that fails leaves behind: new directories, and at most the file beside the
destination. -/
theorem discard_of_writeSteps {fault : FileFault} {grown : FileTree}
    (h : t.writeSteps target beside octets = (t', some fault))
    (hgrown : (t.ensureDirectories target.root target.parent.parts).1 = grown) :
    t'.discard beside = grown ∨
      ∃ p, grown.place beside = .ok p ∧ SameBut p grown (t'.discard beside) := by
  unfold writeSteps at h
  subst hgrown
  generalize t.ensureDirectories target.root target.parent.parts = made at h ⊢
  obtain ⟨grown, _ | fault⟩ := made
  · dsimp only at h ⊢
    split at h
    · obtain rfl := (Prod.ext_iff.1 h).1
      exact discard_cases grown beside
    · next filled hwrite =>
      split at h
      · obtain rfl := (Prod.ext_iff.1 h).1
        obtain ⟨p, hp, hfree, rfl⟩ := write_eq_ok_iff.1 hwrite
        have hput := sameBut_put hfree (.file octets)
        -- The file beside is found again where it was written.
        have hplace := hput.keeps.place_eq hp
        rcases discard_cases (grown.put p (.file octets)) beside with heq | ⟨p', hp', hsame⟩
        · rw [heq]
          exact .inr ⟨p, hp, hput⟩
        · obtain rfl : p = p' := Except.ok.inj (hplace.symm.trans hp')
          exact .inr ⟨p, hp, hput.trans hsame⟩
      · cases h
  · obtain rfl := (Prod.ext_iff.1 h).1
    exact discard_cases grown beside

end Steps

/-! ## Writing a text -/

/-- A refusal leaves no more than directories on the way. -/
theorem madeAlong_afterRefusal (t : FileTree) (target : Path) :
    t.MadeAlong target.root target.parent.parts (t.afterRefusal target) := by
  unfold afterRefusal
  split
  · exact .nothing _
  · exact madeAlong_ensureDirectories ..

/-- That there is no name is noticed at once. -/
theorem afterRefusal_of_nameless (h : target.name = "") : t.afterRefusal target = t := by
  unfold afterRefusal
  rw [if_pos (by simp [h])]

/-- What is written has a path with a name and without NUL, and that path is told. -/
theorem path_of_writeText {name text : String} {w : Written}
    (h : t.writeText name text = (t', .ok w)) :
    (Path.ofText name).isUnusable = false ∧ w.path = Path.ofText name := by
  unfold writeText at h
  dsimp only at h
  split at h
  · cases (Prod.ext_iff.1 h).2
  · next hname =>
    split at h
    · cases (Prod.ext_iff.1 h).2
    · obtain rfl := Except.ok.inj (Prod.ext_iff.1 h).2
      refine ⟨?_, rfl⟩
      cases hunusable : (Path.ofText name).isUnusable with
      | false => rfl
      | true => simp [hunusable] at hname

/-- A path without a name, or with a NUL, is refused; otherwise what keeps a text from being written
is told. -/
theorem writeText_cases (t : FileTree) (name text : String) :
    (((Path.ofText name).name = "" ∨ (Path.ofText name).isUnusable = true) ∧
      t.writeText name text =
        (t.afterRefusal (Path.ofText name), .error (.refused .badValue))) ∨
    ¬ ((Path.ofText name).name = "" ∨ (Path.ofText name).isUnusable = true) ∧
      ((∃ t' path why, t.writeText name text = (t', .error (.unwritable path why))) ∨
        ∃ t' w, t.writeText name text = (t', .ok w)) := by
  unfold writeText
  dsimp only
  by_cases h : ((Path.ofText name).name == "" || (Path.ofText name).isUnusable) = true
  · rw [if_pos h]
    exact .inl ⟨by simpa using h, rfl⟩
  · rw [if_neg h]
    refine .inr ⟨by simpa using h, ?_⟩
    split
    · exact .inl ⟨_, _, _, rfl⟩
    · exact .inr ⟨_, _, rfl⟩

/-- A text is written if the directory is there and no directory is in the way. -/
theorem writeText_of_free (name text : String) (hname : (Path.ofText name).name ≠ "")
    (hup : (Path.ofText name).name ≠ "..") (husable : (Path.ofText name).isUnusable = false)
    {d b : List String} (hparent : t.place (Path.ofText name).parent = .ok d)
    (hdir : t.at? d = some .directory) (htarget : t.place (Path.ofText name) = .ok q)
    (hbeside : t.place ((Path.ofText name).withName ((Path.ofText name).name ++ ".tmp")) = .ok b)
    (hq : t.at? q ≠ some .directory) (hb : t.at? b ≠ some .directory) :
    t.writeText name text =
      (((t.put b (.file (Utf8.encodeText text))).remove b).put q (.file (Utf8.encodeText text)),
        .ok ⟨Path.ofText name, (Utf8.encodeText text).length⟩) := by
  have hmade : t.ensureDirectories (Path.ofText name).root (Path.ofText name).parent.parts =
      (t, none) := ensureDirectories_of_directory hparent hdir
  have hwrite : t.write ((Path.ofText name).withName ((Path.ofText name).name ++ ".tmp"))
      (Utf8.encodeText text) = .ok (t.put b (.file (Utf8.encodeText text))) :=
    write_eq_ok_iff.2 ⟨b, hbeside, hb, rfl⟩
  have hput := Keeps.put hb (.file (Utf8.encodeText text))
  -- The text is written beside the target first, which leaves the target free.
  have hfree : (t.put b (.file (Utf8.encodeText text))).at? q ≠ some .directory := by
    by_cases hqb : q = b
    · rw [hqb, at?_put_self (not_prefix_of_at? hb)]
      simp
    · rwa [at?_put_of_ne hqb]
  have hreplace := replace_eq_ok_iff.2 ⟨hup, b, q, _, hput.place_eq hbeside, hput.place_eq htarget,
    at?_put_self (not_prefix_of_at? hb), hfree, rfl⟩
  have hsteps : t.writeSteps (Path.ofText name)
      ((Path.ofText name).withName ((Path.ofText name).name ++ ".tmp")) (Utf8.encodeText text) =
      (((t.put b (.file (Utf8.encodeText text))).remove b).put q (.file (Utf8.encodeText text)),
        none) := by
    unfold writeSteps
    rw [hmade]
    dsimp only
    rw [hwrite]
    dsimp only
    rw [hreplace]
  unfold writeText
  dsimp only
  rw [husable, if_neg (by simpa using hname), hsteps]

theorem name_eq_getLast (hne : path.parts ≠ []) : path.name = path.parts.getLast hne := by
  rw [Path.name, List.getLastD_eq_getLast?, List.getLast?_eq_some_getLast hne, Option.getD_some]

/-- A path with a name is the path of its directory and the name. -/
theorem parts_eq_concat (h : target.name ≠ "") :
    target.parts = target.parent.parts ++ [target.name] := by
  have hne : target.parts ≠ [] := by
    intro hnil
    exact h (by rw [Path.name, hnil, List.getLastD_nil])
  rw [name_eq_getLast hne]
  exact (List.dropLast_concat_getLast hne).symm

theorem utf8ByteSize_intercalate_concat (names : List String) (name : String) :
    ("/".intercalate (names ++ [name])).utf8ByteSize =
      if names = [] then name.utf8ByteSize
      else ("/".intercalate names).utf8ByteSize + 1 + name.utf8ByteSize := by
  by_cases hnil : names = []
  · rw [if_pos hnil, hnil, List.nil_append, String.intercalate_singleton]
  · rw [if_neg hnil, String.intercalate_append_of_ne_nil hnil (by simp),
      String.intercalate_singleton, String.utf8ByteSize_append, String.utf8ByteSize_append]
    rfl

/-- A path is as long as its root and its names, and never empty. -/
theorem utf8ByteSize_text (path : Path) :
    path.text.utf8ByteSize =
      max 1 (path.root.utf8ByteSize + ("/".intercalate path.parts).utf8ByteSize) := by
  rw [← String.utf8ByteSize_append, Path.text]
  generalize path.root ++ "/".intercalate path.parts = s
  by_cases hempty : s = ""
  · rw [hempty]
    rfl
  · have hsize : 0 < s.utf8ByteSize :=
      Nat.pos_of_ne_zero fun hzero => hempty (String.utf8ByteSize_eq_zero_iff.1 hzero)
    rw [if_neg (by simpa using hempty)]
    omega

/-- The text of a directory is not longer than that of what is in it. -/
theorem utf8ByteSize_parent (path : Path) :
    path.parent.text.utf8ByteSize ≤ path.text.utf8ByteSize := by
  rw [utf8ByteSize_text, utf8ByteSize_text]
  show max 1 (path.root.utf8ByteSize + ("/".intercalate path.parts.dropLast).utf8ByteSize) ≤ _
  rcases List.eq_nil_or_concat path.parts with hnil | ⟨front, last, hparts⟩
  · rw [hnil]
    exact Nat.le_refl _
  · rw [hparts, List.concat_eq_append, List.dropLast_concat, utf8ByteSize_intercalate_concat]
    split
    · next hnil =>
      rw [hnil, String.intercalate_nil, String.utf8ByteSize_empty]
      omega
    · omega

/-- A path that leads anywhere leads there from a directory. -/
theorem place_parent (h : target.name ≠ "") (hplace : t.place target = .ok q) :
    ∃ p, t.place target.parent = .ok p ∧ t.at? p = some .directory ∧
      t.descend p target.name = .ok q := by
  obtain ⟨hlength, hwalk⟩ := place_eq_ok_iff.1 hplace
  rw [parts_eq_concat h, walk_concat (t.reached_base target), bind_eq_ok_iff] at hwalk
  obtain ⟨p, hp, hq⟩ := hwalk
  exact ⟨p, place_eq_ok_iff.2 ⟨Nat.le_trans (utf8ByteSize_parent target) hlength, hp⟩,
    (descend_eq_ok_iff.1 hq).1, hq⟩

/-- A text that is written is the text that the file holds. -/
theorem read_of_writeText {name text : String} {w : Written}
    (h : t.writeText name text = (t', .ok w)) :
    t'.read (Path.ofText name) = .ok (Utf8.encodeText text) := by
  unfold writeText at h
  dsimp only at h
  split at h
  · cases (Prod.ext_iff.1 h).2
  · split at h
    · cases (Prod.ext_iff.1 h).2
    · next hsteps =>
      obtain rfl := (Prod.ext_iff.1 h).1
      exact read_of_writeSteps hsteps

theorem append_tmp_ne (name : String) : name ++ ".tmp" ≠ ".." := by
  intro heq
  have hlast := congrArg (fun s => s.toList.getLast?) heq
  simp at hlast

/-- What stands beside a place is at another place. -/
theorem ne_of_descend {name : String} (hq : t.descend p name = .ok q) {q' : List String}
    (hq' : t.descend p (name ++ ".tmp") = .ok q') : q ≠ q' := by
  have hup : (name ++ ".tmp" == "..") = false := beq_false_of_ne (append_tmp_ne name)
  have hq' := (descend_eq_ok_iff.1 hq').2.2
  rw [onward, hup, if_neg Bool.false_ne_true] at hq'
  rw [(descend_eq_ok_iff.1 hq).2.2, onward, hq']
  intro heq
  split at heq
  · have hlength := congrArg List.length heq
    simp at hlength
  · have hname := congrArg String.utf8ByteSize (List.singleton_inj.1 (List.append_cancel_left heq))
    rw [String.utf8ByteSize_append] at hname
    simp at hname

theorem name_withName (target : Path) (name : String) : (target.withName name).name = name := by
  simp [Path.withName, Path.name]

theorem parent_withName (target : Path) (name : String) :
    (target.withName name).parent = target.parent := by
  simp [Path.withName, Path.parent]

/-- Where a path leads somewhere, its refusal leaves everything as it is. -/
theorem afterRefusal_of_place (h : t.place target = .ok q) : t.afterRefusal target = t := by
  unfold afterRefusal
  split
  · rfl
  · next hunfit =>
    have hname : target.name ≠ "" := by
      intro hempty
      simp [hempty] at hunfit
    obtain ⟨p, hp, hdir, -⟩ := place_parent hname h
    exact congrArg Prod.fst (ensureDirectories_of_directory hp hdir)

/-- Where writing stops on the way, everything is as it was once the file beside the destination is
discarded, but for new directories on the way and for that file. If the path leads anywhere, nothing
else is new. -/
theorem unchanged_of_writeSteps {target beside : Path} {octets : List UInt8} {fault : FileFault}
    (hname : target.name ≠ "") (hbeside : beside.name = target.name ++ ".tmp")
    (hparent : beside.parent = target.parent)
    (hsteps : t.writeSteps target beside octets = (t', some fault)) :
    (∀ q, t.place target = .ok q →
      (t'.discard beside).place target = .ok q ∧ (t'.discard beside).at? q = t.at? q) ∧
    ∀ q content, (t'.discard beside).place beside ≠ .ok q →
      ((t'.discard beside).at? q = some (.file content) ↔ t.at? q = some (.file content)) := by
  have hgrows := grows_ensureDirectories t target.root target.parent.parts
  refine ⟨fun q hq => ?_, fun q content hq => ?_⟩
  · -- The directories are there already, so no more than the file beside has been touched.
    obtain ⟨p, hp, hdir, hdescend⟩ := place_parent hname hq
    have hmade : t.ensureDirectories target.root target.parent.parts = (t, none) :=
      ensureDirectories_of_directory hp hdir
    rcases discard_of_writeSteps hsteps (congrArg Prod.fst hmade) with heq | ⟨b, hb, hsame⟩
    · rw [heq]
      exact ⟨hq, rfl⟩
    · obtain ⟨p', hp', -, hdescend'⟩ := place_parent (by simp [hbeside]) hb
      rw [hparent] at hp'
      obtain rfl : p = p' := Except.ok.inj (hp.symm.trans hp')
      rw [hbeside] at hdescend'
      exact ⟨hsame.keeps.place_eq hq, hsame.elsewhere q (ne_of_descend hdescend hdescend')⟩
  · rcases discard_of_writeSteps hsteps rfl with heq | ⟨b, hb, hsame⟩
    · rw [heq]
      exact hgrows.file_iff
    · have hne : q ≠ b := by
        rintro rfl
        exact hq (hsame.keeps.place_eq hb)
      rw [hsame.elsewhere q hne]
      exact hgrows.file_iff

/-- A text that is not written leaves everything as it was, but for new directories on the way and
for the file beside the destination. If the path leads anywhere, nothing else is new. -/
theorem unchanged_of_writeText {name text : String} {e : Error}
    (h : t.writeText name text = (t', .error e)) :
    (∀ q, t.place (Path.ofText name) = .ok q →
      t'.place (Path.ofText name) = .ok q ∧ t'.at? q = t.at? q) ∧
    ∀ q octets, t'.place ((Path.ofText name).withName ((Path.ofText name).name ++ ".tmp")) ≠ .ok q →
      (t'.at? q = some (.file octets) ↔ t.at? q = some (.file octets)) := by
  unfold writeText at h
  dsimp only at h
  split at h
  · obtain ⟨rfl, -⟩ := Prod.mk.inj h
    refine ⟨fun q hq => ?_, fun q octets _ => (madeAlong_afterRefusal ..).grows.file_iff⟩
    rw [afterRefusal_of_place hq]
    exact ⟨hq, rfl⟩
  · next hname =>
    split at h
    · next hsteps =>
      obtain ⟨rfl, -⟩ := Prod.mk.inj h
      have hname' : (Path.ofText name).name ≠ "" := by
        intro heq
        simp [heq] at hname
      exact unchanged_of_writeSteps hname' (name_withName _ _) (parent_withName _ _) hsteps
    · cases (Prod.ext_iff.1 h).2

end FileTree

end RecordSchema
