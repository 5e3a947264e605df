import RecordSchema.Proofs.Files.AllOrNothing

/-!
# What writing leaves alone

The writing of a text concerns two places, its destination and that of the file beside it. Whatever
comes of it, no other file is lost, changed or new, and every directory is still there
(`FileTree.leaves_writeText`).

The file beside the destination is the one to which the text is written first. If there is one by
that name already, whatever it is for, it is lost, and it is lost also where the text is not written
in the end (`FileTree.neighbour_lost`).
-/

set_option autoImplicit false

namespace RecordSchema

open RecordSchema.Text

namespace FileTree

variable {t t' : FileTree} {target : Path} {octets : List UInt8}

/-- A tree differs from an earlier one in its files at most where a text was written, and in that
there is no file beside the destination. -/
structure Framed (t t' : FileTree) (target : Path) (written : List String → Prop) : Prop where
  directories : t.Keeps t'
  kept : ∀ q octets, t.at? q = some (.file octets) → ¬ written q →
    t'.place target.beside ≠ .ok q → t'.at? q = some (.file octets)
  nothing_new : ∀ q octets, t'.at? q = some (.file octets) → ¬ written q →
    t.at? q = some (.file octets)
  clear : t'.IsClear target.beside

/-- What the writing of a text leaves alone, for each way in which it ends. -/
inductive Leaves (t : FileTree) (target : Path) : FileTree × Except Error Written → Prop where
  | refused {t' : FileTree} (grows : t.Grows t')
      (unchanged : target.name = "" ∨ target.parent.isUnusable = true → t' = t) :
      Leaves t target (t', .error (.refused .badValue))
  | unwritten {t' : FileTree} {path why : String} (frame : Framed t t' target fun _ => False) :
      Leaves t target (t', .error (.unwritable path why))
  | written {t' : FileTree} {w : Written}
      (frame : Framed t t' target fun q => t'.place target = .ok q) : Leaves t target (t', .ok w)

/-- Files that are the same everywhere but at two places, of which one is clear, are framed. -/
theorem Framed.of_file_iff {written : List String → Prop} (directories : t.Keeps t')
    (clear : t'.IsClear target.beside)
    (same : ∀ q octets, ¬ written q → t'.place target.beside ≠ .ok q →
      (t'.at? q = some (.file octets) ↔ t.at? q = some (.file octets))) :
    Framed t t' target written where
  directories := directories
  kept q octets hq hwritten hbeside := (same q octets hwritten hbeside).2 hq
  nothing_new q octets hq hwritten := by
    refine (same q octets hwritten fun hbeside => ?_).1 hq
    exact clear octets ((find?_of_place hbeside).trans hq)
  clear := clear

/-! ## Success -/

/-- A file that is moved leaves its place, and then only the other place is touched. -/
theorem sameBut_of_replace {source : Path} (h : t.replace source target = .ok t') :
    ∃ p q moved, t.place source = .ok p ∧ t.place target = .ok q ∧ SameBut p t moved ∧
      SameBut q moved t' := by
  obtain ⟨-, p, q, held, hp, hq, hat, hfree, rfl⟩ := replace_eq_ok_iff.1 h
  have hfile : t.at? p ≠ some .directory := by simp [hat]
  exact ⟨p, q, t.remove p, hp, hq, sameBut_remove hfile, sameBut_put (free_remove hfile hfree) _⟩

/-- Once all steps are taken, directories have been made on the way, and then the file beside the
destination and the destination have been touched. -/
theorem sameBut_of_writeSteps {beside : Path}
    (h : t.writeSteps target beside octets = (t', none)) :
    ∃ grown moved b q, t.Grows grown ∧ grown.place beside = .ok b ∧ SameBut b grown moved ∧
      moved.place target = .ok q ∧ SameBut q moved t' := by
  obtain ⟨grown, filled, hmade, hwrite, hreplace⟩ := writeSteps_eq_none_iff.1 h
  have hgrows := grows_ensureDirectories t target.root target.parent.parts
  rw [hmade] at hgrows
  obtain ⟨b, hb, hfree, rfl⟩ := write_eq_ok_iff.1 hwrite
  have hput := sameBut_put hfree (.file octets)
  obtain ⟨b', q, moved, hb', hq, hmoved, hdone⟩ := sameBut_of_replace hreplace
  -- The file is moved from where it was put.
  obtain rfl : b = b' := Except.ok.inj ((hput.keeps.place_eq hb).symm.trans hb')
  exact ⟨grown, moved, b, q, hgrows, hb, hput.trans hmoved, hmoved.keeps.place_eq hq, hdone⟩

theorem framed_of_writeSteps (hname : target.name ≠ "")
    (h : t.writeSteps target target.beside octets = (t', none)) :
    Framed t t' target fun q => t'.place target = .ok q := by
  obtain ⟨grown, moved, b, q, hgrows, hb, hmoved, hq, hdone⟩ := sameBut_of_writeSteps h
  have hkeeps : grown.Keeps t' := hmoved.keeps.trans hdone.keeps
  refine .of_file_iff (hgrows.keeps.trans hkeeps) (isClear_of_writeSteps hname h) ?_
  intro r held hr hbeside
  have hrq : r ≠ q := by
    rintro rfl
    exact hr (hdone.keeps.place_eq hq)
  have hrb : r ≠ b := by
    rintro rfl
    exact hbeside (hkeeps.place_eq hb)
  rw [hdone.elsewhere r hrq, hmoved.elsewhere r hrb]
  exact hgrows.file_iff

/-! ## Both ways -/

/-- A refusal makes no more than directories, and not even these unless the last name alone is at
fault. A text that is not written leaves all files but the one beside its destination, and one that
is written all but these two; there is no file beside the destination then, and no file is new but
the destination. All directories are still there. -/
theorem leaves_writeText (t : FileTree) (name text : String) :
    Leaves t (Path.ofText name) (t.writeText name text) := by
  generalize hresult : t.writeText name text = result
  have h := hresult
  unfold writeText at hresult
  dsimp only at hresult
  split at hresult
  · subst hresult
    refine .refused (madeAlong_afterRefusal ..).grows fun hunfit => ?_
    unfold afterRefusal
    rw [if_pos (by simpa using hunfit)]
  · next husable =>
    have hname : (Path.ofText name).name ≠ "" := by
      intro hempty
      simp [hempty] at husable
    split at hresult
    · subst hresult
      -- What was written beside the destination is discarded.
      refine .unwritten (.of_file_iff (keeps_of_failure h) (isClear_discard _ _) ?_)
      exact fun q octets _ hbeside => (unchanged_of_writeText h).2 q octets hbeside
    · next hsteps =>
      subst hresult
      exact .written (framed_of_writeSteps hname hsteps)

/-- A file that has the name of the one to which a text for `a` is written first. -/
def neighbouring : FileTree where
  entries := [(["a.tmp"], .file [0x78])]

/-- The same, with a directory where the text is to go. -/
def obstructed : FileTree where
  entries := [(["a"], .directory), (["a.tmp"], .file [0x78])]

/-- Such a file is lost, both where the text is written and where a directory is in the way. -/
theorem neighbour_lost :
    (neighbouring.at? ["a.tmp"] = some (.file [0x78]) ∧
      ∃ t' w, neighbouring.writeText "a" "hi" = (t', .ok w) ∧ t'.at? ["a.tmp"] = none) ∧
    obstructed.at? ["a.tmp"] = some (.file [0x78]) ∧
      ∃ t' path why, obstructed.writeText "a" "hi" = (t', .error (.unwritable path why)) ∧
        t'.at? ["a.tmp"] = none := by
  have hname : (Path.ofText "a").name ≠ "" := by decide +kernel
  have hplain : '\x00' ∉ "a".toList := by decide +kernel
  have hdone : (neighbouring.writeSteps (Path.ofText "a") (Path.ofText "a").beside
      (Utf8.encodeText "hi")).2 = none := by decide +kernel
  have hfault : (obstructed.writeSteps (Path.ofText "a") (Path.ofText "a").beside
      (Utf8.encodeText "hi")).2 = some ⟨.isDirectory, "a.tmp", some "a"⟩ := by decide +kernel
  refine ⟨⟨by decide +kernel, _, _, writeText_of_done hname hplain (Prod.ext rfl hdone), ?_⟩,
    by decide +kernel, _, _, _, writeText_of_fault hname hplain (Prod.ext rfl hfault), ?_⟩
  · decide +kernel
  · decide +kernel

end FileTree

end RecordSchema
