import RecordSchema.Proofs.Document.Loading
import RecordSchema.Proofs.Files.Writing

/-!
# All or nothing

The writing of a text ends in one of two ways (`FileTree.ends_writeText`): the destination holds the
whole text, or what was there is there still, and no file is left beside it either way.

A failure may leave directories behind, those on the way to the destination. If the names on the way
only lead forward, none of these is the destination (`FileTree.on_the_way_ensureDirectories`): what
is made is above it. A way that goes back can lead to a directory that was made for it, so that
there is something where nothing was (`FileTree.directory_at_destination`).
-/

set_option autoImplicit false

namespace RecordSchema

open RecordSchema.Text

/-- The file beside a destination to which a text is written first. -/
def Path.beside (target : Path) : Path := target.withName (target.name ++ ".tmp")

namespace FileTree

variable {t t' : FileTree} {p q : List String} {path target : Path} {e : Entry}

/-! ## What a path leads to -/

theorem find?_of_place (h : t.place path = .ok q) : t.find? path = t.at? q := by
  rw [find?, h]
  rfl

theorem find?_eq_some_iff :
    t.find? path = some e ↔ ∃ q, t.place path = .ok q ∧ t.at? q = some e := by
  rw [find?]
  cases hplace : t.place path with
  | error fault => simp [Except.toOption]
  | ok q => simp [Except.toOption]

/-- A file that is read is found. -/
theorem find?_of_read {octets : List UInt8} (h : t.read path = .ok octets) :
    t.find? path = some (.file octets) := find?_eq_some_iff.2 (read_eq_ok_iff.1 h)

/-- No file is at the end of a path. -/
def IsClear (t : FileTree) (path : Path) : Prop := ∀ octets, t.find? path ≠ some (.file octets)

theorem isClear_of_absent (hplace : t.place path = .ok q) (h : t.at? q = none) :
    t.IsClear path := by
  intro octets hfile
  rw [find?_of_place hplace, h] at hfile
  cases hfile

/-- A discarded file is there no more. -/
theorem isClear_discard (t : FileTree) (path : Path) : (t.discard path).IsClear path := by
  unfold discard
  cases hplace : t.place path with
  | error fault =>
    intro octets hfile
    obtain ⟨q, hq, -⟩ := find?_eq_some_iff.1 hfile
    cases hplace.symm.trans hq
  | ok q =>
    dsimp only
    have hfound := find?_of_place hplace
    -- Only a file is removed; with anything else there the path is clear already.
    cases hat : t.at? q with
    | none => exact isClear_of_absent hplace hat
    | some e =>
      cases e with
      | directory =>
        intro octets hfile
        rw [hfound, hat] at hfile
        cases hfile
      | file octets =>
        have hfree : t.at? q ≠ some .directory := by simp [hat]
        apply isClear_of_absent ((Keeps.remove hfree).place_eq hplace)
        exact at?_remove_self (not_prefix_of_at? hfree)

/-! ## Ways that only lead forward -/

/-- Where nothing leads back, the names walked are those of the place. -/
theorem eq_of_walk {names base : List String} (hforward : ".." ∉ names)
    (h : t.walk base names = .ok q) : q = base ++ names := by
  induction names generalizing base with
  | nil =>
    rw [List.append_nil]
    exact (Except.ok.inj h).symm
  | cons name rest ih =>
    rw [List.mem_cons, not_or] at hforward
    obtain ⟨-, ⟨hup, -⟩ | ⟨-, ⟨rfl, hq⟩ | ⟨-, -, h⟩⟩⟩ := walk_cons_eq_ok_iff.1 h
    · exact absurd hup.symm hforward.1
    · exact hq
    · rw [ih hforward.2 h, List.append_assoc, List.singleton_append]

theorem eq_of_place (hforward : ".." ∉ path.parts) (h : t.place path = .ok q) :
    q = t.base path ++ path.parts := eq_of_walk hforward (place_eq_ok_iff.1 h).2

/-- In a tree every entry stands in a directory. -/
def IsTree (t : FileTree) : Prop := ∀ x ∈ t.entries, t.at? x.1.dropLast = some .directory

instance (t : FileTree) : Decidable t.IsTree :=
  inferInstanceAs (Decidable (∀ x ∈ t.entries, t.at? x.1.dropLast = some .directory))

theorem IsTree.above (ht : t.IsTree) (h : t.at? p = some e) :
    t.at? p.dropLast = some .directory := by
  by_cases hcurrent : p <+: t.current
  · exact at?_of_above ((List.dropLast_prefix p).trans hcurrent)
  · rw [at?_of_not_above hcurrent, Option.map_eq_some_iff] at h
    obtain ⟨x, hx, -⟩ := h
    have hkey : x.1 = p := by simpa using List.find?_some hx
    rw [← hkey]
    exact ht x (List.mem_of_find?_eq_some hx)

/-- Everything above a place where something stands is a directory. -/
theorem IsTree.reached (ht : t.IsTree) (h : t.at? p = some e) : t.Reached p.dropLast := by
  induction p using List.reverseRecOn generalizing e with
  | nil => exact t.reached_nil
  | append_singleton p name ih =>
    have hp := ht.above h
    rw [List.dropLast_concat] at hp ⊢
    by_cases hnil : p = []
    · rw [hnil]
      exact t.reached_nil
    · rw [← List.dropLast_concat_getLast hnil] at hp ⊢
      exact (ih (List.dropLast_concat_getLast hnil ▸ hp)).concat hp

/-- A walk that is possible in one tree is possible in another with the directories on the way. -/
theorem walk_of_reached {names base : List String} (hforward : ".." ∉ names)
    (hreached : t.Reached (base ++ names).dropLast) (h : t'.walk base names = .ok q) :
    t.walk base names = .ok q := by
  induction names generalizing base with
  | nil => exact h
  | cons name rest ih =>
    rw [List.mem_cons, not_or] at hforward
    rw [walk_cons_eq_ok_iff] at h ⊢
    obtain ⟨hshort, ⟨hup, -⟩ | ⟨hup, ⟨hlast, hq⟩ | ⟨hlast, -, h⟩⟩⟩ := h
    · exact absurd hup.symm hforward.1
    · exact ⟨hshort, .inr ⟨hup, .inl ⟨hlast, hq⟩⟩⟩
    · have hsplit : base ++ name :: rest = (base ++ [name]) ++ rest := List.append_cons ..
      rw [hsplit] at hreached
      -- More names follow, so this place is on the way, and a directory in the other tree.
      have hdir : t.at? (base ++ [name]) = some .directory := by
        apply hreached
        rw [List.dropLast_append_of_ne_nil hlast]
        exact List.prefix_append _ _
      exact ⟨hshort, .inr ⟨hup, .inr ⟨hlast, hdir, ih hforward.2 hreached h⟩⟩⟩

/-! ## Directories on the way -/

/-- A directory that is made is the last name of its path. -/
theorem on_the_way_ensureDirectory {root : String} {names : List String} (hforward : ".." ∉ names)
    (h : t.ensureDirectory ⟨root, names⟩ = .ok t') (hq : t'.at? q ≠ t.at? q) :
    q = t.base ⟨root, names⟩ ++ names := by
  unfold ensureDirectory at h
  split at h
  · next hmade =>
    obtain rfl := Except.ok.inj h
    obtain ⟨p, hp, hput⟩ := bind_eq_ok_iff.1 hmade
    split at hput
    · cases hput
    · obtain rfl := Except.ok.inj hput
      have hplace : p = t.base ⟨root, names⟩ ++ names := eq_of_place hforward hp
      rw [← hplace]
      by_contra hne
      exact hq (at?_put_of_ne hne)
  · split at h
    · obtain rfl := Except.ok.inj h
      exact absurd rfl hq
    · cases h

theorem base_eq (h : t'.current = t.current) (root : String) (names names' : List String) :
    t'.base ⟨root, names⟩ = t.base ⟨root, names'⟩ := by
  unfold base Path.isAbsolute
  rw [h]

/-- The directories that are made are on the way that the names tell. -/
theorem MadeAlong.on_the_way {root : String} {names : List String}
    (h : t.MadeAlong root names t') (hforward : ".." ∉ names) (hq : t'.at? q ≠ t.at? q) :
    ∃ front, front <+: names ∧ q = t.base ⟨root, names⟩ ++ front := by
  induction h with
  | nothing => exact absurd rfl hq
  | @parents names grown above ih =>
    have hforward' : ".." ∉ names.dropLast := fun hmem => hforward (List.dropLast_subset _ hmem)
    obtain ⟨front, hprefix, heq⟩ := ih hforward' hq
    rw [base_eq rfl root names.dropLast names] at heq
    exact ⟨front, hprefix.trans (List.dropLast_prefix _), heq⟩
  | @directory names grown made before ensured ih =>
    -- What is new was made either before or with the directory itself.
    by_cases hsame : grown.at? q = t.at? q
    · rw [← hsame] at hq
      have heq := on_the_way_ensureDirectory hforward ensured hq
      rw [base_eq before.grows.current root names names] at heq
      exact ⟨names, List.prefix_refl _, heq⟩
    · exact ih hforward hsame

theorem on_the_way_ensureDirectories {root : String} {names : List String}
    (hforward : ".." ∉ names) (hq : (t.ensureDirectories root names).1.at? q ≠ t.at? q) :
    ∃ front, front <+: names ∧ q = t.base ⟨root, names⟩ ++ front :=
  (madeAlong_ensureDirectories t root names).on_the_way hforward hq

/-! ## The two ways in which writing ends -/

/-- What is at the end of a path after a failure: what was there. Where nothing was, there is
nothing, unless the way goes back; then it may lead to a directory that was made for it, or to what
stood there out of reach. -/
structure Unchanged (t t' : FileTree) (target : Path) : Prop where
  kept : ∀ e, t.find? target = some e → t'.find? target = some e
  absent : ".." ∉ target.parts → t.find? target = none → t'.find? target = none
  reached : t.find? target = none → ∀ e, t'.find? target = some e →
    ∃ q, t'.place target = .ok q ∧ (t.at? q = some e ∨ t.at? q = none ∧ e = .directory)

theorem Unchanged.of_eq (h : t'.find? target = t.find? target) : Unchanged t t' target where
  kept e he := h.trans he
  absent _ hnone := h.trans hnone
  reached hnone e he := by
    rw [h, hnone] at he
    cases he

/-- How the writing of octets to a destination ends. -/
inductive Ends (t : FileTree) (target : Path) (octets : List UInt8) :
    FileTree × Except Error Written → Prop where
  | written {t' : FileTree} {w : Written} (holds : t'.find? target = some (.file octets))
      (size : w.size = octets.length) (clear : t'.IsClear target.beside) :
      Ends t target octets (t', .ok w)
  | unwritten {t' : FileTree} {path why : String} (unchanged : Unchanged t t' target)
      (clear : t'.IsClear target.beside) : Ends t target octets (t', .error (.unwritable path why))

section Steps

variable {octets : List UInt8} {name text : String}

/-- A destination and the file beside it are at different places. -/
theorem ne_of_place_beside (hname : target.name ≠ "") (hq : t.place target = .ok q)
    (hp : t.place target.beside = .ok p) : q ≠ p := by
  obtain ⟨d, hd, -, hdescend⟩ := place_parent hname hq
  obtain ⟨d', hd', -, hbeside⟩ := place_parent (by simp [Path.beside, name_withName]) hp
  rw [Path.beside, parent_withName] at hd'
  rw [Path.beside, name_withName] at hbeside
  obtain rfl : d = d' := Except.ok.inj (hd.symm.trans hd')
  exact ne_of_descend hdescend hbeside

/-- A file that is moved elsewhere is where it was no more. -/
theorem isClear_of_replace {source : Path} (h : t.replace source target = .ok t')
    (hne : ∀ p q, t.place source = .ok p → t.place target = .ok q → q ≠ p) :
    t'.IsClear source := by
  obtain ⟨-, p, q, held, hp, hq, hat, hfree, rfl⟩ := replace_eq_ok_iff.1 h
  have hfile : t.at? p ≠ some .directory := by simp [hat]
  have hother := hne p q hp hq
  have hfree' : (t.remove p).at? q ≠ some .directory := by rwa [at?_remove_of_ne hother]
  have hkeeps : t.Keeps ((t.remove p).put q (.file held)) :=
      (Keeps.remove hfile).trans (.put hfree' _)
  apply isClear_of_absent (hkeeps.place_eq hp)
  rw [at?_put_of_ne (Ne.symm hother)]
  exact at?_remove_self (not_prefix_of_at? hfile)

theorem isClear_of_writeSteps (hname : target.name ≠ "")
    (h : t.writeSteps target target.beside octets = (t', none)) : t'.IsClear target.beside := by
  obtain ⟨grown, filled, -, -, hreplace⟩ := writeSteps_eq_none_iff.1 h
  exact isClear_of_replace hreplace fun p q hp hq => ne_of_place_beside hname hq hp

/-- What a failure leaves: the tree grown by the directories on the way, but for the file beside the
destination. -/
theorem left_of_failure {fault : Error} (h : t.writeText name text = (t', .error fault)) :
    t' = t ∨ ∃ grown, (t.ensureDirectories (Path.ofText name).root
      (Path.ofText name).parent.parts).1 = grown ∧
        (t' = grown ∨ ∃ p, grown.place (Path.ofText name).beside = .ok p ∧ SameBut p grown t') := by
  unfold writeText at h
  dsimp only at h
  split at h
  · obtain ⟨rfl, -⟩ := Prod.mk.inj h
    unfold afterRefusal
    split
    · exact .inl rfl
    · exact .inr ⟨_, rfl, .inl rfl⟩
  · split at h
    · next hsteps =>
      obtain ⟨rfl, -⟩ := Prod.mk.inj h
      exact .inr ⟨_, rfl, discard_of_writeSteps hsteps rfl⟩
    · cases (Prod.ext_iff.1 h).2

theorem keeps_of_failure {fault : Error} (h : t.writeText name text = (t', .error fault)) :
    t.Keeps t' := by
  rcases left_of_failure h with rfl | ⟨grown, rfl, hleft⟩
  · exact .refl _
  · have hgrows := (grows_ensureDirectories t (Path.ofText name).root
      (Path.ofText name).parent.parts).keeps
    rcases hleft with rfl | ⟨p, -, hsame⟩
    · exact hgrows
    · exact hgrows.trans hsame.keeps

/-- Where the names only lead forward, nothing is new at the destination after a failure. -/
theorem at?_eq_of_failure {fault : Error} (hname : (Path.ofText name).name ≠ "")
    (hforward : ".." ∉ (Path.ofText name).parts) (h : t.writeText name text = (t', .error fault))
    (hq : t'.place (Path.ofText name) = .ok q) : t'.at? q = t.at? q := by
  have hcurrent : t'.base (Path.ofText name) = t.base (Path.ofText name) :=
    base_eq (keeps_of_failure h).current _ _ _
  have heq := eq_of_place hforward hq
  rcases left_of_failure h with rfl | ⟨grown, rfl, hleft⟩
  · rfl
  · by_contra hnew
    have hmade : (t.ensureDirectories (Path.ofText name).root
        (Path.ofText name).parent.parts).1.at? q ≠ t.at? q := by
      rcases hleft with rfl | ⟨p, hp, hsame⟩
      · exact hnew
      · have hother := ne_of_place_beside hname hq (hsame.keeps.place_eq hp)
        rwa [← hsame.elsewhere q hother]
    have hparents : ".." ∉ (Path.ofText name).parent.parts :=
      fun hmem => hforward (List.dropLast_subset _ hmem)
    obtain ⟨front, hfront, hon⟩ := on_the_way_ensureDirectories hparents hmade
    -- The directories on the way have fewer names than the destination.
    have hbase : t.base ⟨(Path.ofText name).root, (Path.ofText name).parent.parts⟩ =
        t.base (Path.ofText name) := base_eq rfl _ _ _
    have hsame := heq.symm.trans hon
    rw [hcurrent, hbase, List.append_cancel_left_eq] at hsame
    have hshorter := hfront.length_le
    have hlonger := congrArg List.length (parts_eq_concat hname)
    rw [hsame, List.length_append, List.length_singleton] at hlonger
    omega

/-- What a failure leaves at the place of the destination was there, or is a directory where nothing
was. -/
theorem reached_of_failure {fault : Error} (hname : (Path.ofText name).name ≠ "")
    (h : t.writeText name text = (t', .error fault)) (hq : t'.place (Path.ofText name) = .ok q)
    (he : t'.at? q = some e) : t.at? q = some e ∨ t.at? q = none ∧ e = .directory := by
  have hfile (octets : List UInt8) :
      t'.at? q = some (.file octets) ↔ t.at? q = some (.file octets) :=
    (unchanged_of_writeText h).2 q octets fun hp => ne_of_place_beside hname hq hp rfl
  cases e with
  | file octets => exact .inl ((hfile octets).1 he)
  | directory =>
    -- A file cannot have become a directory.
    cases hat : t.at? q with
    | none => exact .inr ⟨rfl, rfl⟩
    | some old =>
      cases old with
      | directory => exact .inl rfl
      | file octets => cases he.symm.trans ((hfile octets).2 hat)

/-- Where the names only lead forward, what is found after a failure was found before: it stood
there, and so it was in reach. -/
theorem found_of_failure (ht : t.IsTree) {fault : Error} (hname : (Path.ofText name).name ≠ "")
    (hforward : ".." ∉ (Path.ofText name).parts) (h : t.writeText name text = (t', .error fault))
    (he : t'.find? (Path.ofText name) = some e) : t.find? (Path.ofText name) = some e := by
  obtain ⟨q, hq, hat⟩ := find?_eq_some_iff.1 he
  have hold : t.at? q = some e := (at?_eq_of_failure hname hforward h hq).symm.trans hat
  have hcurrent : t'.base (Path.ofText name) = t.base (Path.ofText name) :=
    base_eq (keeps_of_failure h).current _ _ _
  obtain ⟨hlength, hwalk⟩ := place_eq_ok_iff.1 hq
  have hway := ht.reached hold
  rw [eq_of_place hforward hq, hcurrent] at hway
  rw [hcurrent] at hwalk
  exact find?_eq_some_iff.2
    ⟨q, place_eq_ok_iff.2 ⟨hlength, walk_of_reached hforward hway hwalk⟩, hold⟩

/-- A failure leaves what was at the destination. -/
theorem unchanged_of_failure (ht : t.IsTree) (hname : (Path.ofText name).name ≠ "")
    {fault : Error} (h : t.writeText name text = (t', .error fault)) :
    Unchanged t t' (Path.ofText name) where
  kept e he := by
    obtain ⟨q, hq, hat⟩ := find?_eq_some_iff.1 he
    obtain ⟨hq', hat'⟩ := (unchanged_of_writeText h).1 q hq
    exact find?_eq_some_iff.2 ⟨q, hq', hat'.trans hat⟩
  absent hforward hnone := by
    refine Option.eq_none_iff_forall_ne_some.2 fun e he => ?_
    cases hnone.symm.trans (found_of_failure ht hname hforward h he)
  reached _ e he := by
    obtain ⟨q, hq, hat⟩ := find?_eq_some_iff.1 he
    exact ⟨q, hq, reached_of_failure hname h hq hat⟩

end Steps

/-- The writing of a text to a path with a name and without NUL either puts the whole text there, or
tells why not and leaves what was there; no file is left beside the destination. -/
theorem ends_writeText (ht : t.IsTree) {name : String} (hname : (Path.ofText name).name ≠ "")
    (hplain : '\x00' ∉ name.toList) (text : String) :
    Ends t (Path.ofText name) (Utf8.encodeText text) (t.writeText name text) := by
  have husable : ¬ ((Path.ofText name).name == "" || (Path.ofText name).isUnusable) = true := by
    simp [hname, Path.isUnusable_ofText hplain]
  generalize hresult : t.writeText name text = result
  have h := hresult
  unfold writeText at hresult
  dsimp only at hresult
  rw [if_neg husable] at hresult
  split at hresult
  · subst hresult
    exact .unwritten (unchanged_of_failure ht hname h) (isClear_discard _ _)
  · next hsteps =>
    subst hresult
    exact .written (find?_of_read (read_of_writeText h)) rfl (isClear_of_writeSteps hname hsteps)

/-- A directory that is in the way is kept. -/
theorem ends_writeText_directory :
    IsTree ⟨[(["d"], .directory)], []⟩ ∧ (Path.ofText "d").name ≠ "" ∧ '\x00' ∉ "d".toList ∧
      Ends ⟨[(["d"], .directory)], []⟩ (Path.ofText "d") (Utf8.encodeText "é")
        (writeText ⟨[(["d"], .directory)], []⟩ "d" "é") := by
  have htree : IsTree ⟨[(["d"], .directory)], []⟩ := by decide
  have hname : (Path.ofText "d").name ≠ "" := by decide +kernel
  have hplain : '\x00' ∉ "d".toList := by decide +kernel
  exact ⟨htree, hname, hplain, ends_writeText htree hname hplain "é"⟩

/-- A path with a name and without NUL is written to step by step. -/
theorem writeText_eq {name : String} (hname : (Path.ofText name).name ≠ "")
    (hplain : '\x00' ∉ name.toList) (text : String) :
    t.writeText name text =
      match t.writeSteps (Path.ofText name) (Path.ofText name).beside (Utf8.encodeText text) with
      | (t', some fault) => (t'.discard (Path.ofText name).beside,
          .error (.unwritable (Path.ofText name).text fault.message))
      | (t', none) => (t', .ok ⟨Path.ofText name, (Utf8.encodeText text).length⟩) := by
  have husable : ¬ ((Path.ofText name).name == "" || (Path.ofText name).isUnusable) = true := by
    simp [hname, Path.isUnusable_ofText hplain]
  unfold writeText
  rw [if_neg husable]
  rfl

/-- A step that fails is told, and the file beside the destination is discarded. -/
theorem writeText_of_fault {name text : String} {fault : FileFault}
    (hname : (Path.ofText name).name ≠ "") (hplain : '\x00' ∉ name.toList)
    (h : t.writeSteps (Path.ofText name) (Path.ofText name).beside (Utf8.encodeText text) =
      (t', some fault)) :
    t.writeText name text = (t'.discard (Path.ofText name).beside,
      .error (.unwritable (Path.ofText name).text fault.message)) := by
  rw [writeText_eq hname hplain, h]

theorem writeText_of_done {name text : String} (hname : (Path.ofText name).name ≠ "")
    (hplain : '\x00' ∉ name.toList)
    (h : t.writeSteps (Path.ofText name) (Path.ofText name).beside (Utf8.encodeText text) =
      (t', none)) :
    t.writeText name text =
      (t', .ok ⟨Path.ofText name, (Utf8.encodeText text).length⟩) := by
  rw [writeText_eq hname hplain, h]

/-- A way that goes back can lead to a directory that is made for it, and then there is something
after a failure where nothing was. -/
theorem directory_at_destination :
    (Path.ofText "x/../x").name = "x" ∧ find? {} (Path.ofText "x/../x") = none ∧
      ∃ t' path why, writeText {} "x/../x" "hi" = (t', .error (.unwritable path why)) ∧
        t'.find? (Path.ofText "x/../x") = some .directory := by
  have hname : (Path.ofText "x/../x").name = "x" := by decide +kernel
  have hplain : '\x00' ∉ "x/../x".toList := by decide +kernel
  have hfault : (writeSteps {} (Path.ofText "x/../x") (Path.ofText "x/../x").beside
      (Utf8.encodeText "hi")).2 = some ⟨.isDirectory, "x/../x.tmp", some "x/../x"⟩ := by
    decide +kernel
  have hsteps : writeSteps {} (Path.ofText "x/../x") (Path.ofText "x/../x").beside
      (Utf8.encodeText "hi") = (_, some ⟨.isDirectory, "x/../x.tmp", some "x/../x"⟩) :=
    Prod.ext rfl hfault
  have hwritten := writeText_of_fault (by rw [hname]; decide) hplain hsteps
  exact ⟨hname, by decide +kernel, _, _, _, hwritten, by decide +kernel⟩

end FileTree

end RecordSchema
