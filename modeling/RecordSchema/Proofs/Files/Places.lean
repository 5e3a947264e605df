import RecordSchema.Files.Tree
import RecordSchema.Proofs.Report

/-!
# Places in a tree of files

What stands at a place after an entry is put or removed (`at?_put_self`, `at?_put_of_ne`,
`at?_remove_self`, `at?_remove_of_ne`), and what place a path leads to. A path is walked name by
name, each from a directory (`walk_concat`), so it leads to the same place in every tree that keeps
the directories (`Keeps.place_eq`).
-/

set_option autoImplicit false

namespace RecordSchema

namespace FileTree

variable {t t' : FileTree} {p q : List String} {e : Entry}

/-! ## Entries -/

theorem at?_of_above (h : q <+: t.current) : t.at? q = some .directory := by
  rw [at?, if_pos (List.isPrefixOf_iff_prefix.2 h)]

theorem at?_of_not_above (h : ¬ q <+: t.current) :
    t.at? q = (t.entries.find? (·.1 == q)).map (·.2) := by
  rw [at?, if_neg (mt List.isPrefixOf_iff_prefix.1 h)]

/-- Only the root and what is on the way to the current directory stand where no entry is. -/
theorem not_prefix_of_at? (h : t.at? q ≠ some .directory) : ¬ q <+: t.current :=
  fun hq => h (at?_of_above hq)

@[simp] theorem current_put (t : FileTree) (p : List String) (e : Entry) :
    (t.put p e).current = t.current := by
  unfold put
  split <;> rfl

@[simp] theorem current_remove (t : FileTree) (p : List String) :
    (t.remove p).current = t.current := rfl

theorem at?_put_self (h : ¬ p <+: t.current) : (t.put p e).at? p = some e := by
  rw [at?_of_not_above (by simpa using h)]
  unfold put
  split
  · next hany =>
    have hkeys : ((fun x : List String × Entry => x.1 == p) ∘
        fun x => if x.1 == p then (p, e) else x) = fun x => x.1 == p := by
      funext x
      by_cases hx : x.1 = p <;> simp [hx]
    obtain ⟨x, hx⟩ := Option.isSome_iff_exists.1 (List.find?_isSome.2 (List.any_eq_true.1 hany))
    have hkey : (x.1 == p) = true := by simpa using List.find?_some hx
    rw [List.find?_map, hkeys, hx, Option.map_some, Option.map_some, if_pos hkey]
  · next hany =>
    have hnone : t.entries.find? (·.1 == p) = none :=
      List.find?_eq_none.2 fun x hx hkey => hany (List.any_eq_true.2 ⟨x, hx, hkey⟩)
    simp [List.find?_append, hnone]

theorem at?_put_of_ne (h : q ≠ p) : (t.put p e).at? q = t.at? q := by
  by_cases hq : q <+: t.current
  · rw [at?_of_above hq, at?_of_above (by simpa using hq)]
  · rw [at?_of_not_above hq, at?_of_not_above (by simpa using hq)]
    unfold put
    split
    · -- An entry that is replaced keeps its place, and the others theirs.
      have hkeys : ((fun x : List String × Entry => x.1 == q) ∘
          fun x => if x.1 == p then (p, e) else x) = fun x => x.1 == q := by
        funext x
        by_cases hx : x.1 = p <;> simp [hx]
      rw [List.find?_map, hkeys, Option.map_map]
      cases hfind : t.entries.find? (·.1 == q) with
      | none => rfl
      | some x =>
        have hx : x.1 = q := by simpa using List.find?_some hfind
        simp [hx, h]
    · have hsingle : [(p, e)].find? (·.1 == q) = none := by simp [Ne.symm h]
      rw [List.find?_append, hsingle, Option.or_none]

theorem at?_remove_self (h : ¬ p <+: t.current) : (t.remove p).at? p = none := by
  rw [at?_of_not_above (by simpa using h), remove, List.find?_filter]
  simp

theorem at?_remove_of_ne (h : q ≠ p) : (t.remove p).at? q = t.at? q := by
  by_cases hq : q <+: t.current
  · rw [at?_of_above hq, at?_of_above (by simpa using hq)]
  · rw [at?_of_not_above hq, at?_of_not_above (by simpa using hq)]
    have hkeys : (fun x : List String × Entry => decide ((x.1 != p) = true ∧ (x.1 == q) = true)) =
        fun x => x.1 == q := by
      funext x
      by_cases hx : x.1 = q <;> simp [hx, h]
    rw [remove, List.find?_filter, hkeys]

/-- Where there was no directory, none comes of removing a file. -/
theorem free_remove (hp : t.at? p ≠ some .directory) (hq : t.at? q ≠ some .directory) :
    (t.remove p).at? q ≠ some .directory := by
  by_cases hqp : q = p
  · rw [hqp, at?_remove_self (not_prefix_of_at? hp)]
    nofun
  · rwa [at?_remove_of_ne hqp]

/-! ## Walking -/

/-- A tree keeps the directories of another, and the current directory. -/
structure Keeps (t t' : FileTree) : Prop where
  current : t'.current = t.current
  directories : ∀ q, t.at? q = some .directory → t'.at? q = some .directory

theorem Keeps.refl (t : FileTree) : t.Keeps t := ⟨rfl, fun _ h => h⟩

theorem Keeps.trans {t'' : FileTree} (h : t.Keeps t') (h' : t'.Keeps t'') : t.Keeps t'' :=
  ⟨h'.current.trans h.current, fun q hq => h'.directories q (h.directories q hq)⟩

theorem Keeps.put (h : t.at? p ≠ some .directory) (e : Entry) : t.Keeps (t.put p e) := by
  refine ⟨t.current_put p e, fun q hq => ?_⟩
  have hne : q ≠ p := fun heq => h (heq ▸ hq)
  rw [at?_put_of_ne hne, hq]

theorem Keeps.remove (h : t.at? p ≠ some .directory) : t.Keeps (t.remove p) := by
  refine ⟨rfl, fun q hq => ?_⟩
  have hne : q ≠ p := fun heq => h (heq ▸ hq)
  rw [at?_remove_of_ne hne, hq]

/-- The walk goes back for two dots and on for any other name, through directories but for the last
name. -/
theorem walk_cons_eq_ok_iff {base : List String} {name : String} {rest : List String} :
    t.walk base (name :: rest) = .ok q ↔ name.utf8ByteSize ≤ 255 ∧
      (name = ".." ∧ t.walk base.dropLast rest = .ok q ∨
        name ≠ ".." ∧ (rest = [] ∧ q = base ++ [name] ∨
          rest ≠ [] ∧ t.at? (base ++ [name]) = some .directory ∧
            t.walk (base ++ [name]) rest = .ok q)) := by
  rw [walk]
  by_cases hlong : 255 < name.utf8ByteSize
  · rw [if_pos hlong]
    exact iff_of_false nofun fun h => absurd h.1 (Nat.not_le.2 hlong)
  rw [if_neg hlong, and_iff_right (Nat.not_lt.1 hlong)]
  by_cases hup : name = ".."
  · rw [if_pos (beq_iff_eq.2 hup)]
    simp [hup]
  rw [if_neg (mt beq_iff_eq.1 hup)]
  by_cases hlast : rest = []
  · rw [if_pos (List.isEmpty_iff.2 hlast)]
    simp [hup, hlast, eq_comm]
  rw [if_neg (mt List.isEmpty_iff.1 hlast)]
  simp only [hup, hlast, false_and, false_or, ne_eq, not_false_eq_true, true_and]
  cases t.at? (base ++ [name]) with
  | none => simp
  | some e =>
    cases e with
    | file _ => simp
    | directory => simp

theorem Keeps.walk (h : t.Keeps t') {names : List String} {base : List String}
    (hwalk : t.walk base names = .ok q) : t'.walk base names = .ok q := by
  induction names generalizing base with
  | nil => exact hwalk
  | cons name rest ih =>
    rw [walk_cons_eq_ok_iff] at hwalk ⊢
    obtain ⟨hshort, ⟨hup, hwalk⟩ | ⟨hup, ⟨hlast, hq⟩ | ⟨hlast, hdir, hwalk⟩⟩⟩ := hwalk
    · exact ⟨hshort, .inl ⟨hup, ih hwalk⟩⟩
    · exact ⟨hshort, .inr ⟨hup, .inl ⟨hlast, hq⟩⟩⟩
    · exact ⟨hshort, .inr ⟨hup, .inr ⟨hlast, h.directories _ hdir, ih hwalk⟩⟩⟩

/-- What is found on the way to a place is found where the directories are kept. -/
theorem Keeps.place_eq (h : t.Keeps t') {path : Path} (hplace : t.place path = .ok q) :
    t'.place path = .ok q := by
  unfold FileTree.place at hplace ⊢
  split at hplace
  · cases hplace
  · next hshort =>
    rw [if_neg hshort, h.current]
    split at hplace
    · next hwalk =>
      rw [h.walk hwalk]
      exact hplace
    · cases hplace

/-- A place all the way to which there are directories. -/
def Reached (t : FileTree) (p : List String) : Prop :=
  ∀ q, q <+: p → t.at? q = some .directory

theorem Reached.self (h : t.Reached p) : t.at? p = some .directory := h p (List.prefix_refl p)

theorem reached_current (t : FileTree) : t.Reached t.current := fun _ hq => at?_of_above hq

theorem reached_nil (t : FileTree) : t.Reached [] :=
  fun _ hq => at?_of_above (hq.trans List.nil_prefix)

theorem Reached.dropLast (h : t.Reached p) : t.Reached p.dropLast :=
  fun q hq => h q (hq.trans (List.dropLast_prefix _))

theorem Reached.concat (h : t.Reached p) {name : String}
    (hdir : t.at? (p ++ [name]) = some .directory) : t.Reached (p ++ [name]) := by
  intro q hq
  rcases List.prefix_concat_iff.1 hq with rfl | hq
  · exact hdir
  · exact h q hq

/-- One step of a walk: from a directory to what has a name in it, or back. -/
def descend (t : FileTree) (p : List String) (name : String) : Except FileRule (List String) :=
  match t.at? p with
  | some .directory =>
    if 255 < name.utf8ByteSize then .error .nameTooLong
    else if name == ".." then .ok p.dropLast
    else .ok (p ++ [name])
  | some (.file _) => .error .notDirectory
  | none => .error .noSuchFile

/-- Where one more name leads from a place: back, or on to what has that name there. -/
def onward (p : List String) (name : String) : List String :=
  if name == ".." then p.dropLast else p ++ [name]

theorem descend_of_directory (h : t.at? p = some .directory) (name : String) :
    t.descend p name =
      if 255 < name.utf8ByteSize then .error .nameTooLong
      else if name == ".." then .ok p.dropLast
      else .ok (p ++ [name]) := by
  rw [descend, h]

theorem descend_eq_ok_iff {name : String} :
    t.descend p name = .ok q ↔
      t.at? p = some .directory ∧ name.utf8ByteSize ≤ 255 ∧ q = onward p name := by
  unfold descend onward
  cases t.at? p with
  | none => simp
  | some e =>
    cases e with
    | file _ => simp
    | directory => grind

/-- One more name is walked from where the names before it lead. -/
theorem walk_concat {base : List String} (hbase : t.Reached base) (names : List String)
    (name : String) :
    t.walk base (names ++ [name]) = t.walk base names >>= fun p => t.descend p name := by
  induction names generalizing base with
  | nil =>
    rw [List.nil_append, walk, walk, ok_bind, descend_of_directory hbase.self]
    rfl
  | cons first names ih =>
    rw [List.cons_append, walk, walk]
    by_cases hlong : 255 < first.utf8ByteSize
    · rw [if_pos hlong, if_pos hlong]
      rfl
    rw [if_neg hlong, if_neg hlong]
    by_cases hup : (first == "..") = true
    · rw [if_pos hup, if_pos hup]
      exact ih hbase.dropLast
    rw [if_neg hup, if_neg hup, if_neg (by simp)]
    by_cases hlast : names = []
    · -- The place is walked from for the first time, so here it is looked at.
      subst hlast
      rw [if_pos List.isEmpty_nil, ok_bind, descend]
      cases hat : t.at? (base ++ [first]) with
      | none => rfl
      | some e =>
        cases e with
        | file _ => rfl
        | directory => rfl
    · rw [if_neg (by simpa using hlast)]
      cases hat : t.at? (base ++ [first]) with
      | none => rfl
      | some e =>
        cases e with
        | file _ => rfl
        | directory => exact ih (hbase.concat hat)

/-! ## Paths -/

/-- Where a path starts. -/
def base (t : FileTree) (path : Path) : List String := if path.isAbsolute then [] else t.current

theorem reached_base (t : FileTree) (path : Path) : t.Reached (t.base path) := by
  unfold base
  split
  · exact t.reached_nil
  · exact t.reached_current

theorem place_eq_ok_iff {path : Path} :
    t.place path = .ok q ↔
      path.text.utf8ByteSize ≤ longestPath ∧ t.walk (t.base path) path.parts = .ok q := by
  unfold FileTree.place base
  by_cases hlong : longestPath < path.text.utf8ByteSize
  · rw [if_pos hlong]
    simp [Nat.not_le.2 hlong]
  · rw [if_neg hlong]
    simp only [Nat.not_lt.1 hlong, true_and]
    cases t.walk (if path.isAbsolute = true then [] else t.current) path.parts <;> simp

/-- A file is read from the place where its path leads. -/
theorem read_eq_ok_iff {path : Path} {octets : List UInt8} :
    t.read path = .ok octets ↔ ∃ q, t.place path = .ok q ∧ t.at? q = some (.file octets) := by
  unfold FileTree.read
  rw [bind_eq_ok_iff]
  refine exists_congr fun q => and_congr_right fun _ => ?_
  cases t.at? q with
  | none => simp [throw, throwThe, MonadExceptOf.throw]
  | some e => cases e <;> simp [throw, throwThe, MonadExceptOf.throw, pure, Except.pure]

end FileTree

end RecordSchema
