import RecordSchema.Schema.Basic
import Mathlib.Data.List.Induction
import Mathlib.Data.List.Nodup

/-!
# Names and what stands under them

Setting a name that is not there puts it at the end, so among distinct names nothing is replaced
(`Schema.putAll_of_nodup`, `Value.setEntry_of_forall`) and each name has what was set under it
(`Schema.lookup_map_of_nodup`, `Schema.lookup_filterMap_of_nodup`). Among any names, each keeps the
place where it was set first and has what was set under it last (`Schema.keys_putAll`,
`Schema.lookup_putAll`), so that something is lost exactly if a name is set twice
(`Schema.length_putAll_eq_iff`).
-/

set_option autoImplicit false

namespace RecordSchema

/-! ## Lists of names without repetitions -/

/-- One more name counts if it is new. -/
theorem eraseDups_concat (names : List String) (name : String) :
    (names ++ [name]).eraseDups =
      if name ∈ names then names.eraseDups else names.eraseDups ++ [name] := by
  rw [List.eraseDups_append]
  by_cases h : name ∈ names
  · rw [if_pos h, show [name].removeAll names = [] by simp [List.removeAll, h]]
    exact List.append_nil _
  · rw [if_neg h, show [name].removeAll names = [name] by simp [List.removeAll, h]]
    rfl

theorem length_eraseDups_le (names : List String) : names.eraseDups.length ≤ names.length := by
  induction names using List.reverseRecOn with
  | nil => exact Nat.le_refl 0
  | append_singleton names name ih =>
    rw [eraseDups_concat, List.length_append, List.length_singleton]
    split
    · omega
    · rw [List.length_append, List.length_singleton]
      omega

theorem length_eraseDups_eq_iff (names : List String) :
    names.eraseDups.length = names.length ↔ names.Nodup := by
  induction names using List.reverseRecOn with
  | nil => simp
  | append_singleton names name ih =>
    have hle := length_eraseDups_le names
    have hnodup : (names ++ [name]).Nodup ↔ name ∉ names ∧ names.Nodup := by
      rw [← List.concat_eq_append, List.nodup_concat]
    rw [eraseDups_concat, hnodup, ← ih, List.length_append, List.length_singleton]
    split
    · rename_i hmem
      -- A name that comes again cannot be made up for.
      exact iff_of_false (by omega) fun h => h.1 hmem
    · rename_i hnew
      rw [List.length_append, List.length_singleton, Nat.add_right_cancel_iff]
      exact (and_iff_right hnew).symm

theorem nodup_eraseDups (names : List String) : names.eraseDups.Nodup := by
  induction names using List.reverseRecOn with
  | nil => exact .nil
  | append_singleton names name ih =>
    rw [eraseDups_concat]
    split
    · exact ih
    · next hnew =>
      rw [← List.concat_eq_append, List.nodup_concat]
      exact ⟨mt List.mem_eraseDups.1 hnew, ih⟩

namespace Schema

section Pairs

variable {α : Type}

theorem put_of_notMem {ps : List (String × α)} {name : String} (h : name ∉ ps.map Prod.fst)
    (a : α) :
    put ps name a = ps ++ [(name, a)] := by
  induction ps with
  | nil => rfl
  | cons p ps ih =>
    rw [List.map_cons, List.mem_cons, not_or] at h
    have hne : (p.1 == name) = false := beq_eq_false_iff_ne.2 (Ne.symm h.1)
    rw [put, hne, ih h.2]
    rfl

/-- Nothing is set twice among distinct names. -/
theorem putAll_append {ps more : List (String × α)} (h : ((ps ++ more).map Prod.fst).Nodup) :
    putAll ps more = ps ++ more := by
  induction more generalizing ps with
  | nil => exact (List.append_nil ps).symm
  | cons p more ih =>
    have hp : p.1 ∉ ps.map Prod.fst := by
      rw [List.map_append, List.map_cons] at h
      exact fun hmem => (List.nodup_append.1 h).2.2 _ hmem _ (List.mem_cons_self ..) rfl
    show putAll (put ps p.1 p.2) more = _
    rw [put_of_notMem hp]
    have happend : ps ++ [(p.1, p.2)] ++ more = ps ++ p :: more := by simp
    rw [ih (by rwa [happend]), happend]

theorem putAll_of_nodup {more : List (String × α)} (h : (more.map Prod.fst).Nodup) :
    putAll [] more = more := putAll_append (by rwa [List.nil_append])

theorem putAll_map_of_nodup {β : Type} {name : β → String} {l : List β} (h : (l.map name).Nodup)
    (value : β → α) : putAll [] (l.map fun b => (name b, value b)) =
      l.map fun b => (name b, value b) :=
  putAll_of_nodup (by rwa [List.map_map])

/-- A name that is there keeps its place. -/
theorem keys_put_of_mem {ps : List (String × α)} {name : String} (h : name ∈ ps.map Prod.fst)
    (a : α) : (put ps name a).map Prod.fst = ps.map Prod.fst := by
  induction ps with
  | nil => cases h
  | cons p ps ih =>
    rw [put]
    by_cases hp : p.1 = name
    · rw [if_pos (beq_iff_eq.2 hp), List.map_cons, List.map_cons, hp]
    · have hmem : name ∈ ps.map Prod.fst := (List.mem_cons.1 h).resolve_left (Ne.symm hp)
      rw [if_neg (by simpa using hp), List.map_cons, List.map_cons, ih hmem]

/-- Under a name stands what was set last. -/
theorem lookup_put (ps : List (String × α)) (name n : String) (a : α) :
    Value.lookup n (put ps name a) = if name = n then some a else Value.lookup n ps := by
  unfold Value.lookup
  induction ps with
  | nil => by_cases h : name = n <;> simp [put, h]
  | cons p ps ih =>
    rw [put]
    by_cases hp : p.1 = name
    · by_cases hn : name = n <;> simp [hp, hn]
    · rw [if_neg (by simpa using hp)]
      by_cases hpn : p.1 = n
      · -- What comes first decides, and it is not what was set.
        have hname : ¬ name = n := fun h => hp (hpn.trans h.symm)
        simp [hpn, hname]
      · simpa [hpn] using ih

theorem mem_of_mem_put {ps : List (String × α)} {name : String} {a : α} {p : String × α}
    (h : p ∈ put ps name a) : p = (name, a) ∨ p ∈ ps := by
  induction ps with
  | nil => exact .inl (List.mem_singleton.1 h)
  | cons q ps ih =>
    rw [put] at h
    split at h
    · exact (List.mem_cons.1 h).imp_right (List.mem_cons_of_mem q)
    · rcases List.mem_cons.1 h with rfl | h
      · exact .inr (List.mem_cons_self ..)
      · exact (ih h).imp_right (List.mem_cons_of_mem q)

section Setting

variable (ps : List (String × α))

theorem putAll_concat (p : String × α) :
    putAll [] (ps ++ [p]) = put (putAll [] ps) p.1 p.2 := by
  rw [putAll, List.foldl_append]
  rfl

/-- Each name has the place where it was set first. -/
theorem keys_putAll : (putAll [] ps).map Prod.fst = (ps.map Prod.fst).eraseDups := by
  induction ps using List.reverseRecOn with
  | nil => rfl
  | append_singleton ps p ih =>
    have hmem : p.1 ∈ (putAll [] ps).map Prod.fst ↔ p.1 ∈ ps.map Prod.fst := by
      rw [ih, List.mem_eraseDups]
    rw [putAll_concat, List.map_append, List.map_singleton, eraseDups_concat, ← ih]
    by_cases hp : p.1 ∈ ps.map Prod.fst
    · rw [if_pos hp, keys_put_of_mem (hmem.2 hp)]
    · rw [if_neg hp, put_of_notMem fun h => hp (hmem.1 h), List.map_append]
      rfl

theorem nodup_keys_putAll : ((putAll [] ps).map Prod.fst).Nodup := by
  rw [keys_putAll]
  exact nodup_eraseDups _

/-- Under each name stands what was set last. -/
theorem lookup_putAll (n : String) :
    Value.lookup n (putAll [] ps) = Value.lookup n ps.reverse := by
  induction ps using List.reverseRecOn with
  | nil => rfl
  | append_singleton ps p ih =>
    rw [putAll_concat, lookup_put, ih, List.reverse_append]
    by_cases hp : p.1 = n <;> simp [Value.lookup, hp]

theorem mem_of_mem_putAll {p : String × α} (h : p ∈ putAll [] ps) : p ∈ ps := by
  induction ps using List.reverseRecOn with
  | nil => exact h
  | append_singleton ps q ih =>
    rw [putAll_concat] at h
    rcases mem_of_mem_put h with rfl | h
    · exact List.mem_append_right ps (List.mem_singleton_self _)
    · exact List.mem_append_left _ (ih h)

/-- Nothing is lost exactly if no name is set twice. -/
theorem length_putAll_eq_iff :
    (putAll [] ps).length = ps.length ↔ (ps.map Prod.fst).Nodup := by
  rw [← length_eraseDups_eq_iff, ← keys_putAll, List.length_map, List.length_map]

end Setting

/-- Where names are distinct, what is found under a name is the one that has it. -/
theorem find?_of_nodup {name : α → String} {l : List α} (hl : (l.map name).Nodup) {a : α}
    (ha : a ∈ l) : l.find? (fun c => name c == name a) = some a := by
  induction l with
  | nil => cases ha
  | cons c l ih =>
    rw [List.map_cons, List.nodup_cons] at hl
    rcases List.mem_cons.1 ha with rfl | hmem
    · exact List.find?_cons_of_pos (by simp)
    · have hne : name c ≠ name a := fun h => hl.1 (h ▸ List.mem_map_of_mem hmem)
      rw [List.find?_cons_of_neg (by simpa using hne)]
      exact ih hl.2 hmem

/-- Where names are distinct, only what has a property is under the names of what has it. -/
theorem mem_map_filter_of_nodup {name : α → String} {l : List α} (hl : (l.map name).Nodup) {a : α}
    (ha : a ∈ l) (p : α → Bool) : name a ∈ (l.filter p).map name ↔ p a = true := by
  constructor
  · intro hmem
    obtain ⟨c, hc, hname⟩ := List.mem_map.1 hmem
    obtain ⟨hc, hp⟩ := List.mem_filter.1 hc
    rwa [← List.inj_on_of_nodup_map hl hc ha hname]
  · intro hp
    exact List.mem_map_of_mem (List.mem_filter.2 ⟨ha, hp⟩)

theorem lookup_map_of_nodup {β : Type} {name : α → String} {l : List α} (hl : (l.map name).Nodup)
    (value : α → β) {a : α} (ha : a ∈ l) :
    Value.lookup (name a) (l.map fun c => (name c, value c)) = some (value a) := by
  unfold Value.lookup
  rw [List.find?_map, show ((fun p : String × β => p.1 == name a) ∘ fun c => (name c, value c)) =
    fun c => name c == name a from rfl, find?_of_nodup hl ha]
  rfl

theorem isSome_lookup_iff {pairs : List (String × α)} {n : String} :
    (Value.lookup n pairs).isSome = true ↔ n ∈ pairs.map Prod.fst := by
  simp [Value.lookup, List.find?_isSome]

theorem lookup_eq_none_iff {pairs : List (String × α)} {n : String} :
    Value.lookup n pairs = none ↔ n ∉ pairs.map Prod.fst := by
  rw [← isSome_lookup_iff, Option.not_isSome_iff_eq_none]

theorem isNone_lookup_iff {pairs : List (String × α)} {n : String} :
    (Value.lookup n pairs).isNone = true ↔ n ∉ pairs.map Prod.fst := by
  rw [Option.isNone_iff_eq_none, lookup_eq_none_iff]

section More

variable {more : List (String × α)}

/-- Names that are set among others come after them, unless they were there before. -/
theorem keys_putAll_of_nodup (ps : List (String × α)) (h : (more.map Prod.fst).Nodup) :
    (putAll ps more).map Prod.fst =
      ps.map Prod.fst ++ (more.map Prod.fst).filter fun n => n ∉ ps.map Prod.fst := by
  induction more generalizing ps with
  | nil => exact (List.append_nil _).symm
  | cons p more ih =>
    rw [List.map_cons, List.nodup_cons] at h
    show (putAll (put ps p.1 p.2) more).map Prod.fst = _
    rw [ih _ h.2, List.map_cons]
    by_cases hp : p.1 ∈ ps.map Prod.fst
    · rw [keys_put_of_mem hp, List.filter_cons_of_neg (by simpa using hp)]
    · rw [put_of_notMem hp, List.map_append, List.map_singleton, List.append_assoc,
        List.filter_cons_of_pos (by simpa using hp)]
      refine congrArg (ps.map Prod.fst ++ p.1 :: ·) (List.filter_congr fun n hn => ?_)
      -- The name that is new does not come again.
      have hne : n ≠ p.1 := fun h' => h.1 (h' ▸ hn)
      simp [hne]

/-- Under each name stands what was set there, or else what stood there before. -/
theorem lookup_putAll_of_nodup (ps : List (String × α)) (h : (more.map Prod.fst).Nodup)
    (n : String) :
    Value.lookup n (putAll ps more) = (Value.lookup n more).or (Value.lookup n ps) := by
  induction more generalizing ps with
  | nil => rfl
  | cons p more ih =>
    rw [List.map_cons, List.nodup_cons] at h
    show Value.lookup n (putAll (put ps p.1 p.2) more) = _
    rw [ih _ h.2, lookup_put]
    by_cases hp : p.1 = n
    · rw [if_pos hp, lookup_eq_none_iff.2 (hp ▸ h.1)]
      simp [Value.lookup, hp]
    · rw [if_neg hp]
      simp [Value.lookup, hp]

end More

theorem lookup_of_mem {pairs : List (String × α)} (hp : (pairs.map Prod.fst).Nodup)
    {p : String × α} (hmem : p ∈ pairs) : Value.lookup p.1 pairs = some p.2 := by
  have h := lookup_map_of_nodup hp Prod.snd hmem
  rwa [List.map_id'' (fun _ => rfl)] at h

/-- Names with what is found under them are the pairs themselves. -/
theorem map_lookup_of_nodup {pairs : List (String × α)} (hp : (pairs.map Prod.fst).Nodup) (a : α) :
    ((pairs.map Prod.fst).map fun n => (n, (Value.lookup n pairs).getD a)) = pairs := by
  rw [List.map_map]
  refine (List.map_congr_left fun p hmem => ?_).trans (List.map_id pairs)
  simp [lookup_of_mem hp hmem]

section Some

variable {β : Type} {name : α → String} {value : α → Option β} {l : List α}

/-- Nothing is found under a name that nothing has. -/
theorem lookup_filterMap_of_notMem {n : String} (hn : n ∉ l.map name) :
    Value.lookup n (l.filterMap fun c => (value c).map (name c, ·)) = none := by
  rw [Value.lookup, Option.map_eq_none_iff, List.find?_eq_none]
  rintro ⟨m, b⟩ hmem heq
  obtain ⟨c, hc, hcm⟩ := List.mem_filterMap.1 hmem
  obtain ⟨b', -, hb'⟩ := Option.map_eq_some_iff.1 hcm
  have hname : name c = n := (congrArg Prod.fst hb').trans (eq_of_beq heq)
  exact hn (hname ▸ List.mem_map_of_mem hc)

/-- What is found under a name where only some of distinct names have something under them. -/
theorem lookup_filterMap_of_nodup (hl : (l.map name).Nodup) {a : α} (ha : a ∈ l) :
    Value.lookup (name a) (l.filterMap fun c => (value c).map (name c, ·)) = value a := by
  induction l with
  | nil => cases ha
  | cons c l ih =>
    rw [List.map_cons, List.nodup_cons] at hl
    -- Under the first name nothing further down can be found, as the names are distinct.
    rcases List.mem_cons.1 ha with rfl | hmem
    · cases hv : value a with
      | none =>
        rw [List.filterMap_cons_none (by rw [hv]; rfl)]
        exact lookup_filterMap_of_notMem hl.1
      | some b =>
        rw [List.filterMap_cons_some (by rw [hv]; rfl)]
        simp [Value.lookup]
    · have hne : name c ≠ name a := fun h => hl.1 (h ▸ List.mem_map_of_mem hmem)
      cases hv : value c with
      | none =>
        rw [List.filterMap_cons_none (by rw [hv]; rfl)]
        exact ih hl.2 hmem
      | some b =>
        rw [List.filterMap_cons_some (by rw [hv]; rfl), Value.lookup,
          List.find?_cons_of_neg (by simpa using hne)]
        exact ih hl.2 hmem

end Some

end Pairs

end Schema

namespace Value

@[simp] theorem alike_text (s t : String) : alike (.text s) (.text t) = (s == t) := rfl

/-- A key that is like none of those there goes to the end. -/
theorem setEntry_of_forall {entries : List (Value × Value)} {key : Value}
    (h : ∀ e ∈ entries, alike key e.1 = false) (v : Value) :
    setEntry entries key v = entries ++ [(key, v)] := by
  induction entries with
  | nil => rfl
  | cons e entries ih =>
    rw [setEntry, h e (List.mem_cons_self ..), ih fun e' he' => h e' (List.mem_cons_of_mem _ he')]
    rfl

end Value

end RecordSchema
