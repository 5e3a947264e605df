import RecordSchema.Proofs.Model.Output
import RecordSchema.Proofs.Model.Projection
import RecordSchema.Proofs.Record.Construction

/-!
# Models and record classes of one schema

A schema of primitive fields has a model and a record class. For values that suit the fields
(`Schema.Suits`), both of them look at the names only: the class at the fields that are enforced
(`Schema.lacking`, `Schema.strays`), the model at the fields that it has and that have to be given
(`Model.unmet`, `Model.unknown`), and at what it calls once it is filled (`Model.isAnswered`). The
two agree on all such values exactly if the schema is mirrored (`Schema.IsMirrored`): its model has
all fields, none of them stands in the place of what the model calls, and none that is not enforced
has an ellipsis as its default.

Filling a model copies defaults that could change, and making a record of the filled model copies
lists. What the record lists are copies of what the class fills in itself, unless a default is a
data class, which the model gives out as a mapping.
-/

set_option autoImplicit false

namespace RecordSchema

/-! ## Copies under names -/

/-- A value under a name and a copy of it under the same name. -/
def CopyUnder (p q : String × Value) : Prop := q.1 = p.1 ∧ Value.IsCopy p.2 q.2

theorem copies_trans {values copies copies' : List (String × Value)}
    (h : List.Forall₂ CopyUnder values copies) (h' : List.Forall₂ CopyUnder copies copies') :
    List.Forall₂ CopyUnder values copies' :=
  forall₂_chain (fun _ _ _ hpq hqr => ⟨hqr.1.trans hpq.1, hpq.2.trans hqr.2⟩) h h'

theorem names_of_copies {values copies : List (String × Value)}
    (h : List.Forall₂ CopyUnder values copies) : copies.map Prod.fst = values.map Prod.fst :=
  map_eq_map_of_forall₂ h fun _ _ hpq => hpq.1

/-- Under a name stands a copy of what stands there among the originals. -/
theorem lookup_copies {values copies : List (String × Value)}
    (h : List.Forall₂ CopyUnder values copies) (n : String) :
    Option.Rel Value.IsCopy (Value.lookup n values) (Value.lookup n copies) := by
  induction h with
  | nil => exact .none
  | @cons p q values copies hpq _ ih =>
    by_cases hn : p.1 = n
    · have hn' : q.1 = n := hpq.1.trans hn
      simpa [Value.lookup, hn, hn'] using Option.Rel.some hpq.2
    · have hn' : q.1 ≠ n := hpq.1 ▸ hn
      simpa [Value.lookup, hn, hn'] using ih

/-- Attributes and copies of them are equal if the copies are alike to the originals. -/
theorem equal_attributesValue {values copies : List (String × Value)}
    (hcopies : List.Forall₂ CopyUnder values copies) (hkept : ∀ p ∈ values, p.2.IsKept) :
    (Object.attributesValue values).equal (Object.attributesValue copies) = true := by
  have hplaces := ((List.forall₂_and_left _ _).2 ⟨hkept, hcopies⟩).flip
  have hentries : Value.entriesIn (values.map fun p => (Value.text p.1, p.2))
      (copies.map fun p => (Value.text p.1, p.2)) = true := by
    refine Value.entriesIn_of_forall fun x hx => ?_
    obtain ⟨p, hp, rfl⟩ := List.mem_map.1 hx
    obtain ⟨q, hq, hpq⟩ := exists_left_of_mem hplaces hp
    obtain ⟨hkeeps, hname, hcopy⟩ := hpq
    refine ⟨_, List.mem_map_of_mem hq, ?_, hcopy.alike_of_isKept hkeeps⟩
    rw [hname]
    exact Value.alike_self _
  simp [Object.attributesValue, Value.equal, hentries, hcopies.length_eq]

/-! ## Copies in a session -/

namespace Session

variable {σ : Session} {m : Model} {given values : List (String × Value)}

theorem runs_copyValue (depth : Value.CopyDepth) (v : Value) (σ : Session) :
    Runs (copyValue depth v) σ (.ok (v.copied depth (σ.last + 1)).1)
      { σ with last := (v.copied depth (σ.last + 1)).2 } :=
  Runs.bind (runs_get σ) (Runs.bind (runs_modify _ σ) (runs_pure _ _))

/-- Each value is copied in the depth that goes with it. -/
theorem exists_runs_copies (depth : String × Value → Value.CopyDepth)
    (values : List (String × Value)) (σ : Session) :
    ∃ copies σ', Runs (values.mapM fun p => do return (p.1, ← copyValue (depth p) p.2)) σ
        (.ok copies) σ' ∧ σ'.types = σ.types ∧ List.Forall₂ CopyUnder values copies := by
  refine exists_runs_mapM (fun p σ => ?_) values σ
  exact ⟨(p.1, _), _, Runs.bind (runs_copyValue (depth p) p.2 σ) (runs_pure _ _), rfl, rfl,
    Value.isCopy_copied ..⟩

/-- A model is filled with copies of the values that pass. -/
theorem exists_runs_fillModel (hgiven : (given.map Prod.fst).Nodup)
    (h : m.validate given = .ok values) (id : Nat) (σ : Session) :
    ∃ n copies σ', Runs (fillModel id m given) σ
        (.ok (.filled n id m copies (given.map Prod.fst))) σ' ∧ σ'.types = σ.types ∧
      List.Forall₂ CopyUnder values copies := by
  let depth (p : String × Value) : Value.CopyDepth :=
    if (Value.lookup p.1 given).isNone && !p.2.hashable then .records else .unplaced
  obtain ⟨copies, σ', hcopied, htypes, hcopies⟩ := exists_runs_copies depth values σ
  refine ⟨σ'.last + 1, copies, { σ' with last := σ'.last + 1 }, ?_, htypes, hcopies⟩
  unfold fillModel
  simp only [Schema.putAll_of_nodup hgiven]
  exact Runs.bind (runs_ofExcept h σ)
    (Runs.bind hcopied (Runs.bind (runs_fresh σ') (runs_pure _ _)))

theorem runs_fillModel_error {e : Error} (hgiven : (given.map Prod.fst).Nodup)
    (h : m.validate given = .error e) (id : Nat) (σ : Session) :
    Runs (fillModel id m given) σ (.error e) σ := by
  unfold fillModel
  simp only [Schema.putAll_of_nodup hgiven]
  exact Runs.bind_error (runs_ofExcept h σ) _

end Session

/-! ## Values that suit a schema -/

/-- What suits a field is plain. -/
theorem Field.Takes.isPlain {f : Field} {v : Value} (h : f.Takes v) : v.IsPlain := by
  rcases h with ⟨p, -, hhas⟩ | ⟨-, rfl⟩
  · cases hhas with
    | int n => exact .int n
    | float x _ => exact .real x
    | str s => exact .text s
    | bool b => exact .bool b
  · exact .none

namespace Schema

variable {s : Schema} {given : List (String × Value)}

/-- Values under distinct names, each of which suits the field of the name if there is one. -/
structure Suits (s : Schema) (given : List (String × Value)) : Prop where
  distinct : (given.map Prod.fst).Nodup
  takes : ∀ p ∈ given, ∀ f ∈ s.fields, f.name = p.1 → f.Takes p.2

theorem Suits.takes_of_lookup (h : s.Suits given) :
    ∀ f ∈ s.fields, ∀ v, Value.lookup f.name given = some v → f.Takes v := by
  intro f hf v hv
  obtain ⟨p, hp, rfl⟩ := Option.map_eq_some_iff.1 hv
  have hname : p.1 = f.name := by simpa using List.find?_some hp
  exact h.takes p (List.mem_of_find?_eq_some hp) f hf hname.symm

/-- What is filled in is kept if the defaults are. -/
theorem isKept_filled (h : s.Suits given) (hkept : ∀ f ∈ s.fields, f.initial.IsKept) :
    ∀ p ∈ s.filled given, p.2.IsKept := by
  intro p hp
  obtain ⟨f, hf, rfl⟩ := List.mem_map.1 hp
  cases hv : Value.lookup f.name given with
  | none => exact hkept f hf
  | some v => exact .inl (h.takes_of_lookup f hf v hv).isPlain

/-- What is filled in is given out as it is if the defaults are. -/
theorem isGivenOut_filled (h : s.Suits given) (hdefaults : ∀ f ∈ s.fields, f.initial.IsGivenOut)
    {f : Field} (hf : f ∈ s.fields) :
    ((Value.lookup f.name given).getD f.initial).IsGivenOut := by
  cases hv : Value.lookup f.name given with
  | none => exact hdefaults f hf
  | some v => exact (h.takes_of_lookup f hf v hv).isPlain.isGivenOut

/-- For any choice of fields that has all the enforced ones there are values that suit them, and the
class takes these. -/
theorem exists_suits (hs : s.keys.Nodup)
    (htypes : ∀ f ∈ s.fields, ∃ p : Primitive, f.declared = p.type) (chosen : Field → Bool)
    (hchosen : ∀ f ∈ s.fields, f.isEnforced = true → chosen f = true) :
    ∃ given, s.Suits given ∧ given.map Prod.fst = (s.fields.filter chosen).map (·.name) ∧
      s.strays given = [] ∧ s.lacking given = [] := by
  have hsample : ∀ f ∈ s.fields.filter chosen, ∃ p : String × Value,
      f ∈ s.fields ∧ p.1 = f.name ∧ f.Takes p.2 := by
    intro f hf
    have hf' := List.mem_of_mem_filter hf
    obtain ⟨p, hp⟩ := htypes f hf'
    exact ⟨(f.name, p.sample), hf', rfl, .inl ⟨p, hp, p.has_sample⟩⟩
  obtain ⟨given, hgiven⟩ := exists_forall₂ hsample
  have hnames : given.map Prod.fst = (s.fields.filter chosen).map (·.name) :=
    map_eq_map_of_forall₂ hgiven fun f p hfp => hfp.2.1
  refine ⟨given, ⟨?_, fun p hp f hf hname => ?_⟩, hnames, ?_, ?_⟩
  · rw [hnames]
    exact hs.sublist (List.filter_sublist.map _)
  · obtain ⟨g, -, hg, hpg, htakes⟩ := exists_left_of_mem hgiven hp
    -- The names are distinct, so there is no other field of the name.
    rwa [List.inj_on_of_nodup_map hs hf hg (hname.trans hpg)]
  · rw [strays_eq_nil_iff, hnames]
    intro n hn
    obtain ⟨f, hf, rfl⟩ := List.mem_map.1 hn
    exact List.mem_map_of_mem (List.mem_of_mem_filter hf)
  · rw [lacking_eq_nil_iff, hnames]
    exact fun f hf henforced =>
      List.mem_map_of_mem (List.mem_filter.2 ⟨hf, hchosen f hf henforced⟩)

/-- A schema whose model can stand for its class: the model has every field, none stands in the
place of what the model calls, and a field that is not enforced has another default than an
ellipsis. -/
def IsMirrored (s : Schema) : Prop :=
  ∀ f ∈ s.fields, Model.hasField f = true ∧ f.name ≠ Model.hookName ∧
    (f.isEnforced = false → f.initial ≠ .ellipsis)

end Schema

namespace Model

variable {s : Schema} {given : List (String × Value)}

theorem unmet_eq_nil_iff : unmet s given = [] ↔
    ∀ f ∈ shownFields s, isDemanded f = true → f.name ∈ given.map Prod.fst := by
  simp [unmet]

theorem unknown_eq_nil_iff : unknown s given = [] ↔
    ∀ n ∈ given.map Prod.fst, ∃ f ∈ shownFields s, f.name = n := by
  simp only [unknown, List.filter_eq_nil_iff, decide_eq_true_eq, not_not, List.mem_map]

/-- A field that the model does not have is not given. -/
theorem mem_shownFields_of_given (hs : s.keys.Nodup) (hunknown : unknown s given = []) {f : Field}
    (hf : f ∈ s.fields) (hname : f.name ∈ given.map Prod.fst) : f ∈ shownFields s := by
  obtain ⟨g, hg, hgf⟩ := unknown_eq_nil_iff.1 hunknown _ hname
  rwa [List.inj_on_of_nodup_map hs (List.mem_of_mem_filter hg) hf hgf] at hg

/-- The model of a mirrored schema misses the fields that its class misses, and refuses the names
that its class refuses. -/
theorem unmet_and_unknown_of_isMirrored (hs : s.IsMirrored) (given : List (String × Value)) :
    unmet s given = s.lacking given ∧ unknown s given = s.strays given := by
  have hshown : shownFields s = s.fields :=
    List.filter_eq_self.2 fun f hf => (hs f hf).1
  have hdemanded : ∀ f ∈ s.fields, isDemanded f = f.isEnforced := by
    intro f hf
    cases henforced : f.isEnforced with
    | true => rw [isDemanded, henforced, Bool.true_or]
    | false => exact isDemanded_eq_false_iff.2 ⟨henforced, (hs f hf).2.2 henforced⟩
  constructor
  · rw [unmet, Schema.lacking, hshown]
    exact congrArg (List.map _) (List.filter_congr fun f hf => by rw [hdemanded f hf])
  · rw [unknown, Schema.strays, hshown]
    rfl

/-- Without a field in its place, what the model calls is its own. -/
theorem isAnswered_of_isMirrored (hs : s.IsMirrored) (given : List (String × Value)) :
    isAnswered s given = true :=
  isAnswered_of_forall fun f hf => (hs f (List.mem_of_mem_filter hf)).2.1

/-- Nothing that suits a field can be called. -/
theorem answersNone_of_takes {f : Field} {v : Value} (h : f.Takes v) : answersNone v = false := by
  rcases h with ⟨p, -, hhas⟩ | ⟨-, rfl⟩
  · cases hhas <;> rfl
  · rfl

/-- A schema is mirrored if the model takes all values that suit it and that the class takes. -/
theorem isMirrored_of_agree (hs : s.keys.Nodup)
    (htypes : ∀ f ∈ s.fields, ∃ p : Primitive, f.declared = p.type)
    (h : ∀ given, s.Suits given → s.strays given = [] → s.lacking given = [] →
      unmet s given = [] ∧ unknown s given = [] ∧ isAnswered s given = true) : s.IsMirrored := by
  intro f hf
  -- The enforced fields are given, and this one.
  obtain ⟨given, hgiven, hnames, hstrays, hlacking⟩ := Schema.exists_suits hs htypes
    (fun g => g.isEnforced || g.name == f.name) (fun g _ henforced => by simp [henforced])
  have hname : f.name ∈ given.map Prod.fst := by
    rw [hnames]
    exact List.mem_map_of_mem (List.mem_filter.2 ⟨hf, by simp⟩)
  obtain ⟨-, hunknown, hanswered⟩ := h given hgiven hstrays hlacking
  have hshown := mem_shownFields_of_given hs hunknown hf hname
  have hfield : hasField f = true := (List.mem_filter.1 hshown).2
  refine ⟨hfield, fun hhook => ?_, fun hfree hellipsis => ?_⟩
  · -- The value given for the field would be called.
    obtain ⟨v, hv⟩ := Option.isSome_iff_exists.1 (Schema.isSome_lookup_iff.2 hname)
    rw [isAnswered_eq hs hshown hhook, hv, Option.getD_some,
      answersNone_of_takes (hgiven.takes_of_lookup f hf v hv)] at hanswered
    cases hanswered
  -- Only the enforced fields are given.
  obtain ⟨given, hgiven, hnames, hstrays, hlacking⟩ := Schema.exists_suits hs htypes
    (·.isEnforced) (fun _ _ henforced => henforced)
  have hdemanded : isDemanded f = true := by
    rw [isDemanded, hellipsis, Bool.or_true]
  have hname := unmet_eq_nil_iff.1 (h given hgiven hstrays hlacking).1 f
    (List.mem_filter.2 ⟨hf, hfield⟩) hdemanded
  rw [hnames, Schema.mem_map_filter_of_nodup hs hf, hfree] at hname
  cases hname

/-! ## Records of filled models -/

theorem nodup_shownValues (hs : s.keys.Nodup) (given : List (String × Value)) :
    ((shownValues s given).map Prod.fst).Nodup := by
  rw [shownValues, List.map_map]
  exact hs.sublist (List.filter_sublist.map _)

theorem names_of_shownCopies {copies : List (String × Value)}
    (hcopies : List.Forall₂ CopyUnder (shownValues s given) copies) :
    copies.map Prod.fst = (shownFields s).map (·.name) := by
  rw [names_of_copies hcopies, shownValues, List.map_map]
  rfl

/-- A field holds a copy of what it holds: the one that the model made of it, or, if the model does
not have the field, its default both times. -/
theorem isCopy_filled (hs : s.keys.Nodup) (hunknown : unknown s given = [])
    {copies : List (String × Value)}
    (hcopies : List.Forall₂ CopyUnder (shownValues s given) copies) {f : Field}
    (hf : f ∈ s.fields) :
    Value.IsCopy ((Value.lookup f.name given).getD f.initial)
      ((Value.lookup f.name copies).getD f.initial) := by
  have hshown : ((shownFields s).map (·.name)).Nodup := hs.sublist (List.filter_sublist.map _)
  have hcopy := lookup_copies hcopies f.name
  by_cases hmem : f ∈ shownFields s
  · rw [shownValues, Schema.lookup_map_of_nodup hshown
      (fun f => (Value.lookup f.name given).getD f.initial) hmem] at hcopy
    cases hfound : Value.lookup f.name copies with
    | none =>
      rw [hfound] at hcopy
      cases hcopy
    | some w =>
      rw [hfound] at hcopy
      cases hcopy with
      | some hvalue => exact hvalue
  · -- A field that the model does not have is not given, and there is no copy under its name.
    have hnot : f.name ∉ given.map Prod.fst :=
      fun hname => hmem (mem_shownFields_of_given hs hunknown hf hname)
    have hnot' : f.name ∉ copies.map Prod.fst := by
      rw [names_of_shownCopies hcopies, shownFields, Schema.mem_map_filter_of_nodup hs hf]
      exact fun hshown => hmem (List.mem_filter.2 ⟨hf, hshown⟩)
    simp only [Schema.lookup_eq_none_iff.2 hnot, Schema.lookup_eq_none_iff.2 hnot',
      Option.getD_none]
    exact Value.IsCopy.refl _

/-- Where the class and the model take the values, the class takes copies of what the model keeps,
and fills in copies of what it fills in for the values themselves. -/
theorem filled_of_copies (hs : s.keys.Nodup) (hlacking : s.lacking given = [])
    (hunknown : unknown s given = []) {copies : List (String × Value)}
    (hcopies : List.Forall₂ CopyUnder (shownValues s given) copies) :
    s.strays copies = [] ∧ s.lacking copies = [] ∧
      List.Forall₂ CopyUnder (s.filled given) (s.filled copies) := by
  refine ⟨?_, ?_, ?_⟩
  · rw [Schema.strays_eq_nil_iff, names_of_shownCopies hcopies]
    intro n hn
    obtain ⟨f, hf, rfl⟩ := List.mem_map.1 hn
    exact List.mem_map_of_mem (List.mem_of_mem_filter hf)
  · rw [Schema.lacking_eq_nil_iff, names_of_shownCopies hcopies]
    intro f hf henforced
    have hname := Schema.lacking_eq_nil_iff.1 hlacking f hf henforced
    exact List.mem_map_of_mem (mem_shownFields_of_given hs hunknown hf hname)
  · exact List.forall₂_map_left_iff.2 (List.forall₂_map_right_iff.2
      (List.forall₂_same.2 fun f hf => ⟨rfl, isCopy_filled hs hunknown hcopies hf⟩))

end Model

/-! ## Calls of the class and of the model -/

namespace RecordType.IsClassOf

open RecordSchema.Session

variable {t : RecordType} {s : Schema} {given : List (String × Value)} {σ : Session}

/-- A record is made of copies of the values of a filled model that holds no data class, if the
class takes all copies of them. -/
theorem exists_runs_fromFilled (ht : t.IsClassOf s) (hσ : σ.types.get? t.identity.id = some t)
    {values : List (String × Value)} (hnames : (values.map Prod.fst).Nodup)
    (hdata : ∀ p ∈ values, p.2.holds Value.isDataClass = false)
    (htaken : ∀ copies, List.Forall₂ CopyUnder values copies →
      s.strays copies = [] ∧ s.lacking copies = []) (n id : Nat) (m : Model)
    (names : List String) :
    ∃ o copies σ', Runs (fromFilled (.recordType t.identity.id) (.filled n id m values names)) σ
        (.ok o) σ' ∧ List.Forall₂ CopyUnder values copies ∧ Lists o σ' (s.filled copies) := by
  obtain ⟨copies, σ₁, hcopied, htypes, hcopies⟩ :=
    exists_runs_copies (fun _ => .lists) values σ
  obtain ⟨hstrays, hlacking⟩ := htaken copies hcopies
  obtain ⟨o, σ₂, hmade, hlists⟩ := ht.exists_runs_make_of_eq_nil (htypes ▸ hσ)
    (names_of_copies hcopies ▸ hnames) hstrays hlacking
  have hout : Runs (filledValues (.filled n id m values names)) σ (.ok values) σ :=
    runs_ofRefusal (mapError_eq_ok_iff.2 (Value.dumpedFields_of_holds hdata)) σ
  exact ⟨o, copies, σ₂, Runs.bind hout (Runs.bind hcopied hmade), hcopies, hlists⟩

end RecordType.IsClassOf

/-- A model of a schema that refuses names that are no fields. -/
structure Model.IsModelOf (m : Model) (s : Schema) : Prop where
  distinct : s.keys.Nodup
  mirrors : List.Forall₂ Model.Mirrors (Model.shownFields s) m.fields
  extra_eq : m.extra = .text "forbid"

namespace Model.IsModelOf

open RecordSchema.Session

variable {m : Model} {s : Schema} {given : List (String × Value)}

/-- The model is filled with copies of the values that it keeps, or else the complaint is about
names, or what it calls then does not answer. -/
theorem runs_make (hm : m.IsModelOf s) (hgiven : s.Suits given) (id : Nat) (σ : Session) :
    ((unmet s given = [] ∧ unknown s given = []) ∧ isAnswered s given = true ∧
      ∃ n copies σ', Runs (make (.model id m) [] given) σ
          (.ok (.filled n id m copies (given.map Prod.fst))) σ' ∧ σ'.types = σ.types ∧
        List.Forall₂ CopyUnder (shownValues s given) copies) ∨
    (¬(unmet s given = [] ∧ unknown s given = []) ∧
      Runs (make (.model id m) [] given) σ
        (.error (.invalidModel (nameComplaints (unmet s given) (unknown s given)))) σ) ∨
    (isAnswered s given = false ∧
      Runs (make (.model id m) [] given) σ (.error (.refused .wrongKind)) σ) := by
  have hvalid := validate_of_suited hm.distinct hm.mirrors hm.extra_eq hgiven.distinct
    hgiven.takes_of_lookup
  by_cases hnone : unmet s given = [] ∧ unknown s given = []
  · rw [if_pos hnone] at hvalid
    cases hanswered : isAnswered s given with
    | true =>
      rw [if_pos hanswered] at hvalid
      exact .inl ⟨hnone, rfl, exists_runs_fillModel hgiven.distinct hvalid id σ⟩
    | false =>
      rw [if_neg (by simp [hanswered])] at hvalid
      exact .inr (.inr ⟨rfl, runs_fillModel_error hgiven.distinct hvalid id σ⟩)
  · rw [if_neg hnone] at hvalid
    exact .inr (.inl ⟨hnone, runs_fillModel_error hgiven.distinct hvalid id σ⟩)

theorem accepts_iff (hm : m.IsModelOf s) (hgiven : s.Suits given) (id : Nat) (σ : Session) :
    Accepts (.model id m) σ given ↔
      unmet s given = [] ∧ unknown s given = [] ∧ isAnswered s given = true := by
  rcases hm.runs_make hgiven id σ with
    ⟨hnone, hanswered, n, copies, σ', hruns, -⟩ | ⟨hsome, hruns⟩ | ⟨hanswered, hruns⟩
  · exact ⟨fun _ => ⟨hnone.1, hnone.2, hanswered⟩, fun _ => ⟨_, σ', hruns⟩⟩
  · refine ⟨fun ⟨x, σ', hx⟩ => ?_, fun hall => absurd ⟨hall.1, hall.2.1⟩ hsome⟩
    cases (hx.unique hruns).1
  · refine ⟨fun ⟨x, σ', hx⟩ => ?_, fun hall => ?_⟩
    · cases (hx.unique hruns).1
    · cases hanswered.symm.trans hall.2.2

/-- The model of a mirrored schema takes what the class takes, and otherwise complains about the
names that are wrong for the class. -/
theorem agrees (hm : m.IsModelOf s) {t : RecordType} (ht : t.IsClassOf s) {σ : Session}
    (hσ : σ.types.get? t.identity.id = some t) (hmirrored : s.IsMirrored) (hgiven : s.Suits given)
    (id : Nat) :
    (Accepts (.model id m) σ given ↔ Accepts (.recordType t.identity.id) σ given) ∧
      ∀ e σ', Runs (make (.model id m) [] given) σ (.error e) σ' →
        e = .invalidModel (nameComplaints (s.lacking given) (s.strays given)) := by
  obtain ⟨hunmet, hunknown⟩ := unmet_and_unknown_of_isMirrored hmirrored given
  constructor
  · rw [hm.accepts_iff hgiven, ht.accepts_iff hσ hgiven.distinct, hunmet, hunknown,
      isAnswered_of_isMirrored hmirrored, and_iff_left rfl, and_comm]
  · intro e σ' he
    rcases hm.runs_make hgiven id σ with
      ⟨-, -, n, copies, σ'', hruns, -⟩ | ⟨-, hruns⟩ | ⟨hanswered, -⟩
    · cases (he.unique hruns).1
    · rw [← hunmet, ← hunknown]
      exact Except.error.inj (he.unique hruns).1
    · cases hanswered.symm.trans (isAnswered_of_isMirrored hmirrored given)

/-- Unless a default is a data class, the record that is made of the filled model has copies of what
the one that the class makes has. -/
theorem exists_runs_fromFilled (hm : m.IsModelOf s) {t : RecordType} (ht : t.IsClassOf s)
    {σ σ' σ'' : Session} (hσ : σ.types.get? t.identity.id = some t) (hgiven : s.Suits given)
    (hdefaults : ∀ f ∈ s.fields, f.initial.IsGivenOut) {id : Nat} {x r : Object}
    (hx : Runs (make (.model id m) [] given) σ (.ok x) σ')
    (hr : Runs (make (.recordType t.identity.id) [] given) σ (.ok r) σ'') :
    ∃ o σ₂ copies, Runs (fromFilled (.recordType t.identity.id) x) σ' (.ok o) σ₂ ∧
      Lists r σ'' (s.filled given) ∧ Lists o σ₂ copies ∧
      List.Forall₂ CopyUnder (s.filled given) copies := by
  have hs := ht.regular.distinct
  obtain ⟨hstrays, hlacking⟩ := (ht.accepts_iff hσ hgiven.distinct).1 ⟨r, σ'', hr⟩
  obtain ⟨r', σr, hmade, hlists⟩ :=
    ht.exists_runs_make_of_eq_nil hσ hgiven.distinct hstrays hlacking
  obtain ⟨hr', rfl⟩ := hr.unique hmade
  obtain rfl := Except.ok.inj hr'
  rcases hm.runs_make hgiven id σ with
    ⟨⟨-, hunknown⟩, -, n, copies, σx, hfill, htypes, hcopies⟩ | ⟨-, hfill⟩ | ⟨-, hfill⟩
  · obtain ⟨hx', rfl⟩ := hx.unique hfill
    obtain rfl := Except.ok.inj hx'
    have hdata : ∀ q ∈ copies, q.2.holds Value.isDataClass = false := by
      intro q hq
      obtain ⟨p, hp, hpq⟩ := exists_left_of_mem hcopies hq
      obtain ⟨f, hf, rfl⟩ := List.mem_map.1 hp
      rw [hpq.2.holds_eq]
      exact (Schema.isGivenOut_filled hgiven hdefaults (List.mem_of_mem_filter hf)).holds_eq
    -- The values are copied once into the model and once more out of it.
    have htaken : ∀ {copies'}, List.Forall₂ CopyUnder copies copies' →
        s.strays copies' = [] ∧ s.lacking copies' = [] ∧
          List.Forall₂ CopyUnder (s.filled given) (s.filled copies') := fun hcopies' =>
      filled_of_copies hs hlacking hunknown (copies_trans hcopies hcopies')
    obtain ⟨o, copies', σ₂, hmade', hcopies', hlists'⟩ := ht.exists_runs_fromFilled
      (htypes ▸ hσ) (names_of_copies hcopies ▸ nodup_shownValues hs given) hdata
      (fun copies' hcopies' => ⟨(htaken hcopies').1, (htaken hcopies').2.1⟩) n id m
      (given.map Prod.fst)
    exact ⟨o, σ₂, _, hmade', hlists, hlists', (htaken hcopies').2.2⟩
  · cases (hx.unique hfill).1
  · cases (hx.unique hfill).1

end Model.IsModelOf

namespace Builder

open RecordSchema.Session

variable {name strict : Value} {policy : NamePolicy} {calls : List Call} {s : Schema}

/-- What is made of the schema of a block with primitive fields is its model. -/
theorem isModelOf_of_ofSchema
    (hbuild : ((Builder.new name strict policy).after calls).reply .build = .ok (.schema s))
    (htypes : ∀ f ∈ s.fields, ∃ p : Primitive, f.declared = p.type) {modelName : Value} {m : Model}
    (hmodel : Model.ofSchema s modelName (.text "forbid") = .ok m) : m.IsModelOf s := by
  obtain ⟨-, hs⟩ := isSound_of_build hbuild
  obtain ⟨hextra, -, hmirrors⟩ := Model.mirrors_of_ofSchema hs.distinct (fun f hf => by
    obtain ⟨p, hp⟩ := htypes f hf
    exact ⟨p, isPrimitive_of_build hbuild hf hp⟩) hmodel
  exact ⟨hs.distinct, hmirrors, hextra⟩

theorem primitive_classSchema (default : Value) :
    ∀ f ∈ (classSchema default).fields, ∃ p : Primitive, f.declared = p.type :=
  fun f hf => ⟨.int, by rw [List.mem_singleton.1 hf]⟩

theorem suits_nil (s : Schema) : s.Suits [] := ⟨List.nodup_nil, nofun⟩

end Builder

end RecordSchema
