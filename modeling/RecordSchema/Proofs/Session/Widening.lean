import RecordSchema.Proofs.Session.Annotation
import RecordSchema.Proofs.TypeTerm.Widened

/-!
# Widening in a session

Widening fails for the classes and constructs that no union takes, in a session as well as by
itself, and for nothing else (`TypeTerm.widening_refused_iff`). The other tokens that no union takes
are paired with `None`.

By itself, what is widened stays as it is when it is widened again. A session however gives for a
union with `None` the one that it made before from parts that are alike (`Session.recalled`), and
that one may have its members in another order. So a session widens a second time to the same
exactly if it kept nothing else (`Session.widened_again`). Widening adds to what is kept nothing but
its own result (`Session.Adds`), so if nothing was kept when the annotation was first widened, the
second time makes no difference.
-/

set_option autoImplicit false

namespace RecordSchema

open RecordSchema.TypeTerm

namespace Session

variable {t w : Value} {σ : Session} {form : Form} {parts : List Value} {make : Act Value}

/-! ## Which annotations are widened -/

/-- A construct is given if it can be made, whatever was kept. -/
theorem exists_runs_construct (hmake : ∃ w σ', Runs make σ (.ok w) σ') :
    ∃ w σ', Runs (construct form parts make) σ (.ok w) σ' := by
  unfold construct
  split
  · exact hmake
  · cases hbefore : madeBefore? σ.constructions form parts with
    | some known =>
      refine ⟨known, σ, .bind (runs_get σ) ?_⟩
      rw [hbefore]
      exact runs_pure known σ
    | none =>
      obtain ⟨w, σ', hw⟩ := hmake
      refine ⟨w, { σ' with constructions := σ'.constructions ++ [⟨form, parts, w⟩] },
        .bind (runs_get σ) ?_⟩
      rw [hbefore]
      exact .bind hw (.bind (runs_modify _ σ') (runs_pure w _))

/-- An annotation that can be made optional by itself is made optional in a session, whatever was
kept for it or for the union inside. -/
theorem exists_runs_optional (h : TypeTerm.optional t = .ok w) (σ : Session) :
    ∃ w' σ', Runs (Session.optional t) σ (.ok w') σ' := by
  obtain ⟨m, hm, hmade⟩ := bind_eq_ok_iff.1 h
  have hunion := unionOf_noneClass hm hmade
  obtain ⟨u, σ₁, hu⟩ : ∃ u σ₁, Runs (union [m, .noneClass]) σ (.ok u) σ₁ :=
    exists_runs_construct ⟨w, σ, runs_ofRefusal (mapError_eq_ok_iff.2 hunion) σ⟩
  exact exists_runs_construct ⟨u, σ₁, .bind (runs_ofRefusal (mapError_eq_ok_iff.2 hm) σ) hu⟩

/-- A session widens what can be widened by itself. -/
theorem exists_runs_widen (h : TypeTerm.widen t = .ok w) (σ : Session) :
    ∃ w' σ', Runs (Session.widen t) σ (.ok w') σ' := by
  by_cases htakes : widensByUnion t = true
  · obtain ⟨w', σ', hw'⟩ := exists_runs_optional (widen_of_takes htakes ▸ h) σ
    exact ⟨w', σ', (runs_widen_iff h).2 (by rwa [if_pos htakes])⟩
  · exact ⟨w, σ, (runs_widen_iff h).2 (by rw [if_neg htakes]; exact ⟨rfl, rfl⟩)⟩

/-- What cannot be widened is refused before the session looks for what it kept. -/
theorem runs_widen_of_error {cause : Refusal} (h : TypeTerm.widen t = .error cause) (σ : Session) :
    Runs (Session.widen t) σ (.error (.refused cause)) σ :=
  .bind_error (runs_ofRefusal (mapError_eq_error_iff.2 ⟨cause, h, rfl⟩) σ) _

end Session

namespace Session

variable {t w : Value} {σ σ' : Session} {form : Form} {parts : List Value} {act make : Act Value}

/-! ## What a session kept -/

/-- The union that a session kept for an annotation and `None`. -/
def recalled (σ : Session) (w : Value) : Option Value :=
  (madeBefore? σ.constructions .optional [w]).or
    (madeBefore? σ.constructions .union [w, .noneClass])

/-- An act that adds constructs to those that were kept, all of them with the result that
it gives. -/
def Adds (act : Act Value) : Prop :=
  ∀ σ w σ', Runs act σ (.ok w) σ' →
    ∃ new, σ'.constructions = σ.constructions ++ new ∧ ∀ c ∈ new, c.result = w

theorem adds_ofRefusal (r : Except Refusal Value) : Adds (ofRefusal r) := by
  intro σ w σ' h
  obtain ⟨-, rfl⟩ := h.unique (runs_ofRefusal rfl σ)
  exact ⟨[], (List.append_nil _).symm, nofun⟩

theorem Adds.construct (hmake : Adds make) : Adds (Session.construct form parts make) := by
  unfold Session.construct
  split
  · exact hmake
  · intro σ w σ' h
    obtain ⟨_, _, hget, hrest⟩ | ⟨e, herror, -⟩ := runs_bind_cases h
    · obtain ⟨hsession, rfl⟩ := hget.unique (runs_get σ)
      obtain rfl := Except.ok.inj hsession
      split at hrest
      · obtain ⟨-, rfl⟩ := hrest.unique (runs_pure _ _)
        exact ⟨[], (List.append_nil _).symm, nofun⟩
      · obtain ⟨made, σ₁, hmade, hkeep⟩ | ⟨e, herror, -⟩ := runs_bind_cases hrest
        · obtain ⟨new, hnew, hresults⟩ := hmake _ _ _ hmade
          obtain ⟨hw, rfl⟩ := hkeep.unique (.bind (runs_modify _ σ₁) (runs_pure made _))
          cases hw
          -- The construct itself comes after those that were made for it.
          refine ⟨new ++ [⟨form, parts, w⟩], ?_, fun c hc => ?_⟩
          · exact (congrArg (· ++ _) hnew).trans (List.append_assoc ..)
          · rcases List.mem_append.1 hc with hc | hc
            · exact hresults c hc
            · rw [List.mem_singleton.1 hc]
        · cases herror
    · cases herror

/-- What is computed first, without the session, adds nothing. -/
theorem adds_ofRefusal_bind {α : Type} {r : Except Refusal α} {next : α → Act Value}
    (hnext : ∀ a, Adds (next a)) : Adds (ofRefusal r >>= next) := by
  intro σ w σ' h
  obtain ⟨a, σ₁, hr, hrest⟩ | ⟨e, herror, -⟩ := runs_bind_cases h
  · obtain ⟨-, rfl⟩ := hr.unique (runs_ofRefusal rfl σ)
    exact hnext a _ w σ' hrest
  · cases herror

theorem adds_pure (v : Value) : Adds (pure v) := by
  intro σ w σ' h
  obtain ⟨-, rfl⟩ := h.unique (runs_pure v σ)
  exact ⟨[], (List.append_nil _).symm, nofun⟩

theorem adds_optional (t : Value) : Adds (Session.optional t) :=
  .construct (adds_ofRefusal_bind fun _ => (adds_ofRefusal _).construct)

theorem adds_widen (t : Value) : Adds (Session.widen t) := by
  refine adds_ofRefusal_bind fun w => ?_
  split
  · exact adds_optional t
  · exact adds_pure w

/-- Among more constructs the ones that were kept first come first. -/
theorem madeBefore?_append (made new : List Construction) (form : Form) (parts : List Value) :
    madeBefore? (made ++ new) form parts =
      (madeBefore? made form parts).or (madeBefore? new form parts) := by
  unfold madeBefore?
  rw [List.find?_append, Option.map_or]

theorem eq_of_madeBefore? {new : List Construction} (hnew : ∀ c ∈ new, c.result = w) {known : Value}
    (h : madeBefore? new form parts = some known) : known = w := by
  obtain ⟨c, hc, rfl⟩ := Option.map_eq_some_iff.1 h
  exact hnew c (List.mem_of_find?_eq_some hc)

/-- Where nothing was kept, nothing is kept after widening but what was given. -/
theorem eq_of_recalled (hnone : σ.recalled w = none) (h : Runs (Session.widen t) σ (.ok w) σ')
    {known : Value} (hknown : σ'.recalled w = some known) : known = w := by
  obtain ⟨new, hnew, hresults⟩ := adds_widen t σ w σ' h
  obtain ⟨hoptional, hunion⟩ := Option.or_eq_none_iff.1 hnone
  rw [recalled, hnew, madeBefore?_append, madeBefore?_append, hoptional, hunion, Option.none_or,
    Option.none_or] at hknown
  rcases Option.or_eq_some_iff.1 hknown with hknown | ⟨-, hknown⟩
  · exact eq_of_madeBefore? hresults hknown
  · exact eq_of_madeBefore? hresults hknown

/-! ## Widening again -/

/-- What a session widens an annotation to that is widened already: the union that it kept, or else
the annotation itself. -/
def again (σ : Session) (w : Value) : Value :=
  if widensByUnion w then (σ.recalled w).getD w else w

theorem runs_construct_of_known {known : Value} (hparts : Value.allHashable parts = true)
    (hknown : madeBefore? σ.constructions form parts = some known) (make : Act Value) :
    Runs (construct form parts make) σ (.ok known) σ := by
  unfold construct
  rw [hparts]
  refine .bind (runs_get σ) ?_
  rw [hknown]
  exact runs_pure known σ

/-- The union that was kept is given, whether it was kept as an optional type or as a union. -/
theorem runs_optional_of_recalled (hkeys : w.hashable = true) (hmember : member w = .ok w)
    {known : Value} (hknown : σ.recalled w = some known) :
    ∃ σ', Runs (Session.optional w) σ (.ok known) σ' := by
  rcases Option.or_eq_some_iff.1 hknown with hoptional | ⟨hnone, hunion⟩
  · refine ⟨σ, runs_construct_of_known ?_ hoptional _⟩
    rw [Value.allHashable, Value.allHashable, hkeys]
    rfl
  · have hfirst : Runs (ofRefusal (member w)) σ (.ok w) σ :=
      runs_ofRefusal (mapError_eq_ok_iff.2 hmember) σ
    refine runs_construct_of_new hnone (.bind hfirst (runs_construct_of_known ?_ hunion _))
    rw [allHashable_noneClass, hkeys]

theorem lacks_of_recalled (hmember : member w = .ok w) (hnone : σ.recalled w = none) :
    σ.Lacks w := by
  obtain ⟨hoptional, hunion⟩ := Option.or_eq_none_iff.1 hnone
  refine ⟨hoptional, fun m hm => ?_⟩
  obtain rfl := Except.ok.inj (hmember.symm.trans hm)
  exact hunion

theorem runs_widen_of_isWidened (hw : Proper w) (h : IsWidened w) (σ : Session) :
    ∃ σ', Runs (Session.widen w) σ (.ok (σ.again w)) σ' := by
  have hwiden : TypeTerm.widen w = .ok w := widen_of_isWidened hw h
  unfold again
  -- Only a widening by a union asks for what the session kept.
  by_cases htakes : widensByUnion w = true
  · have hmember := h.member_eq htakes
    rw [if_pos htakes]
    cases hrecalled : σ.recalled w with
    | none => exact runs_widen_of_lacks hwiden (lacks_of_recalled hmember hrecalled)
    | some known =>
      have hkeys := hashable_of_takes htakes (not_resists_of_widen hwiden)
      obtain ⟨σ', hσ'⟩ := runs_optional_of_recalled hkeys hmember hrecalled
      exact ⟨σ', (runs_widen_iff hwiden).2 (by rwa [if_pos htakes])⟩
  · refine ⟨σ, (runs_widen_iff hwiden).2 ?_⟩
    rw [if_neg htakes, if_neg htakes]
    exact ⟨rfl, rfl⟩

/-- A session gives the annotation again exactly if it kept no other union for it. -/
theorem again_eq_self_iff :
    σ.again w = w ↔
      ∀ known, widensByUnion w = true → σ.recalled w = some known → known = w := by
  unfold again
  split
  · next htakes =>
    cases hrecalled : σ.recalled w with
    | none => exact iff_of_true rfl nofun
    | some known =>
      rw [Option.getD_some]
      exact ⟨fun h v _ hv => Option.some.inj hv ▸ h, fun h => h known htakes rfl⟩
  · next hnot => exact iff_of_true rfl fun _ htakes => absurd htakes hnot

/-- A session widens to what is widened already. -/
theorem keeps_widen_isWidened (ht : Proper t) :
    Keeps (fun w => Proper w ∧ IsWidened w) (Session.widen t) := by
  unfold Session.widen
  refine .bind (keeps_ofRefusal (TypeTerm.widen t)) fun w hw => ?_
  split
  · refine (keeps_optional ht).mono ?_
    rintro w ⟨u, -, -, hoptional⟩
    refine ⟨hoptional.proper, ?_⟩
    obtain ⟨m, m', -, hm', -, hmade⟩ := hoptional
    exact isWidened_of_unionOfMembers hm' hmade
  · exact keeps_pure ⟨proper_of_widen ht hw, isWidened_of_widen ht hw⟩

end Session

/-- What an annotation is widened to is widened to itself. In a session this holds exactly if the
session has not kept another union for it, and so it holds if nothing was kept when the annotation
was widened for the first time. -/
theorem Session.widened_again {t : Value} (ht : Proper t) :
    (∀ w, TypeTerm.widen t = .ok w → TypeTerm.widen w = .ok w) ∧
      ∀ w σ σ', σ.IsMade → Runs (Session.widen t) σ (.ok w) σ' →
        TypeTerm.widen w = .ok w ∧
          (∀ τ : Session, ∃ w' τ', Runs (Session.widen w) τ (.ok w') τ' ∧ (w' = w ↔
            ∀ known, widensByUnion w = true → τ.recalled w = some known → known = w)) ∧
          (σ.recalled w = none → ∃ σ'', Runs (Session.widen w) σ' (.ok w) σ'') := by
  refine ⟨fun w hw => widen_of_widen ht (proper_of_widen ht hw) hw, fun w σ σ' hσ h => ?_⟩
  obtain ⟨hproper, hwidened⟩ := (keeps_widen_isWidened ht σ _ σ' hσ h).2 w rfl
  refine ⟨widen_of_isWidened hproper hwidened, fun τ => ?_, fun hnone => ?_⟩
  · obtain ⟨τ', hτ'⟩ := runs_widen_of_isWidened hproper hwidened τ
    exact ⟨_, τ', hτ', again_eq_self_iff⟩
  · obtain ⟨σ'', hσ''⟩ := runs_widen_of_isWidened hproper hwidened σ'
    rw [again_eq_self_iff.2 fun known _ hknown => eq_of_recalled hnone h hknown] at hσ''
    exact ⟨σ'', hσ''⟩

/-- Two unions of the classes of integers and texts, written with bars, one of them with `None`. -/
def intOrText : Value := .pipe [.builtinClass "int", .builtinClass "str"]

def textOrIntOrNone : Value := .pipe [.builtinClass "str", .builtinClass "int", .noneClass]

/-- In a new session a union is widened to the same a second time. -/
theorem Session.widened_again_intOrText :
    Proper intOrText ∧ IsMade {} ∧ ∃ w σ σ', Runs (Session.widen intOrText) {} (.ok w) σ ∧
      TypeTerm.widen w = .ok w ∧ Runs (Session.widen w) σ (.ok w) σ' := by
  have ht : Proper intOrText := proper_pipe_of_classes (by decide)
  obtain ⟨w, σ, hfirst⟩ : ∃ w σ, Runs (Session.widen intOrText) {} (.ok w) σ := ⟨_, _, rfl⟩
  obtain ⟨hself, -, hagain⟩ := (widened_again ht).2 w {} σ isMade_new hfirst
  obtain ⟨σ', hσ'⟩ := hagain rfl
  exact ⟨ht, isMade_new, w, σ, σ', hfirst, hself, hσ'⟩

/-- After a union with `None` was widened, another one with the same members in another order is
widened to the first when it is widened again. -/
theorem Session.widened_again_in_other_order :
    ∃ u σ₁ w σ₂ w' σ₃, Runs (Session.widen textOrIntOrNone) {} (.ok u) σ₁ ∧
      Runs (Session.widen intOrText) σ₁ (.ok w) σ₂ ∧ Runs (Session.widen w) σ₂ (.ok w') σ₃ ∧
        w.shown = "typing.Union[int, str, NoneType]" ∧ render w = "int | str | None" ∧
          w'.shown = "typing.Union[str, int, NoneType]" ∧ render w' = "str | int | None" :=
  ⟨_, _, _, _, _, _, rfl, rfl, rfl, rfl, rfl, rfl, rfl⟩

end RecordSchema
