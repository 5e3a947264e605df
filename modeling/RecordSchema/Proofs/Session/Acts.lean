import Mathlib.Data.List.Forall2
import RecordSchema.Session.Basic

/-!
# Acts in a session

What an act does to a session is told by `Session.Runs`: the result that it ends in, and the session
that it leaves behind. There is a lemma for each way of putting acts together.
-/

set_option autoImplicit false

namespace RecordSchema

/-! ## Acts one after another -/

namespace Session

variable {α β : Type}

/-- An act in a session ends in a result and leaves a session behind. -/
def Runs (act : Act α) (σ : Session) (r : Except Error α) (σ' : Session) : Prop :=
  act.run.run σ = (r, σ')

theorem runs_pure (a : α) (σ : Session) : Runs (pure a) σ (.ok a) σ := rfl

theorem runs_refuse (cause : Refusal) (σ : Session) :
    Runs (refuse cause : Act α) σ (.error (.refused cause)) σ := rfl

theorem runs_fresh (σ : Session) :
    Runs fresh σ (.ok (σ.last + 1)) { σ with last := σ.last + 1 } := rfl

theorem runs_get (σ : Session) : Runs get σ (.ok σ) σ := rfl

theorem runs_modify (f : Session → Session) (σ : Session) : Runs (modify f) σ (.ok ()) (f σ) := rfl

theorem Runs.bind {act : Act α} {next : α → Act β} {σ σ' σ'' : Session} {a : α}
    {r : Except Error β} (h : Runs act σ (.ok a) σ') (hnext : Runs (next a) σ' r σ'') :
    Runs (act >>= next) σ r σ'' := by
  unfold Runs at *
  rw [ExceptT.run_bind, StateT.run_bind, h]
  exact hnext

/-- What comes after an act that fails is not done. -/
theorem Runs.bind_error {act : Act α} {σ σ' : Session} {e : Error} (h : Runs act σ (.error e) σ')
    (next : α → Act β) : Runs (act >>= next) σ (.error e) σ' := by
  unfold Runs at *
  rw [ExceptT.run_bind, StateT.run_bind, h]
  rfl

/-- What two acts one after the other end in comes from the second, unless the first fails. -/
theorem runs_bind_cases {act : Act α} {next : α → Act β} {σ σ'' : Session} {r : Except Error β}
    (h : Runs (act >>= next) σ r σ'') :
    (∃ a σ', Runs act σ (.ok a) σ' ∧ Runs (next a) σ' r σ'') ∨
      ∃ e, r = .error e ∧ Runs act σ (.error e) σ'' := by
  unfold Runs at *
  rw [ExceptT.run_bind, StateT.run_bind] at h
  rcases hact : act.run.run σ with ⟨result, σ'⟩
  rw [hact] at h
  cases result with
  | ok a => exact .inl ⟨a, σ', rfl, h⟩
  | error e =>
    obtain ⟨rfl, rfl⟩ := Prod.mk.inj h
    exact .inr ⟨e, rfl, rfl⟩

/-- An act has one outcome. -/
theorem Runs.unique {act : Act α} {σ σ₁ σ₂ : Session} {r₁ r₂ : Except Error α}
    (h₁ : Runs act σ r₁ σ₁) (h₂ : Runs act σ r₂ σ₂) : r₁ = r₂ ∧ σ₁ = σ₂ :=
  Prod.mk.inj (h₁.symm.trans h₂)

theorem runs_ofExcept {r r' : Except Error α} (h : r = r') (σ : Session) :
    Runs (ofExcept r) σ r' σ := by
  subst h
  unfold ofExcept perform
  -- Nothing is said on the way.
  have hlog : ({ σ with log := σ.log ++ (Report.ofExcept r).log } : Session) = σ := by
    simp [Report.ofExcept]
  refine Runs.bind (runs_modify _ σ) ?_
  rw [hlog]
  cases r <;> rfl

theorem runs_ofRefusal {r : Except Refusal α} {r' : Except Error α}
    (h : r.mapError Error.refused = r') (σ : Session) : Runs (ofRefusal r) σ r' σ :=
  runs_ofExcept h σ

/-- Acts that leave the session as it is give their results one by one. -/
theorem runs_mapM {act : α → Act β} {result : α → β} {σ : Session} {as : List α}
    (h : ∀ a ∈ as, Runs (act a) σ (.ok (result a)) σ) :
    Runs (as.mapM act) σ (.ok (as.map result)) σ := by
  induction as with
  | nil => exact runs_pure _ σ
  | cons a as ih =>
    rw [List.mapM_cons]
    refine Runs.bind (h a (List.mem_cons_self ..)) ?_
    refine Runs.bind (ih fun b hb => h b (List.mem_cons_of_mem _ hb)) ?_
    exact runs_pure _ σ

/-- Acts that always give a result of some kind and keep the classes give such results one
by one. -/
theorem exists_runs_mapM {act : α → Act β} {R : α → β → Prop}
    (h : ∀ a σ, ∃ b σ', Runs (act a) σ (.ok b) σ' ∧ σ'.types = σ.types ∧ R a b) (as : List α)
    (σ : Session) :
    ∃ bs σ', Runs (as.mapM act) σ (.ok bs) σ' ∧ σ'.types = σ.types ∧ List.Forall₂ R as bs := by
  induction as generalizing σ with
  | nil => exact ⟨[], σ, runs_pure _ σ, rfl, .nil⟩
  | cons a as ih =>
    obtain ⟨b, σ₁, hfirst, htypes₁, hb⟩ := h a σ
    obtain ⟨bs, σ₂, hrest, htypes₂, hbs⟩ := ih σ₁
    refine ⟨b :: bs, σ₂, ?_, htypes₂.trans htypes₁, .cons hb hbs⟩
    rw [List.mapM_cons]
    exact Runs.bind hfirst (Runs.bind hrest (runs_pure _ σ₂))

/-! ## Tables -/

theorem get?_set {α : Type} (table : Table α) (id : Nat) (a : α) :
    (table.set id a).get? id = some a := by
  unfold Table.set Table.get?
  by_cases hany : table.any (·.1 == id) = true
  · rw [if_pos hany]
    induction table with
    | nil => cases hany
    | cons e table ih =>
      by_cases he : e.1 = id
      · simp [he]
      · have hany' : table.any (·.1 == id) = true := by simpa [he] using hany
        simpa [he] using ih hany'
  · rw [if_neg hany]
    have hnone : table.find? (·.1 == id) = none := by
      rw [List.find?_eq_none]
      exact fun e he heq => hany (List.any_eq_true.2 ⟨e, he, heq⟩)
    simp [List.find?_append, hnone]

theorem runs_typeOf {σ : Session} {id : Nat} {t : RecordType} (h : σ.types.get? id = some t) :
    Runs (typeOf id) σ (.ok t) σ := by
  refine Runs.bind (runs_get σ) ?_
  rw [h]
  exact runs_pure t σ

end Session

end RecordSchema
