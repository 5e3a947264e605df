import RecordSchema.Proofs.Record.Making
import RecordSchema.Proofs.TypeTerm.Column
import RecordSchema.Proofs.TypeTerm.Rendering
import RecordSchema.Session.Annotation

/-!
# Annotations and what a session kept

A session gives a construct once more if it made one from parts that are alike. What it gives then
was made from other parts, and parts that are alike may differ: the members of a union in their
order, for one. `Construction.IsMade` says what can still be relied on, and `Session.Keeps` is for
acts that rely on it and leave it so. All the ways of making annotations do (`keeps_union`,
`keeps_optional`, `keeps_pipe` and the others), and of proper annotations they make proper ones. So
whatever a session makes is proper (`proper_of_make`).

The column is among the things that annotations which are alike agree in, so a type is widened to
one with the same column whatever was made before (`column_widen`).
-/

set_option autoImplicit false

namespace RecordSchema

open RecordSchema.TypeTerm

/-! ## Constructs of parts that are alike -/

namespace TypeTerm

open RecordSchema.Value

/-- A value, or one that is alike to it. -/
def Stands (u v : Value) : Prop := u = v ∨ alike u v = true

/-- The union of some parts, or of others that stand for them. -/
def IsUnion (parts : List Value) (w : Value) : Prop :=
  ∃ parts', List.Forall₂ Stands parts' parts ∧ (∀ p ∈ parts', Proper p) ∧
    unionOf parts' = .ok w

/-- The union with `None` of what a value is inside a construct, or of another in its place. -/
def IsOptional (v w : Value) : Prop :=
  ∃ m m', member v = .ok m ∧ Proper m' ∧ Stands m' m ∧ unionOfMembers [m', noneClass] = .ok w

/-- A construct that was kept is made from proper annotations: a union is that of its parts, and an
optional type is one of its part. -/
inductive Construction.IsMade : Construction → Prop where
  | union {parts : List Value} {w : Value} (proper : ∀ p ∈ parts, Proper p)
      (made : unionOf parts = .ok w) : IsMade ⟨.union, parts, w⟩
  | optional {v w : Value} (proper : Proper v) (made : IsOptional v w) :
      IsMade ⟨.optional, [v], w⟩
  | other {c : Construction} (noUnion : c.form ≠ .union) (noOptional : c.form ≠ .optional)
      (proper : Proper c.result) : IsMade c

section Standing

variable {u v m w : Value} {xs ys parts : List Value}

theorem forall₂_stands_self (xs : List Value) : List.Forall₂ Stands xs xs :=
  List.forall₂_same.2 fun _ _ => .inl rfl

theorem forall₂_stands_of_alikeAll (h : alikeAll xs ys = true) : List.Forall₂ Stands xs ys := by
  induction xs generalizing ys with
  | nil =>
    cases ys with
    | nil => exact .nil
    | cons => cases h
  | cons x xs ih =>
    cases ys with
    | nil => cases h
    | cons y ys =>
      obtain ⟨hxy, hrest⟩ := Bool.and_eq_true_iff.1 h
      exact .cons (.inr hxy) (ih hrest)

theorem Construction.parts_of_isFrom {c : Construction} {form : Form}
    (h : c.isFrom form parts = true) (hform : form ≠ .literal) :
    c.form = form ∧ List.Forall₂ Stands c.parts parts := by
  unfold Construction.isFrom at h
  rw [Bool.and_eq_true_iff, if_neg (by simpa using hform)] at h
  exact ⟨eq_of_beq h.1, forall₂_stands_of_alikeAll h.2⟩

theorem Stands.eq_noneClass (h : Stands u noneClass) : u = noneClass :=
  h.elim id alike_noneClass_right.1

theorem Stands.eq_text {s : String} (h : Stands (.text s) v) : v = .text s :=
  h.elim Eq.symm alike_text_left.1

theorem Stands.eq_none (h : Stands .none v) : v = .none :=
  h.elim Eq.symm alike_none_left.1

theorem Stands.column (hu : Proper u) (hv : Proper v) (h : Stands u v) :
    column u = column v :=
  h.elim (congrArg TypeTerm.column) (column_of_alike hu hv)

/-- What stands for a member is a member as it is. -/
theorem Stands.eq_of_member (hm : TypeTerm.member v = .ok m) (h : Stands u m)
    (hw : TypeTerm.member u = .ok w) : w = u := by
  obtain ⟨hnoText, hne⟩ := ne_of_member hm
  refine TypeTerm.eq_of_member (fun s hs => ?_) (fun hnone => ?_) hw
  · subst hs
    exact hnoText s h.eq_text
  · subst hnone
    exact hne h.eq_none

/-- A union of something with `None` is an optional type of it. -/
theorem isOptional_of_isUnion (hm : TypeTerm.member v = .ok m) (h : IsUnion [m, noneClass] w) :
    IsOptional v w := by
  obtain ⟨parts, hparts, hproper, hw⟩ := h
  -- The parts that were kept are two, and the second is the class of `None` itself.
  obtain ⟨p, rest, hp, hrest, rfl⟩ := List.forall₂_cons_right_iff.1 hparts
  obtain ⟨q, none, hq, hnone, rfl⟩ := List.forall₂_cons_right_iff.1 hrest
  obtain rfl := List.forall₂_nil_right_iff.1 hnone
  obtain rfl := hq.eq_noneClass
  obtain ⟨-, ms, hms, hmade⟩ := unionOf_eq_ok_iff.1 hw
  obtain ⟨p', rest', hp', hrest', rfl⟩ := List.forall₂_cons_left_iff.1 hms
  obtain ⟨q', none', hq', hnone', rfl⟩ := List.forall₂_cons_left_iff.1 hrest'
  obtain rfl := List.forall₂_nil_left_iff.1 hnone'
  obtain rfl := TypeTerm.eq_of_member (v := noneClass) nofun nofun hq'
  obtain rfl := hp.eq_of_member hm hp'
  exact ⟨m, p', hm, hproper p' (List.mem_cons_self ..), hp, hmade⟩

theorem IsOptional.proper (h : IsOptional v w) : Proper w := by
  obtain ⟨m, m', -, hm', -, hw⟩ := h
  refine (isUnionOf_of_unionOfMembers hw).proper (List.cons_ne_nil _ _) ?_
  simp [hm', proper_noneClass]

/-- An optional type has the column of what it is made of. -/
theorem IsOptional.column (hv : Proper v) (hnoText : ∀ s, v ≠ .text s) (h : IsOptional v w) :
    column w = column v := by
  obtain ⟨m, m', hm, hm', hstands, hw⟩ := h
  calc TypeTerm.column w
      = TypeTerm.column m' := column_of_unionOfMembers hm' hw
    _ = TypeTerm.column m := hstands.column hm' (proper_of_member hv hm)
    _ = TypeTerm.column v := column_of_member hnoText hm

end Standing

end TypeTerm

namespace Session

variable {α β : Type}

/-- Every construct that was kept is made as such. -/
def IsMade (σ : Session) : Prop := ∀ c ∈ σ.constructions, c.IsMade

theorem isMade_new : IsMade {} := nofun

/-! ## Acts that rely on what was kept -/

/-- An act that leaves what was kept in order, and gives what has a property. -/
def Keeps (P : α → Prop) (act : Act α) : Prop :=
  ∀ σ r σ', σ.IsMade → Runs act σ r σ' → σ'.IsMade ∧ ∀ a, r = .ok a → P a

section Keeping

variable {P Q : α → Prop} {act make : Act α}

theorem Keeps.mono (h : Keeps P act) (hPQ : ∀ a, P a → Q a) : Keeps Q act :=
  fun σ r σ' hσ hruns => (h σ r σ' hσ hruns).imp_right fun hP a ha => hPQ a (hP a ha)

theorem Keeps.bind {R : β → Prop} {next : α → Act β} (hact : Keeps P act)
    (hnext : ∀ a, P a → Keeps R (next a)) : Keeps R (act >>= next) := by
  intro σ r σ'' hσ hruns
  rcases runs_bind_cases hruns with ⟨a, σ', hfirst, hrest⟩ | ⟨e, rfl, hfirst⟩
  · obtain ⟨hσ', hP⟩ := hact σ _ σ' hσ hfirst
    exact hnext a (hP a rfl) σ' r σ'' hσ' hrest
  · exact ⟨(hact σ _ σ'' hσ hfirst).1, nofun⟩

theorem keeps_pure {a : α} (h : P a) : Keeps P (pure a : Act α) := by
  intro σ r σ' hσ hruns
  obtain ⟨rfl, rfl⟩ := hruns.unique (runs_pure a σ)
  exact ⟨hσ, fun b hb => Except.ok.inj hb ▸ h⟩

theorem keeps_refuse (cause : Refusal) : Keeps P (refuse cause) := by
  intro σ result σ' hσ hruns
  obtain ⟨rfl, rfl⟩ := hruns.unique (runs_refuse cause σ)
  exact ⟨hσ, nofun⟩

theorem keeps_ofRefusal (r : Except Refusal α) : Keeps (fun a => r = .ok a) (ofRefusal r) := by
  intro σ result σ' hσ hruns
  obtain ⟨rfl, rfl⟩ := hruns.unique (runs_ofRefusal rfl σ)
  exact ⟨hσ, fun a ha => mapError_eq_ok_iff.1 ha⟩

theorem keeps_get : Keeps IsMade (get : Act Session) := by
  intro σ result σ' hσ hruns
  obtain ⟨rfl, rfl⟩ := hruns.unique (runs_get σ)
  exact ⟨hσ, fun a ha => Except.ok.inj ha ▸ hσ⟩

theorem keeps_modify {f : Session → Session} (h : ∀ σ, σ.IsMade → (f σ).IsMade) :
    Keeps (fun _ => True) (modify f : Act Unit) := by
  intro σ result σ' hσ hruns
  obtain ⟨rfl, rfl⟩ := hruns.unique (runs_modify f σ)
  exact ⟨h σ hσ, fun _ _ => trivial⟩

theorem keeps_foldlM {f : α → β → Act α} {bs : List β} (hf : ∀ a, P a → ∀ b ∈ bs, Keeps P (f a b))
    {a : α} (ha : P a) : Keeps P (bs.foldlM f a) := by
  induction bs generalizing a with
  | nil => exact keeps_pure ha
  | cons b bs ih =>
    rw [List.foldlM_cons]
    exact .bind (hf a ha b (List.mem_cons_self ..)) fun a' ha' =>
      ih (fun a ha b hb => hf a ha b (List.mem_cons_of_mem _ hb)) ha'

end Keeping

/-- What is made now is kept, and what was kept from parts that are alike is given. -/
theorem Keeps.construct {P Q : Value → Prop} {form : Form} {parts : List Value} {make : Act Value}
    (hmake : Keeps Q make) (hQP : ∀ w, Q w → P w)
    (hnew : ∀ w, Q w → Construction.IsMade ⟨form, parts, w⟩)
    (hknown : ∀ c : Construction, c.IsMade → c.isFrom form parts = true → P c.result) :
    Keeps P (Session.construct form parts make) := by
  unfold Session.construct
  split
  · -- What cannot be hashed is not kept.
    exact hmake.mono hQP
  · refine .bind keeps_get fun σ hσ => ?_
    split
    · next known hbefore =>
      obtain ⟨c, hc, rfl⟩ := Option.map_eq_some_iff.1 hbefore
      have hfrom := List.find?_some hc
      exact keeps_pure (hknown c (hσ c (List.mem_of_find?_eq_some hc)) hfrom)
    · refine .bind hmake fun w hw => .bind (keeps_modify fun σ hσ c hc => ?_) fun _ _ =>
        keeps_pure (hQP w hw)
      rcases List.mem_append.1 hc with hc | hc
      · exact hσ c hc
      · rw [List.mem_singleton.1 hc]
        exact hnew w hw

/-! ## Ways of making annotations -/

section Making

variable {parts args : List Value} {v note : Value}

theorem keeps_union (hparts : ∀ p ∈ parts, Proper p) :
    Keeps (fun w => Proper w ∧ IsUnion parts w) (Session.union parts) := by
  refine .construct (keeps_ofRefusal (unionOf parts)) (fun w hw => ?_)
    (fun w hw => .union hparts hw) fun c hc hfrom => ?_
  · exact ⟨proper_of_unionOf hw hparts, parts, forall₂_stands_self parts, hparts, hw⟩
  · -- The union that was kept has parts of its own, which stand for these.
    obtain ⟨hform, hstands⟩ := Construction.parts_of_isFrom hfrom nofun
    cases hc with
    | union proper made => exact ⟨proper_of_unionOf made proper, _, hstands, proper, made⟩
    | optional => cases hform
    | other noUnion => exact absurd hform noUnion

theorem keeps_optional (hv : Proper v) :
    Keeps (fun w => ∃ u, Proper u ∧ Stands u v ∧ IsOptional u w) (Session.optional v) := by
  refine .construct (Q := IsOptional v) ?_ (fun w hw => ⟨v, hv, .inl rfl, hw⟩)
    (fun w hw => .optional hv hw) fun c hc hfrom => ?_
  · refine .bind (keeps_ofRefusal (member v)) fun m hm => ?_
    refine (keeps_union ?_).mono fun w hw => isOptional_of_isUnion hm hw.2
    simp [proper_of_member hv hm, proper_noneClass]
  · obtain ⟨hform, hstands⟩ := Construction.parts_of_isFrom hfrom nofun
    cases hc with
    | union => cases hform
    | @optional u _ proper made =>
      cases hstands with
      | cons hu _ => exact ⟨u, proper, hu, made⟩
    | other _ noOptional => exact absurd hform noOptional

theorem keeps_pipe (hparts : ∀ p ∈ parts, Proper p) :
    Keeps Proper (Session.pipe parts) := by
  cases parts with
  | nil => exact keeps_refuse _
  | cons v rest =>
    obtain ⟨hv, hrest⟩ := List.forall_mem_cons.1 hparts
    refine keeps_foldlM (fun a ha b hb => ?_) hv
    split
    · refine (keeps_union ?_).mono fun w hw => hw.1
      simp [ha, hrest b hb]
    · exact (keeps_ofRefusal _).mono fun w hw => proper_of_bar hw ha (hrest b hb)

/-- A construct that is neither a union nor an optional type. -/
theorem keeps_construct_other {form : Form} {make : Act Value} (hunion : form ≠ .union)
    (hoptional : form ≠ .optional) (hmake : Keeps Proper make) :
    Keeps Proper (Session.construct form parts make) := by
  refine .construct hmake (fun _ hw => hw) (fun w hw => .other hunion hoptional hw)
    fun c hc hfrom => ?_
  have hform : c.form = form := eq_of_beq (Bool.and_eq_true_iff.1 hfrom).1
  cases hc with
  | union => exact absurd hform.symm hunion
  | optional => exact absurd hform.symm hoptional
  | other _ _ proper => exact proper

theorem keeps_typingAlias (name : String) (args : List Value) :
    Keeps Proper (Session.typingAlias name args) := by
  have hmake : Keeps Proper (ofRefusal (TypeTerm.typingAlias name args)) := by
    refine (keeps_ofRefusal _).mono fun w hw => ?_
    obtain ⟨ms, -, hmade⟩ := bind_eq_ok_iff.1 hw
    have hsome : ∀ right : Bool,
        (if right then .ok (.alias .typing name ms) else .error Refusal.wrongKind) = Except.ok w →
          Proper w := by
      intro right hright
      split at hright
      · exact Except.ok.inj hright ▸ .single rfl nofun
      · cases hright
    exact hsome _ hmade
  unfold Session.typingAlias
  split
  · exact hmake
  · exact keeps_construct_other nofun nofun hmake

theorem keeps_literal (values : List Value) : Keeps Proper (Session.literal values) := by
  refine keeps_construct_other nofun nofun (keeps_pure ?_)
  unfold literalOf
  dsimp only
  split
  · exact .single rfl nofun
  · exact .single rfl nofun

theorem keeps_annotated (base note : Value) : Keeps Proper (Session.annotated base note) := by
  refine keeps_construct_other nofun nofun ((keeps_ofRefusal _).mono fun w hw => ?_)
  unfold annotatedWith at hw
  split at hw
  · exact Except.ok.inj hw ▸ .single rfl nofun
  split at hw
  · exact Except.ok.inj hw ▸ .single rfl nofun
  · split at hw
    · cases hw
    · obtain ⟨m, -, rfl⟩ := map_eq_ok_iff.1 hw
      exact .single rfl nofun

theorem keeps_callable (parameters : List Value) (result : Value) :
    Keeps Proper (Session.callable parameters result) := by
  refine keeps_construct_other nofun nofun ((keeps_ofRefusal _).mono fun w hw => ?_)
  obtain ⟨result', -, hw⟩ := bind_eq_ok_iff.1 hw
  obtain ⟨ms, -, hw⟩ := bind_eq_ok_iff.1 hw
  exact Except.ok.inj hw ▸ .single rfl nofun

theorem keeps_classVar (inner : Value) : Keeps Proper (Session.classVar inner) := by
  refine keeps_construct_other nofun nofun ((keeps_ofRefusal _).mono fun w hw => ?_)
  obtain ⟨m, -, rfl⟩ := map_eq_ok_iff.1 hw
  exact .single rfl nofun

end Making

/-! ## Widening in a session -/

theorem proper_of_widen {t w : Value} (ht : Proper t) (h : TypeTerm.widen t = .ok w) :
    Proper w := by
  unfold TypeTerm.widen at h
  split at h
  · rw [← Except.ok.inj h]
    split
    · exact ht
    · exact .single rfl nofun
  · exact Except.ok.inj h ▸ ht
  · split at h
    · obtain ⟨m, hm, hw⟩ := bind_eq_ok_iff.1 h
      exact IsOptional.proper ⟨m, m, hm, proper_of_member ht hm, .inl rfl, hw⟩
    · exact Except.ok.inj h ▸ .orNone ht

/-- A session widens an annotation to one with the same column. -/
theorem keeps_widen {t : Value} (ht : Proper t) :
    Keeps (fun w => Proper w ∧ column w = column t) (Session.widen t) := by
  unfold Session.widen
  refine .bind (keeps_ofRefusal (TypeTerm.widen t)) fun w hw => ?_
  split
  · next htakes =>
    -- What is given was made of an annotation alike to this one, with the same column.
    refine (keeps_optional ht).mono fun w ⟨u, hu, hstands, hoptional⟩ => ⟨hoptional.proper, ?_⟩
    have hnoText : ∀ s, u ≠ .text s := by
      rintro s rfl
      rw [hstands.eq_text] at htakes
      cases htakes
    exact (hoptional.column hu hnoText).trans (hstands.column hu ht)
  · exact keeps_pure ⟨proper_of_widen ht hw, column_of_widens (widens_of_widen ht hw)⟩

/-! ## Annotations made in any way -/

/-- How an annotation comes about in a session: a value that is no union is given, or it is made
from others. -/
inductive Recipe where
  | given (v : Value) (noUnion : v.unionMembers? = none) (noOrNone : ∀ inner, v ≠ .orNone inner)
  | orNone (inner : Recipe)
  | union (parts : List Recipe)
  | optional (inner : Recipe)
  | pipe (parts : List Recipe)
  | typingAlias (name : String) (args : List Recipe)
  | builtinAlias (name : String) (args : List Recipe)
  | abstractAlias (name : String) (args : List Recipe)
  | literal (values : List Value)
  | annotated (base : Recipe) (note : Value)
  | callable (parameters : List Recipe) (result : Recipe)
  | classVar (inner : Recipe)
  | widened (inner : Recipe)

mutual

/-- Makes an annotation, the parts of it first. -/
def Recipe.make : Recipe → Act Value
  | .given v _ _ => pure v
  | .orNone inner => do return .orNone (← inner.make)
  | .union parts => do Session.union (← makeAll parts)
  | .optional inner => do Session.optional (← inner.make)
  | .pipe parts => do Session.pipe (← makeAll parts)
  | .typingAlias name args => do Session.typingAlias name (← makeAll args)
  | .builtinAlias name args => do ofRefusal (TypeTerm.builtinAlias name (← makeAll args))
  | .abstractAlias name args => do ofRefusal (TypeTerm.abstractAlias name (← makeAll args))
  | .literal values => Session.literal values
  | .annotated base note => do Session.annotated (← base.make) note
  | .callable parameters result => do
    let parameters ← makeAll parameters
    Session.callable parameters (← result.make)
  | .classVar inner => do Session.classVar (← inner.make)
  | .widened inner => do Session.widen (← inner.make)

def Recipe.makeAll : List Recipe → Act (List Value)
  | [] => pure []
  | r :: rest => do
    let v ← r.make
    return v :: (← makeAll rest)

end

theorem keeps_builtinAlias (name : String) (args : List Value) :
    Keeps Proper (ofRefusal (TypeTerm.builtinAlias name args)) := by
  refine (keeps_ofRefusal _).mono fun w hw => ?_
  unfold TypeTerm.builtinAlias at hw
  split at hw
  · exact Except.ok.inj hw ▸ .single rfl nofun
  · cases hw

theorem keeps_abstractAlias (name : String) (args : List Value) :
    Keeps Proper (ofRefusal (TypeTerm.abstractAlias name args)) := by
  refine (keeps_ofRefusal _).mono fun w hw => ?_
  unfold TypeTerm.abstractAlias at hw
  split at hw
  · exact Except.ok.inj hw ▸ .single rfl nofun
  · split at hw
    · cases hw
    · exact Except.ok.inj hw ▸ .single rfl nofun

mutual

/-- Whatever way an annotation is made, it is proper, and what the session kept stays in order. -/
theorem keeps_make (r : Recipe) : Keeps Proper r.make := by
  cases r with
  | given v noUnion noOrNone => exact keeps_pure (.single noUnion noOrNone)
  | orNone inner => exact (keeps_make inner).bind fun v hv => keeps_pure (.orNone hv)
  | union parts =>
    exact (keeps_makeAll parts).bind fun vs hvs => (keeps_union hvs).mono fun w hw => hw.1
  | optional inner =>
    refine (keeps_make inner).bind fun v hv => (keeps_optional hv).mono fun w hw => ?_
    obtain ⟨u, -, -, hoptional⟩ := hw
    exact hoptional.proper
  | pipe parts => exact (keeps_makeAll parts).bind fun vs hvs => keeps_pipe hvs
  | typingAlias name args =>
    exact (keeps_makeAll args).bind fun vs _ => keeps_typingAlias name vs
  | builtinAlias name args =>
    exact (keeps_makeAll args).bind fun vs _ => keeps_builtinAlias name vs
  | abstractAlias name args =>
    exact (keeps_makeAll args).bind fun vs _ => keeps_abstractAlias name vs
  | literal values => exact keeps_literal values
  | annotated base note => exact (keeps_make base).bind fun v _ => keeps_annotated v note
  | callable parameters result =>
    exact (keeps_makeAll parameters).bind fun vs _ =>
      (keeps_make result).bind fun v _ => keeps_callable vs v
  | classVar inner => exact (keeps_make inner).bind fun v _ => keeps_classVar v
  | widened inner =>
    exact (keeps_make inner).bind fun v hv => (keeps_widen hv).mono fun w hw => hw.1

theorem keeps_makeAll : (rs : List Recipe) → Keeps (fun vs => ∀ v ∈ vs, Proper v)
    (Recipe.makeAll rs)
  | [] => keeps_pure fun _ hv => absurd hv List.not_mem_nil
  | r :: rs => (keeps_make r).bind fun _ hv => (keeps_makeAll rs).bind fun _ hvs =>
      keeps_pure (List.forall_mem_cons.2 ⟨hv, hvs⟩)

end

/-- So are all annotations of a session, from its beginning on. -/
theorem proper_of_make {r : Recipe} {t : Value} {σ : Session} (h : Runs r.make {} (.ok t) σ) :
    Proper t ∧ σ.IsMade := by
  obtain ⟨hσ, ht⟩ := keeps_make r {} _ σ isMade_new h
  exact ⟨ht t rfl, hσ⟩

end Session

/-- Widening never changes the column of an annotation, whether it is done by itself, for a field,
or in a session that may have made something alike before. -/
theorem column_widen {t w : Value} (ht : Proper t) :
    (TypeTerm.widen t = .ok w → column w = column t) ∧
      (∀ hasDefault enforce, effective t hasDefault enforce = .ok w → column w = column t) ∧
      ∀ σ σ', Session.IsMade σ → Session.Runs (Session.widen t) σ (.ok w) σ' →
        column w = column t ∧ σ'.IsMade := by
  have hwiden : TypeTerm.widen t = .ok w → column w = column t :=
    fun h => column_of_widens (widens_of_widen ht h)
  refine ⟨hwiden, fun hasDefault enforce h => ?_, fun σ σ' hσ hruns => ?_⟩
  · unfold effective at h
    split at h
    · exact hwiden h
    · rw [Except.ok.inj h]
  · obtain ⟨hσ', hw⟩ := Session.keeps_widen ht σ _ σ' hσ hruns
    exact ⟨(hw w rfl).2, hσ'⟩

/-- The two unions of the class of integers with `None`, written with bars. -/
def intOrNone : Value := .pipe [.builtinClass "int", .noneClass]

def noneOrInt : Value := .pipe [.noneClass, .builtinClass "int"]

/-- Two classes with a bar between them. -/
theorem proper_pipe_of_classes {a b : ClassName} (h : b ≠ a) :
    Proper (.pipe [.classToken a, .classToken b]) := by
  have heach : ∀ m ∈ [Value.classToken a, .classToken b],
      Proper m ∧ m.unionMembers? = none := by
    simp only [List.forall_mem_cons, List.not_mem_nil, false_implies, implies_true, and_true]
    exact ⟨⟨.single rfl nofun, rfl⟩, .single rfl nofun, rfl⟩
  refine .union rfl (Nat.le_refl 2) (Value.allUnlike_pair.2 ?_) (fun m hm => (heach m hm).2)
    fun m hm => (heach m hm).1
  rw [Bool.eq_false_iff, ne_eq, Value.alike_classToken_right]
  exact fun heq => h (Value.classToken.inj heq)

/-- A union is widened to itself with its members in another order, if they came in that order when
a session first widened it. -/
theorem column_widen_noneOrInt :
    Proper noneOrInt ∧ ∃ w σ σ', Session.Runs (Session.widen intOrNone) {} (.ok w) σ ∧
      σ.IsMade ∧ Session.Runs (Session.widen noneOrInt) σ (.ok w) σ' ∧
        w = .union [.builtinClass "int", .noneClass] ∧ column w = column noneOrInt ∧
          σ'.IsMade := by
  have hbefore : Proper intOrNone := proper_pipe_of_classes (by decide)
  have hafter : Proper noneOrInt := proper_pipe_of_classes (by decide)
  obtain ⟨σ, σ', hfirst, hsecond⟩ : ∃ σ σ',
      Session.Runs (Session.widen intOrNone) {}
        (.ok (.union [.builtinClass "int", .noneClass])) σ ∧
      Session.Runs (Session.widen noneOrInt) σ
        (.ok (.union [.builtinClass "int", .noneClass])) σ' :=
    ⟨_, _, rfl, rfl⟩
  have hmade : σ.IsMade := ((column_widen hbefore).2.2 {} σ Session.isMade_new hfirst).2
  have hcolumn := (column_widen hafter).2.2 σ σ' hmade hsecond
  exact ⟨hafter, _, σ, σ', hfirst, hmade, hsecond, rfl, hcolumn⟩

/-! ## Texts of what is widened -/

/-- Nothing alike to an annotation was widened before. -/
def Session.Lacks (σ : Session) (t : Value) : Prop :=
  madeBefore? σ.constructions .optional [t] = none ∧
    ∀ m, member t = .ok m → madeBefore? σ.constructions .union [m, .noneClass] = none

namespace Session

/-- What was not made before is made now. -/
theorem runs_construct_of_new {form : Form} {parts : List Value} {make : Act Value} {w : Value}
    {σ σ' : Session} (hnew : madeBefore? σ.constructions form parts = none)
    (hmake : Runs make σ (.ok w) σ') : ∃ σ'', Runs (construct form parts make) σ (.ok w) σ'' := by
  unfold construct
  split
  · exact ⟨σ', hmake⟩
  · refine ⟨{ σ' with constructions := σ'.constructions ++ [⟨form, parts, w⟩] },
      .bind (runs_get σ) ?_⟩
    rw [hnew]
    exact .bind hmake (.bind (runs_modify _ σ') (runs_pure w _))

/-- Widening in a session goes the way that it goes by itself. -/
theorem runs_widen_iff {t w : Value} (h : TypeTerm.widen t = .ok w) {r : Except Error Value}
    {σ σ' : Session} :
    Runs (Session.widen t) σ r σ' ↔
      if widensByUnion t then Runs (Session.optional t) σ r σ' else r = .ok w ∧ σ' = σ := by
  have hfirst : Runs (ofRefusal (TypeTerm.widen t)) σ (.ok w) σ :=
    runs_ofRefusal (mapError_eq_ok_iff.2 h) σ
  -- What can go wrong goes wrong before the session is looked at.
  have hthen : Runs (Session.widen t) σ r σ' ↔
      Runs (if widensByUnion t then Session.optional t else pure w) σ r σ' := by
    constructor
    · intro hwhole
      obtain ⟨v, σ₁, hv, hrest⟩ | ⟨e, -, herror⟩ := runs_bind_cases hwhole
      · obtain ⟨hvalue, rfl⟩ := hv.unique hfirst
        obtain rfl := Except.ok.inj hvalue
        exact hrest
      · cases (herror.unique hfirst).1
    · exact fun hrest => .bind hfirst hrest
  rw [hthen]
  split
  · rfl
  · constructor
    · exact fun hpure => hpure.unique (runs_pure w σ)
    · rintro ⟨rfl, rfl⟩
      exact runs_pure w σ'

/-- A session that has made nothing alike widens as the annotation alone would be. -/
theorem runs_widen_of_lacks {t w : Value} {σ : Session} (h : TypeTerm.widen t = .ok w)
    (hnew : σ.Lacks t) : ∃ σ', Runs (Session.widen t) σ (.ok w) σ' := by
  by_cases htakes : widensByUnion t = true
  · obtain ⟨m, hm, hmade⟩ := bind_eq_ok_iff.1 ((widen_of_takes htakes).symm.trans h)
    obtain ⟨σ₁, hσ₁⟩ := runs_construct_of_new (hnew.2 m hm)
      (runs_ofRefusal (mapError_eq_ok_iff.2 (unionOf_noneClass hm hmade)) σ)
    have hmake : Runs (do union [← ofRefusal (member t), .noneClass]) σ (.ok w) σ₁ :=
      .bind (runs_ofRefusal (mapError_eq_ok_iff.2 hm) σ) hσ₁
    obtain ⟨σ₂, hσ₂⟩ := runs_construct_of_new hnew.1 hmake
    exact ⟨σ₂, (runs_widen_iff h).2 (by rwa [if_pos htakes])⟩
  · refine ⟨σ, (runs_widen_iff h).2 ?_⟩
    rw [if_neg htakes]
    exact ⟨rfl, rfl⟩

end Session

/-- The text of a widened annotation is the text of the annotation, widened, exactly if the text is
recognised to admit `None` as the annotation does. That fails for unions in which `None` comes
before another member. -/
theorem render_widen {t w : Value} (ht : Proper t) (h : TypeTerm.widen t = .ok w) :
    renderFault? w = renderFault? t ∧
      (Commutes t w ↔ (textAdmitsNone (render t) = true ↔ AdmitsNone t)) ∧
      (∀ members, t.unionMembers? = some members →
        (∀ m ∈ members, m ≠ .noneClass → textAdmitsNone (render m) = false) →
          (Commutes t w ↔ (.noneClass ∈ members → members.getLast? = some .noneClass))) ∧
      ∀ σ, Session.Lacks σ t → ∃ σ', Session.Runs (Session.widen t) σ (.ok w) σ' :=
  ⟨renderFault?_of_widens (widens_of_widen ht h), commutes_iff ht h,
    fun _ hof htexts => commutes_union_iff ht h hof htexts,
    fun _ hnew => Session.runs_widen_of_lacks h hnew⟩

/-- A union with `None` at its end is widened like its text. -/
theorem render_widen_intOrNone :
    Proper intOrNone ∧ ∃ w, TypeTerm.widen intOrNone = .ok w ∧
      renderFault? w = renderFault? intOrNone ∧ Commutes intOrNone w ∧
        ∃ σ', Session.Runs (Session.widen intOrNone) {} (.ok w) σ' := by
  have ht : Proper intOrNone := proper_pipe_of_classes (by decide)
  have htexts : ∀ m ∈ [Value.builtinClass "int", .noneClass], m ≠ .noneClass →
      textAdmitsNone (render m) = false := by
    intro m hm hne
    rcases List.mem_cons.1 hm with rfl | hm
    · rfl
    · exact absurd (List.mem_singleton.1 hm) hne
  have hwiden : TypeTerm.widen intOrNone = .ok (.union [.builtinClass "int", .noneClass]) := rfl
  obtain ⟨hfault, -, hcommutes, hruns⟩ := render_widen ht hwiden
  exact ⟨ht, _, hwiden, hfault, (hcommutes _ rfl htexts).2 fun _ => rfl,
    hruns {} ⟨rfl, fun _ _ => rfl⟩⟩

/-- A union with `None` at its start stays as it is, but its text gets another `None`. -/
theorem noneOrInt_not_commutes :
    Proper noneOrInt ∧ ∃ w, TypeTerm.widen noneOrInt = .ok w ∧ render w = "None | int" ∧
      render noneOrInt = "None | int" ∧
        TypeTerm.widen (.text "None | int") = .ok (.text "None | int | None") ∧
          ¬ Commutes noneOrInt w := by
  refine ⟨proper_pipe_of_classes (by decide), .union [.noneClass, .builtinClass "int"], rfl, rfl,
    rfl, rfl, ?_⟩
  intro h
  have htext := Value.text.inj (Except.ok.inj h)
  revert htext
  decide

end RecordSchema
