import RecordSchema.Proofs.Record.Construction

/-!
# The signature of a constructor

A class gets its signature when it is made: a parameter for each field, with a default unless the
field is enforced (`RecordType.parameters`). The constructor looks at none of this; it goes by the
names that the schema requires and by the defaults of the schema. The two agree
(`RecordType.signature_agrees`): the constructor takes what the signature takes, and a record has
under the name of each parameter what was given for it, or else its default.

This holds whatever the names of the fields are, three excepted. A field called like a place that
every record has (`RecordType.places`) is a parameter like any other, but to set it is not to set an
attribute (`RecordType.signature_disagrees_on_place`). Blocks do not allow such names. It holds of
any namespace that leaves room for the fields in the records (`ClassBody.LeavesRoom`).
-/

set_option autoImplicit false

namespace RecordSchema

/-- No field that can be left out has the mark of a missing default for its default. -/
def Schema.LeavesMarkAlone (s : Schema) : Prop :=
  ∀ f ∈ s.fields, f.isEnforced = false → Parameter.isUnset f.initial = false

namespace RecordType

variable {s : Schema} {t : RecordType}

/-! ## The parameters of a constructor -/

/-- The signature of a class takes keywords: all of them are parameters, and every parameter without
a default is among them. -/
def SignatureTakes (t : RecordType) (names : List String) : Prop :=
  (∀ n ∈ names, n ∈ t.signature.map (·.name)) ∧
    ∀ p ∈ t.signature, p.default = none → p.name ∈ names

/-- The parameters have the names of the fields. -/
theorem names_parameters (s : Schema) : (parameters s).map (·.name) = s.keys := by
  rw [parameters, List.map_map]
  rfl

/-- A parameter has a default exactly if its field can be left out. -/
theorem parameters_eq_map (hs : s.keys.Nodup) (hmark : s.LeavesMarkAlone) :
    parameters s =
      s.fields.map fun f => ⟨f.name, if f.isEnforced then none else some f.initial⟩ := by
  refine List.map_congr_left fun f hf => ?_
  have hdefault : Value.lookup f.name s.defaults = some f.initial := by
    rw [Schema.defaults_eq_map hs]
    exact Schema.lookup_map_of_nodup hs (·.initial) hf
  cases henforced : f.isEnforced with
  | true => rfl
  | false =>
    -- A default that is the mark itself would not be seen.
    rw [hdefault, Option.filter_some, hmark f hf henforced]
    rfl

/-- The signature takes keywords exactly if none is a stray and none is lacking. -/
theorem signatureTakes_iff (ht : t.signature = parameters s) (hs : s.keys.Nodup)
    (hmark : s.LeavesMarkAlone) (given : List (String × Value)) :
    t.SignatureTakes (given.map Prod.fst) ↔ s.strays given = [] ∧ s.lacking given = [] := by
  rw [Schema.strays_eq_nil_iff, Schema.lacking_eq_nil_iff, SignatureTakes, ht, names_parameters]
  refine and_congr_right fun _ => ?_
  rw [parameters_eq_map hs hmark, List.forall_mem_map]
  refine forall₂_congr fun f _ => ?_
  cases f.isEnforced <;> simp

end RecordType

namespace RecordType.IsClassOf

open RecordSchema.Session

variable {s : Schema} {t : RecordType} {given : List (String × Value)} {σ : Session}

/-- A record has under the name of each parameter what was given for it, or else its default. -/
theorem runs_plainAttribute (ht : t.IsClassOf s) (hsignature : t.signature = parameters s)
    (hmark : s.LeavesMarkAlone) (hσ : σ.types.get? t.identity.id = some t)
    (hlacking : s.lacking given = []) (cell : Nat) {p : Parameter} (hp : p ∈ t.signature) :
    ∃ w, (Value.lookup p.name given).or p.default = some w ∧
      Runs (plainAttribute (.record cell t.identity (s.filled given)) p.name) σ (.ok w) σ := by
  have hs := ht.regular.distinct
  rw [hsignature, parameters_eq_map hs hmark] at hp
  obtain ⟨f, hf, rfl⟩ := List.mem_map.1 hp
  have hkey : f.name ∈ t.schema.keys := by
    rw [ht.schema_eq]
    exact List.mem_map_of_mem hf
  have hvalue : Value.lookup f.name (s.filled given) =
      some ((Value.lookup f.name given).getD f.initial) :=
    Schema.lookup_map_of_nodup hs (fun f => (Value.lookup f.name given).getD f.initial) hf
  refine ⟨(Value.lookup f.name given).getD f.initial, ?_, ?_⟩
  · cases hgiven : Value.lookup f.name given with
    | some v => rfl
    | none =>
      -- An enforced field without a value would be lacking, so this one has a default.
      have henforced : f.isEnforced = false := by
        by_contra henforced
        rw [Schema.lookup_eq_none_iff] at hgiven
        exact hgiven (Schema.lacking_eq_nil_iff.1 hlacking f hf (Bool.not_eq_false _ ▸ henforced))
      rw [henforced]
      rfl
  · have hinstance : Runs (instance? (.record cell t.identity (s.filled given))) σ
        (.ok (some ⟨cell, t, s.filled given⟩)) σ := .bind (runs_typeOf hσ) (runs_pure _ σ)
    have hown : (Instance.mk cell t (s.filled given)).value? f.name =
        some ((Value.lookup f.name given).getD f.initial) :=
      Option.or_eq_some_iff.2 (.inl hvalue)
    exact .bind hinstance (.bind (ht.ordinary.runs_read hkey hown σ) (runs_pure _ σ))

end RecordType.IsClassOf

open RecordSchema.Session

/-- The signature of a class agrees with its constructor, for a schema that an accumulator gives,
with a body that leaves room in the records. The constructor takes keywords exactly if the signature
does, and a record has under the name of each parameter what was given for it, or else the default
of the parameter. -/
theorem RecordType.signature_agrees {s : Schema} (hs : s.IsCollected) (hmark : s.LeavesMarkAlone)
    (hplaces : ∀ n ∈ s.keys, n ∉ places) {body : ClassBody} (hbody : body.LeavesRoom s.keys)
    {t : RecordType} {σ₀ σ₁ σ : Session} (hcreate : Runs (createType s body) σ₀ (.ok t) σ₁)
    (hσ : σ.types.get? t.identity.id = some t) {given : List (String × Value)}
    (hgiven : (given.map Prod.fst).Nodup) :
    (Accepts (.recordType t.identity.id) σ given ↔ t.SignatureTakes (given.map Prod.fst)) ∧
      ∀ o σ', Runs (make (.recordType t.identity.id) [] given) σ (.ok o) σ' →
        ∃ v, Runs o.toValue σ' (.ok v) σ' ∧
          ∀ p ∈ t.signature, ∃ w, (Value.lookup p.name given).or p.default = some w ∧
            Runs (plainAttribute v p.name) σ' (.ok w) σ' := by
  have ht := isClassOf_of_isCollected hs hplaces hbody.toLeavesAlone hcreate
  have hsignature := signature_of_create (create_of_createType hcreate).1
  have hagree := signatureTakes_iff hsignature ht.regular.distinct hmark given
  refine ⟨(ht.accepts_iff hσ hgiven).trans hagree.symm, fun o σ' ho => ?_⟩
  obtain ⟨-, hlacking, rfl, hafter⟩ := ht.eq_filled_of_make hσ hgiven ho
  have hkept : σ'.types.get? t.identity.id = some t := by rwa [hafter]
  exact ⟨_, runs_pure _ σ', fun p hp =>
    ht.runs_plainAttribute hsignature hmark hkept hlacking (σ.last + 1) hp⟩

/-- Without keywords the record of a number has its default. -/
theorem RecordType.signature_agrees_number :
    ∃ t σ o σ' v, Runs (createType (Builder.oneFieldSchema "n") {}) {} (.ok t) σ ∧
      Runs (make (.recordType t.identity.id) [] []) σ (.ok o) σ' ∧ Runs o.toValue σ' (.ok v) σ' ∧
        Runs (plainAttribute v "n") σ' (.ok (.int 5)) σ' := by
  have hbuild := Builder.build_oneField (n := "n") (by decide +kernel)
  have hnamed := Builder.isNamed_of_build (by simp) hbuild
  obtain ⟨t, σ, hcreate, -, hσ⟩ := (runs_createType hnamed {}).2
    (by simp [Builder.oneFieldSchema, Schema.keys, RecordType.receiver])
  have hkeys : (Builder.oneFieldSchema "n").keys = ["n"] := rfl
  have hnone : (([] : List (String × Value)).map Prod.fst).Nodup := List.nodup_nil
  obtain ⟨haccepts, hattributes⟩ := signature_agrees (Builder.isCollected_of_build hbuild)
    (fun f hf _ => by rw [List.mem_singleton.1 hf]; rfl) (by rw [hkeys]; decide)
    (ClassBody.leavesRecords_of_members_eq_nil rfl _).toLeavesRoom hcreate hσ hnone
  have hsignature : t.signature = [⟨"n", some (.int 5)⟩] :=
    signature_of_create (create_of_createType hcreate).1
  have htakes : t.SignatureTakes [] := by
    rw [SignatureTakes, hsignature]
    simp
  obtain ⟨o, σ', ho⟩ := haccepts.2 htakes
  obtain ⟨v, hv, hattributes⟩ := hattributes o σ' ho
  obtain ⟨w, hw, hread⟩ := hattributes ⟨"n", some (.int 5)⟩ (by rw [hsignature]; simp)
  obtain rfl := Option.some.inj hw
  exact ⟨t, σ, o, σ', v, hcreate, ho, hv, hread⟩

/-- A field called like a place that every record has. -/
def placeField : Field :=
  ⟨"__class__", .missing, Primitive.int.type, Primitive.int.type, .bool false⟩

/-- The schema of an accumulator with that field. -/
def placeSchema : Schema := ⟨.text "P", [placeField], []⟩

theorem isCollected_placeSchema : placeSchema.IsCollected :=
  ⟨.text "P", _, .finalize (.append (f := placeField) .new rfl) rfl, rfl⟩

/-- The field of such a name has a default in the signature, and yet no record can be made without
keywords. -/
theorem RecordType.signature_disagrees_on_place :
    placeSchema.IsCollected ∧ ∃ t σ, Runs (createType placeSchema {}) {} (.ok t) σ ∧
      t.SignatureTakes [] ∧ ¬ Accepts (.recordType t.identity.id) σ [] := by
  have htitle : checkTitle placeSchema.name = .ok "P" := by
    simp [placeSchema, checkTitle, String.contains_char_eq]
  have hcreate := runs_createType_of_create (σ := {}) (create_of_checked rfl htitle 1)
  refine ⟨isCollected_placeSchema, _, _, hcreate, ⟨?_, ?_⟩, ?_⟩
  · intro n hn
    exact absurd hn List.not_mem_nil
  · intro p hp hnone
    rw [List.mem_singleton.1 hp] at hnone
    cases hnone
  · rintro ⟨x, σ', hx⟩
    have hrefused := hx.unique (show Runs _ _ (.error (.refused .wrongKind)) _ from rfl)
    cases hrefused.1

end RecordSchema
