import RecordSchema.Proofs.Descriptor.Summary

/-!
# Lists of names that fit together

In the descriptor of a schema from a block no field comes twice, what is required and what is
nullable are fields, and nothing is both (`Descriptor.IsCoherent`). This holds since the schema was
made of declarations. A descriptor that is read from a mapping was not made so, and nothing is
checked when it is read: a field that is listed again gives its type to the one that is there, and
the other two lists are copied. So what is read fits together, with one field for each that is
listed, exactly if the lists of the mapping did (`Descriptor.coherence`), and there are mappings
that are read although they do not (`Descriptor.incoherent_read`).
-/

set_option autoImplicit false

namespace RecordSchema

/-- Fields without repetitions, among which are the required and the nullable ones, none of them
both. -/
structure NamesFit (fields : List String) (required nullable : List Value) : Prop where
  distinct : fields.Nodup
  required_known : ∀ v ∈ required, v ∈ fields.map Value.text
  nullable_known : ∀ v ∈ nullable, v ∈ fields.map Value.text
  disjoint : required.Disjoint nullable

namespace Value

/-- What stands under a key of a mapping, which is an empty list where nothing does. -/
def listUnder (key : String) : Value → Value
  | .mapping entries => (lookupText key entries).getD (.ofList [])
  | _ => .ofList []

/-- A value has a name and a type, with these texts. -/
structure IsField (f : Value) (p : String × String) : Prop where
  name : ∃ v, f.member "name" = .ok v ∧ v.displayed = .ok p.1
  type : ∃ v, f.member "type" = .ok v ∧ v.displayed = .ok p.2

/-- What a mapping lists: fields with their types, one for each item, and the names of those that
are required and of those that are nullable. -/
structure Lists (v : Value) (fields : List (String × String)) (required nullable : List Value) :
    Prop where
  fields : ∃ items, (v.listUnder "fields").elements = .ok items ∧
    List.Forall₂ IsField items fields
  required : (v.listUnder "required").elements = .ok required
  nullable : (v.listUnder "nullable").elements = .ok nullable

end Value

namespace Descriptor

open Value

variable {d : Descriptor} {v : Value}

/-- The invariant of descriptors. -/
def IsCoherent (d : Descriptor) : Prop := NamesFit (d.fields.map Prod.fst) d.required d.nullable

/-- What tells of a schema fits together, since the schema does. -/
theorem Tells.isCoherent {s : Schema} {ds : List Declaration} (h : d.Tells s ds)
    (hkeys : s.keys.Nodup) : d.IsCoherent := by
  constructor
  · rwa [h.fields]
  · intro v hv
    rw [h.fields]
    exact h.required_ordered.subset hv
  · intro v hv
    rw [h.fields]
    exact h.nullable_ordered.subset hv
  · exact h.disjoint

/-- Reading a listed field takes its name and its type and nothing else. -/
theorem isField_of_read {f : Value} {p : String × String}
    (h : (do return (← (← f.member "name").displayed, ← (← f.member "type").displayed) :
      Except Refusal (String × String)) = .ok p) : IsField f p := by
  obtain ⟨name, hname, h⟩ := bind_eq_ok_iff.1 h
  obtain ⟨title, htitle, h⟩ := bind_eq_ok_iff.1 h
  obtain ⟨type, htype, h⟩ := bind_eq_ok_iff.1 h
  obtain ⟨text, htext, h⟩ := bind_eq_ok_iff.1 h
  rw [← Except.ok.inj h]
  exact ⟨⟨name, hname, htitle⟩, ⟨type, htype, htext⟩⟩

/-- What is read puts the listed fields in a table and keeps the two lists of names as they are. -/
theorem exists_lists_of_ofValue (h : ofValue v = .ok d) :
    ∃ listed, v.Lists listed d.required d.nullable ∧ d.fields = Schema.putAll [] listed := by
  unfold ofValue at h
  obtain ⟨name, hname, h⟩ := bind_eq_ok_iff.1 h
  -- Only a mapping has a name.
  obtain ⟨entries, rfl⟩ : ∃ entries, v = .mapping entries := by
    cases v <;> first | exact ⟨_, rfl⟩ | cases hname
  obtain ⟨_, -, h⟩ := bind_eq_ok_iff.1 h
  obtain ⟨items, hitems, h⟩ := bind_eq_ok_iff.1 h
  obtain ⟨listed, hlisted, h⟩ := bind_eq_ok_iff.1 h
  obtain ⟨_, -, h⟩ := bind_eq_ok_iff.1 h
  obtain ⟨required, hrequired, h⟩ := bind_eq_ok_iff.1 h
  obtain ⟨nullable, hnullable, h⟩ := bind_eq_ok_iff.1 h
  obtain ⟨_, -, h⟩ := bind_eq_ok_iff.1 h
  rw [← Except.ok.inj h]
  refine ⟨listed, ⟨⟨items, hitems, ?_⟩, hrequired, hnullable⟩, rfl⟩
  exact (mapM_eq_ok_iff.1 hlisted).imp fun _ _ => isField_of_read

/-- A table of fields fits the names beside it, with nothing lost, exactly if the list it was made
of does. -/
theorem namesFit_putAll_iff {listed : List (String × String)} {required nullable : List Value} :
    (NamesFit ((Schema.putAll [] listed).map Prod.fst) required nullable ∧
        (Schema.putAll [] listed).length = listed.length) ↔
      NamesFit (listed.map Prod.fst) required nullable := by
  constructor
  · rintro ⟨hfit, hlength⟩
    rwa [Schema.putAll_of_nodup ((Schema.length_putAll_eq_iff listed).1 hlength)] at hfit
  · intro hfit
    rw [Schema.putAll_of_nodup hfit.distinct]
    exact ⟨hfit, rfl⟩

/-- **Descriptors that fit together.** The descriptor of a schema from a block does, with one field
for each declaration that was not refused. A mapping is read without such a check: the fields that
it lists are put in a table, under each name the type that was listed last, and its required and
nullable names are copied. So what is read fits together, with one field for each that is listed,
exactly if what the mapping lists does. -/
theorem coherence (d : Descriptor) :
    (∀ (name strict : Value) (policy : NamePolicy) (calls : List Call) (s : Schema),
      ((Builder.new name strict policy).after calls).reply .build = .ok (.schema s) →
        s.describe = .ok d →
        d.IsCoherent ∧ (d.fields.map fun p => Value.text p.1) =
          ((Builder.new name strict policy).accepted calls).map (·.name)) ∧
    ∀ v : Value, ofValue v = .ok d →
      ∃ listed, v.Lists listed d.required d.nullable ∧
        (∀ n, lookup n d.fields = lookup n listed.reverse) ∧
        ((d.IsCoherent ∧ d.fields.length = listed.length) ↔
          NamesFit (listed.map Prod.fst) d.required d.nullable) := by
  constructor
  · intro name strict policy calls s hbuild hdescribe
    obtain ⟨rfl, -, hkeeps⟩ := Builder.keeps_of_build hbuild
    have htells : (ofSchema _).Tells _ _ :=
      tells_ofSchema hkeeps.records ⟨hkeeps.keys_nodup, hkeeps.required⟩
    rw [← Schema.eq_of_describe hdescribe] at htells
    refine ⟨htells.isCoherent hkeeps.keys_nodup, ?_⟩
    rw [← htells.declared, ← htells.fields, List.map_map]
    rfl
  · intro v h
    obtain ⟨listed, hlists, hfields⟩ := exists_lists_of_ofValue h
    refine ⟨listed, hlists, ?_, ?_⟩
    · intro n
      rw [hfields, Schema.lookup_putAll]
    · rw [IsCoherent, hfields]
      exact namesFit_putAll_iff

/-- A mapping that lists one field twice, and names as required and as nullable that are not fields
or are both. -/
def clashingMapping : Value :=
  .mapping [(.text "name", .text "P"),
    (.text "fields", .ofList
      [.mapping [(.text "name", .text "a"), (.text "type", .text "int")],
        .mapping [(.text "name", .text "a"), (.text "type", .text "str")]]),
    (.text "required", .ofList [.text "a", .text "b"]),
    (.text "nullable", .ofList [.text "a"])]

/-- What it is read as. -/
def clashing : Descriptor :=
  ⟨.text "P", [("a", "str")], [], [.text "a", .text "b"], [.text "a"], 1⟩

/-- Such a mapping is read, and what it is read as does not fit together. -/
theorem incoherent_read :
    ofValue clashingMapping = .ok clashing ∧
    clashingMapping.Lists [("a", "int"), ("a", "str")] clashing.required clashing.nullable ∧
    clashing.fields.length < 2 ∧ ¬ clashing.required.Disjoint clashing.nullable ∧
    ¬ (∀ v ∈ clashing.required, v ∈ clashing.fields.map fun p => Value.text p.1) ∧
    ¬ clashing.IsCoherent := by
  have hlists : clashingMapping.Lists [("a", "int"), ("a", "str")] clashing.required
      clashing.nullable := by
    refine ⟨⟨_, rfl, .cons ⟨⟨_, rfl, rfl⟩, ⟨_, rfl, rfl⟩⟩ (.cons ?_ .nil)⟩, rfl, rfl⟩
    exact ⟨⟨_, rfl, rfl⟩, ⟨_, rfl, rfl⟩⟩
  have hboth : ¬ clashing.required.Disjoint clashing.nullable := fun h =>
    h (List.mem_cons_self ..) (List.mem_cons_self ..)
  refine ⟨rfl, hlists, by decide, hboth, ?_, fun h => hboth h.disjoint⟩
  intro h
  have hb := h (.text "b") (by simp [clashing])
  simp [clashing] at hb

/-- A block with a field of each kind, and its descriptor when it is read again. -/
theorem coherence_mixed :
    (ofSchema Builder.mixedSchema).IsCoherent ∧
    ofValue (ofSchema Builder.mixedSchema).toValue = .ok (ofSchema Builder.mixedSchema) ∧
    ∃ listed, (ofSchema Builder.mixedSchema).toValue.Lists listed
        [.text "key"] [.text "note"] ∧
      NamesFit (listed.map Prod.fst) [.text "key"] [.text "note"] := by
  have hcoherent := ((coherence _).1 _ _ _ _ _ Builder.build_mixedFields rfl).1
  have hread : ofValue (ofSchema Builder.mixedSchema).toValue =
      .ok (ofSchema Builder.mixedSchema) := rfl
  obtain ⟨listed, hlists, -, hfit⟩ := (coherence _).2 _ hread
  obtain ⟨items, hitems, hfields⟩ := hlists.fields
  have hlength : items.length = 3 := by
    rw [← Except.ok.inj hitems]
    rfl
  refine ⟨hcoherent, hread, listed, hlists, hfit.1 ⟨hcoherent, ?_⟩⟩
  rw [← hfields.length_eq, hlength]
  rfl

end Descriptor

end RecordSchema
