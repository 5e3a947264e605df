import RecordSchema.Proofs.Descriptor.Export

/-!
# Descriptors written and read again

A mapping is read loosely: what is missing has a default, names and types become text, and a field
that comes twice is one field. Whatever was read, the descriptor is in a normal form
(`Descriptor.isNormal_of_ofValue`): it has a text for its name, and its fields have distinct names.
A descriptor in this form, and no other, is what its own mapping is read as
(`Descriptor.ofValue_toValue_iff`), whatever values its defaults and its lists hold. So reading
comes to rest after the first time (`Descriptor.round_trip`).
-/

set_option autoImplicit false

namespace RecordSchema.Descriptor

open RecordSchema.Text Value

variable {d : Descriptor} {v : Value}

/-- The form that a descriptor has once it was read. -/
structure IsNormal (d : Descriptor) : Prop where
  name : ∃ title, d.name = .text title
  fields : (d.fields.map Prod.fst).Nodup

/-- The mapping of a descriptor in normal form is read as that descriptor. -/
theorem IsNormal.ofValue_toValue (h : d.IsNormal) : ofValue d.toValue = .ok d := by
  obtain ⟨title, htitle⟩ := h.name
  -- Each part stands under a key of its own, and the lists of parts come back place by place.
  have htexts : ∀ e ∈ d.entries, ∃ key, e.1 = .text key := by simp [entries]
  have hpart {key : String} {part : Value} (hmem : (.text key, part) ∈ d.entries) :
      lookupText key d.entries = some part :=
    lookupText_of_mem htexts d.nodup_keys_entries hmem
  have hlisted : ∀ w ∈ d.fields.map fun p =>
      Value.mapping [(.text "name", .text p.1), (.text "type", .text p.2)], IsData false w := by
    intro w hw
    obtain ⟨p, -, rfl⟩ := List.mem_map.1 hw
    exact isData_field false p.1 p.2
  have hfields := read_fields (List.forall₂_same.2 fun w hw => Same.refl (hlisted w hw)) hlisted
  have hname : lookupText "name" d.entries = some (.text title) := hpart (by simp [entries, htitle])
  have hdefaults : lookupText "defaults" d.entries = some (.mapping d.defaults) :=
    hpart (by simp [entries])
  have hversion : lookupText "version" d.entries = some (.int d.version) :=
    hpart (by simp [entries])
  have hshown : (Value.text title).displayed = .ok title := rfl
  rw [toValue, ofValue_of_parts hname hshown (hpart (by simp [entries]; rfl)) hfields h.fields
    hdefaults (hpart (by simp [entries]; rfl)) (hpart (by simp [entries]; rfl)) hversion, ← htitle]

/-- However loose a mapping is, what it is read as is in normal form. -/
theorem isNormal_of_ofValue (h : ofValue v = .ok d) : d.IsNormal := by
  -- Of the eight steps only two bring about a form: the text of the name and the table of fields.
  unfold ofValue at h
  obtain ⟨_, -, h⟩ := bind_eq_ok_iff.1 h
  obtain ⟨title, -, h⟩ := bind_eq_ok_iff.1 h
  obtain ⟨_, -, h⟩ := bind_eq_ok_iff.1 h
  obtain ⟨fields, -, h⟩ := bind_eq_ok_iff.1 h
  obtain ⟨defaults, -, h⟩ := bind_eq_ok_iff.1 h
  obtain ⟨required, -, h⟩ := bind_eq_ok_iff.1 h
  obtain ⟨nullable, -, h⟩ := bind_eq_ok_iff.1 h
  obtain ⟨version, -, h⟩ := bind_eq_ok_iff.1 h
  rw [← Except.ok.inj h]
  exact ⟨⟨title, rfl⟩, Schema.nodup_keys_putAll fields⟩

/-- Writing and reading again keeps exactly the descriptors in normal form. -/
theorem ofValue_toValue_iff : ofValue d.toValue = .ok d ↔ d.IsNormal :=
  ⟨isNormal_of_ofValue, IsNormal.ofValue_toValue⟩

/-- The schema of a block under a text is described in normal form. -/
theorem isNormal_of_describe {s : Schema} (hs : s.IsEmitted) (h : s.describe = .ok d) :
    d.IsNormal := by
  obtain ⟨hname, hkeys⟩ := hs.named
  rw [Schema.eq_of_describe h]
  exact ⟨hname, (keys_fields_ofSchema hkeys).symm ▸ hkeys⟩

/-- **Descriptors survive being written and read.** What describes a schema of a block under a text,
and what was read from whatever mapping, is read from its own mapping as it is: with the same name,
fields, defaults, required and nullable names, all in the same order, and the same version. -/
theorem round_trip
    (h : (∃ s : Schema, s.IsEmitted ∧ s.describe = .ok d) ∨ ∃ v, ofValue v = .ok d) :
    ofValue d.toValue = .ok d := by
  apply IsNormal.ofValue_toValue
  rcases h with ⟨s, hs, hdescribe⟩ | ⟨v, hv⟩
  · exact isNormal_of_describe hs hdescribe
  · exact isNormal_of_ofValue hv

/-- A mapping in which something is missing, with a number for a name, a field that comes twice and
its default in a pair. -/
def looseMapping : Value :=
  .mapping [(.text "name", .int 5), (.text "version", .text "7"),
    (.text "defaults", .tuple [.ofList [.text "1", .none]]),
    (.text "fields", .tuple [.mapping [(.text "name", .int 1), (.text "type", .none)],
      .mapping [(.text "type", .text "int"), (.text "name", .text "1")]])]

/-- What it is read as. -/
def looselyRead : Descriptor := ⟨.text "5", [("1", "int")], [(.text "1", .none)], [], [], 7⟩

/-- A mapping that is read loosely, and a whole number that is described. -/
theorem round_trip_loose :
    ofValue looseMapping = .ok looselyRead ∧ ofValue looselyRead.toValue = .ok looselyRead ∧
    Schema.IsEmitted (Builder.oneFieldSchema "n") ∧
    (Builder.oneFieldSchema "n").describe = .ok (ofSchema (Builder.oneFieldSchema "n")) ∧
    ofValue (ofSchema (Builder.oneFieldSchema "n")).toValue =
      .ok (ofSchema (Builder.oneFieldSchema "n")) := by
  have hread : ofValue looseMapping = .ok looselyRead := rfl
  have hemitted : Schema.IsEmitted (Builder.oneFieldSchema "n") :=
    ⟨"P", _, _, _, Builder.build_oneField (by decide +kernel)⟩
  have hdescribe : (Builder.oneFieldSchema "n").describe =
      .ok (ofSchema (Builder.oneFieldSchema "n")) := rfl
  exact ⟨hread, round_trip (.inr ⟨_, hread⟩), hemitted, hdescribe,
    round_trip (.inl ⟨_, hemitted, hdescribe⟩)⟩

end RecordSchema.Descriptor
