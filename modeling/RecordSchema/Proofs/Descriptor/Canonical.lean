import RecordSchema.Descriptor
import RecordSchema.Proofs.Json.RoundTrip

/-!
# The hashed text of a descriptor

A descriptor whose parts are data (`Descriptor.IsPlain`) is hashed by its canonical text, and that
text tells two descriptors apart exactly if they differ: in the name, in the fields or their order,
in a type, in a default, in what is required or nullable, or in the version. What the text does not
show is the order of the defaults and of the entries inside them, and which of them are tuples.
-/

set_option autoImplicit false

namespace RecordSchema

open RecordSchema.Text Value

namespace Value

/-- Lists are the same exactly if their items are, place by place. -/
theorem same_ofList_iff {xs ys : List Value} :
    Same (.ofList xs) (.ofList ys) ↔ List.Forall₂ Same xs ys := by
  constructor
  · intro h
    cases h with
    | sequence left right length items =>
      obtain rfl := Option.some.inj left
      obtain rfl := Option.some.inj right
      exact forall₂_of_zip length items
  · intro h
    exact .of_forall₂ rfl rfl h

theorem eq_text_of_same {s : String} {w : Value} (h : Same (.text s) w) : w = .text s := by
  cases h with
  | text _ => rfl
  | sequence left _ _ _ => cases left

theorem same_text_iff {s t : String} : Same (.text s) (.text t) ↔ s = t := by
  constructor
  · intro h
    exact (Value.text.inj (eq_text_of_same h)).symm
  · rintro rfl
    exact .text s

theorem eq_int_of_same {n : Int} {w : Value} (h : Same (.int n) w) : w = .int n := by
  cases h with
  | int _ => rfl
  | sequence left _ _ _ => cases left

theorem same_int_iff {m n : Int} : Same (.int m) (.int n) ↔ m = n := by
  constructor
  · intro h
    exact (Value.int.inj (eq_int_of_same h)).symm
  · rintro rfl
    exact .int m

/-- What is the same as texts is the same texts. -/
theorem forall₂_same_text_iff {xs ys : List Value} (hxs : ∀ v ∈ xs, ∃ s, v = .text s) :
    List.Forall₂ Same xs ys ↔ xs = ys := by
  constructor
  · intro h
    induction h with
    | nil => rfl
    | @cons x y _ _ hxy _ ih =>
      obtain ⟨s, rfl⟩ := hxs x (List.mem_cons_self ..)
      rw [eq_text_of_same hxy, ih fun v hv => hxs v (List.mem_cons_of_mem _ hv)]
  · rintro rfl
    refine List.forall₂_same.2 fun v hv => ?_
    obtain ⟨s, rfl⟩ := hxs v hv
    exact .text s

/-- Mappings with the same distinct keys in the same order are the same exactly if what stands under
the keys is, place by place. -/
theorem same_mapping_iff {xs ys : List (Value × Value)} (hkeys : xs.map Prod.fst = ys.map Prod.fst)
    (hnodup : (xs.map Prod.fst).Nodup) :
    Same (.mapping xs) (.mapping ys) ↔ List.Forall₂ (fun x y => Same x.2 y.2) xs ys := by
  have hlength : xs.length = ys.length := by simpa using congrArg List.length hkeys
  have hkey : ∀ i (hx : i < xs.length) (hy : i < ys.length), xs[i].1 = ys[i].1 := by
    intro i hx hy
    have h := List.getElem_of_eq hkeys (by simpa using hx)
    simpa using h
  constructor
  · intro h
    cases h with
    | mapping _ under =>
      refine List.forall₂_iff_get.2 ⟨hlength, fun i hx hy => ?_⟩
      exact under _ (List.get_mem ..) _ (List.get_mem ..) (hkey i hx hy)
    | sequence left _ _ _ => cases left
  · intro h
    refine .mapping (hkeys ▸ .refl _) fun x hx y hy hxy => ?_
    obtain ⟨i, hi, rfl⟩ := List.getElem_of_mem hx
    obtain ⟨j, hj, rfl⟩ := List.getElem_of_mem hy
    have hi' : i < (xs.map Prod.fst).length := by simpa using hi
    have hj' : j < (xs.map Prod.fst).length := by simpa [hlength] using hj
    have hget : (xs.map Prod.fst)[i] = (xs.map Prod.fst)[j] := by
      simpa [hkey j (hlength ▸ hj) hj] using hxy
    -- A key has one place, so both entries stand at the same one.
    obtain rfl : i = j := hnodup.getElem_inj_iff.1 hget
    exact (List.forall₂_iff_get.1 h).2 i hi hj

end Value

namespace Descriptor

/-- A descriptor of data: its name and the names in its lists are texts, its defaults are data under
texts, and its version can be written. -/
structure IsPlain (d : Descriptor) : Prop where
  name : ∃ s, d.name = .text s
  defaults : IsData true (.mapping d.defaults)
  required : ∀ v ∈ d.required, ∃ s, v = .text s
  nullable : ∀ v ∈ d.nullable, ∃ s, v = .text s
  version : Numeral.isWritable d.version = true

/-- A field as it is listed. -/
theorem isData_field (tuples : Bool) (name type : String) :
    IsData tuples (.mapping [(.text "name", .text name), (.text "type", .text type)]) := by
  refine .mapping ?_ ?_ ?_
  · simp
  · simp
  · simp only [List.forall_mem_cons, List.not_mem_nil, false_implies, implies_true, and_true]
    exact ⟨.text name, .text type⟩

theorem isData_texts {tuples : Bool} {vs : List Value} (h : ∀ v ∈ vs, ∃ s, v = .text s) :
    IsData tuples (.ofList vs) := by
  refine .list 0 fun v hv => ?_
  obtain ⟨s, rfl⟩ := h v hv
  exact .text s

theorem keys_entries (d : Descriptor) :
    d.entries.map Prod.fst =
      ["name", "fields", "defaults", "required", "nullable", "version"].map Value.text := rfl

theorem nodup_keys_entries (d : Descriptor) : (d.entries.map Prod.fst).Nodup := by
  rw [keys_entries]
  exact List.Nodup.map (fun _ _ => Value.text.inj) (by decide)

/-- A descriptor written as a mapping is data if its parts are. -/
theorem isData_toValue_of_parts {d : Descriptor} {tuples : Bool} (hname : IsData tuples d.name)
    (hdefaults : IsData tuples (.mapping d.defaults))
    (hrequired : ∀ v ∈ d.required, ∃ s, v = .text s)
    (hnullable : ∀ v ∈ d.nullable, ∃ s, v = .text s)
    (hversion : Numeral.isWritable d.version = true) :
    IsData tuples d.toValue := by
  refine .mapping ?_ d.nodup_keys_entries ?_
  · simp [entries]
  · simp only [entries, List.forall_mem_cons, List.not_mem_nil, false_implies, implies_true,
      and_true]
    refine ⟨hname, .list 0 ?_, hdefaults, isData_texts hrequired, isData_texts hnullable,
      .int hversion⟩
    intro v hv
    obtain ⟨p, -, rfl⟩ := List.mem_map.1 hv
    exact isData_field tuples p.1 p.2

/-- A descriptor written as a mapping is data if its defaults are. -/
theorem isData_toValue {d : Descriptor} (h : d.IsPlain) {tuples : Bool}
    (hdefaults : IsData tuples (.mapping d.defaults)) : IsData tuples d.toValue := by
  obtain ⟨s, hs⟩ := h.name
  exact isData_toValue_of_parts (hs ▸ .text s) hdefaults h.required h.nullable h.version

theorem same_field_iff {p q : String × String} :
    Same (.mapping [(.text "name", .text p.1), (.text "type", .text p.2)])
      (.mapping [(.text "name", .text q.1), (.text "type", .text q.2)]) ↔ p = q := by
  rw [same_mapping_iff (by rfl) (by simp)]
  simp [same_text_iff, Prod.ext_iff]

theorem forall₂_same_fields_iff {ps qs : List (String × String)} :
    List.Forall₂ Same
      (ps.map fun p => .mapping [(.text "name", .text p.1), (.text "type", .text p.2)])
      (qs.map fun p => .mapping [(.text "name", .text p.1), (.text "type", .text p.2)]) ↔
        ps = qs := by
  rw [List.forall₂_map_left_iff, List.forall₂_map_right_iff]
  simp only [same_field_iff]
  rw [List.forall₂_eq_eq_eq]

/-- Descriptors of data are the same mapping exactly if they agree in every part. -/
theorem same_toValue_iff {d e : Descriptor} (hd : d.IsPlain) (he : e.IsPlain) :
    Same d.toValue e.toValue ↔
      d.name = e.name ∧ d.fields = e.fields ∧ Same (.mapping d.defaults) (.mapping e.defaults) ∧
        d.required = e.required ∧ d.nullable = e.nullable ∧ d.version = e.version := by
  obtain ⟨s, hs⟩ := hd.name
  obtain ⟨t, ht⟩ := he.name
  rw [toValue, toValue, same_mapping_iff (d.keys_entries.trans e.keys_entries.symm)
    d.nodup_keys_entries]
  simp only [entries, List.forall₂_cons, List.forall₂_nil_left_iff, and_true, hs, ht, same_text_iff,
    same_int_iff, same_ofList_iff, forall₂_same_fields_iff,
    forall₂_same_text_iff hd.required, forall₂_same_text_iff hd.nullable,
    Value.text.injEq]

/-- What is hashed is the canonical text. -/
theorem hash_of_canonical {d : Descriptor} {text : String}
    (h : Json.canonical d.toValue = .ok text) :
    d.hash = .ok (Sha256.hex (Utf8.encodeText text)) := by
  rw [hash, fingerprint, ← toValue, h, ok_bind]
  rfl

end Descriptor

/-- **The canonical text is a complete invariant.** Data have a canonical text, and two of them have
the same one exactly if they are the same value up to the order of entries and up to list versus
tuple. In particular a descriptor of data is hashed by a text of its own: the texts of two of them
are equal exactly if the descriptors agree in name, fields in order, defaults, required and nullable
names, and version. -/
theorem canonical_complete :
    (∀ v w : Value, IsData true v → IsData true w →
      (∃ text, Json.canonical v = .ok text) ∧
        (Json.canonical v = Json.canonical w ↔ Same v w)) ∧
      ∀ d e : Descriptor, d.IsPlain → e.IsPlain →
        (∃ text, Json.canonical d.toValue = .ok text ∧
          d.hash = .ok (Sha256.hex (Utf8.encodeText text))) ∧
        (Json.canonical d.toValue = Json.canonical e.toValue ↔
          d.name = e.name ∧ d.fields = e.fields ∧
            Same (.mapping d.defaults) (.mapping e.defaults) ∧
            d.required = e.required ∧ d.nullable = e.nullable ∧ d.version = e.version) := by
  refine ⟨fun v w hv hw => ⟨Json.exists_canonical hv, Json.canonical_eq_iff hv hw⟩,
    fun d e hd he => ?_⟩
  have hdata := Descriptor.isData_toValue hd hd.defaults
  have hdata' := Descriptor.isData_toValue he he.defaults
  obtain ⟨text, htext⟩ := Json.exists_canonical hdata
  refine ⟨⟨text, htext, Descriptor.hash_of_canonical htext⟩, ?_⟩
  rw [Json.canonical_eq_iff hdata hdata', Descriptor.same_toValue_iff hd he]

/-- The order of entries and what is a tuple are not in the text; a truth value is not a number, and
another type is another text. -/
theorem canonical_complete_instances :
    Json.canonical (.mapping [(.text "b", .tuple [.int 1]), (.text "a", .bool true)]) =
        Json.canonical (.mapping [(.text "a", .bool true), (.text "b", .list 0 [.int 1])]) ∧
      Json.canonical (.int 1) ≠ Json.canonical (.bool true) ∧
      Json.canonical
          (Descriptor.toValue ⟨.text "P", [("a", "int")], [(.text "a", .int 1)], [], [], 1⟩) ≠
        Json.canonical
          (Descriptor.toValue ⟨.text "P", [("a", "str")], [(.text "a", .int 1)], [], [], 1⟩) := by
  have hwritable : Numeral.isWritable 1 = true := by decide
  have hone : ∀ v ∈ [Value.int 1], IsData true v := by
    intro v hv
    rw [List.mem_singleton.1 hv]
    exact .int hwritable
  have hv : IsData true (.mapping [(.text "b", .tuple [.int 1]), (.text "a", .bool true)]) := by
    refine .mapping (by simp) (by simp) ?_
    simpa using ⟨IsData.tuple rfl hone, IsData.bool true⟩
  have hw : IsData true (.mapping [(.text "a", .bool true), (.text "b", .list 0 [.int 1])]) := by
    refine .mapping (by simp) (by simp) ?_
    simpa using ⟨IsData.bool true, IsData.list 0 hone⟩
  have hplain (type : String) :
      Descriptor.IsPlain ⟨.text "P", [("a", type)], [(.text "a", .int 1)], [], [], 1⟩ := by
    refine ⟨⟨"P", rfl⟩, .mapping (by simp) (by simp) ?_, by simp, by simp, hwritable⟩
    simpa using hone
  refine ⟨((canonical_complete.1 _ _ hv hw).2).2 ?_, fun h => ?_, fun h => ?_⟩
  · refine .mapping (List.Perm.swap ..) ?_
    have hitems : Same (.tuple [.int 1]) (.list 0 [.int 1]) :=
      .of_forall₂ rfl rfl (.cons (.int 1) .nil)
    simpa using ⟨hitems, Same.bool true⟩
  · have hsame := ((canonical_complete.1 _ _ (hone _ (by simp)) (.bool true)).2).1 h
    cases hsame with
    | sequence left _ _ _ => cases left
  · have hfields := (((canonical_complete.2 _ _ (hplain _) (hplain _)).2).1 h).2.1
    simp at hfields

end RecordSchema
