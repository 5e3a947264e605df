import RecordSchema.Proofs.Descriptor.Canonical
import RecordSchema.Proofs.Names
import RecordSchema.Proofs.Value.Contents

/-!
# Reading a descriptor back

Defaults without floating-point numbers become data when they are made plain (`isData_plain`). A
descriptor of data is read back from every mapping that has the same under its keys, in whatever
order, and whatever stands under other keys (`exists_ofValue`): name, fields in order, required and
nullable names and version come back as they were, and the defaults as the same mapping. So the
descriptor read is equal to the one written, and it has the same fingerprint.
-/

set_option autoImplicit false

namespace RecordSchema

open RecordSchema.Text Value

namespace Value

/-! ## Plain values -/

/-- Is a value neither a number that may not come back nor made up of values that count? -/
def isPrinted : Value → Bool
  | .int _ | .real _ | .list .. | .tuple _ | .mapping _ => false
  | _ => true

/-- Induction into the values that the plain form of a value is made of. -/
@[elab_as_elim]
theorem induction_on_parts {motive : Value → Prop} (int : ∀ n, motive (.int n))
    (real : ∀ x, motive (.real x))
    (list : ∀ label items, (∀ v ∈ items, motive v) → motive (.list label items))
    (tuple : ∀ items, (∀ v ∈ items, motive v) → motive (.tuple items))
    (mapping : ∀ entries, (∀ e ∈ entries, motive e.2) → motive (.mapping entries))
    (printed : ∀ v, isPrinted v = true → motive v) (v : Value) : motive v := by
  -- Values are split as they are for their contents.
  refine contents.induct motive (fun _ => True) (fun entries => ∀ e ∈ entries, motive e.2)
    (fun items => ∀ v ∈ items, motive v) list tuple mapping ?_ ?_ nofun ?_ nofun ?_ trivial ?_ v
  · exact fun _ _ _ _ => printed _ rfl
  · intro v hlist htuple hmapping _
    cases v with
    | int n => exact int n
    | real x => exact real x
    | list label items => exact (hlist label items rfl).elim
    | tuple items => exact (htuple items rfl).elim
    | mapping entries => exact (hmapping entries rfl).elim
    | _ => exact printed _ rfl
  · exact fun v items hv hitems => List.forall_mem_cons.2 ⟨hv, hitems⟩
  · exact fun k v entries hv hentries => List.forall_mem_cons.2 ⟨hv, hentries⟩
  · exact fun _ _ _ _ _ => trivial

/-- A value that holds no floating-point number and no integer of too many digits; the keys of
mappings are distinct. -/
inductive IsStorable : Value → Prop where
  | int {n : Int} (writable : Numeral.isWritable n = true) : IsStorable (.int n)
  | list (label : Nat) {items : List Value} (each : ∀ v ∈ items, IsStorable v) :
      IsStorable (.list label items)
  | tuple {items : List Value} (each : ∀ v ∈ items, IsStorable v) : IsStorable (.tuple items)
  | mapping {entries : List (Value × Value)} (distinct : (entries.map Prod.fst).Nodup)
      (each : ∀ e ∈ entries, IsStorable e.2) : IsStorable (.mapping entries)
  /-- Anything else is kept or written as its printed form. -/
  | other {v : Value} (printed : v.isPrinted = true) : IsStorable v

theorem plainAll_eq_map (items : List Value) : plainAll items = items.map plain := by
  induction items with
  | nil => rfl
  | cons v items ih => rw [plainAll, ih, List.map_cons]

theorem plainEntries_eq_map (entries : List (Value × Value)) :
    plainEntries entries = entries.map fun e => (e.1, plain e.2) := by
  induction entries with
  | nil => rfl
  | cons e entries ih => rw [plainEntries, ih, List.map_cons]

/-- What is not made up of values is kept or becomes a text. -/
theorem plain_of_isPrinted {v : Value} (h : v.isPrinted = true) :
    v = .none ∨ (∃ b, v = .bool b) ∨ ∃ s, plain v = .text s := by
  cases v with
  | int _ | real _ | list _ _ | tuple _ | mapping _ => cases h
  | none => exact .inl rfl
  | bool b => exact .inr (.inl ⟨b, rfl⟩)
  | _ => exact .inr (.inr ⟨_, rfl⟩)

theorem isData_plainAll {items : List Value} (h : ∀ v ∈ items, IsData false (plain v)) :
    IsData false (.ofList (plainAll items)) := by
  refine .list 0 fun v hv => ?_
  rw [plainAll_eq_map] at hv
  obtain ⟨item, hitem, rfl⟩ := List.mem_map.1 hv
  exact h item hitem

theorem exists_text_of_all {entries : List (Value × Value)}
    (h : entries.all (fun e => match e.1 with | .text _ => true | _ => false) = true) :
    ∀ e ∈ entries, ∃ s, e.1 = .text s := by
  intro e he
  have htext := List.all_eq_true.1 h e he
  split at htext
  · next s hs => exact ⟨s, hs⟩
  · cases htext

theorem all_isText {entries : List (Value × Value)} (h : ∀ e ∈ entries, ∃ s, e.1 = .text s) :
    entries.all (fun e => match e.1 with | .text _ => true | _ => false) = true := by
  apply List.all_eq_true.2
  intro e he
  obtain ⟨s, hs⟩ := h e he
  rw [hs]

/-- A mapping from texts stays one. -/
theorem plain_mapping_of_texts {entries : List (Value × Value)}
    (h : ∀ e ∈ entries, ∃ s, e.1 = .text s) :
    plain (.mapping entries) = .mapping (entries.map fun e => (e.1, plain e.2)) := by
  rw [plain, ← plainEntries_eq_map]
  exact if_pos (all_isText h)

/-- What is made plain is data. -/
theorem isData_plain {v : Value} (h : v.IsStorable) : IsData false (plain v) := by
  induction h with
  | int writable => exact .int writable
  | list _ _ ih => exact isData_plainAll ih
  | tuple _ ih => exact isData_plainAll ih
  | @mapping entries distinct _ ih =>
    rw [plain]
    -- With texts as keys it stays a mapping; otherwise it is printed.
    split
    · next htexts =>
      rw [plainEntries_eq_map]
      refine .mapping ?_ ?_ ?_
      · intro e he
        obtain ⟨e', he', rfl⟩ := List.mem_map.1 he
        exact exists_text_of_all htexts e' he'
      · rw [List.map_map]
        exact distinct
      · intro e he
        obtain ⟨e', he', rfl⟩ := List.mem_map.1 he
        exact ih e' he'
    · exact .text _
  | other printed =>
    rcases plain_of_isPrinted printed with rfl | ⟨b, rfl⟩ | ⟨s, hs⟩
    · exact .none
    · exact .bool b
    · rw [hs]
      exact .text s

/-! ## Printed forms -/

theorem printFaultIn_eq_none_iff {items : List Value} :
    printFaultIn items = Option.none ↔ ∀ v ∈ items, v.printFault? = Option.none := by
  induction items with
  | nil => simp [printFaultIn]
  | cons v items ih => rw [printFaultIn, Option.or_eq_none_iff, ih, List.forall_mem_cons]

theorem printFaultInEntries_eq_none_iff {entries : List (Value × Value)} :
    printFaultInEntries entries = Option.none ↔
      ∀ e ∈ entries, e.1.printFault? = Option.none ∧ e.2.printFault? = Option.none := by
  induction entries with
  | nil => simp [printFaultInEntries]
  | cons e entries ih =>
    rw [printFaultInEntries, Option.or_eq_none_iff, Option.or_eq_none_iff, ih,
      List.forall_mem_cons]

/-- Data can be printed. -/
theorem IsData.printFault?_eq_none {tuples : Bool} {v : Value} (h : IsData tuples v) :
    v.printFault? = Option.none := by
  induction h with
  | none | bool _ | text _ => rfl
  | int writable => rw [printFault?, if_pos writable]
  | list _ _ ih => exact printFaultIn_eq_none_iff.2 ih
  | tuple _ _ ih => exact printFaultIn_eq_none_iff.2 ih
  | mapping texts _ _ ih =>
    refine printFaultInEntries_eq_none_iff.2 fun e he => ⟨?_, ih e he⟩
    obtain ⟨s, hs⟩ := texts e he
    rw [hs]
    rfl

theorem IsData.displayed_eq {tuples : Bool} {v : Value} (h : IsData tuples v) :
    v.displayed = .ok v.display := by
  rw [displayed, h.printFault?_eq_none]

/-! ## The same under a key -/

theorem lookupText_of_mem {entries : List (Value × Value)}
    (htexts : ∀ e ∈ entries, ∃ s, e.1 = .text s) (hnodup : (entries.map Prod.fst).Nodup)
    {key : String} {v : Value} (h : (.text key, v) ∈ entries) :
    lookupText key entries = some v := by
  have hsome : (entries.find? fun e => alike (.text key) e.1).isSome = true :=
    List.find?_isSome.2 ⟨_, h, by simp⟩
  obtain ⟨e, he⟩ := Option.isSome_iff_exists.1 hsome
  have hmem := List.mem_of_find?_eq_some he
  obtain ⟨s, hs⟩ := htexts e hmem
  have halike : alike (.text key) e.1 = true := by simpa using List.find?_some he
  rw [hs, alike_text, beq_iff_eq] at halike
  have heq : e = (.text key, v) := List.inj_on_of_nodup_map hnodup hmem h (by rw [hs, halike])
  rw [lookupText, lookupKey, he, heq, Option.map_some]

/-- What is the same as a mapping has the same under each key. -/
theorem lookupText_of_same {xs ys : List (Value × Value)} (h : Same (.mapping xs) (.mapping ys))
    (hys : IsData false (.mapping ys)) {key : String} {v : Value} (hv : (.text key, v) ∈ xs) :
    ∃ w, lookupText key ys = some w ∧ Same v w ∧ IsData false w := by
  cases hys with
  | mapping texts distinct each =>
    cases h with
    | sequence left _ _ _ => cases left
    | mapping keys under =>
      obtain ⟨y, hy, hkey⟩ := List.mem_map.1 (keys.mem_iff.1 (List.mem_map_of_mem hv))
      have hy' : (.text key, y.2) ∈ ys := by
        rw [show (Value.text key, y.2) = y from Prod.ext hkey.symm rfl]
        exact hy
      exact ⟨y.2, lookupText_of_mem texts distinct hy', under _ hv y hy hkey.symm, each y hy⟩

/-- What is the same as a mapping is one. -/
theorem exists_mapping_of_same {xs : List (Value × Value)} {w : Value}
    (h : Same (.mapping xs) w) : ∃ ys, w = .mapping ys := by
  cases h with
  | sequence left _ _ _ => cases left
  | @mapping _ ys _ _ => exact ⟨ys, rfl⟩

/-- What is the same as a list, without tuples, is a list of the same items. -/
theorem exists_list_of_same {xs : List Value} {w : Value} (h : Same (.ofList xs) w)
    (hw : IsData false w) :
    ∃ label ys, w = .list label ys ∧ List.Forall₂ Same xs ys ∧ ∀ y ∈ ys, IsData false y := by
  cases h with
  | sequence left right length items =>
    obtain rfl := Option.some.inj left
    cases hw with
    | @list label ys each =>
      obtain rfl := Option.some.inj right
      exact ⟨label, ys, rfl, forall₂_of_zip length items, each⟩
    | tuple allowed _ => cases allowed
    | none | bool _ | int _ | text _ | mapping _ _ _ => cases right

end Value

namespace Descriptor

/-! ## Reading -/

/-- A descriptor that agrees with another in every part, with the same defaults. -/
structure Agrees (d d' : Descriptor) : Prop where
  name : d'.name = d.name
  fields : d'.fields = d.fields
  defaults : Same (.mapping d.defaults) (.mapping d'.defaults)
  required : d'.required = d.required
  nullable : d'.nullable = d.nullable
  version : d'.version = d.version

/-- What is the same as a listed field is read as that field. -/
theorem read_field {p : String × String} {w : Value}
    (h : Same (.mapping [(.text "name", .text p.1), (.text "type", .text p.2)]) w)
    (hw : IsData false w) :
    w.member "name" = .ok (.text p.1) ∧ w.member "type" = .ok (.text p.2) := by
  obtain ⟨ys, rfl⟩ := exists_mapping_of_same h
  obtain ⟨name, hname, hsame, -⟩ := lookupText_of_same h hw (List.mem_cons_self ..)
  obtain ⟨type, htype, hsame', -⟩ :=
    lookupText_of_same h hw (List.mem_cons_of_mem _ (List.mem_cons_self ..))
  rw [eq_text_of_same hsame] at hname
  rw [eq_text_of_same hsame'] at htype
  simp [member, hname, htype]

/-- Fields that are listed are read one by one. -/
theorem read_fields {ps : List (String × String)} {ys : List Value}
    (h : List.Forall₂ Same
      (ps.map fun p => .mapping [(.text "name", .text p.1), (.text "type", .text p.2)]) ys)
    (hys : ∀ y ∈ ys, IsData false y) :
    (ys.mapM fun f => do
      return (← (← f.member "name").displayed, ← (← f.member "type").displayed) :
        Except Refusal (List (String × String))) = .ok ps := by
  rw [List.forall₂_map_left_iff] at h
  refine mapM_eq_ok_iff.2 ((forall₂_and_right h hys).flip.imp fun y p hy => ?_)
  obtain ⟨hname, htype⟩ := read_field hy.1 hy.2
  rw [hname, htype]
  rfl

/-- What a mapping is read as, part by part. -/
theorem ofValue_of_parts {entries : List (Value × Value)} {n : Value} {name : String}
    {listed required nullable : List Value} {fields : List (String × String)}
    {defaults : List (Value × Value)} {version : Int}
    (hname : lookupText "name" entries = some n) (hshown : n.displayed = .ok name) {label : Nat}
    (hlisted : lookupText "fields" entries = some (.list label listed))
    (hfields : (listed.mapM fun f => do
      return (← (← f.member "name").displayed, ← (← f.member "type").displayed) :
        Except Refusal (List (String × String))) = .ok fields)
    (hnodup : (fields.map Prod.fst).Nodup)
    (hdefaults : lookupText "defaults" entries = some (.mapping defaults)) {label' : Nat}
    (hrequired : lookupText "required" entries = some (.list label' required)) {label'' : Nat}
    (hnullable : lookupText "nullable" entries = some (.list label'' nullable))
    (hversion : lookupText "version" entries = some (.int version)) :
    ofValue (.mapping entries) =
      .ok ⟨.text name, fields, defaults, required, nullable, version⟩ := by
  have hput : Schema.putAll [] fields = fields := Schema.putAll_of_nodup hnodup
  have hmember : (Value.mapping entries).member "name" = .ok n := by
    rw [member, hname]
    rfl
  unfold ofValue
  simp only [hmember, hshown, hlisted, hdefaults, hrequired, hnullable, hversion, Option.getD_some,
    ok_bind, elements, hfields, toEntries, toInteger, hput]
  rfl

/-- A descriptor is read from data that are the same as it, whatever else is there: with the same
parts, the defaults as they stand there, and the printed form of the name. -/
theorem exists_ofValue_of_parts {d : Descriptor} (hrequired : ∀ v ∈ d.required, ∃ s, v = .text s)
    (hnullable : ∀ v ∈ d.nullable, ∃ s, v = .text s) {more : List (Value × Value)}
    (hfields : (d.fields.map Prod.fst).Nodup) {e : Value}
    (hsame : Same (.mapping (d.entries ++ more)) e) (he : IsData false e) :
    ∃ n defaults, Same d.name n ∧ e.member "defaults" = .ok (.mapping defaults) ∧
      ofValue e =
        .ok ⟨.text n.display, d.fields, defaults, d.required, d.nullable, d.version⟩ ∧
      Same (.mapping d.defaults) (.mapping defaults) ∧ IsData false (.mapping defaults) := by
  obtain ⟨ys, rfl⟩ := exists_mapping_of_same hsame
  -- Under each key stands what is the same as the part that was written there.
  have hpart {key : String} {v : Value} (hv : (.text key, v) ∈ d.entries) :=
    lookupText_of_same hsame he (List.mem_append_left more hv)
  obtain ⟨n, hname, hsname, hdname⟩ : ∃ w, lookupText "name" ys = some w ∧ Same d.name w ∧ _ :=
    hpart (by simp [entries])
  obtain ⟨_, hlisted, hslisted, hdlisted⟩ : ∃ w, lookupText "fields" ys = some w ∧
      Same (.ofList (d.fields.map fun p =>
        .mapping [(.text "name", .text p.1), (.text "type", .text p.2)])) w ∧ IsData false w :=
    hpart (by simp [entries])
  obtain ⟨_, hdefaults, hsdefaults, hddefaults⟩ :
      ∃ w, lookupText "defaults" ys = some w ∧ Same (.mapping d.defaults) w ∧ IsData false w :=
    hpart (by simp [entries])
  obtain ⟨_, hrequired', hsrequired, hdrequired⟩ :
      ∃ w, lookupText "required" ys = some w ∧ Same (.ofList d.required) w ∧ IsData false w :=
    hpart (by simp [entries])
  obtain ⟨_, hnullable', hsnullable, hdnullable⟩ :
      ∃ w, lookupText "nullable" ys = some w ∧ Same (.ofList d.nullable) w ∧ IsData false w :=
    hpart (by simp [entries])
  obtain ⟨_, hversion, hsversion, -⟩ :
      ∃ w, lookupText "version" ys = some w ∧ Same (.int d.version) w ∧ IsData false w :=
    hpart (by simp [entries])
  obtain ⟨_, listed, rfl, hforall, heach⟩ := exists_list_of_same hslisted hdlisted
  obtain ⟨defaults, rfl⟩ := exists_mapping_of_same hsdefaults
  obtain ⟨_, required, rfl, hsrequired, -⟩ := exists_list_of_same hsrequired hdrequired
  obtain ⟨_, nullable, rfl, hsnullable, -⟩ := exists_list_of_same hsnullable hdnullable
  obtain rfl := eq_int_of_same hsversion
  obtain rfl := (forall₂_same_text_iff hrequired).1 hsrequired
  obtain rfl := (forall₂_same_text_iff hnullable).1 hsnullable
  refine ⟨n, defaults, hsname, ?_, ?_, hsdefaults, hddefaults⟩
  · rw [member, hdefaults]
    rfl
  · exact ofValue_of_parts hname hdname.displayed_eq hlisted (read_fields hforall heach) hfields
      hdefaults hrequired' hnullable' hversion

/-- A descriptor of data is read from what is the same as it, whatever else is there. -/
theorem exists_ofValue {d : Descriptor} (hd : d.IsPlain) (hfields : (d.fields.map Prod.fst).Nodup)
    {more : List (Value × Value)} {e : Value} (hsame : Same (.mapping (d.entries ++ more)) e)
    (he : IsData false e) :
    ∃ d', ofValue e = .ok d' ∧ d.Agrees d' ∧ d'.IsPlain ∧ IsData false (.mapping d'.defaults) := by
  obtain ⟨title, htitle⟩ := hd.name
  obtain ⟨n, defaults, hname, -, hread, hsdefaults, hddefaults⟩ :=
    exists_ofValue_of_parts hd.required hd.nullable hfields hsame he
  rw [htitle] at hname
  obtain rfl := eq_text_of_same hname
  refine ⟨_, hread, ⟨htitle.symm, rfl, hsdefaults, rfl, rfl, rfl⟩, ?_, hddefaults⟩
  exact ⟨⟨title, rfl⟩, hddefaults.weaken, hd.required, hd.nullable, hd.version⟩

/-- Descriptors that agree are equal. -/
theorem Agrees.equal {d d' : Descriptor} (h : d.Agrees d') (hd : d.IsPlain)
    (hfields : (d.fields.map Prod.fst).Nodup) (hdefaults : IsData false (.mapping d.defaults))
    (hdefaults' : IsData false (.mapping d'.defaults)) : d'.equal d = true := by
  have hself {v : Value} (hv : IsData false v) : alike v v = true := by
    simp [alike, (Same.refl hv).equal hv hv]
  obtain ⟨s, hs⟩ := hd.name
  have hname : alike (.text s) (.text s) = true := hself (.text s)
  -- The fields are compared as a mapping from their names to their types.
  have hlisted : IsData false (.mapping (d.fields.map fun p => (.text p.1, .text p.2))) := by
    refine .mapping ?_ ?_ ?_
    · intro e he
      obtain ⟨p, -, rfl⟩ := List.mem_map.1 he
      exact ⟨p.1, rfl⟩
    · rw [List.map_map]
      have htexts := hfields.map (f := Value.text) fun _ _ => Value.text.inj
      rwa [List.map_map] at htexts
    · intro e he
      obtain ⟨p, -, rfl⟩ := List.mem_map.1 he
      exact .text p.2
  have hsame : alike (.mapping d'.defaults) (.mapping d.defaults) = true := by
    simp [alike, h.defaults.symm.equal hdefaults' hdefaults]
  unfold Descriptor.equal
  rw [h.name, h.fields, h.required, h.nullable, h.version, hs, hname, hself hlisted, hsame,
    hself (isData_texts hd.required), hself (isData_texts hd.nullable)]
  simp

/-- The fingerprint hangs on the canonical text alone. -/
theorem hash_eq_of_canonical {d d' : Descriptor}
    (h : Json.canonical d.toValue = Json.canonical d'.toValue) : d.hash = d'.hash := by
  unfold hash fingerprint
  rw [← toValue, ← toValue, h]

/-- Descriptors of data that agree have one fingerprint. -/
theorem Agrees.hash_eq {d d' : Descriptor} (h : d.Agrees d') (hd : d.IsPlain) (hd' : d'.IsPlain) :
    d'.hash = d.hash := by
  have hsame : Same d.toValue d'.toValue :=
    (same_toValue_iff hd hd').2 ⟨h.name.symm, h.fields.symm, h.defaults, h.required.symm,
      h.nullable.symm, h.version.symm⟩
  exact hash_eq_of_canonical ((Json.canonical_eq_iff (isData_toValue hd hd.defaults)
    (isData_toValue hd' hd'.defaults)).2 hsame).symm

end Descriptor

end RecordSchema
