import RecordSchema.Proofs.Descriptor.Fingerprint
import RecordSchema.Proofs.Document.Loading
import RecordSchema.Proofs.Files.Writing
import RecordSchema.Proofs.Record.Making
import RecordSchema.Proofs.Text.Utf8

/-!
# Exporting and loading again

The bundle of the descriptors of schemas is written as JSON and can be loaded as a document
(`Descriptor.reload`). What is loaded is equal to the bundle, and each of its entries is read as a
descriptor that is equal to that of the schema, with the fields in the order of their declaration
and with the fingerprint that stands in the entry.
-/

set_option autoImplicit false

namespace RecordSchema

open RecordSchema.Text Value

/-! ## Documents that are texts of data -/

theorem unifyLines_of_plain {cs : List Char} (h : '\r' ∉ cs) : unifyLines cs = cs := by
  fun_induction unifyLines cs with
  | case1 | case2 => exact absurd (List.mem_cons_self ..) h
  | case3 c rest _ _ ih => rw [ih fun hr => h (List.mem_cons_of_mem c hr)]
  | case4 => rfl

/-- A text of a value, with blanks behind it, is read as that value. -/
theorem Json.decode_append {cs blanks : List Char} {v : Value} (h : Json.Denotes cs v)
    (hblanks : Json.Gap blanks) : Json.decode (cs ++ blanks) = .ok v := by
  obtain ⟨c, tail, rfl, hc⟩ := h.begins
  have hblank := (Json.not_blank_of_mem_starters c hc).1
  have hmark : c ≠ '\uFEFF' := by
    rintro rfl
    exact absurd hc (by decide)
  have hgap : Json.Gap [] := fun _ hd => absurd hd List.not_mem_nil
  -- Nothing is skipped before the text, and all that stands behind it.
  have hskip : Json.skipBlanks (c :: tail ++ blanks) = c :: tail ++ blanks :=
    Json.skipBlanks_gap hgap hblank
  have hends : Json.Ends blanks := by
    cases blanks with
    | nil => exact Json.ends_nil
    | cons b rest =>
      refine Json.ends_cons rest ?_
      rcases hblanks b (List.mem_cons_self ..) with rfl | rfl <;> decide
  have hrest : Json.skipBlanks blanks = [] := by
    unfold Json.skipBlanks
    rw [List.dropWhile_eq_nil_iff]
    intro b hb
    rcases hblanks b hb with rfl | rfl <;> rfl
  have hread := h.reads (2 * (c :: tail ++ blanks).length + 2) blanks (by simp; omega) hends
  unfold Json.decode
  split
  · next heq => exact absurd (List.cons.inj heq).1 hmark
  · rw [hskip, hread, ok_bind]
    simp only [hrest]
    rfl

/-- A text of a value on a line of its own is read as that value. -/
theorem Json.decode_line {cs : List Char} {v : Value} (h : Json.Denotes cs v) :
    Json.decode (cs ++ ['\n']) = .ok v := Json.decode_append h (by simp [Json.Gap])

namespace Document

theorem ofSuffix_json {suffix : String} (h : lower suffix = ".json") :
    Format.ofSuffix? suffix = some .json := by
  unfold Format.ofSuffix?
  rw [h]
  rfl

/-- A mapping that is written as JSON is loaded again. -/
theorem load_of_writeText {files files' : FileTree} {path text : String} {w : Written}
    {entries : List (Value × Value)} (hpath : lower (Path.ofText path).suffix = ".json")
    (htext : Json.Denotes text.toList (.mapping entries))
    (hwrite : files.writeText path (text ++ "\n") = (files', .ok w)) :
    load files' path = .ok (.mapping entries) := by
  have hread := FileTree.read_of_writeText hwrite
  have husable := (FileTree.path_of_writeText hwrite).1
  have hdecode : Json.decode (unifyLines (text ++ "\n").toList) = .ok (.mapping entries) := by
    -- Without a carriage return in it, the text is read by lines as it was written.
    have hplain : '\r' ∉ (text ++ "\n").toList := by
      simpa using htext.plain
    rw [unifyLines_of_plain hplain, String.toList_append]
    exact Json.decode_line htext
  unfold load
  simp only [ofSuffix_json hpath, husable, hread]
  have hvalue : Document.read .json (Path.ofText path).text (Utf8.encodeText (text ++ "\n")) =
      .ok (.mapping entries) := by
    unfold Document.read
    rw [Utf8.encodeText, Utf8.decode?_encode]
    simp only [hdecode]
  rw [hvalue]
  rfl

end Document

/-! ## Schemas from blocks -/

/-- A schema that a block under a text has given. -/
def Schema.IsEmitted (s : Schema) : Prop :=
  ∃ title strict policy calls,
    ((Builder.new (.text title) strict policy).after calls).reply .build = .ok (.schema s)

theorem Schema.IsEmitted.named {s : Schema} (h : s.IsEmitted) :
    (∃ title, s.name = .text title) ∧ s.keys.Nodup := by
  obtain ⟨title, strict, policy, calls, h⟩ := h
  obtain ⟨rfl, hname, hkeeps⟩ := Builder.keeps_of_build h
  exact ⟨⟨title, hname⟩, hkeeps.keys_nodup⟩

/-- What is listed for each field has the keys of the schema. -/
theorem Schema.keys_putAll_fields {s : Schema} (hkeys : s.keys.Nodup) (part : Field → Value) :
    (putAll [] (s.fields.map fun f => (f.name, part f))).map Prod.fst = s.keys := by
  rw [putAll_map_of_nodup hkeys, List.map_map]
  rfl

namespace Descriptor

/-- The fields are described under the keys of the schema. -/
theorem keys_fields_ofSchema {s : Schema} (hkeys : s.keys.Nodup) :
    (ofSchema s).fields.map Prod.fst = s.keys := by
  have htypes : s.types.map Prod.fst = s.keys := Schema.keys_putAll_fields hkeys Field.effective
  rw [← htypes, ofSchema, List.map_map]
  rfl

/-- The defaults are described under the keys, as texts. -/
theorem keys_defaults_ofSchema {s : Schema} (hkeys : s.keys.Nodup) :
    (ofSchema s).defaults.map Prod.fst = s.keys.map Value.text := by
  have hdefaults : s.defaults.map Prod.fst = s.keys := Schema.keys_putAll_fields hkeys Field.initial
  rw [← hdefaults, ofSchema, List.map_map, List.map_map]
  rfl

/-- A descriptor of data with the fields of a schema: what is written of it comes back. -/
structure IsOf (d : Descriptor) (s : Schema) : Prop where
  plain : d.IsPlain
  defaults : IsData false (.mapping d.defaults)
  keys : d.fields.map Prod.fst = s.keys
  distinct : s.keys.Nodup

/-- Storable defaults are described as data. -/
theorem isData_defaults_ofSchema {s : Schema} (hkeys : s.keys.Nodup)
    (h : ∀ p ∈ s.defaults, p.2.IsStorable) : IsData false (.mapping (ofSchema s).defaults) := by
  refine .mapping ?_ ?_ ?_
  · intro e he
    obtain ⟨p, -, rfl⟩ := List.mem_map.1 he
    exact ⟨p.1, rfl⟩
  · rw [keys_defaults_ofSchema hkeys]
    exact hkeys.map fun _ _ => Value.text.inj
  · intro e he
    obtain ⟨p, hp, rfl⟩ := List.mem_map.1 he
    exact isData_plain (h p hp)

theorem forall_mem_texts (names : List String) : ∀ v ∈ names.map Value.text, ∃ s, v = .text s := by
  intro v hv
  obtain ⟨n, -, rfl⟩ := List.mem_map.1 hv
  exact ⟨n, rfl⟩

theorem isOf_ofSchema {s : Schema} (hs : s.IsEmitted) (h : ∀ p ∈ s.defaults, p.2.IsStorable) :
    (ofSchema s).IsOf s := by
  obtain ⟨⟨title, htitle⟩, hkeys⟩ := hs.named
  have hdata := isData_defaults_ofSchema hkeys h
  refine ⟨⟨⟨title, htitle⟩, hdata.weaken, forall_mem_texts _, forall_mem_texts _, ?_⟩, hdata,
    keys_fields_ofSchema hkeys, hkeys⟩
  show Numeral.isWritable 1 = true
  decide

/-! ## Bundles -/

/-- No indentation and indentation by a number leave nothing but spaces between elements. -/
theorem isSpaced_layout {indent : Value} {l : Json.Layout}
    (hindent : indent = .none ∨ (∃ b, indent = .bool b) ∨ ∃ n, indent = .int n)
    (h : layout indent = .ok l) : l.IsSpaced := by
  have hblanks {n : Int} (h : blanks n = .ok l) : l.IsSpaced := by
    unfold blanks at h
    split at h
    · cases h
    · obtain rfl := Except.ok.inj h
      intro c hc
      rw [String.toList_ofList] at hc
      exact List.eq_of_mem_replicate hc
  rcases hindent with rfl | ⟨b, rfl⟩ | ⟨n, rfl⟩
  · obtain rfl := Except.ok.inj h
    exact Json.isSpaced_canonical
  · exact hblanks h
  · exact hblanks h

/-- An entry of a bundle is data. -/
theorem isData_stamped {d : Descriptor} {s : Schema} (hd : d.IsOf s) {e : Value}
    (he : d.stamped = .ok e) : IsData false e := by
  obtain ⟨h, -, rfl⟩ := stamped_eq_ok_iff.1 he
  have hdata := isData_toValue hd.plain hd.defaults
  cases hdata with
  | mapping texts distinct each =>
    refine .mapping ?_ ?_ ?_
    · intro x hx
      rcases List.mem_append.1 hx with hx | hx
      · exact texts x hx
      · exact ⟨"hash", by rw [List.mem_singleton.1 hx]⟩
    · rw [List.map_append, keys_entries]
      -- The fingerprint stands under a key of its own, behind those of the descriptor.
      have hkeys : (["name", "fields", "defaults", "required", "nullable", "version", "hash"].map
          Value.text).Nodup := List.Nodup.map (fun _ _ => Value.text.inj) (by decide)
      exact hkeys
    · intro x hx
      rcases List.mem_append.1 hx with hx | hx
      · exact each x hx
      · rw [List.mem_singleton.1 hx]
        exact .text h

/-- The bundle of descriptors of data is data. -/
theorem isData_bundle {es : List Value} (h : ∀ e ∈ es, IsData false e) :
    IsData false
      (.mapping [(.text "version", .int formatVersion), (.text "structs", .ofList es)]) := by
  refine .mapping (by simp) (by simp) ?_
  simp only [List.forall_mem_cons, List.not_mem_nil, false_implies, implies_true, and_true]
  exact ⟨.int (by decide), .list 0 h⟩

/-- What is the same as an entry is read as a descriptor equal to that of the entry, with the
fingerprint that stands in it. -/
theorem read_stamped {d : Descriptor} {s : Schema} (hd : d.IsOf s) {e e' : Value}
    (he : d.stamped = .ok e) (hsame : Same e e') (he' : IsData false e') :
    ∃ d' h, ofValue e' = .ok d' ∧ d'.equal d = true ∧ d'.fields.map Prod.fst = s.keys ∧
      d'.hash = .ok h ∧ e'.member "hash" = .ok (.text h) := by
  obtain ⟨h, hhash, rfl⟩ := stamped_eq_ok_iff.1 he
  have hfields : (d.fields.map Prod.fst).Nodup := by
    rw [hd.keys]
    exact hd.distinct
  obtain ⟨d', hd', hagrees, hplain, hdefaults⟩ := exists_ofValue hd.plain hfields hsame he'
  refine ⟨d', h, hd', hagrees.equal hd.plain hfields hd.defaults hdefaults, ?_, ?_, ?_⟩
  · rw [hagrees.fields, hd.keys]
  · rw [hagrees.hash_eq hd.plain hplain, hhash]
  · obtain ⟨ys, rfl⟩ := exists_mapping_of_same hsame
    have hmem : (.text "hash", .text h) ∈ d.entries ++ [(Value.text "hash", Value.text h)] :=
      List.mem_append_right _ (List.mem_singleton_self _)
    obtain ⟨_, hlookup, htext, -⟩ := lookupText_of_same hsame he' hmem
    rw [eq_text_of_same htext] at hlookup
    rw [member, hlookup]
    rfl

/-- **Export and reload agree.** When the descriptors of schemas from blocks have been written to a
path of a JSON file, the document at that path is a mapping equal to their bundle. Each of its
entries is read as a descriptor equal to that of its schema, with the fields in the order of their
declaration, and the fingerprint of that descriptor stands in the entry. The defaults must not hold
floating-point numbers or integers of too many digits. -/
theorem reload {files files' : FileTree} {path text : String} {indent : Value}
    {schemas : List Schema} {ds : List Descriptor} {w : Written}
    (hschemas : ∀ s ∈ schemas, s.IsEmitted)
    (hdefaults : ∀ s ∈ schemas, ∀ p ∈ s.defaults, p.2.IsStorable)
    (hindent : indent = .none ∨ (∃ b, indent = .bool b) ∨ ∃ n, indent = .int n)
    (hpath : lower (Path.ofText path).suffix = ".json")
    (hdescribe : schemas.mapM Schema.describe = .ok ds) (htext : bundleText indent ds = .ok text)
    (hwrite : files.writeText path text = (files', .ok w)) :
    ∃ whole loaded label entries, bundle ds = .ok whole ∧ Document.load files' path = .ok loaded ∧
      loaded.equal whole = true ∧ loaded.member "structs" = .ok (.list label entries) ∧
      List.Forall₂ (fun s e => ∃ d d' h, s.describe = .ok d ∧ ofValue e = .ok d' ∧
        d'.equal d = true ∧ d'.fields.map Prod.fst = s.keys ∧ d'.hash = .ok h ∧
        e.member "hash" = .ok (.text h)) schemas entries := by
  obtain ⟨whole, l, body, hwhole, hl, hbody, rfl⟩ := exists_of_bundleText htext
  obtain ⟨es, hes, rfl⟩ := bundle_eq_ok_iff.1 hwhole
  have hof : List.Forall₂ (fun s d => s.describe = .ok d ∧ d.IsOf s) schemas ds := by
    have hall : List.Forall₂ (fun s d => (s.IsEmitted ∧ ∀ p ∈ s.defaults, p.2.IsStorable) ∧
        s.describe = .ok d) schemas ds := (List.forall₂_and_left _ _).2
      ⟨fun s hs => ⟨hschemas s hs, hdefaults s hs⟩, mapM_eq_ok_iff.1 hdescribe⟩
    refine hall.imp fun s d h => ⟨h.2, ?_⟩
    rw [Schema.eq_of_describe h.2]
    exact isOf_ofSchema h.1.1 h.1.2
  have hstamped : List.Forall₂
      (fun s e => ∃ d, s.describe = .ok d ∧ d.IsOf s ∧ d.stamped = .ok e) schemas es :=
    forall₂_chain (fun s d e hd he => ⟨d, hd.1, hd.2, he⟩) hof hes
  have hdata : ∀ e ∈ es, IsData false e := by
    intro e he
    obtain ⟨s, -, d, -, hd, he⟩ := exists_left_of_mem hstamped he
    exact isData_stamped hd he
  -- The whole is data, so its text denotes the same, and that is what is loaded.
  obtain ⟨body', loaded, hbody', hdenotes, hsame, hloaded⟩ :=
    Json.returns_of_isData (isSpaced_layout hindent hl) (isData_bundle hdata) 0
  obtain rfl : body = body' := Except.ok.inj (hbody.symm.trans hbody')
  obtain ⟨parts, rfl⟩ := exists_mapping_of_same hsame
  have hload := Document.load_of_writeText hpath hdenotes hwrite
  obtain ⟨_, hstructs, hlist, hlisted⟩ := lookupText_of_same hsame hloaded
    (List.mem_cons_of_mem _ (List.mem_singleton_self _))
  obtain ⟨label, entries, rfl, hentries, hentry⟩ := exists_list_of_same hlist hlisted
  refine ⟨_, _, label, entries, hwhole, hload, ?_, ?_, ?_⟩
  · exact hsame.symm.equal hloaded (isData_bundle hdata)
  · rw [member, hstructs]
    rfl
  · refine forall₂_chain (fun s e e' hs he => ?_) hstamped (forall₂_and_right hentries hentry)
    obtain ⟨d, hdescribe, hd, he'⟩ := hs
    obtain ⟨d', h, hd', hrest⟩ := read_stamped hd he' he.1 he.2
    exact ⟨d, d', h, hdescribe, hd', hrest⟩

/-- The schema of one whole number, exported without indentation. -/
theorem reload_number :
    Schema.IsEmitted (Builder.oneFieldSchema "n") ∧
    ∃ text files' w whole loaded label entries,
      bundleText .none [ofSchema (Builder.oneFieldSchema "n")] = .ok text ∧
      FileTree.writeText {} "a.json" text = (files', .ok w) ∧
      bundle [ofSchema (Builder.oneFieldSchema "n")] = .ok whole ∧
      Document.load files' "a.json" = .ok loaded ∧ loaded.equal whole = true ∧
      loaded.member "structs" = .ok (.list label entries) ∧ entries.length = 1 := by
  have hemitted : Schema.IsEmitted (Builder.oneFieldSchema "n") :=
    ⟨"P", _, _, _, Builder.build_oneField (by decide +kernel)⟩
  have hstorable : ∀ p ∈ (Builder.oneFieldSchema "n").defaults, p.2.IsStorable :=
    List.forall_mem_singleton.2 (.int (by decide))
  have hdescribe : [Builder.oneFieldSchema "n"].mapM Schema.describe =
      .ok [ofSchema (Builder.oneFieldSchema "n")] := rfl
  obtain ⟨text, htext⟩ :
      ∃ text, bundleText .none [ofSchema (Builder.oneFieldSchema "n")] = .ok text := by
    have hnames : ∀ s ∈ [Builder.oneFieldSchema "n"], ∃ title, s.name = .text title :=
      List.forall_mem_singleton.2 ⟨"P", rfl⟩
    refine (exists_bundleText_iff hnames hdescribe).2 ⟨⟨.canonical, rfl⟩, ?_⟩
    rw [List.forall_mem_singleton, Schema.exists_hash_iff ⟨"P", rfl⟩]
    rintro (hfault | ⟨p, hp, hlong⟩)
    · exact hfault rfl
    · obtain rfl : p = ("n", .int 5) := List.mem_singleton.1 hp
      exact Value.not_holdsLong_int_iff.2 (by decide) hlong
  have hsuffix : lower (Path.ofText "a.json").suffix = ".json" := rfl
  have htarget : FileTree.place {} (Path.ofText "a.json") = .ok ["a.json"] := rfl
  have hbeside : FileTree.place {} ((Path.ofText "a.json").withName
      ((Path.ofText "a.json").name ++ ".tmp")) = .ok ["a.json.tmp"] := rfl
  obtain ⟨files', w, hwrite⟩ :
      ∃ files' w, FileTree.writeText {} "a.json" text = (files', .ok w) :=
    ⟨_, _, FileTree.writeText_of_free "a.json" text (by decide) (by decide)
      (Path.isUnusable_ofText (by decide)) rfl rfl htarget hbeside (by decide) (by decide)⟩
  obtain ⟨whole, loaded, label, entries, hwhole, hloaded, hequal, hmember, hentries⟩ :=
    reload (List.forall_mem_singleton.2 hemitted) (List.forall_mem_singleton.2 hstorable) (.inl rfl)
      hsuffix hdescribe htext hwrite
  exact ⟨hemitted, text, files', w, whole, loaded, label, entries, htext, hwrite, hwhole, hloaded,
    hequal, hmember, hentries.length_eq.symm⟩

end Descriptor

end RecordSchema
