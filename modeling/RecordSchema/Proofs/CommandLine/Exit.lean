import RecordSchema.Proofs.CommandLine.Commands

/-!
# How the program ends

A call that describes or exports a document (`IsCall`) stops for one of the reasons in `Stops` and
`StopsExport`, or ends with code 0 or 2 (`run_outcomes`). The reasons are what the rules of values
refuse on the way: in the settings, in the document, in printing and hashing its schemas, and in the
path of the destination. With code 0 an export has written what it tells (`Exported`); with code 2
it has left what stood at the destination (`Spared`).
-/

set_option autoImplicit false

namespace RecordSchema.CommandLine

open RecordSchema.Text

/-! ## Calls -/

section Calls

variable {files : FileTree} {e : Environment} {path target : String}

/-- A call of the program with a document and a destination. Neither begins with a dash, and no half
of a surrogate pair is escaped in the document: a text with one cannot be encoded, so it could be
neither printed nor hashed. -/
structure IsCall (files : FileTree) (path target : String) : Prop where
  document : IsOperand path
  destination : IsOperand target
  whole : Document.IsWhole files path

/-- A document cannot be described: the settings or the document are refused, or a schema has no
fingerprint. -/
inductive Stops (files : FileTree) (e : Environment) (path : String) : Prop where
  | settings (unsettled : Unsettled files e)
  | document {s : Settings} (settings : (readSettings files e).result = .ok s)
      (refused : Document.Refused s files path)
  | schema {s : Settings} {schemas : List (String × Schema)}
      (settings : (readSettings files e).result = .ok s)
      (loaded : (Document.loadSchemas s files path).result = .ok schemas)
      (unwritten : ∃ p ∈ schemas, p.2.IsUnwritten)

/-- A document cannot be exported: it cannot be described, or the indentation is too wide, or the
destination has no name or a NUL in it. -/
inductive StopsExport (files : FileTree) (e : Environment) (path target : String) : Prop where
  | undescribed (stops : Stops files e path)
  | indent {s : Settings} {schemas : List (String × Schema)} {n : Int}
      (settings : (readSettings files e).result = .ok s)
      (loaded : (Document.loadSchemas s files path).result = .ok schemas)
      (indent_eq : s.indent = .int n) (wide : Word.holds 64 n = false)
  | nameless {s : Settings} {schemas : List (String × Schema)}
      (settings : (readSettings files e).result = .ok s)
      (loaded : (Document.loadSchemas s files path).result = .ok schemas)
      (nameless : (Path.ofText target).name = "" ∨ (Path.ofText target).isUnusable = true)

/-- An outcome with what was said before the settings were known. -/
def withEarlyLines (files : FileTree) (e : Environment) (o : Outcome) : Outcome :=
  { o with complaints := earlyLines (readSettings files e).log ++ o.complaints }

theorem run_describe (hpath : IsOperand path) :
    run ["describe", path] files e = (readSettings files e).result >>= fun s =>
      (describe s files path none).map (withEarlyLines files e) := by
  have hcommand : ∀ s, dispatch s files "describe" [path] = describe s files path none := by
    intro s
    rw [dispatch, if_pos (by rfl), runCommand, request_describe hpath]
  show ((readSettings files e).result >>= fun s => dispatch s files "describe" [path] >>= _) = _
  refine congrArg _ (funext fun s => ?_)
  rw [hcommand]
  cases describe s files path none <;> rfl

theorem run_export (hpath : IsOperand path) (htarget : IsOperand target) :
    run ["export", path, "--out", target] files e = (readSettings files e).result >>= fun s =>
      («export» s files path (some (.text target))).map (withEarlyLines files e) := by
  have hcommand : ∀ s, dispatch s files "export" [path, "--out", target] =
      «export» s files path (some (.text target)) := by
    intro s
    rw [dispatch, if_neg (by decide), if_pos (by rfl), runCommand, request_export hpath htarget]
  show ((readSettings files e).result >>= fun s =>
    dispatch s files "export" [path, "--out", target] >>= _) = _
  refine congrArg _ (funext fun s => ?_)
  rw [hcommand]
  cases «export» s files path (some (.text target)) <;> rfl

/-- A document is described unless something stops that. -/
theorem refusedIff_describe (hpath : IsOperand path) :
    RefusedIff (Stops files e path) (run ["describe", path] files e) := by
  rw [run_describe hpath]
  have hstep : ∀ s, (readSettings files e).result = .ok s → RefusedIff
      (Document.Refused s files path ∨
        ∃ schemas, (Document.loadSchemas s files path).result = .ok schemas ∧
          ∃ p ∈ schemas, p.2.IsUnwritten)
      ((describe s files path none).map (withEarlyLines files e)) := by
    intro s hs
    obtain ⟨policy, hpolicy⟩ := (isRead_of_readSettings hs).exists_namePolicy
    exact ((describes_describe hpolicy).refusedIff hpolicy).map _
  refine ((refusedIff_readSettings files e).bind hstep).congr ?_
  constructor
  · rintro (unsettled | ⟨s, hs, refused | ⟨schemas, loaded, unwritten⟩⟩)
    · exact .settings unsettled
    · exact .document hs refused
    · exact .schema hs loaded unwritten
  · intro h
    cases h with
    | settings unsettled => exact .inl unsettled
    | document hs refused => exact .inr ⟨_, hs, .inl refused⟩
    | schema hs loaded unwritten => exact .inr ⟨_, hs, .inr ⟨_, loaded, unwritten⟩⟩

/-- A document is exported unless something stops that. -/
theorem refusedIff_export (hpath : IsOperand path) (htarget : IsOperand target) :
    RefusedIff (StopsExport files e path target)
      (run ["export", path, "--out", target] files e) := by
  rw [run_export hpath htarget]
  -- What stops an export once there are settings, whatever they are.
  have hstep : ∀ s, (readSettings files e).result = .ok s → RefusedIff
      (Document.Refused s files path ∨
        ∃ schemas, (Document.loadSchemas s files path).result = .ok schemas ∧
          ((∃ p ∈ schemas, p.2.IsUnwritten) ∨ (∃ n, s.indent = .int n ∧ Word.holds 64 n = false) ∨
            (Path.ofText target).name = "" ∨ (Path.ofText target).isUnusable = true))
      ((«export» s files path (some (.text target))).map (withEarlyLines files e)) := by
    intro s hs
    have hread := isRead_of_readSettings hs
    obtain ⟨policy, hpolicy⟩ := hread.exists_namePolicy
    rw [← not_exists_layout_iff hread]
    exact ((exports_export hpolicy).refusedIff hpolicy).map _
  refine ((refusedIff_readSettings files e).bind hstep).congr ?_
  constructor
  · rintro (unsettled | ⟨s, hs, refused |
      ⟨schemas, loaded, unwritten | ⟨n, hn, wide⟩ | nameless⟩⟩)
    · exact .undescribed (.settings unsettled)
    · exact .undescribed (.document hs refused)
    · exact .undescribed (.schema hs loaded unwritten)
    · exact .indent hs loaded hn wide
    · exact .nameless hs loaded nameless
  · intro h
    cases h with
    | undescribed stops =>
      cases stops with
      | settings unsettled => exact .inl unsettled
      | document hs refused => exact .inr ⟨_, hs, .inl refused⟩
      | schema hs loaded unwritten => exact .inr ⟨_, hs, .inr ⟨_, loaded, .inl unwritten⟩⟩
    | indent hs loaded indent_eq wide =>
      exact .inr ⟨_, hs, .inr ⟨_, loaded, .inr (.inl ⟨_, indent_eq, wide⟩)⟩⟩
    | nameless hs loaded nameless =>
      exact .inr ⟨_, hs, .inr ⟨_, loaded, .inr (.inr nameless)⟩⟩

/-- What a call with code 0 has made of a document: the file at the destination holds the bundle of
the schemas of all blocks in order, and under the summary there is a line for each schema with the
fingerprint that stands in its entry. -/
structure Exported (files : FileTree) (e : Environment) (path target : String) (o : Outcome)
    (s : Settings) (schemas : List (String × Schema)) (entries : List Value) : Prop where
  settings : (readSettings files e).result = .ok s
  /-- The schemas are those of the blocks in order; blocks whose names have one text share a
  place. -/
  in_order : ∃ document blocks pairs, Document.load files path = .ok (.mapping document) ∧
    Value.lookupText "structs" document = some (.mapping blocks) ∧
    List.Forall₂ (fun b p => Document.filed s b = .ok p) blocks pairs ∧
    schemas = Schema.putAll [] pairs ∧ ((pairs.map Prod.fst).Nodup → schemas = pairs)
  stamped : List.Forall₂
    (fun p entry => ∃ d, p.2.describe = .ok d ∧ d.stamped = .ok entry) schemas entries
  held : ∃ l body, Descriptor.layout s.indent = .ok l ∧
    Json.encode l (.mapping
      [(.text "version", .int formatVersion), (.text "structs", .ofList entries)]) = .ok body ∧
    o.files.read (Path.ofText target) = .ok (Utf8.encodeText (body ++ "\n"))
  told : ∃ summary lines, o.output = summary :: lines ∧
    List.Forall₂ (fun (p : (String × Schema) × Value) line =>
      ∃ h, p.2.member "hash" = .ok (.text h) ∧
        line = "[INFO] " ++ p.1.2.name.display ++ ": " ++ h) (schemas.zip entries) lines

/-- What a call with code 2 leaves of the files: what stood at the destination still does, and no
file has changed or come to be but the one beside it that would have been moved. -/
structure Spared (files files' : FileTree) (target : String) : Prop where
  destination : ∀ q, files.place (Path.ofText target) = .ok q →
    files'.place (Path.ofText target) = .ok q ∧ files'.at? q = files.at? q
  elsewhere : ∀ q octets,
    files'.place ((Path.ofText target).withName ((Path.ofText target).name ++ ".tmp")) ≠ .ok q →
      (files'.at? q = some (.file octets) ↔ files.at? q = some (.file octets))

theorem Spared.refl (files : FileTree) (target : String) : Spared files files target :=
  ⟨fun _ hq => ⟨hq, rfl⟩, fun _ _ _ => Iff.rfl⟩

theorem spared_of_writeText {files' : FileTree} {text : String} {fault : Error}
    (h : files.writeText target text = (files', .error fault)) : Spared files files' target :=
  ⟨(FileTree.unchanged_of_writeText h).1, (FileTree.unchanged_of_writeText h).2⟩

theorem member_hash {d : Descriptor} {entry : Value} {h : String} (hstamped : d.stamped = .ok entry)
    (hhash : d.hash = .ok h) : entry.member "hash" = .ok (.text h) := by
  obtain ⟨h', hh', rfl⟩ := Descriptor.stamped_eq_ok_iff.1 hstamped
  obtain rfl := Except.ok.inj (hhash.symm.trans hh')
  rfl

theorem exit_of_describe (hpath : IsOperand path) {o : Outcome}
    (h : run ["describe", path] files e = .ok o) :
    (o.exit = some 0 ∨ o.exit = some 2) ∧ o.files = files := by
  rw [run_describe hpath] at h
  obtain ⟨s, hs, h⟩ := bind_eq_ok_iff.1 h
  obtain ⟨policy, hpolicy⟩ := (isRead_of_readSettings hs).exists_namePolicy
  obtain ⟨o', ho', rfl⟩ := map_eq_ok_iff.1 h
  have hends : Describes s files path _ := describes_describe hpolicy
  rw [ho'] at hends
  cases hends with
  | told => exact ⟨.inr rfl, rfl⟩
  | shown => exact ⟨.inl rfl, rfl⟩

theorem exit_of_export (hpath : IsOperand path) (htarget : IsOperand target) {o : Outcome}
    (h : run ["export", path, "--out", target] files e = .ok o) :
    (o.exit = some 0 ∧ ∃ s schemas entries, Exported files e path target o s schemas entries) ∨
      o.exit = some 2 ∧ Spared files o.files target := by
  rw [run_export hpath htarget] at h
  obtain ⟨s, hs, h⟩ := bind_eq_ok_iff.1 h
  obtain ⟨policy, hpolicy⟩ := (isRead_of_readSettings hs).exists_namePolicy
  obtain ⟨o', ho', rfl⟩ := map_eq_ok_iff.1 h
  have hends : Exports s files path target _ := exports_export hpolicy
  rw [ho'] at hends
  cases hends with
  | told => exact .inr ⟨rfl, .refl files target⟩
  | unwritable _ _ _ _ failed => exact .inr ⟨rfl, spared_of_writeText failed⟩
  | @written schemas ds text _ stamps _ files' _ loaded _ _ _ described bundled done stamped =>
    obtain ⟨document, blocks, pairs, horder⟩ := Document.blocks_of_loadSchemas loaded
    obtain ⟨whole, l, body, hwhole, hl, hbody, rfl⟩ := Descriptor.exists_of_bundleText bundled
    obtain ⟨entries, hentries, rfl⟩ := Descriptor.bundle_eq_ok_iff.1 hwhole
    -- Descriptors, entries and lines all follow the schemas, one for each.
    have hdescribed := mapM_eq_ok_iff.1 described
    have hstamped := mapM_eq_ok_iff.1 stamped
    rw [List.forall₂_map_left_iff] at hdescribed hstamped
    have hrows : List.Forall₂ (fun p entry => ∃ d, p.2.describe = .ok d ∧ d.stamped = .ok entry)
        schemas entries := forall₂_chain (fun p d entry hd he => ⟨d, hd, he⟩) hdescribed hentries
    refine .inl ⟨rfl, s, schemas, entries, hs, ⟨document, blocks, pairs, horder⟩, hrows,
      ⟨l, body, hl, hbody, FileTree.read_of_writeText done⟩, _, stamps, rfl, ?_⟩
    refine forall₂_zip (fun p entry line hp hline => ?_) hrows hstamped
    obtain ⟨d, hd, he⟩ := hp
    obtain ⟨hash, hhash, rfl⟩ := stamp_eq_ok_iff.1 hline
    rw [Schema.hash, hd, ok_bind] at hhash
    exact ⟨hash, member_hash he hhash, rfl⟩

end Calls

/-! ## A document without blocks -/

/-- The text of a document without blocks. -/
def emptyText : List Char :=
  ['\x7b', '"', 's', 't', 'r', 'u', 'c', 't', 's', '"', ':', '\x7b', '\x7d', '\x7d']

/-- A file that holds a document without blocks, and nothing else. -/
def emptyDocument : FileTree := { entries := [(["a.json"], .file (Utf8.encode emptyText))] }

theorem settled_emptyDocument : (readSettings emptyDocument {}).result = .ok {} := by
  have henvironment : (EnvironmentFile.load emptyDocument {}).result = .ok {} := rfl
  have hown : (Settings.tableOf emptyDocument (Path.ofText Settings.ownFile)).result = .ok none :=
    Settings.result_tableOf_of_absent (Settings.place_ownFile emptyDocument) rfl
  have hshared : (Settings.tableOf emptyDocument (Path.ofText Settings.sharedFile)).result =
      .ok none := Settings.result_tableOf_of_absent (Settings.place_sharedFile emptyDocument) rfl
  rw [readSettings, Report.result_bind, henvironment, ok_bind, Settings.result_load,
    Settings.result_firstTable, hown, ok_bind, hshared]
  rfl

theorem loaded_emptyDocument :
    (Document.loadSchemas {} emptyDocument "a.json").result = .ok [] := by
  have hformat : Document.Format.ofSuffix? (Path.ofText "a.json").suffix = some .json := rfl
  have hheld : emptyDocument.read (Path.ofText "a.json") = .ok (Utf8.encode emptyText) := rfl
  have hdecode : Json.decode emptyText = .ok (.mapping [(.text "structs", .mapping [])]) := rfl
  have hread : Document.read .json (Path.ofText "a.json").text (Utf8.encode emptyText) =
      .ok (.mapping [(.text "structs", .mapping [])]) := by
    unfold Document.read
    rw [Utf8.decode?_encode]
    simp only [unifyLines_of_plain (show '\r' ∉ emptyText by decide), hdecode]
  rw [Document.result_loadSchemas, Document.load_of_octets hformat (by decide) hheld, hread]
  rfl

theorem exit_emptyDocument :
    ∃ o, run ["export", "a.json", "--out", "b.json"] emptyDocument {} = .ok o ∧
      o.exit = some 0 := by
  have hpath : IsOperand "a.json" := by decide
  have htarget : IsOperand "b.json" := by decide
  obtain ⟨text, htext⟩ : ∃ text, Descriptor.bundleText .none [] = .ok text := ⟨_, rfl⟩
  have hplace : emptyDocument.place (Path.ofText "b.json") = .ok ["b.json"] := rfl
  have hbeside : emptyDocument.place ((Path.ofText "b.json").withName
      ((Path.ofText "b.json").name ++ ".tmp")) = .ok ["b.json.tmp"] := rfl
  have hwrite := FileTree.writeText_of_free "b.json" text (by decide) (by decide)
    (Path.isUnusable_ofText (by decide)) rfl rfl hplace hbeside (by decide) (by decide)
  rw [run_export hpath htarget, settled_emptyDocument, ok_bind]
  unfold «export»
  dsimp only
  rw [loaded_emptyDocument]
  have hdescribe : (([] : List (String × Schema)).map (·.2)).mapM Schema.describe = .ok [] := rfl
  dsimp only
  rw [hdescribe, mapError_ok, ok_bind, htext, mapError_ok, ok_bind, pure_bind, hwrite]
  exact ⟨_, rfl, rfl⟩

theorem isCall_emptyDocument : IsCall emptyDocument "a.json" "b.json" where
  document := by decide
  destination := by decide
  whole := by
    intro format octets cs hformat hheld htext
    obtain rfl : .json = format := Option.some.inj hformat
    obtain rfl : Utf8.encode emptyText = octets := Except.ok.inj hheld
    rw [Utf8.decode?_encode] at htext
    obtain rfl := Option.some.inj htext
    decide

end RecordSchema.CommandLine
