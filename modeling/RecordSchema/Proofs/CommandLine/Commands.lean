import RecordSchema.CommandLine.Run
import RecordSchema.Proofs.Descriptor.Export
import RecordSchema.Proofs.Document.Refusal
import RecordSchema.Proofs.Files.Writing
import RecordSchema.Proofs.Settings.Reading

/-!
# Describing and exporting

What becomes of a document under settings: `Describes` lists the ways in which a description ends,
and `Exports` those of an export. Either may be refused, for the document is
(`Document.Refused`) or for a schema in it cannot be written; an export moreover for an indentation
that is too wide and for a destination without a name. Otherwise there is an outcome with a code.
-/

set_option autoImplicit false

namespace RecordSchema.CommandLine

open RecordSchema.Text

/-! ## Arguments -/

/-- An argument that does not begin with a dash. -/
def IsOperand (s : String) : Prop := s.toList.head? ≠ some '-'

instance : DecidablePred IsOperand :=
  fun s => inferInstanceAs (Decidable (s.toList.head? ≠ some '-'))

namespace Usage

variable {u : Usage} {s : String}

theorem token_of_isOperand (h : IsOperand s) : u.token s = .ok (.plain s) := by
  unfold token
  cases hs : s.toList with
  | nil => rfl
  | cons c cs =>
    have hc : c ≠ '-' := by
      rintro rfl
      exact h (by rw [hs]; rfl)
    split
    · next heq => exact absurd (List.cons.inj heq).1 hc
    · rfl

theorem tokens_cons_of_isOperand (h : IsOperand s) (rest : List String) :
    u.tokens (s :: rest) = (u.tokens rest).map fun ts => (s, .plain s) :: ts := by
  have hs : s ≠ "--" := by
    rintro rfl
    exact h rfl
  rw [tokens]
  · rw [token_of_isOperand h]
    cases u.tokens rest <;> rfl
  · exact hs

end Usage

theorem request_describe {path : String} (h : IsOperand path) :
    describeUsage.request [path] = .run path none := by
  unfold Usage.request
  rw [Usage.tokens_cons_of_isOperand h]
  rfl

theorem request_export {path target : String} (hpath : IsOperand path)
    (htarget : IsOperand target) :
    exportUsage.request [path, "--out", target] = .run path (some (.text target)) := by
  have hrest : exportUsage.tokens ["--out", target] =
      .ok [("--out", .flag .valued false none), (target, .plain target)] := by
    rw [Usage.tokens]
    · rw [Usage.tokens_cons_of_isOperand htarget]
      rfl
    · decide
  unfold Usage.request
  rw [Usage.tokens_cons_of_isOperand hpath, hrest]
  rfl

/-! ## Settings -/

/-- Nothing is run, for the environment file or the settings are refused. -/
inductive Unsettled (files : FileTree) (e : Environment) : Prop where
  | environment (refused : EnvironmentFile.Refused files e)
  | settings (refused : Settings.Refused files)

theorem refusedIff_readSettings (files : FileTree) (e : Environment) :
    RefusedIff (Unsettled files e) (readSettings files e).result := by
  rw [readSettings, Report.result_bind]
  have henvironment := EnvironmentFile.refusedIff_load files e
  refine (henvironment.bind fun e' _ => Settings.refusedIff_load files e').congr ?_
  constructor
  · rintro (refused | ⟨_, -, refused⟩)
    · exact .environment refused
    · exact .settings refused
  · intro h
    cases h with
    | environment refused => exact .inl refused
    | settings refused =>
      by_cases henv : EnvironmentFile.Refused files e
      · exact .inl henv
      · obtain ⟨e', he'⟩ := henvironment.exists_ok_iff.2 henv
        exact .inr ⟨e', he', refused⟩

theorem isRead_of_readSettings {files : FileTree} {e : Environment} {s : Settings}
    (h : (readSettings files e).result = .ok s) : s.IsRead := by
  rw [readSettings, Report.result_bind] at h
  obtain ⟨e', -, h⟩ := bind_eq_ok_iff.1 h
  exact Settings.isRead_of_load h

/-! ## Describing -/

section Commands

variable {s : Settings} {policy : NamePolicy} {files : FileTree} {path target : String}

theorem told_of_message {e : Error} {words : String} (h : e.message = some words)
    (files : FileTree) (lines : List String) :
    told files lines e = .ok (giveUp files lines words) := by
  rw [told, h]

/-- Where the schemas of a document are not loaded, there are words for it or the document is
refused. -/
theorem unloaded_cases (hpolicy : s.namePolicy = .ok policy) {e : Error}
    (h : (Document.loadSchemas s files path).result = .error e) :
    (∃ words, e.message = some words ∧ ¬ Document.Refused s files path) ∨
      ∃ cause, e = .refused cause ∧ Document.Refused s files path := by
  have hrefused : _ ↔ Document.Refused s files path :=
    Document.loadSchemas_refused_iff hpolicy
  rw [h] at hrefused
  rcases Document.told_or_refused_of_loadSchemas hpolicy h with ⟨words, hwords⟩ | ⟨cause, rfl⟩
  · refine .inl ⟨words, hwords, fun hdoc => ?_⟩
    obtain ⟨cause, hcause⟩ := hrefused.2 hdoc
    rw [Except.error.inj hcause] at hwords
    cases hwords
  · exact .inr ⟨cause, rfl, hrefused.1 ⟨cause, rfl⟩⟩

/-- The overview of a schema needs its fingerprint and nothing else. -/
theorem exists_overview_iff {s : Schema} :
    (∃ rows, overview s = .ok rows) ↔ ∃ hash, s.hash = .ok hash := by
  unfold overview Schema.hash
  cases s.describe with
  | error cause => exact iff_of_false nofun nofun
  | ok d =>
    rw [ok_bind, ok_bind]
    refine exists_bind_eq_ok_iff fun hash => ?_
    dsimp only
    split
    · exact ⟨_, rfl⟩
    · exact ⟨_, rfl⟩

/-- All schemas of a document have fingerprints unless one of them cannot be written. -/
theorem forall_exists_hash_iff {schemas : List (String × Schema)}
    (hnames : ∀ p ∈ schemas, ∃ title, p.2.name = .text title) :
    (∀ t ∈ schemas.map (·.2), ∃ hash, t.hash = .ok hash) ↔ ¬ ∃ p ∈ schemas, p.2.IsUnwritten := by
  rw [List.forall_mem_map]
  simp only [not_exists, not_and]
  exact forall₂_congr fun p hp => Schema.exists_hash_iff (hnames p hp)

/-- The ways in which a document is described. -/
inductive Describes (s : Settings) (files : FileTree) (path : String) :
    Except Error Outcome → Prop where
  | refused (refused : Document.Refused s files path) (cause : Refusal) :
      Describes s files path (.error (.refused cause))
  | told {lines : List String} {words : String}
      (accepted : ¬ Document.Refused s files path)
      (unloaded : ∀ schemas, (Document.loadSchemas s files path).result ≠ .ok schemas) :
      Describes s files path (.ok (giveUp files lines words))
  | unwritten {schemas : List (String × Schema)}
      (loaded : (Document.loadSchemas s files path).result = .ok schemas)
      (unwritten : ∃ p ∈ schemas, p.2.IsUnwritten) (cause : Refusal) :
      Describes s files path (.error (.refused cause))
  | shown {schemas : List (String × Schema)} {output lines : List String}
      (loaded : (Document.loadSchemas s files path).result = .ok schemas)
      (written : ¬ ∃ p ∈ schemas, p.2.IsUnwritten) :
      Describes s files path
        (.ok { exit := some 0, output := output, complaints := lines, files := files })

theorem describes_describe (hpolicy : s.namePolicy = .ok policy) :
    Describes s files path (describe s files path none) := by
  unfold describe
  dsimp only
  cases hloaded : (Document.loadSchemas s files path).result with
  | error e =>
    dsimp only
    rcases unloaded_cases hpolicy hloaded with
      ⟨words, hwords, haccepted⟩ | ⟨cause, rfl, hrefused⟩
    · rw [told_of_message hwords]
      exact .told haccepted fun schemas h => by cases hloaded.symm.trans h
    · exact .refused hrefused cause
  | ok schemas =>
    dsimp only
    have hnames := Document.named_of_loadSchemas hpolicy hloaded
    -- There are tables of all schemas exactly if all of them have fingerprints.
    have hall : (∃ tables, (schemas.map (·.2)).mapM overview = .ok tables) ↔
        ¬ ∃ p ∈ schemas, p.2.IsUnwritten := by
      rw [exists_mapM_eq_ok_iff, ← forall_exists_hash_iff hnames]
      exact forall₂_congr fun t _ => exists_overview_iff
    cases htables : (schemas.map (·.2)).mapM overview with
    | error cause =>
      rw [htables] at hall
      refine .unwritten hloaded (not_not.1 fun h => ?_) cause
      obtain ⟨_, h⟩ := hall.2 h
      cases h
    | ok tables => exact .shown hloaded (hall.1 ⟨tables, htables⟩)

/-! ## Exporting -/

/-- The ways in which the schemas of a document are exported. -/
inductive Exports (s : Settings) (files : FileTree) (path target : String) :
    Except Error Outcome → Prop where
  | refused (refused : Document.Refused s files path) (cause : Refusal) :
      Exports s files path target (.error (.refused cause))
  | told {lines : List String} {words : String}
      (accepted : ¬ Document.Refused s files path)
      (unloaded : ∀ schemas, (Document.loadSchemas s files path).result ≠ .ok schemas) :
      Exports s files path target (.ok (giveUp files lines words))
  | unwritten {schemas : List (String × Schema)}
      (loaded : (Document.loadSchemas s files path).result = .ok schemas)
      (unwritten : (¬ ∃ l, Descriptor.layout s.indent = .ok l) ∨ ∃ p ∈ schemas, p.2.IsUnwritten)
      (cause : Refusal) : Exports s files path target (.error (.refused cause))
  | nameless {schemas : List (String × Schema)}
      (loaded : (Document.loadSchemas s files path).result = .ok schemas)
      (nameless : (Path.ofText target).name = "" ∨ (Path.ofText target).isUnusable = true)
      (cause : Refusal) : Exports s files path target (.error (.refused cause))
  | unwritable {schemas : List (String × Schema)} {text words : String} {lines : List String}
      {files' : FileTree} {fault : Error}
      (loaded : (Document.loadSchemas s files path).result = .ok schemas)
      (laidOut : ∃ l, Descriptor.layout s.indent = .ok l)
      (written : ¬ ∃ p ∈ schemas, p.2.IsUnwritten)
      (named : ¬ ((Path.ofText target).name = "" ∨ (Path.ofText target).isUnusable = true))
      (failed : files.writeText target text = (files', .error fault)) :
      Exports s files path target (.ok (giveUp files' lines words))
  | written {schemas : List (String × Schema)} {ds : List Descriptor} {text summary : String}
      {stamps lines : List String} {files' : FileTree} {w : Written}
      (loaded : (Document.loadSchemas s files path).result = .ok schemas)
      (laidOut : ∃ l, Descriptor.layout s.indent = .ok l)
      (written : ¬ ∃ p ∈ schemas, p.2.IsUnwritten)
      (named : ¬ ((Path.ofText target).name = "" ∨ (Path.ofText target).isUnusable = true))
      (described : (schemas.map (·.2)).mapM Schema.describe = .ok ds)
      (bundled : Descriptor.bundleText s.indent ds = .ok text)
      (done : files.writeText target text = (files', .ok w))
      (stamped : (schemas.map (·.2)).mapM stamp = .ok stamps) :
      Exports s files path target
        (.ok { exit := some 0, output := summary :: stamps, complaints := lines, files := files' })

theorem stamp_eq_ok_iff {s : Schema} {line : String} :
    stamp s = .ok line ↔
      ∃ h, s.hash = .ok h ∧ line = "[INFO] " ++ s.name.display ++ ": " ++ h := by
  unfold stamp
  rw [bind_eq_ok_iff]
  exact exists_congr fun h => and_congr_right fun _ => by simp [pure, Except.pure, eq_comm]

/-- What an export has to write of loaded schemas: descriptors, their text in the layout, and a
stamp for each, unless there is no layout or a schema cannot be written. -/
theorem bundle_cases {schemas : List (String × Schema)}
    (hnames : ∀ p ∈ schemas, ∃ title, p.2.name = .text title) (indent : Value) :
    (∃ ds text stamps, (schemas.map (·.2)).mapM Schema.describe = .ok ds ∧
      Descriptor.bundleText indent ds = .ok text ∧ (schemas.map (·.2)).mapM stamp = .ok stamps ∧
        (∃ l, Descriptor.layout indent = .ok l) ∧ ¬ ∃ p ∈ schemas, p.2.IsUnwritten) ∨
    ((¬ ∃ l, Descriptor.layout indent = .ok l) ∨ ∃ p ∈ schemas, p.2.IsUnwritten) ∧
      ∃ cause, (schemas.map (·.2)).mapM Schema.describe = .error cause ∨
        ∃ ds, (schemas.map (·.2)).mapM Schema.describe = .ok ds ∧
          Descriptor.bundleText indent ds = .error cause := by
  have hhashes := forall_exists_hash_iff hnames
  cases hdescribed : (schemas.map (·.2)).mapM Schema.describe with
  | error cause =>
    refine .inr ⟨.inr (not_not.1 fun h => ?_), cause, .inl rfl⟩
    -- What has a fingerprint has a descriptor.
    obtain ⟨ds, hds⟩ := exists_mapM_eq_ok_iff.2 fun t ht => by
      obtain ⟨hash, hhash⟩ := hhashes.2 h t ht
      obtain ⟨d, hd, -⟩ := bind_eq_ok_iff.1 hhash
      exact ⟨d, hd⟩
    cases hdescribed.symm.trans hds
  | ok ds =>
    have hbundle : (∃ text, Descriptor.bundleText indent ds = .ok text) ↔ _ :=
      Descriptor.exists_bundleText_iff (List.forall_mem_map.2 hnames) hdescribed
    rw [hhashes] at hbundle
    cases hbundled : Descriptor.bundleText indent ds with
    | error cause =>
      rw [hbundled] at hbundle
      refine .inr ⟨?_, cause, .inr ⟨ds, rfl, hbundled⟩⟩
      by_contra hno
      rw [not_or, not_not] at hno
      obtain ⟨_, h⟩ := hbundle.2 hno
      cases h
    | ok text =>
      obtain ⟨hlayout, hwritten⟩ := hbundle.1 ⟨text, hbundled⟩
      obtain ⟨stamps, hstamps⟩ : ∃ stamps, (schemas.map (·.2)).mapM stamp = .ok stamps :=
        exists_mapM_eq_ok_iff.2 fun t ht => by
          obtain ⟨hash, hhash⟩ := hhashes.2 hwritten t ht
          exact ⟨_, stamp_eq_ok_iff.2 ⟨hash, hhash, rfl⟩⟩
      exact .inl ⟨ds, text, stamps, rfl, hbundled, hstamps, hlayout, hwritten⟩

theorem exports_export (hpolicy : s.namePolicy = .ok policy) :
    Exports s files path target («export» s files path (some (.text target))) := by
  unfold «export»
  dsimp only
  cases hloaded : (Document.loadSchemas s files path).result with
  | error e =>
    dsimp only
    rcases unloaded_cases hpolicy hloaded with
      ⟨words, hwords, haccepted⟩ | ⟨cause, rfl, hrefused⟩
    · rw [told_of_message hwords]
      exact .told haccepted fun schemas h => by cases hloaded.symm.trans h
    · exact .refused hrefused cause
  | ok schemas =>
    dsimp only
    rcases bundle_cases (Document.named_of_loadSchemas hpolicy hloaded) s.indent with
      ⟨ds, text, stamps, hdescribed, hbundled, hstamps, hlayout, hwritten⟩ |
        ⟨hunwritten, cause, hdescribed | ⟨ds, hdescribed, hbundled⟩⟩
    · rw [hdescribed, mapError_ok, ok_bind, hbundled, mapError_ok, ok_bind, pure_bind]
      -- The text is there before the destination is looked at, and the stamps come last.
      rcases files.writeText_cases target text with
        ⟨hnameless, hfail⟩ | ⟨hnamed, ⟨files', path', why, hfail⟩ | ⟨files', w, hdone⟩⟩
      · rw [hfail]
        exact .nameless hloaded hnameless .badValue
      · rw [hfail]
        exact .unwritable hloaded hlayout hwritten hnamed hfail
      · rw [hdone]
        dsimp only
        rw [hstamps]
        exact .written hloaded hlayout hwritten hnamed hdescribed hbundled hdone hstamps
    · rw [hdescribed, mapError_error, error_bind]
      exact .unwritten hloaded hunwritten cause
    · rw [hdescribed, mapError_ok, ok_bind, hbundled, mapError_error, error_bind]
      exact .unwritten hloaded hunwritten cause

theorem accepted_of_loaded (hpolicy : s.namePolicy = .ok policy)
    {schemas : List (String × Schema)}
    (h : (Document.loadSchemas s files path).result = .ok schemas) :
    ¬ Document.Refused s files path := by
  intro hrefused
  obtain ⟨cause, hcause⟩ := (Document.loadSchemas_refused_iff hpolicy).2 hrefused
  cases h.symm.trans hcause

/-- Settings that are read give a layout unless their indentation is too wide for a word. -/
theorem not_exists_layout_iff (h : s.IsRead) :
    (¬ ∃ l, Descriptor.layout s.indent = .ok l) ↔
      ∃ n, s.indent = .int n ∧ Word.holds 64 n = false := by
  rcases h.indent with hnone | ⟨n, hn⟩
  · rw [hnone]
    exact iff_of_false (fun h => h ⟨.canonical, rfl⟩) (by simp)
  · rw [hn]
    cases hholds : Word.holds 64 n with
    | true =>
      have hlayout : Descriptor.layout (.int n) =
          .ok (.indented (String.ofList (List.replicate n.toNat ' '))) := by
        rw [Descriptor.layout, Descriptor.blanks, hholds]
        rfl
      exact iff_of_false (fun h => h ⟨_, hlayout⟩) (by simp [hholds])
    | false =>
      refine iff_of_true ?_ ⟨n, rfl, hholds⟩
      rintro ⟨l, hl⟩
      rw [Descriptor.layout, Descriptor.blanks, hholds] at hl
      cases hl

theorem Describes.refusedIff (hpolicy : s.namePolicy = .ok policy) {r : Except Error Outcome}
    (h : Describes s files path r) :
    RefusedIff (Document.Refused s files path ∨
      ∃ schemas, (Document.loadSchemas s files path).result = .ok schemas ∧
        ∃ p ∈ schemas, p.2.IsUnwritten) r := by
  cases h with
  | refused refused cause => exact .refused (.inl refused) cause
  | told accepted unloaded =>
    refine .ok ?_ _
    rintro (refused | ⟨schemas, loaded, -⟩)
    · exact accepted refused
    · exact unloaded schemas loaded
  | unwritten loaded unwritten cause => exact .refused (.inr ⟨_, loaded, unwritten⟩) cause
  | shown loaded written =>
    refine .ok ?_ _
    rintro (refused | ⟨schemas, loaded', unwritten⟩)
    · exact accepted_of_loaded hpolicy loaded refused
    · obtain rfl := Except.ok.inj (loaded.symm.trans loaded')
      exact written unwritten

theorem Exports.refusedIff (hpolicy : s.namePolicy = .ok policy) {r : Except Error Outcome}
    (h : Exports s files path target r) :
    RefusedIff (Document.Refused s files path ∨
      ∃ schemas, (Document.loadSchemas s files path).result = .ok schemas ∧
        ((∃ p ∈ schemas, p.2.IsUnwritten) ∨ (¬ ∃ l, Descriptor.layout s.indent = .ok l) ∨
          (Path.ofText target).name = "" ∨ (Path.ofText target).isUnusable = true)) r := by
  cases h with
  | refused refused cause => exact .refused (.inl refused) cause
  | told accepted unloaded =>
    refine .ok ?_ _
    rintro (refused | ⟨schemas, loaded, -⟩)
    · exact accepted refused
    · exact unloaded schemas loaded
  | unwritten loaded unwritten cause =>
    exact .refused (.inr ⟨_, loaded, unwritten.symm.imp_right .inl⟩) cause
  | nameless loaded nameless cause =>
    exact .refused (.inr ⟨_, loaded, .inr (.inr nameless)⟩) cause
  | unwritable loaded laidOut written named _ | written loaded laidOut written named =>
    refine .ok ?_ _
    -- The schemas were loaded and written, so none of the causes is there.
    rintro (refused | ⟨schemas, loaded', unwritten | unlaid | nameless⟩)
    · exact accepted_of_loaded hpolicy loaded refused
    · obtain rfl := Except.ok.inj (loaded.symm.trans loaded')
      exact written unwritten
    · exact unlaid laidOut
    · exact named nameless

end Commands

end RecordSchema.CommandLine
