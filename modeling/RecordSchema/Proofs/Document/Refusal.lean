import RecordSchema.Proofs.Document.Blocks
import RecordSchema.Proofs.Document.Loading

/-!
# Documents that come to neither schemas nor words

The schemas of a file come about, or an error with words tells why there are none, or there is a
refusal without words (`Document.told_or_refused_of_loadSchemas`). `Document.Refused` lists where a
refusal can come from: the path, the octets of the file and the scalars in it, and the first block
that is at fault, if the rules of values refuse something in its name or in its entries.
-/

set_option autoImplicit false

namespace RecordSchema

open Value

/-! ## Errors with words -/

namespace Error

/-- An error that has words, or a refusal by the rules of values. -/
def IsToldOrRefused (e : Error) : Prop :=
  (∃ words, e.message = some words) ∨ ∃ cause, e = .refused cause

theorem isToldOrRefused_of_isDeclaration {e : Error} (h : e.isDeclaration = true) :
    e.IsToldOrRefused := by
  cases e with
  | invalidName => exact .inl ⟨_, rfl⟩
  | duplicateField => exact .inl ⟨_, rfl⟩
  | unknownOptions => exact .inl ⟨_, rfl⟩
  | inheritance => exact .inl ⟨_, rfl⟩
  | _ => cases h

end Error

/-! ## Paths with NUL -/

/-- Only a path without NUL can be that of a file. -/
theorem Path.notMem_of_isUnusable {s : String} (h : (ofText s).isUnusable = false) :
    '\x00' ∉ s.toList := by
  intro hmem
  obtain ⟨part, hpart, hin⟩ :=
    TypeTerm.exists_part_of_mem (show '\x00' ≠ '/' by decide) hmem
  have hkept : (String.ofList part != "" && String.ofList part != ".") = true := by
    have hne : ∀ t : String, '\x00' ∉ t.toList → (String.ofList part != t) = true := by
      rintro t ht
      refine bne_iff_ne.2 fun heq => ht ?_
      rwa [← heq, String.toList_ofList]
    rw [hne "" (by decide), hne "." (by decide)]
    rfl
  have hany : (ofText s).parts.any (·.contains '\x00') = true := by
    refine List.any_eq_true.2 ⟨String.ofList part, ?_, by simpa using hin⟩
    exact List.mem_filter.2 ⟨List.mem_map_of_mem hpart, hkept⟩
  cases h.symm.trans hany

namespace Document

variable {settings : Settings} {policy : NamePolicy} {files : FileTree} {path : String}

/-! ## One block -/

theorem isToldOrRefused_of_entryFault {name : String} {index : Nat} {b : Builder} {item : Value}
    {e : Error} (h : EntryFault name index b item e) : e.IsToldOrRefused := by
  cases h with
  | shape => exact .inl ⟨_, rfl⟩
  | type => exact .inr ⟨_, rfl⟩
  | declaration _ _ condemned =>
    exact Error.isToldOrRefused_of_isDeclaration condemned.isDeclaration
  | refusal => exact .inr ⟨_, rfl⟩

theorem isToldOrRefused_of_blockFault {name : String} {body : Value} {e : Error}
    (h : BlockFault settings policy name body e) : e.IsToldOrRefused := by
  cases h with
  | body => exact .inl ⟨_, rfl⟩
  | entry _ _ _ fault => exact isToldOrRefused_of_entryFault fault

/-- A block is at fault for its name, which cannot be written out, or for what is in it. -/
theorem filed_eq_error_iff (hpolicy : settings.namePolicy = .ok policy) {key body : Value}
    {e : Error} :
    filed settings (key, body) = .error e ↔
      (∃ cause, key.displayed = .error cause ∧ e = .refused cause) ∨
        ∃ name, key.displayed = .ok name ∧ BlockFault settings policy name body e := by
  unfold filed
  dsimp only
  cases hkey : key.displayed with
  | error cause => simp [eq_comm]
  | ok name =>
    simp only [mapError_ok, ok_bind, bind_eq_error_iff, compileBlock_eq_error_iff hpolicy]
    simp [pure, Except.pure]

theorem name_of_entry {b b' : Builder} (hb : b.InPhase .open) {name : String} {index : Nat}
    {item : Value} (h : (declareEntries name index b [item]).result = .ok b') :
    b'.state.name = b.state.name := by
  rcases isEntry_or_shapeless item with ⟨keys, field, type, entry⟩ | shapeless
  · cases hwritten : type.displayed with
    | error cause =>
      rw [result_declareEntries_entry entry, hwritten] at h
      cases h
    | ok text =>
      rw [result_declareEntries_written entry hwritten hb, map_eq_ok_iff] at h
      obtain ⟨f, -, rfl⟩ := h
      rfl
  · rw [result_declareEntries_shapeless shapeless] at h
    cases h

/-- Entries leave a block its name. -/
theorem name_of_declareEntries {b b' : Builder} {strict : Value} {policy : NamePolicy}
    {taken : List Value} (hb : b.HasTaken strict policy taken) {name : String} {index : Nat}
    {items : List Value} (h : (declareEntries name index b items).result = .ok b') :
    b'.state.name = b.state.name := by
  induction items generalizing b index taken with
  | nil => exact Except.ok.inj h ▸ rfl
  | cons item items ih =>
    rw [result_declareEntries_cons, bind_eq_ok_iff] at h
    obtain ⟨c, hc, h⟩ := h
    exact (ih (hasTaken_of_entry hb hc) h).trans (name_of_entry hb.is_open hc)

/-- The schema of a block has the text of its name. -/
theorem name_of_filed (hpolicy : settings.namePolicy = .ok policy) {block : Value × Value}
    {p : String × Schema} (h : filed settings block = .ok p) : p.2.name = .text p.1 := by
  obtain ⟨name, -, h⟩ := bind_eq_ok_iff.1 h
  obtain ⟨s, hs, h⟩ := bind_eq_ok_iff.1 h
  obtain rfl := Except.ok.inj h
  cases hbody : bodyFields? block.2 with
  | none =>
    rw [compileBlock, hbody] at hs
    cases hs
  | some items =>
    rw [result_compileBlock hpolicy hbody, map_eq_ok_iff] at hs
    obtain ⟨b, hb, rfl⟩ := hs
    exact name_of_declareEntries (Builder.hasTaken_new (.text name) settings.strict policy) hb

/-! ## Whole documents -/

/-- A document is refused without words. -/
inductive Refused (settings : Settings) (files : FileTree) (path : String) : Prop where
  /-- The path cannot be that of a file. -/
  | path {format : Format} (known : Format.ofSuffix? (Path.ofText path).suffix = some format)
      (unusable : (Path.ofText path).isUnusable = true)
  /-- The octets of the file are no text, or a scalar in it is refused. -/
  | octets {format : Format} {octets : List UInt8} {cause : Refusal}
      (known : Format.ofSuffix? (Path.ofText path).suffix = some format)
      (held : files.read (Path.ofText path) = .ok octets) (refuses : Refuses format octets cause)
  /-- The name of a block cannot be written out. -/
  | name {entries before after : List (Value × Value)} {key body : Value} {cause : Refusal}
      (loaded : load files path = .ok (.mapping entries))
      (structs : lookupText "structs" entries = some (.mapping (before ++ (key, body) :: after)))
      (compiled : ∀ b ∈ before, ∃ p, filed settings b = .ok p)
      (unwritten : key.displayed = .error cause)
  /-- The rules of values refuse something in the entries of a block. -/
  | block {entries before after : List (Value × Value)} {key body : Value} {name : String}
      {policy : NamePolicy} {cause : Refusal} (loaded : load files path = .ok (.mapping entries))
      (structs : lookupText "structs" entries = some (.mapping (before ++ (key, body) :: after)))
      (compiled : ∀ b ∈ before, ∃ p, filed settings b = .ok p)
      (written : key.displayed = .ok name) (policy_eq : settings.namePolicy = .ok policy)
      (fault : BlockFault settings policy name body (.refused cause))

theorem load_of_unusable {format : Format}
    (known : Format.ofSuffix? (Path.ofText path).suffix = some format)
    (unusable : (Path.ofText path).isUnusable = true) :
    load files path = .error (.refused .badValue) := by
  unfold load
  simp only [known, unusable, if_true]
  exact error_bind _ _

theorem result_loadSchemas :
    (loadSchemas settings files path).result =
      load files path >>= fun document => (compile settings document).result := by
  rw [loadSchemas, Report.result_bind, Report.result_ofExcept]

theorem load_cases (files : FileTree) (path : String) :
    (∃ e, load files path = .error e ∧ e.IsToldOrRefused) ∨
      ∃ entries, load files path = .ok (.mapping entries) := by
  cases hformat : Format.ofSuffix? (Path.ofText path).suffix with
  | none => exact .inl ⟨_, load_of_unsupported hformat, .inl ⟨_, rfl⟩⟩
  | some format =>
    cases husable : (Path.ofText path).isUnusable with
    | true => exact .inl ⟨_, load_of_unusable hformat husable, .inr ⟨_, rfl⟩⟩
    | false =>
      have houtcome := loads_load files (Path.notMem_of_isUnusable husable)
      generalize load files path = r at houtcome
      cases houtcome with
      | unsupported => exact .inl ⟨_, rfl, .inl ⟨_, rfl⟩⟩
      | document _ entries => exact .inr ⟨entries, rfl⟩
      | notMapping => exact .inl ⟨_, rfl, .inl ⟨_, rfl⟩⟩
      | unreadable => exact .inl ⟨_, rfl, .inl ⟨_, rfl⟩⟩
      | refused => exact .inl ⟨_, rfl, .inr ⟨_, rfl⟩⟩

theorem load_refused_iff :
    (∃ cause, load files path = .error (.refused cause)) ↔
      ∃ format, Format.ofSuffix? (Path.ofText path).suffix = some format ∧
        ((Path.ofText path).isUnusable = true ∨
          ∃ octets cause, files.read (Path.ofText path) = .ok octets ∧
            Refuses format octets cause) := by
  cases hformat : Format.ofSuffix? (Path.ofText path).suffix with
  | none =>
    rw [load_of_unsupported hformat]
    exact iff_of_false (fun ⟨_, h⟩ => by cases h) fun ⟨_, h, _⟩ => by cases h
  | some format =>
    cases husable : (Path.ofText path).isUnusable with
    | true =>
      -- The path is refused before anything is looked for.
      exact iff_of_true ⟨_, load_of_unusable hformat husable⟩ ⟨format, rfl, .inl rfl⟩
    | false =>
      have hpath := Path.notMem_of_isUnusable husable
      constructor
      · rintro ⟨cause, h⟩
        have houtcome := loads_load files hpath
        rw [h] at houtcome
        cases houtcome with
        | refused known held refuses =>
          exact ⟨_, hformat.symm.trans known, .inr ⟨_, _, held, refuses⟩⟩
      · rintro ⟨format', hknown, hunusable | ⟨octets, cause, held, refuses⟩⟩
        · cases hunusable
        · obtain rfl := Option.some.inj hknown
          exact ⟨cause, (load_of_octets_eq_refused_iff hformat hpath held).2 refuses⟩

/-- What keeps a document that is loaded from being compiled. -/
theorem fault_of_compile {entries : List (Value × Value)} {e : Error}
    (h : (compile settings (.mapping entries)).result = .error e) :
    e = .noStructs ∨ ∃ before key body after,
      lookupText "structs" entries = some (.mapping (before ++ (key, body) :: after)) ∧
        (∀ b ∈ before, ∃ p, filed settings b = .ok p) ∧
        filed settings (key, body) = .error e := by
  cases hstructs : lookupText "structs" entries with
  | none =>
    rw [compile, hstructs] at h
    exact .inl (Except.error.inj h).symm
  | some v =>
    cases v with
    | mapping blocks =>
      rw [result_compile_of_blocks hstructs, map_eq_error_iff, mapM_eq_error_iff] at h
      obtain ⟨before, ⟨key, body⟩, after, rfl, hbefore, hfault⟩ := h
      exact .inr ⟨before, key, body, after, rfl, hbefore, hfault⟩
    | _ =>
      rw [compile, hstructs] at h
      exact .inl (Except.error.inj h).symm

/-- What keeps schemas from coming about is told in words, or is a refusal. -/
theorem told_or_refused_of_loadSchemas (hpolicy : settings.namePolicy = .ok policy) {e : Error}
    (h : (loadSchemas settings files path).result = .error e) : e.IsToldOrRefused := by
  rw [result_loadSchemas] at h
  rcases load_cases files path with ⟨e', hload, htold⟩ | ⟨entries, hload⟩
  · rw [hload] at h
    exact Except.error.inj h ▸ htold
  · rw [hload, ok_bind] at h
    rcases fault_of_compile h with rfl | ⟨before, key, body, after, -, -, hfault⟩
    · exact .inl ⟨_, rfl⟩
    · rcases (filed_eq_error_iff hpolicy).1 hfault with ⟨cause, -, rfl⟩ | ⟨name, -, hfault⟩
      · exact .inr ⟨cause, rfl⟩
      · exact isToldOrRefused_of_blockFault hfault

/-- The first block that is at fault keeps the schemas of a file from coming about. -/
theorem loadSchemas_of_fault {entries before after : List (Value × Value)} {key body : Value}
    {e : Error} (loaded : load files path = .ok (.mapping entries))
    (structs : lookupText "structs" entries = some (.mapping (before ++ (key, body) :: after)))
    (compiled : ∀ b ∈ before, ∃ p, filed settings b = .ok p)
    (fault : filed settings (key, body) = .error e) :
    (loadSchemas settings files path).result = .error e := by
  rw [result_loadSchemas, loaded, ok_bind, result_compile_of_blocks structs, map_eq_error_iff,
    mapM_eq_error_iff]
  exact ⟨before, (key, body), after, rfl, compiled, fault⟩

/-- Why the schemas of a file are refused. -/
theorem refused_of_loadSchemas (hpolicy : settings.namePolicy = .ok policy) {cause : Refusal}
    (h : (loadSchemas settings files path).result = .error (.refused cause)) :
    Refused settings files path := by
  rw [result_loadSchemas] at h
  rcases bind_eq_error_iff.1 h with hload | ⟨document, hload, hcompile⟩
  · obtain ⟨format, hformat, hunusable | ⟨octets, cause', held, refuses⟩⟩ :=
      load_refused_iff.1 ⟨cause, hload⟩
    · exact .path hformat hunusable
    · exact .octets hformat held refuses
  · rcases load_cases files path with ⟨e, herror, -⟩ | ⟨entries, hentries⟩
    · cases herror.symm.trans hload
    · obtain rfl := Except.ok.inj (hentries.symm.trans hload)
      rcases fault_of_compile hcompile with h | ⟨before, key, body, after, hblocks, hbefore, h⟩
      · cases h
      · rcases (filed_eq_error_iff hpolicy).1 h with ⟨cause', hkey, -⟩ | ⟨name, hkey, hfault⟩
        · exact .name hload hblocks hbefore hkey
        · exact .block hload hblocks hbefore hkey hpolicy hfault

/-- The schemas of a file are refused exactly if the document is. -/
theorem loadSchemas_refused_iff (hpolicy : settings.namePolicy = .ok policy) :
    (∃ cause, (loadSchemas settings files path).result = .error (.refused cause)) ↔
      Refused settings files path := by
  constructor
  · rintro ⟨cause, h⟩
    exact refused_of_loadSchemas hpolicy h
  · intro h
    cases h with
    | path known unusable =>
      exact ⟨_, by rw [result_loadSchemas, load_of_unusable known unusable, error_bind]⟩
    | octets known held refuses =>
      obtain ⟨cause, hload⟩ := load_refused_iff.2 ⟨_, known, .inr ⟨_, _, held, refuses⟩⟩
      exact ⟨cause, by rw [result_loadSchemas, hload, error_bind]⟩
    | name loaded structs compiled unwritten =>
      exact ⟨_, loadSchemas_of_fault loaded structs compiled
        ((filed_eq_error_iff hpolicy).2 (.inl ⟨_, unwritten, rfl⟩))⟩
    | block loaded structs compiled written policy_eq fault =>
      exact ⟨_, loadSchemas_of_fault loaded structs compiled
        ((filed_eq_error_iff policy_eq).2 (.inr ⟨_, written, fault⟩))⟩

/-- The schemas of a file are those of its blocks in order, put under the texts of their names; if
these are distinct, nothing is overwritten. -/
theorem blocks_of_loadSchemas {schemas : List (String × Schema)}
    (h : (loadSchemas settings files path).result = .ok schemas) :
    ∃ entries blocks pairs, load files path = .ok (.mapping entries) ∧
      lookupText "structs" entries = some (.mapping blocks) ∧
      List.Forall₂ (fun b p => filed settings b = .ok p) blocks pairs ∧
      schemas = Schema.putAll [] pairs ∧
      ((pairs.map Prod.fst).Nodup → schemas = pairs) := by
  rw [result_loadSchemas] at h
  obtain ⟨document, hload, hcompile⟩ := bind_eq_ok_iff.1 h
  rcases load_cases files path with ⟨e, herror, -⟩ | ⟨entries, hentries⟩
  · cases herror.symm.trans hload
  · obtain rfl := Except.ok.inj (hentries.symm.trans hload)
    cases hstructs : lookupText "structs" entries with
    | none =>
      rw [compile, hstructs] at hcompile
      cases hcompile
    | some v =>
      cases v with
      | mapping blocks =>
        rw [result_compile_of_blocks hstructs, map_eq_ok_iff] at hcompile
        obtain ⟨pairs, hpairs, rfl⟩ := hcompile
        refine ⟨entries, blocks, pairs, hload, hstructs, mapM_eq_ok_iff.1 hpairs, rfl, ?_⟩
        exact fun hnames => Schema.putAll_of_nodup hnames
      | _ =>
        rw [compile, hstructs] at hcompile
        cases hcompile

/-- The schemas of a file are under texts. -/
theorem named_of_loadSchemas (hpolicy : settings.namePolicy = .ok policy)
    {schemas : List (String × Schema)}
    (h : (loadSchemas settings files path).result = .ok schemas) :
    ∀ p ∈ schemas, ∃ title, p.2.name = .text title := by
  obtain ⟨entries, blocks, pairs, -, -, hpairs, rfl, -⟩ := blocks_of_loadSchemas h
  intro p hp
  obtain ⟨b, -, hb⟩ := exists_left_of_mem hpairs (Schema.mem_of_mem_putAll pairs hp)
  exact ⟨p.1, name_of_filed hpolicy hb⟩

end Document

end RecordSchema
