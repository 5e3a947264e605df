import RecordSchema.Proofs.Document.Blocks

/-!
# Documents under stricter settings

Settings that let through less only refuse. A document that goes through under strict settings goes
through under lenient ones with the same report, and so with the same schemas
(`Document.compile_congr`); and a strict block says no warning, whatever comes of it
(`Document.isQuiet_compile`). The two runs are compared declaration by declaration: the blocks of
both are the same but for the settings that they are under (`Builder.under`).
-/

set_option autoImplicit false

namespace RecordSchema

open Value

theorem Report.bind_of_ok {α β : Type} {r : Report α} {a : α} (h : r.result = .ok a)
    (f : α → Report β) : (r >>= f) = ⟨r.log ++ (f a).log, (f a).result⟩ := by
  show Report.bind r f = _
  unfold Report.bind
  rw [h]

theorem Report.ofExcept_ok_bind {α β : Type} (a : α) (f : α → Report β) :
    (Report.ofExcept (.ok a) >>= f) = f a := rfl

theorem Report.bind_congr {α β : Type} {r : Report α} {f g : α → Report β} {a : α}
    (hr : r.result = .ok a) (hfg : f a = g a) : (r >>= f) = (r >>= g) := by
  rw [Report.bind_of_ok hr, Report.bind_of_ok hr, hfg]

/-! ## Warnings -/

namespace Report

variable {α β γ : Type}

/-- No warning is said. -/
def IsQuiet (r : Report α) : Prop := ∀ line ∈ r.log, line.level ≠ .warning

theorem isQuiet_pure (a : α) : (Pure.pure a : Report α).IsQuiet := by
  intro line hline
  cases hline

theorem isQuiet_fail (e : Error) : (fail e : Report α).IsQuiet := by
  intro line hline
  cases hline

theorem isQuiet_ofExcept (r : Except Error α) : (ofExcept r).IsQuiet := by
  intro line hline
  cases hline

theorem isQuiet_say (level : Level) (h : level ≠ .warning) (speaker : Speaker) (message : String) :
    (say level speaker message).IsQuiet := by
  intro line hline
  rw [List.mem_singleton.1 hline]
  exact h

/-- What is said after a quiet report keeps it quiet if it holds no warning. -/
theorem IsQuiet.append {r : Report α} (hr : r.IsQuiet) {s : Report β} (hs : s.IsQuiet)
    (result : Except Error γ) : IsQuiet ⟨r.log ++ s.log, result⟩ := by
  intro line hline
  rcases List.mem_append.1 hline with hline | hline
  · exact hr line hline
  · exact hs line hline

theorem IsQuiet.bind {r : Report α} (hr : r.IsQuiet) {f : α → Report β}
    (hf : ∀ a, r.result = .ok a → (f a).IsQuiet) : (r >>= f).IsQuiet := by
  show (Report.bind r f).IsQuiet
  unfold Report.bind
  split
  · rename_i a ha
    exact hr.append (hf a ha) (f a).result
  · exact hr

end Report

/-! ## Options -/

namespace FieldOptions

/-- Options that go through go through under less strictness, and nothing else is said. -/
theorem ofEntries_of_relaxed {options : List (Value × Value)} {strict strict' : Bool}
    (hstrict : strict' = true → strict = true) {name : Value} {read : FieldOptions}
    (h : (ofEntries options strict name).result = .ok read) :
    ofEntries options strict' name = ofEntries options strict name := by
  rw [result_ofEntries, bind_eq_ok_iff] at h
  obtain ⟨words, hwords, h⟩ := h
  have hunknown := mapError_eq_ok_iff.1 hwords
  split at h
  · cases h
  · rename_i hpassed
    unfold ofEntries
    rw [hunknown]
    cases words with
    | nil => rfl
    | cons word words =>
      -- A word that was let through shows that the first run was lenient.
      have hlenient : strict = false := by simpa using hpassed
      have hlenient' : strict' = false := by simpa [hlenient] using hstrict
      rw [hlenient, hlenient']

/-- Options that all mean something are read in the same way under any strictness. -/
theorem ofEntries_of_recognised {options : List (Value × Value)}
    (h : ∀ o ∈ options, isRecognised o.1 = true) (strict strict' : Bool) (name : Value) :
    ofEntries options strict' name = ofEntries options strict name := by
  unfold ofEntries
  rw [unknown_eq_nil h]
  rfl

end FieldOptions

theorem FieldName.ofValue?_of_relaxed {policy policy' : NamePolicy}
    (hnames : ∀ s, isAllowed s policy = true → isAllowed s policy' = true) {name : Value}
    {s : String} (h : ofValue? name policy = some s) : ofValue? name policy' = some s := by
  obtain ⟨hname, hallowed⟩ := ofValue?_eq_some_iff.1 h
  exact ofValue?_eq_some_iff.2 ⟨hname, hnames s hallowed⟩

/-! ## Blocks that differ in their settings -/

namespace Builder

/-- The block under other settings. -/
def under (b : Builder) (strict : Value) (policy : NamePolicy) : Builder :=
  { b with strict, policy }

/-- A declaration with given options that makes a field under the first settings says and makes the
same under the second ones. -/
def Carries (strict strict' : Value) (policy policy' : NamePolicy)
    (options : List (Value × Value)) : Prop :=
  ∀ (b : Builder) (name type : Value) (f : Field),
    ((b.under strict policy).resolve name type options).result = .ok f →
      (b.under strict' policy').resolve name type options =
        (b.under strict policy).resolve name type options

section Carries

variable {strict strict' : Value} {policy policy' : NamePolicy} {options : List (Value × Value)}

/-- It is enough that the options are read in the same way and that acceptable names stay so. -/
theorem carries_of_parts
    (hoptions : ∀ name read, (FieldOptions.ofEntries options strict.truthy name).result = .ok read →
      FieldOptions.ofEntries options strict'.truthy name =
        FieldOptions.ofEntries options strict.truthy name)
    (hnames : ∀ s, FieldName.isAllowed s policy = true → FieldName.isAllowed s policy' = true) :
    Carries strict strict' policy policy' options := by
  intro b name type f h
  rw [result_resolve, bind_eq_ok_iff] at h
  obtain ⟨read, hread, h⟩ := h
  obtain ⟨checked, hchecked, -⟩ := bind_eq_ok_iff.1 h
  have hchecked' : validateName name policy' b.state.contains = .ok checked := by
    obtain ⟨hname, htaken⟩ := validateName_eq_ok_iff.1 hchecked
    exact validateName_eq_ok_iff.2 ⟨FieldName.ofValue?_of_relaxed hnames hname, htaken⟩
  -- Options are read first and the name is judged next; nothing after that depends on settings.
  unfold resolve
  show (FieldOptions.ofEntries options strict'.truthy name >>= _) =
    (FieldOptions.ofEntries options strict.truthy name >>= _)
  rw [hoptions name read hread]
  refine Report.bind_congr hread ?_
  show (Report.ofExcept (validateName name policy' b.state.contains) >>= _) =
    (Report.ofExcept (validateName name policy b.state.contains) >>= _)
  rw [hchecked', show validateName name policy b.state.contains = .ok checked from hchecked]

end Carries

/-- A declaration that goes through was made in an open block. -/
theorem made_of_declare {b : Builder} {name type : Value} {options : List (Value × Value)}
    {f : Field} (h : (b.declare name type options).2.result = .ok f) :
    b.isAborted = false ∧ b.isFinalized = false ∧
      (b.resolve name type options).result = .ok f := by
  cases alive : b.isAborted with
  | true =>
    rw [declare, if_pos alive] at h
    cases h
  | false =>
    cases going : b.isFinalized with
    | true =>
      rw [declare, if_neg (by simp [alive]), if_pos going] at h
      cases h
    | false => exact ⟨rfl, rfl, result_declare alive going name type options ▸ h⟩

theorem declare_of_made {b : Builder} {name type : Value} {options : List (Value × Value)}
    {f : Field} (alive : b.isAborted = false) (going : b.isFinalized = false)
    (made : (b.resolve name type options).result = .ok f) :
    b.declare name type options =
      ({ b with state := b.state.push f },
        ⟨(b.resolve name type options).log ++ (b.state.append f).2.log, .ok f⟩) := by
  obtain ⟨hstate, hmade⟩ := Accumulator.append_of_told going (isOf_of_resolve made).1.told
  rw [declare, if_neg (by simp [alive]), if_neg (by simp [going])]
  simp only [made, hstate, hmade]

/-- A declaration that makes a field says and does the same under other settings that carry it. -/
theorem declare_under {strict strict' : Value} {policy policy' : NamePolicy}
    {options : List (Value × Value)} (hcarries : Carries strict strict' policy policy' options)
    {b : Builder} {name type : Value} {f : Field}
    (h : ((b.under strict policy).declare name type options).2.result = .ok f) :
    ∃ (next : Builder) (made : Report Field), (b.under strict policy).declare name type options =
        (next.under strict policy, made) ∧
      (b.under strict' policy').declare name type options = (next.under strict' policy', made) := by
  obtain ⟨alive, going, made⟩ := made_of_declare h
  have hsame := hcarries b name type f made
  have made' : ((b.under strict' policy').resolve name type options).result = .ok f := by
    rw [hsame, made]
  refine ⟨{ b with state := b.state.push f }, _, declare_of_made alive going made, ?_⟩
  rw [declare_of_made (b := b.under strict' policy') alive going made', hsame]
  rfl

theorem build_under (b : Builder) (strict : Value) (policy : NamePolicy) :
    (b.under strict policy).build.2 = b.build.2 := by
  unfold build
  rw [show (b.under strict policy).isAborted = b.isAborted from rfl,
    show (b.under strict policy).schema = b.schema from rfl,
    show (b.under strict policy).finish = b.finish from rfl]
  cases b.isAborted with
  | true => rfl
  | false =>
    cases b.schema with
    | some s => rfl
    | none =>
      cases hended : b.finish.result with
      | ok ended => simp [hended]
      | error e => simp [hended]

end Builder

/-! ## Documents -/

namespace Document

/-- The mappings among the entries of a block. -/
def blockEntries (body : Value) : List (List (Value × Value)) :=
  ((bodyFields? body).getD []).filterMap fun item =>
    match item with
    | .mapping keys => some keys
    | _ => Option.none

/-- The mappings among the entries of all blocks of a document. -/
def fieldEntries : Value → List (List (Value × Value))
  | .mapping entries =>
    match lookupText "structs" entries with
    | some (.mapping blocks) => blocks.flatMap fun b => blockEntries b.2
    | _ => []
  | _ => []

/-- Has a key of an entry a meaning? -/
def isEntryKey (key : Value) : Bool :=
  ["name", "type", "default", "enforce"].any fun word => alike key (.text word)

theorem isRecognised_of_isEntryKey {keys : List (Value × Value)}
    (h : ∀ k ∈ keys, isEntryKey k.1 = true) :
    ∀ o ∈ entryOptions keys, FieldOptions.isRecognised o.1 = true := by
  intro o ho
  obtain ⟨hmem, hoption⟩ := List.mem_filter.1 ho
  have hkey := h o hmem
  -- An option is no name and no type, so it is one of the other two.
  simp only [isEntryKey, FieldOptions.isRecognised, FieldOptions.recognised, List.any_cons,
    List.any_nil, Bool.or_false, Bool.or_eq_true, Bool.and_eq_true, Bool.not_eq_true'] at *
  rw [hoption.1, hoption.2] at hkey
  simpa using hkey

section Under

variable {strict strict' : Value} {policy policy' : NamePolicy}

/-- Entries that go through under one setting say and do the same under one that carries them. -/
theorem declareEntries_under {items : List Value}
    (hcarries : ∀ keys, .mapping keys ∈ items →
      Builder.Carries strict strict' policy policy' (entryOptions keys))
    {name : String} {index : Nat} {b c : Builder}
    (h : (declareEntries name index (b.under strict policy) items).result = .ok c) :
    declareEntries name index (b.under strict' policy') items =
      ⟨(declareEntries name index (b.under strict policy) items).log,
        .ok (c.under strict' policy')⟩ := by
  induction items generalizing index b with
  | nil =>
    rw [← Except.ok.inj h]
    rfl
  | cons item items ih =>
    rcases isEntry_or_shapeless item with ⟨keys, field, type, entry⟩ | shapeless
    · have hitem := hcarries keys (entry.mapping ▸ List.mem_cons_self ..)
      have hitems : ∀ keys, .mapping keys ∈ items →
          Builder.Carries strict strict' policy policy' (entryOptions keys) :=
        fun keys hkeys => hcarries keys (List.mem_cons_of_mem item hkeys)
      rw [declareEntries_entry entry] at h
      simp only [Report.result_bind, bind_eq_ok_iff] at h
      obtain ⟨text, htext, f, hf, hrest⟩ := h
      -- Both runs go on from one block, once under each of the settings.
      obtain ⟨next, made, hmade, hmade'⟩ := Builder.declare_under hitem hf
      rw [hmade] at hf hrest
      rw [declareEntries_entry entry, declareEntries_entry entry, Report.bind_of_ok htext,
        Report.bind_of_ok htext, hmade, hmade', Report.bind_of_ok hf, Report.bind_of_ok hf,
        ih hitems hrest, hrest]
    · rw [result_declareEntries_shapeless shapeless] at h
      cases h

/-- The options of every entry of a block are carried from one setting to the other. -/
def BodyCarries (strict strict' : Value) (policy policy' : NamePolicy) (body : Value) : Prop :=
  ∀ keys ∈ blockEntries body, Builder.Carries strict strict' policy policy' (entryOptions keys)

variable {settings settings' : Settings}

theorem compileBlock_under (hpolicy : settings.namePolicy = .ok policy)
    (hpolicy' : settings'.namePolicy = .ok policy') {body : Value}
    (hcarries : BodyCarries settings.strict settings'.strict policy policy' body) {name : String}
    {s : Schema} (h : (compileBlock settings name body).result = .ok s) :
    compileBlock settings' name body = compileBlock settings name body := by
  unfold compileBlock at h ⊢
  cases hbody : bodyFields? body with
  | none => rfl
  | some items =>
    have hitems : ∀ keys, .mapping keys ∈ items → Builder.Carries settings.strict settings'.strict
        policy policy' (entryOptions keys) := by
      intro keys hkeys
      refine hcarries keys (List.mem_filterMap.2 ⟨.mapping keys, ?_, rfl⟩)
      rwa [hbody]
    simp only [hbody, openBlock_of_policy hpolicy, openBlock_of_policy hpolicy', mapError_ok,
      Report.ofExcept_ok_bind] at h ⊢
    -- A new block under the second settings is the one under the first settings, put under them.
    obtain ⟨c, hc, -⟩ := bind_eq_ok_iff.1 (Report.result_bind _ _ ▸ h)
    have hc' : declareEntries name 0 (Builder.new (.text name) settings'.strict policy') items =
        ⟨(declareEntries name 0 (Builder.new (.text name) settings.strict policy) items).log,
          .ok (c.under settings'.strict policy')⟩ :=
      declareEntries_under (b := Builder.new (.text name)) hitems hc
    rw [hc', Report.bind_of_ok rfl, Report.bind_of_ok hc, Builder.build_under]

theorem exists_policy_of_compileBlock {name : String} {body : Value} {s : Schema}
    (h : (compileBlock settings name body).result = .ok s) :
    ∃ policy, settings.namePolicy = .ok policy := by
  unfold compileBlock at h
  split at h
  · cases h
  · simp only [Report.result_bind, bind_eq_ok_iff] at h
    obtain ⟨b, hb, -⟩ := h
    obtain ⟨policy, hpolicy, -⟩ := openBlock_eq_ok_iff.1 (mapError_eq_ok_iff.1 hb)
    exact ⟨policy, hpolicy⟩

/-- The settings carry every entry of some blocks: a policy that the first settings name has one
that the second settings name beside it. -/
def BlocksCarry (settings settings' : Settings) (blocks : List (Value × Value)) : Prop :=
  ∀ policy, settings.namePolicy = .ok policy → ∃ policy', settings'.namePolicy = .ok policy' ∧
    ∀ block ∈ blocks, BodyCarries settings.strict settings'.strict policy policy' block.2

theorem compileBlocks_under {blocks : List (Value × Value)}
    (hcarry : BlocksCarry settings settings' blocks) {done made : List (String × Schema)}
    (h : (compileBlocks settings done blocks).result = .ok made) :
    compileBlocks settings' done blocks = compileBlocks settings done blocks := by
  induction blocks generalizing done with
  | nil => rfl
  | cons block blocks ih =>
    rw [compileBlocks] at h
    simp only [Report.result_bind, bind_eq_ok_iff] at h
    obtain ⟨text, htext, s, hs, hrest⟩ := h
    -- A block that comes to a schema was opened under a policy.
    obtain ⟨policy, hpolicy⟩ := exists_policy_of_compileBlock hs
    obtain ⟨policy', hpolicy', hbodies⟩ := hcarry policy hpolicy
    have hblock := compileBlock_under hpolicy hpolicy' (hbodies block List.mem_cons_self) hs
    have hblocks : BlocksCarry settings settings' blocks := by
      intro policy hpolicy
      obtain ⟨policy', hpolicy', hbodies⟩ := hcarry policy hpolicy
      exact ⟨policy', hpolicy', fun block hblock => hbodies block (List.mem_cons_of_mem _ hblock)⟩
    rw [compileBlocks, compileBlocks, Report.bind_of_ok htext, Report.bind_of_ok htext, hblock,
      Report.bind_of_ok hs, Report.bind_of_ok hs, ih hblocks hrest]

/-- A document that goes through under one setting goes through under any that carries its entries,
and the report is the same. -/
theorem compile_congr {document : Value}
    (hcarries : ∀ policy, settings.namePolicy = .ok policy → ∃ policy',
      settings'.namePolicy = .ok policy' ∧ ∀ keys ∈ fieldEntries document,
        Builder.Carries settings.strict settings'.strict policy policy' (entryOptions keys))
    {made : List (String × Schema)} (h : (compile settings document).result = .ok made) :
    compile settings' document = compile settings document := by
  unfold compile at h ⊢
  split
  · rename_i entries
    split
    · rename_i blocks hblocks
      simp only [hblocks] at h
      refine compileBlocks_under ?_ h
      intro policy hpolicy
      obtain ⟨policy', hpolicy', hentries⟩ := hcarries policy hpolicy
      refine ⟨policy', hpolicy', fun block hblock keys hkeys => hentries keys ?_⟩
      simp only [fieldEntries, hblocks]
      exact List.mem_flatMap.2 ⟨block, hblock, hkeys⟩
    · rfl
  · rfl

end Under

end Document

/-! ## Strict blocks say no warning -/

theorem FieldOptions.isQuiet_ofEntries (options : List (Value × Value)) (name : Value) :
    (ofEntries options true name).IsQuiet := by
  unfold ofEntries
  refine (Report.isQuiet_ofExcept _).bind fun words _ => ?_
  cases words with
  | nil => exact Report.isQuiet_ofExcept _
  | cons word words => exact (Report.isQuiet_fail _).bind fun _ _ => Report.isQuiet_ofExcept _

theorem Accumulator.isQuiet_append (a : Accumulator) (f : Field) : (a.append f).2.IsQuiet := by
  unfold append
  split
  · exact Report.isQuiet_fail _
  · split
    · exact Report.isQuiet_fail _
    · exact Report.isQuiet_say .debug (by decide) .accumulator _

theorem Accumulator.isQuiet_finalize (a : Accumulator) : a.finalize.IsQuiet := by
  unfold finalize
  have hsaid := (Report.isQuiet_say .debug (by decide) .accumulator
    (a.name.display ++ ": finalized with " ++ Nat.repr a.fields.length ++ " field(s)")).bind
      fun _ _ => Report.isQuiet_pure { a with finalized := true }
  split
  · exact (Report.isQuiet_fail _).bind fun _ _ => hsaid
  · exact hsaid

namespace Builder

variable {b : Builder}

theorem isQuiet_resolve (hstrict : b.strict.truthy = true) (name type : Value)
    (options : List (Value × Value)) : (b.resolve name type options).IsQuiet := by
  unfold resolve
  rw [hstrict]
  refine (FieldOptions.isQuiet_ofEntries options name).bind fun _ _ => ?_
  refine (Report.isQuiet_ofExcept _).bind fun _ _ => ?_
  exact (Report.isQuiet_ofExcept _).bind fun _ _ => Report.isQuiet_pure _

theorem isQuiet_declare (hstrict : b.strict.truthy = true) (name type : Value)
    (options : List (Value × Value)) : (b.declare name type options).2.IsQuiet := by
  have hresolve := isQuiet_resolve hstrict name type options
  unfold declare
  split
  · exact Report.isQuiet_fail _
  · split
    · exact Report.isQuiet_fail _
    · dsimp only
      split
      · rename_i e _
        split
        · exact hresolve.append (Report.isQuiet_say .debug (by decide) .builder _)
            (.error e)
        · exact hresolve
      · rename_i f _
        exact hresolve.append (b.state.isQuiet_append f) _

theorem strict_declare (b : Builder) (name type : Value) (options : List (Value × Value)) :
    (b.declare name type options).1.strict = b.strict := by
  unfold declare
  grind

theorem isQuiet_build (b : Builder) : b.build.2.IsQuiet := by
  have hfinish : b.finish.IsQuiet := by
    unfold finish
    refine b.state.isQuiet_finalize.bind fun _ _ => ?_
    refine (Report.isQuiet_ofExcept _).bind fun _ _ => ?_
    exact (Report.isQuiet_say _ (by decide) _ _).bind fun _ _ => Report.isQuiet_pure _
  unfold build
  split
  · exact Report.isQuiet_fail _
  · split
    · exact Report.isQuiet_pure _
    · dsimp only
      split
      · exact hfinish
      · exact hfinish

end Builder

namespace Document

theorem isQuiet_declareEntries {b : Builder} (hstrict : b.strict.truthy = true) (name : String)
    (index : Nat) (items : List Value) : (declareEntries name index b items).IsQuiet := by
  induction items generalizing index b with
  | nil => exact Report.isQuiet_pure b
  | cons item items ih =>
    rcases isEntry_or_shapeless item with ⟨keys, field, type, entry⟩ | shapeless
    · rw [declareEntries_entry entry]
      refine (Report.isQuiet_ofExcept _).bind fun text _ => ?_
      refine (Builder.isQuiet_declare hstrict field (.text text) (entryOptions keys)).bind
        fun _ _ => ih ?_ (index + 1)
      rwa [Builder.strict_declare]
    · rw [declareEntries_shapeless shapeless]
      exact Report.isQuiet_fail _

variable {settings : Settings}

theorem isQuiet_compileBlock (hstrict : settings.strict.truthy = true) (name : String)
    (body : Value) : (compileBlock settings name body).IsQuiet := by
  unfold compileBlock
  split
  · exact Report.isQuiet_fail _
  · refine (Report.isQuiet_ofExcept _).bind fun b hb => ?_
    refine (isQuiet_declareEntries ?_ name 0 _).bind fun c _ => ?_
    · obtain ⟨opened, hopened, rfl⟩ := openBlock_eq_ok_iff.1 (mapError_eq_ok_iff.1 hb)
      exact hstrict
    refine c.isQuiet_build.bind fun s _ => ?_
    exact (Report.isQuiet_say _ (by decide) _ _).bind fun _ _ => Report.isQuiet_pure s

theorem isQuiet_compileBlocks (hstrict : settings.strict.truthy = true)
    (done : List (String × Schema)) (blocks : List (Value × Value)) :
    (compileBlocks settings done blocks).IsQuiet := by
  induction blocks generalizing done with
  | nil => exact Report.isQuiet_pure done
  | cons block blocks ih =>
    rw [compileBlocks]
    refine (Report.isQuiet_ofExcept _).bind fun name _ => ?_
    exact (isQuiet_compileBlock hstrict name block.2).bind fun s _ => ih _

/-- Where unknown options are refused, no document brings about a warning. -/
theorem isQuiet_compile (hstrict : settings.strict.truthy = true) (document : Value) :
    (compile settings document).IsQuiet := by
  unfold compile
  split
  · split
    · exact isQuiet_compileBlocks hstrict [] _
    · exact Report.isQuiet_fail _
  · exact Report.isQuiet_fail _

/-! ## Strict settings and lenient ones -/

/-- Strictness only refuses. What goes through where unknown options are refused goes through where
they are let through, with the same report and without a warning; what goes through where they are
let through and has none goes through where they are refused; and what goes through with lower snake
case names goes through with identifiers. -/
theorem strictness_only_refuses (settings : Settings) (document : Value) :
    (∀ made, (compile { settings with strict := .bool true } document).result = .ok made →
      compile { settings with strict := .bool false } document =
          compile { settings with strict := .bool true } document ∧
        (compile { settings with strict := .bool false } document).IsQuiet) ∧
    (∀ made, (compile { settings with strict := .bool false } document).result = .ok made →
      (∀ keys ∈ fieldEntries document, ∀ k ∈ keys, isEntryKey k.1 = true) →
      compile { settings with strict := .bool true } document =
        compile { settings with strict := .bool false } document) ∧
    (∀ made, (compile { settings with policy := .text "lower_snake" } document).result = .ok made →
      compile { settings with policy := .text "python" } document =
        compile { settings with policy := .text "lower_snake" } document) := by
  refine ⟨?_, ?_, ?_⟩
  · intro made hmade
    -- The lenient report is the strict one, and that holds no warning.
    have hsame : compile { settings with strict := .bool false } document =
        compile { settings with strict := .bool true } document := by
      refine compile_congr (fun policy hpolicy => ⟨policy, hpolicy, fun keys _ => ?_⟩) hmade
      refine Builder.carries_of_parts (fun name read hread => ?_) fun s hs => hs
      exact FieldOptions.ofEntries_of_relaxed (fun _ => rfl) hread
    refine ⟨hsame, ?_⟩
    rw [hsame]
    exact isQuiet_compile rfl document
  · intro made hmade hkeys
    refine compile_congr (fun policy hpolicy => ⟨policy, hpolicy, fun keys hentry => ?_⟩) hmade
    refine Builder.carries_of_parts (fun name read _ => ?_) fun s hs => hs
    have hrecognised := isRecognised_of_isEntryKey (hkeys keys hentry)
    exact FieldOptions.ofEntries_of_recognised hrecognised false true name
  · intro made hmade
    refine compile_congr (fun policy hpolicy => ⟨.identifier, rfl, fun keys _ => ?_⟩) hmade
    exact Builder.carries_of_parts (fun _ _ _ => rfl) fun s hs => FieldName.isAllowed_identifier hs

theorem strictness_only_refuses_field :
    (compile { strict := .bool true } (alone (.text "P") fieldBody)).result = .ok [("P",
        ⟨.text "P", [⟨"a", .missing, .text "int", .text "int | None", .bool false⟩], []⟩)] ∧
      compile {} (alone (.text "P") fieldBody) =
        compile { strict := .bool true } (alone (.text "P") fieldBody) ∧
      (compile {} (alone (.text "P") fieldBody)).IsQuiet := by
  have hstrict : (compile { strict := .bool true } (alone (.text "P") fieldBody)).result =
      .ok [("P", ⟨.text "P", [⟨"a", .missing, .text "int", .text "int | None", .bool false⟩],
        []⟩)] := by
    rw [compile_alone_eq_ok_iff]
    show ((compileBlock _ "P" fieldBody).result >>= fun s => _) = _
    rw [compileBlock_field (.bool true)]
    rfl
  exact ⟨hstrict, (strictness_only_refuses {} _).1 _ hstrict⟩

end Document

end RecordSchema
