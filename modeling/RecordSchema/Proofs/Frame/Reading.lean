import RecordSchema.Proofs.Frame.RoundTrip
import RecordSchema.Proofs.Record.Signature

/-!
# Reading frames

A frame is read into records of a class, whatever its columns are called. Each row goes through the
constructor with the columns that are fields, and rows without any such column have a way of their
own; both ways come to the same (`Frame.IsTable.arguments_eq`). So what comes of a frame is told by
its height and by its columns under the names of fields, in whatever order (`Frame.Matches`): the
enforced fields without a column are missing if there is a row, and otherwise there is a record for
each row (`Frame.Reads`, `RecordType.IsClassOf.exists_reads`).

Reading strictly is the same if all columns are fields, and fails at the first row if not
(`RecordType.reading_outcomes`). This is of classes whose namespace leaves their records alone
(`ClassBody.LeavesRecords`). One whose namespace gets in the way of its records, or whose field is
called like a place that every record has, cannot be read into
(`RecordType.unreadable_hook_and_place`).
-/

set_option autoImplicit false

namespace RecordSchema

namespace Frame

variable {f g : Frame} {s : Schema} {t : RecordType} {strict : Bool}

/-! ## Frames and the names of fields -/

/-- Columns of one length under different names. -/
structure IsTable (f : Frame) : Prop where
  distinct : (f.columns.map (·.name)).Nodup
  even : ∀ c ∈ f.columns, c.values.length = f.height

/-- Exactly such columns make a frame. -/
theorem ofColumns_eq_ok_iff {columns : List Column} :
    ofColumns columns = .ok f ↔ f = ⟨columns⟩ ∧ f.IsTable := by
  unfold ofColumns
  split
  · next hrepeated =>
    -- Both tests, of names and of lengths, are passed by a table.
    refine iff_of_false nofun ?_
    rintro ⟨rfl, hf⟩
    simp [hf.distinct] at hrepeated
  · next hdistinct =>
    split
    · next huneven =>
      refine iff_of_false nofun ?_
      rintro ⟨rfl, hf⟩
      simp only [Bool.not_eq_true', List.all_eq_false, beq_iff_eq] at huneven
      obtain ⟨c, hc, hlength⟩ := huneven
      exact hlength (hf.even c hc)
    · next heven =>
      simp only [Bool.not_eq_true', decide_eq_false_iff_not, not_not] at hdistinct
      simp only [Bool.not_eq_true', Bool.not_eq_false, List.all_eq_true, beq_iff_eq] at heven
      constructor
      · intro h
        obtain rfl := Except.ok.inj h
        exact ⟨rfl, hdistinct, heven⟩
      · rintro ⟨rfl, -⟩
        rfl

/-- The enforced fields without a column, in declaration order. -/
def lacks (f : Frame) (s : Schema) : List String :=
  (s.fields.filter fun x => x.isEnforced && decide (x.name ∉ f.columns.map (·.name))).map (·.name)

/-- Frames with the same columns under the names of fields, in whatever order. -/
def Matches (f g : Frame) (s : Schema) : Prop :=
  ∀ c : Column, c.name ∈ s.keys → (c ∈ f.columns ↔ c ∈ g.columns)

theorem keys_row (f : Frame) (i : Nat) :
    (f.row i).map Prod.fst = f.columns.map (·.name) := by
  rw [row, List.map_map]
  rfl

theorem lacking_row (f : Frame) (s : Schema) (i : Nat) : s.lacking (f.row i) = f.lacks s := by
  rw [Schema.lacking, keys_row]
  rfl

/-- A row has under the name of a column what the column has at that place. -/
theorem IsTable.lookup_row (hf : f.IsTable) {c : Column} (hc : c ∈ f.columns) (i : Nat) :
    Value.lookup c.name (f.row i) = some (c.values.getD i .none) := by
  have hdistinct : ((f.row i).map Prod.fst).Nodup := (keys_row f i).symm ▸ hf.distinct
  have hmem : (c.name, c.values.getD i .none) ∈ f.row i :=
    List.mem_map_of_mem (f := fun c => (c.name, c.values.getD i .none)) hc
  exact Schema.lookup_of_mem hdistinct hmem

namespace Matches

theorem mem_names_iff (h : f.Matches g s) {n : String} (hn : n ∈ s.keys) :
    n ∈ f.columns.map (·.name) ↔ n ∈ g.columns.map (·.name) := by
  simp only [List.mem_map]
  refine exists_congr fun c => and_congr_left ?_
  rintro rfl
  exact h c hn

theorem lacks_eq (h : f.Matches g s) : f.lacks s = g.lacks s := by
  refine congrArg (List.map _) (List.filter_congr fun x hx => ?_)
  have hnames := h.mem_names_iff (List.mem_map_of_mem (f := (·.name)) hx)
  simp only [hnames]

theorem lookup_row (h : f.Matches g s) (hf : f.IsTable) (hg : g.IsTable) {n : String}
    (hn : n ∈ s.keys) (i : Nat) : Value.lookup n (f.row i) = Value.lookup n (g.row i) := by
  by_cases hcolumn : n ∈ f.columns.map (·.name)
  · obtain ⟨c, hc, rfl⟩ := List.mem_map.1 hcolumn
    rw [hf.lookup_row hc, hg.lookup_row ((h c hn).1 hc)]
  · have hf' : n ∉ (f.row i).map Prod.fst := by rwa [keys_row]
    have hg' : n ∉ (g.row i).map Prod.fst := by rwa [keys_row, ← h.mem_names_iff hn]
    rw [Schema.lookup_eq_none_iff.2 hf', Schema.lookup_eq_none_iff.2 hg']

/-- Rows of matching frames fill in the same values. -/
theorem filled_row (h : f.Matches g s) (hf : f.IsTable) (hg : g.IsTable) (i : Nat) :
    s.filled (f.row i) = s.filled (g.row i) := by
  refine List.map_congr_left fun x hx => ?_
  rw [h.lookup_row hf hg (List.mem_map_of_mem (f := (·.name)) hx)]

end Matches

/-! ## What the constructor is handed -/

theorem mem_passed_iff {c : Column} :
    c ∈ (f.passed t strict).columns ↔ c ∈ f.columns ∧ (strict = true ∨ c.name ∈ t.schema.keys) := by
  simp [passed]

/-- A frame and what is passed on of it have the same columns under the names of fields. -/
theorem matches_passed (f : Frame) (t : RecordType) (strict : Bool) :
    f.Matches (f.passed t strict) t.schema := fun c hc => by
  rw [mem_passed_iff]
  exact ⟨fun h => ⟨h, .inr hc⟩, fun h => h.1⟩

theorem passed_eq_self (h : ∀ c ∈ f.columns, strict = true ∨ c.name ∈ t.schema.keys) :
    f.passed t strict = f := by
  refine congrArg Frame.mk (List.filter_eq_self.2 fun c hc => ?_)
  simpa using h c hc

namespace IsTable

/-- What is passed on is as high as the frame, if any column is. -/
theorem height_passed (hf : f.IsTable) (h : (f.passed t strict).columns ≠ []) :
    (f.passed t strict).height = f.height := by
  obtain ⟨c, columns, hcolumns⟩ := List.exists_cons_of_ne_nil h
  have hc : c ∈ (f.passed t strict).columns := hcolumns ▸ List.mem_cons_self ..
  rw [height, hcolumns]
  exact hf.even c (mem_passed_iff.1 hc).1

theorem passed (hf : f.IsTable) (t : RecordType) (strict : Bool) : (f.passed t strict).IsTable where
  distinct := hf.distinct.sublist (List.filter_sublist.map _)
  even := fun c hc => by
    rw [hf.height_passed (List.ne_nil_of_mem hc)]
    exact hf.even c (mem_passed_iff.1 hc).1

/-- The rows of a frame without columns to pass on are handed over like all others: there are as
many, and each has nothing. -/
theorem arguments_eq (hf : f.IsTable) (t : RecordType) (strict : Bool) :
    f.arguments t strict = (List.range f.height).map (f.passed t strict).row := by
  unfold arguments
  by_cases hcolumns : (f.passed t strict).columns = []
  · have hempty : (f.passed t strict).row = fun _ => [] := by
      funext i
      rw [row, hcolumns]
      rfl
    rw [if_pos (List.isEmpty_iff.2 hcolumns), hempty, List.map_const', List.length_range]
  · rw [if_neg (by simpa using hcolumns), rows, hf.height_passed hcolumns]

theorem exists_arguments_eq_cons (hf : f.IsTable) (h : 0 < f.height) (t : RecordType)
    (strict : Bool) : ∃ rest, f.arguments t strict = (f.passed t strict).row 0 :: rest := by
  obtain ⟨height, hheight⟩ := Nat.exists_eq_add_one.2 h
  rw [hf.arguments_eq, hheight, List.range_succ_eq_map, List.map_cons]
  exact ⟨_, rfl⟩

end IsTable

end Frame

/-! ## What comes of a frame -/

/-- Records with the numbers after one number, each with values of its own. -/
def RecordType.recordsFrom (t : RecordType) : Nat → List (List (String × Value)) → List Object
  | _, [] => []
  | last, values :: rest =>
    .record (last + 1) t.identity values :: t.recordsFrom (last + 1) rest

/-- The ways in which reading a frame ends, without regard to columns that are no fields. -/
inductive Frame.Reads (f : Frame) (t : RecordType) (σ : Session) :
    Except Error (List Object) → Session → Prop where
  | missing (some_row : 0 < f.height) (some_lacking : f.lacks t.schema ≠ []) :
      Reads f t σ (.error (.missingRequired t.schema.name (f.lacks t.schema)))
        { σ with last := σ.last + 1 }
  | made (none_lacking : 0 < f.height → f.lacks t.schema = []) :
      Reads f t σ (.ok (t.recordsFrom σ.last (f.rows.map t.schema.filled)))
        { σ with last := σ.last + f.height }

/-- Frames of one height that match come to the same. -/
theorem Frame.Reads.of_matches {f g : Frame} {t : RecordType} {σ σ' : Session}
    {r : Except Error (List Object)} (h : f.Reads t σ r σ') (hf : f.IsTable) (hg : g.IsTable)
    (hheight : g.height = f.height) (hfg : f.Matches g t.schema) : g.Reads t σ r σ' := by
  have hlacks := hfg.lacks_eq
  cases h with
  | missing some_row some_lacking =>
    rw [hlacks] at some_lacking ⊢
    exact .missing (hheight.symm ▸ some_row) some_lacking
  | made none_lacking =>
    have hrows : f.rows.map t.schema.filled = g.rows.map t.schema.filled := by
      rw [rows, rows, hheight, List.map_map, List.map_map]
      exact List.map_congr_left fun i _ => hfg.filled_row hf hg i
    rw [hrows, ← hheight]
    exact .made fun some_row => hlacks ▸ none_lacking (hheight ▸ some_row)

/-- Reading has one outcome. -/
theorem Frame.Reads.unique {f : Frame} {t : RecordType} {σ σ₁ σ₂ : Session}
    {r₁ r₂ : Except Error (List Object)} (h₁ : f.Reads t σ r₁ σ₁) (h₂ : f.Reads t σ r₂ σ₂) :
    r₁ = r₂ ∧ σ₁ = σ₂ := by
  cases h₁ with
  | missing some_row some_lacking =>
    cases h₂ with
    | missing _ _ => exact ⟨rfl, rfl⟩
    | made none_lacking => exact absurd (none_lacking some_row) some_lacking
  | made none_lacking =>
    cases h₂ with
    | missing some_row some_lacking => exact absurd (none_lacking some_row) some_lacking
    | made _ => exact ⟨rfl, rfl⟩

namespace RecordType.IsClassOf

open RecordSchema.Session

variable {t : RecordType} {s : Schema} {f : Frame} {σ σ' : Session}

/-- The constructor ends as the schema says. -/
theorem constructs (ht : t.IsClassOf s) {given : List (String × Value)}
    (hgiven : (given.map Prod.fst).Nodup) (hself : receiver ∉ given.map Prod.fst) :
    s.Constructs given (t.construct [] given) := by
  obtain ⟨title, htitle⟩ := ht.named
  obtain rfl := ht.schema_eq
  rw [construct_eq_fill hgiven hself]
  exact constructs_of_fill ht.regular htitle given

/-- Rows that the constructor takes make records one after another. -/
theorem runs_mapM_makeOf (ht : t.IsClassOf s) {rows : List (List (String × Value))}
    (h : ∀ row ∈ rows, t.construct [] row = .ok (s.filled row)) (σ : Session) :
    Runs (rows.mapM (makeOf t [])) σ (.ok (t.recordsFrom σ.last (rows.map s.filled)))
      { σ with last := σ.last + rows.length } := by
  induction rows generalizing σ with
  | nil => exact runs_pure _ σ
  | cons row rows ih =>
    have hfirst := ht.ordinary.runs_makeOf [] row σ
    rw [h row (List.mem_cons_self ..)] at hfirst
    have hrest := ih (fun row' hrow' => h row' (List.mem_cons_of_mem _ hrow'))
      { σ with last := σ.last + 1 }
    rw [List.mapM_cons, List.length_cons, Nat.add_comm rows.length, ← Nat.add_assoc]
    exact .bind hfirst (.bind hrest (runs_pure _ _))

/-- If the constructor refuses the first row, no other is looked at. -/
theorem runs_mapM_makeOf_of_error (ht : t.IsClassOf s) {row : List (String × Value)} {e : Error}
    (h : t.construct [] row = .error e) (rows : List (List (String × Value))) (σ : Session) :
    Runs ((row :: rows).mapM (makeOf t [])) σ (.error e) { σ with last := σ.last + 1 } := by
  have hfirst := ht.ordinary.runs_makeOf [] row σ
  rw [h] at hfirst
  rw [List.mapM_cons]
  exact hfirst.bind_error _

/-- A frame is read by way of what the constructor is handed. -/
theorem runs_fromFrame (ht : t.IsClassOf s) (hσ : σ.types.get? t.identity.id = some t)
    {strict : Bool} {r : Except Error (List Object)}
    (h : Runs ((f.arguments t strict).mapM (makeOf t [])) σ r σ') (id : Nat) :
    Runs (fromFrame (.recordType t.identity.id) (.frame id f) strict) σ r σ' := by
  have hclass :
      Runs (Object.recordType t.identity.id).toValue σ (.ok (.recordClass t.identity)) σ :=
    .bind (runs_typeOf hσ) (runs_pure _ σ)
  exact .bind hclass (.bind (ht.ordinary.runs_typeBehind hσ) h)

/-- A row of the columns that are fields is taken exactly if no enforced field lacks its column. -/
theorem construct_row (ht : t.IsClassOf s) (hf : f.IsTable) (i : Nat) :
    t.construct [] ((f.passed t false).row i) =
      if f.lacks s = [] then .ok (s.filled (f.row i))
      else .error (.missingRequired s.name (f.lacks s)) := by
  obtain rfl := ht.schema_eq
  have hpassed := hf.passed t false
  have hmatches := f.matches_passed t false
  -- Only columns that are fields are passed on, so there is no stray among them.
  have hfields : ∀ n ∈ ((f.passed t false).row i).map Prod.fst, n ∈ t.schema.keys := by
    intro n hn
    rw [Frame.keys_row] at hn
    obtain ⟨c, hc, rfl⟩ := List.mem_map.1 hn
    exact (Frame.mem_passed_iff.1 hc).2.resolve_left Bool.false_ne_true
  have hdistinct : (((f.passed t false).row i).map Prod.fst).Nodup :=
    (Frame.keys_row _ i).symm ▸ hpassed.distinct
  have hlacking : t.schema.lacking ((f.passed t false).row i) = f.lacks t.schema := by
    rw [Frame.lacking_row, hmatches.lacks_eq]
  have hways := ht.constructs hdistinct fun hself => ht.receiver_notMem (hfields _ hself)
  generalize t.construct [] ((f.passed t false).row i) = made at hways
  cases hways with
  | unexpected some_stray => exact absurd (Schema.strays_eq_nil_iff.2 hfields) some_stray
  | missing _ some_lacking =>
    rw [hlacking] at some_lacking ⊢
    rw [if_neg some_lacking]
  | made _ none_lacking =>
    rw [if_pos (hlacking ▸ none_lacking), hmatches.filled_row hf hpassed]

/-- The rows are gone through as reading tells. -/
theorem exists_reads (ht : t.IsClassOf s) (hf : f.IsTable) (σ : Session) :
    ∃ r σ', f.Reads t σ r σ' ∧ Runs ((f.arguments t false).mapM (makeOf t [])) σ r σ' := by
  obtain rfl := ht.schema_eq
  by_cases hlacks : 0 < f.height → f.lacks t.schema = []
  · have htaken : ∀ row ∈ f.arguments t false, t.construct [] row = .ok (t.schema.filled row) := by
      intro row hrow
      rw [hf.arguments_eq] at hrow
      obtain ⟨i, hi, rfl⟩ := List.mem_map.1 hrow
      rw [ht.construct_row hf, if_pos (hlacks (Nat.zero_lt_of_lt (List.mem_range.1 hi))),
        (f.matches_passed t false).filled_row hf (hf.passed t false)]
    have hfilled : (f.arguments t false).map t.schema.filled = f.rows.map t.schema.filled := by
      rw [hf.arguments_eq, Frame.rows, List.map_map, List.map_map]
      exact List.map_congr_left fun i _ =>
        ((f.matches_passed t false).filled_row hf (hf.passed t false) i).symm
    have hlength : (f.arguments t false).length = f.height := by simp [hf.arguments_eq]
    have hruns := ht.runs_mapM_makeOf htaken σ
    rw [hfilled, hlength] at hruns
    exact ⟨_, _, .made hlacks, hruns⟩
  · -- All rows have the same columns, so the first one fails already.
    obtain ⟨hheight, hlacks⟩ := Classical.not_imp.1 hlacks
    obtain ⟨rest, hrows⟩ := hf.exists_arguments_eq_cons hheight t false
    have hrefused := ht.construct_row hf 0
    rw [if_neg hlacks] at hrefused
    rw [hrows]
    exact ⟨_, _, .missing hheight hlacks, ht.runs_mapM_makeOf_of_error hrefused rest σ⟩

/-- The records that are read list the values that their rows fill in. -/
theorem forall₂_recordsFrom (ht : t.IsClassOf s) (hσ : σ.types.get? t.identity.id = some t)
    (rows : List (List (String × Value))) (last : Nat) :
    List.Forall₂ (fun row o => ∃ cell values, o = .record cell t.identity values ∧
      Runs (fieldsOf (.record cell t.identity values)) σ (.ok (s.filled row)) σ) rows
      (t.recordsFrom last (rows.map s.filled)) := by
  induction rows generalizing last with
  | nil => exact .nil
  | cons row rows ih =>
    exact .cons ⟨_, _, rfl, ht.runs_fieldsOf_filled hσ (last + 1) row⟩ (ih (last + 1))

/-- A row with a column that is no field is refused: the record itself cannot be given by its name,
and other names are told. -/
theorem construct_stray (ht : t.IsClassOf s) {given : List (String × Value)}
    (hgiven : (given.map Prod.fst).Nodup) (hstrays : s.strays given ≠ []) :
    ∃ e, t.construct [] given = .error e ∧
      (e = .refused .wrongKind ∨ e = .unexpectedKeywords s.name (s.strays given)) := by
  by_cases hself : receiver ∈ given.map Prod.fst
  · exact ⟨_, construct_of_receiver hself, .inl rfl⟩
  · have hways := ht.constructs hgiven hself
    generalize t.construct [] given = made at hways
    cases hways with
    | unexpected _ => exact ⟨_, rfl, .inr rfl⟩
    | missing no_stray _ | made no_stray _ => exact absurd no_stray hstrays

end RecordType.IsClassOf

namespace RecordType

open RecordSchema.Session

/-- Reading a frame into the class of a schema that an accumulator gives, with a body that leaves
the records alone. If there is a row and an enforced field has no column, the enforced fields
without a column are missing. Otherwise there is a record for each row, in order, which lists what
the row has for the fields and the defaults of the others. Frames of one height with the same
columns under the names of fields come to the same. So does strict reading if all columns are
fields; if not, it fails as soon as there is a row. -/
theorem reading_outcomes {s : Schema} (hs : s.IsCollected) (hplaces : ∀ n ∈ s.keys, n ∉ places)
    {body : ClassBody} (hbody : body.LeavesRecords s.keys) {t : RecordType} {σ₀ σ₁ σ : Session}
    (hcreate : Runs (createType s body) σ₀ (.ok t) σ₁)
    (hσ : σ.types.get? t.identity.id = some t) {f : Frame} (hf : f.IsTable) (id : Nat) :
    ∃ r σ', Runs (fromFrame (.recordType t.identity.id) (.frame id f) false) σ r σ' ∧
      (0 < f.height → f.lacks s ≠ [] → r = .error (.missingRequired s.name (f.lacks s))) ∧
      (f.height = 0 ∨ f.lacks s = [] →
        ∃ os, r = .ok os ∧ List.Forall₂ (fun row o => ∃ cell values,
          o = .record cell t.identity values ∧
            Runs (fieldsOf (.record cell t.identity values)) σ' (.ok (s.filled row)) σ')
          f.rows os) ∧
      (∀ g : Frame, g.IsTable → g.height = f.height → f.Matches g s →
        ∀ id', Runs (fromFrame (.recordType t.identity.id) (.frame id' g) false) σ r σ') ∧
      ((∀ c ∈ f.columns, c.name ∈ s.keys) →
        Runs (fromFrame (.recordType t.identity.id) (.frame id f) true) σ r σ') ∧
      (0 < f.height → (∃ c ∈ f.columns, c.name ∉ s.keys) →
        ∃ e σ'', Runs (fromFrame (.recordType t.identity.id) (.frame id f) true) σ (.error e) σ'' ∧
          (e = .refused .wrongKind ∨ e = .unexpectedKeywords s.name (s.strays (f.row 0)))) := by
  have ht := isClassOf_of_isCollected hs hplaces hbody.toLeavesAlone hcreate
  obtain rfl := ht.schema_eq
  obtain ⟨r, σ', hreads, hruns⟩ := ht.exists_reads hf σ
  refine ⟨r, σ', ht.runs_fromFrame hσ hruns id, fun hheight hlacks => ?_, fun hcomplete => ?_,
    fun g hg hheight hfg id' => ?_, fun hfields => ?_, fun hheight hstray => ?_⟩
  · exact (hreads.unique (.missing hheight hlacks)).1
  · have hnone : 0 < f.height → f.lacks t.schema = [] := fun hheight =>
      hcomplete.resolve_left (Nat.ne_of_gt hheight)
    obtain ⟨rfl, rfl⟩ := hreads.unique (.made hnone)
    exact ⟨_, rfl, ht.forall₂_recordsFrom (σ := { σ with last := σ.last + f.height }) hσ f.rows
      σ.last⟩
  · obtain ⟨r', σ'', hreads', hruns'⟩ := ht.exists_reads hg σ
    obtain ⟨rfl, rfl⟩ := hreads'.unique (hreads.of_matches hf hg hheight hfg)
    exact ht.runs_fromFrame hσ hruns' id'
  · -- No column is left out, so both ways of reading pass on the same.
    have harguments : f.arguments t true = f.arguments t false := by
      rw [Frame.arguments, Frame.arguments, Frame.passed_eq_self fun _ _ => .inl rfl,
        Frame.passed_eq_self fun c hc => .inr (hfields c hc)]
    exact ht.runs_fromFrame hσ (harguments ▸ hruns) id
  · -- Strict reading passes the column on, and the first row is refused for it.
    obtain ⟨c, hc, hstray⟩ := hstray
    have hgiven : ((f.row 0).map Prod.fst).Nodup := (f.keys_row 0).symm ▸ hf.distinct
    have hname : c.name ∈ (f.row 0).map Prod.fst := f.keys_row 0 ▸ List.mem_map_of_mem hc
    obtain ⟨e, hmade, he⟩ := ht.construct_stray hgiven fun hnone =>
      hstray (Schema.strays_eq_nil_iff.1 hnone _ hname)
    obtain ⟨rest, hrows⟩ := hf.exists_arguments_eq_cons hheight t true
    rw [Frame.passed_eq_self fun _ _ => .inl rfl] at hrows
    have hfails := ht.runs_mapM_makeOf_of_error hmade rest σ
    exact ⟨e, _, ht.runs_fromFrame hσ (hrows ▸ hfails) id, he⟩

end RecordType

/-- A column of numbers beside another one. -/
def Frame.numbers : Frame :=
  ⟨[⟨"x", .int64, [.int 1, .int 2]⟩, ⟨"n", .int64, [.int 7, .none]⟩]⟩

/-- The other column by itself. -/
def Frame.others : Frame := ⟨[⟨"x", .int64, [.int 1, .int 2]⟩]⟩

theorem Frame.isTable_numbers : numbers.IsTable where
  distinct := by decide
  even := by simp [numbers, height]

theorem Frame.isTable_others : others.IsTable where
  distinct := by decide
  even := by simp [others, height]

namespace RecordType

open RecordSchema.Session

/-- Two rows make two records of a number, and without its column the number is missing. -/
theorem reading_enforcedNumber :
    ∃ t σ os σ' σ'', Runs (createType Builder.enforcedSchema {}) {} (.ok t) σ ∧
      Runs (fromFrame (.recordType t.identity.id) (.frame 2 Frame.numbers) false) σ (.ok os) σ' ∧
      os.length = 2 ∧
      Runs (fromFrame (.recordType t.identity.id) (.frame 3 Frame.others) false) σ
        (.error (.missingRequired (.text "P") ["n"])) σ'' := by
  have hnamed := Builder.isNamed_of_build (by simp) Builder.build_enforcedNumber
  obtain ⟨t, σ, hcreate, -, hσ⟩ := (runs_createType hnamed {}).2
    (by simp [Builder.enforcedSchema, Schema.keys, RecordType.receiver])
  have hs := Builder.isCollected_of_build Builder.build_enforcedNumber
  have hplaces : ∀ n ∈ Builder.enforcedSchema.keys, n ∉ places := by decide
  have hbody : ClassBody.LeavesRecords {} Builder.enforcedSchema.keys :=
    ClassBody.leavesRecords_of_members_eq_nil rfl _
  obtain ⟨r, σ', hread, -, hmade, -⟩ :=
    reading_outcomes hs hplaces hbody hcreate hσ Frame.isTable_numbers 2
  obtain ⟨r', σ'', hfails, hmissing, -⟩ :=
    reading_outcomes hs hplaces hbody hcreate hσ Frame.isTable_others 3
  obtain ⟨os, rfl, hos⟩ := hmade (.inr (by decide))
  rw [hmissing (by decide) (by decide)] at hfails
  exact ⟨t, σ, os, σ', σ'', hcreate, hread, hos.length_eq.symm, hfails⟩

/-- No record is read where the namespace of a class has a value in the place of what makes its
records, or where a field is called like a place that every record has, although no column is
missing. -/
theorem unreadable_hook_and_place :
    (∃ t σ σ', Runs (createType (Builder.oneFieldSchema "n")
        { members := [("__new__", .data (.int 5))] }) {} (.ok t) σ ∧
      Frame.numbers.lacks (Builder.oneFieldSchema "n") = [] ∧
      Runs (fromFrame (.recordType t.identity.id) (.frame 2 Frame.numbers) false) σ
        (.error (.refused .wrongKind)) σ') ∧
    ∃ t σ σ', Runs (createType placeSchema {}) {} (.ok t) σ ∧
      Frame.others.lacks placeSchema = [] ∧
      Runs (fromFrame (.recordType t.identity.id) (.frame 2 Frame.others) false) σ
        (.error (.refused .wrongKind)) σ' := by
  have htitle : checkTitle placeSchema.name = .ok "P" := by
    simp [placeSchema, checkTitle, String.contains_char_eq]
  refine ⟨?_, ?_⟩
  · refine ⟨?type, _, ?session, runs_createType_of_create (σ := {}) ?created, rfl, ?read⟩
    case created =>
      rw [create, show checkParameters (Builder.oneFieldSchema "n").keys = .ok () from rfl, ok_bind,
        show checkTitle (Builder.oneFieldSchema "n").name = .ok "P" from htitle, ok_bind]
      rfl
    case read => rfl
  · have hcreate := runs_createType_of_create (σ := {}) (create_of_checked rfl htitle 1)
    exact ⟨_, _, _, hcreate, rfl, rfl⟩

end RecordType

end RecordSchema
