import RecordSchema.Proofs.Record.Construction
import RecordSchema.Proofs.Sequences
import RecordSchema.Proofs.TypeTerm.Primitive

/-!
# Records in a frame and back

The records of a class are laid out in a frame, and the rows of the frame are made into records
again. If every value fits the column of its field (`ColumnType.Fits`), as `None` and the values of
primitive classes do (`RecordType.hasRecord_of_primitive`), the frame holds the values as they are
(`RecordType.IsOrdinary.runs_toFrame`), and its rows are the records again
(`RecordType.arguments_frameOf`), field by field. A frame without columns has no rows, so the
records of a class without fields are lost: the number of records comes back exactly if the class
has a field or there are no records (`RecordType.frame_round_trip`).
-/

set_option autoImplicit false

namespace RecordSchema

/-! ## Values that a column keeps -/

/-- A value that a column of a type keeps as it is: `None`, or a value of the very class that the
column is for. -/
inductive ColumnType.Fits : ColumnType → Value → Prop where
  | none (type : ColumnType) : Fits type .none
  | int64 (n : Int) (held : Word.holds 64 n = true) : Fits .int64 (.int n)
  | float64 (x : Binary64) (number : ∀ label, x ≠ .nan label) : Fits .float64 (.real x)
  | string (s : String) : Fits .string (.text s)
  | boolean (b : Bool) : Fits .boolean (.bool b)

namespace ColumnType

variable {type : ColumnType} {v : Value}

theorem Fits.store_eq (h : type.Fits v) : type.store v = .ok v := by
  cases h with
  | none => cases type <;> rfl
  | int64 n held => simp [store, held]
  | float64 x number => rfl
  | string s => rfl
  | boolean b => rfl

theorem Fits.revised_eq (h : type.Fits v) (r : Revision) : v.revised r = v := by
  cases h <;> simp [Value.revised]

theorem storeAll_of_fits {values : List Value} (h : ∀ v ∈ values, type.Fits v) :
    type.storeAll values = .ok values := by
  have hall : values.mapM type.store = .ok values :=
    mapM_eq_ok_iff.2 (List.forall₂_same.2 fun v hv => (h v hv).store_eq)
  unfold storeAll
  rw [hall]

/-- What is exactly of a primitive class fits the column for it, if it is not too large. -/
theorem fits_of_has {p : Primitive} (h : p.Has v)
    (hheld : ∀ n, v = .int n → Word.holds 64 n = true) : p.column.Fits v := by
  cases h with
  | int n => exact .int64 n (hheld n rfl)
  | float x number => exact .float64 x number
  | str s => exact .string s
  | bool b => exact .boolean b

end ColumnType

/-! ## Values of records -/

namespace RecordType

/-- The value that a record has under a name, as far as it has one. -/
def valueIn (t : RecordType) (r : Value) (n : String) : Value :=
  match r with
  | .record cell _ attributes => ((Session.Instance.mk cell t attributes).value? n).getD .none
  | _ => .none

/-- The fields of a record with its values, in declaration order. -/
def valuesIn (t : RecordType) (r : Value) : List (String × Value) :=
  t.schema.keys.map fun n => (n, t.valueIn r n)

/-- A record of a class whose values all fit the columns of their fields. -/
def HasRecord (t : RecordType) (r : Value) : Prop :=
  ∃ cell attributes, r = .record cell t.identity attributes ∧
    ∀ p ∈ t.schema.columnTypes, ∃ v,
      (Session.Instance.mk cell t attributes).value? p.1 = some v ∧ p.2.Fits v

/-- The frame of records: a column for each field, with the values of the records in order. -/
def frameOf (t : RecordType) (records : List Value) : Frame :=
  ⟨t.schema.columnTypes.map fun p => ⟨p.1, p.2, records.map fun r => t.valueIn r p.1⟩⟩

variable {t : RecordType} {records : List Value}

theorem keys_columnTypes (ht : t.schema.keys.Nodup) :
    t.schema.columnTypes.map Prod.fst = t.schema.keys := by
  rw [Schema.columnTypes, Schema.types_eq_map ht, List.map_map, List.map_map]
  rfl

theorem keys_valuesIn (t : RecordType) (r : Value) :
    (t.valuesIn r).map Prod.fst = t.schema.keys := by
  rw [valuesIn, List.map_map]
  exact List.map_id'' (fun _ => rfl) _

/-- The values of a record fit if its fields are annotated with primitive classes, alone or with
`None` beside them, and each value is `None` or exactly of the class. -/
theorem hasRecord_of_primitive (ht : t.schema.keys.Nodup) {cell : Nat}
    {attributes : List (String × Value)}
    (h : ∀ f ∈ t.schema.fields, ∃ p : Primitive, (f.effective = p.type ∨ f.effective = p.orNone) ∧
      ∃ v, (Session.Instance.mk cell t attributes).value? f.name = some v ∧
        (v = .none ∨ p.Has v ∧ ∀ n, v = .int n → Word.holds 64 n = true)) :
    t.HasRecord (.record cell t.identity attributes) := by
  refine ⟨cell, attributes, rfl, fun q hq => ?_⟩
  rw [Schema.columnTypes, Schema.types_eq_map ht, List.map_map] at hq
  obtain ⟨f, hf, rfl⟩ := List.mem_map.1 hq
  obtain ⟨p, htype, v, hv, hvalue⟩ := h f hf
  have hcolumn : TypeTerm.column f.effective = p.column := by
    rcases htype with htype | htype
    · rw [htype, p.column_type]
    · rw [htype, p.column_orNone]
  refine ⟨v, hv, ?_⟩
  show (TypeTerm.column f.effective).Fits v
  rw [hcolumn]
  rcases hvalue with rfl | ⟨hhas, hheld⟩
  · exact .none _
  · exact ColumnType.fits_of_has hhas hheld

/-! ## The rows of a frame of records -/

/-- Every column of a frame of records is that of a field. -/
theorem passed_frameOf (ht : t.schema.keys.Nodup) (strict : Bool) :
    (t.frameOf records).passed t strict = t.frameOf records := by
  refine congrArg Frame.mk (List.filter_eq_self.2 fun c hc => ?_)
  obtain ⟨p, hp, rfl⟩ := List.mem_map.1 hc
  have hkey : p.1 ∈ t.schema.keys := keys_columnTypes ht ▸ List.mem_map_of_mem hp
  simp [hkey]

/-- The columns of a frame of records are all as long as there are records. -/
theorem height_frameOf (h : t.schema.columnTypes ≠ []) :
    (t.frameOf records).height = records.length := by
  obtain ⟨p, types, hp⟩ := List.exists_cons_of_ne_nil h
  rw [Frame.height, frameOf, hp, List.map_cons]
  exact List.length_map _

/-- In the place of a record the frame has a row with its values. -/
theorem row_frameOf (ht : t.schema.keys.Nodup) {i : Nat} (hi : i < records.length) :
    (t.frameOf records).row i = t.valuesIn records[i] := by
  rw [Frame.row, frameOf, List.map_map, valuesIn, ← keys_columnTypes ht, List.map_map]
  refine List.map_congr_left fun p hp => ?_
  simp [hi]

/-- The records that come back from a frame. Those of a class without fields are lost. -/
def returned (t : RecordType) (records : List Value) : List Value :=
  if t.schema.fields = [] then [] else records

theorem length_returned_iff :
    (t.returned records).length = records.length ↔ t.schema.fields ≠ [] ∨ records = [] := by
  by_cases hfields : t.schema.fields = []
  · simp [returned, hfields, eq_comm]
  · simp [returned, hfields]

theorem returned_eq_of_length (h : (t.returned records).length = records.length) :
    t.returned records = records := by
  rcases length_returned_iff.1 h with hfields | rfl
  · exact if_neg hfields
  · exact ite_self _

/-- The rows of a frame of records are those of the records that come back. -/
theorem arguments_frameOf (ht : t.schema.keys.Nodup) (strict : Bool) :
    (t.frameOf records).arguments t strict = (t.returned records).map t.valuesIn := by
  have hlength : t.schema.columnTypes.length = t.schema.fields.length := by
    rw [Schema.columnTypes, Schema.types_eq_map ht, List.length_map, List.length_map]
  unfold Frame.arguments
  rw [passed_frameOf ht]
  by_cases hfields : t.schema.fields = []
  · have hnone : t.schema.columnTypes = [] := by
      rw [← List.length_eq_zero_iff, hlength, hfields, List.length_nil]
    -- A frame without columns has no height, whatever it was made of.
    simp [returned, hfields, frameOf, hnone, Frame.height]
  · have hsome : t.schema.columnTypes ≠ [] := by
      rwa [← List.length_pos_iff, hlength, List.length_pos_iff]
    have hcolumns : (t.frameOf records).columns.isEmpty = false := by
      simpa [frameOf] using hsome
    simp only [returned, hcolumns, hfields, Bool.false_eq_true, if_false]
    rw [Frame.rows, height_frameOf hsome]
    refine List.ext_getElem (by simp) fun i hi hi' => ?_
    rw [List.length_map] at hi'
    simp [row_frameOf ht hi']

end RecordType

/-! ## Completed records -/

/-- What a class has under a name stands among what it shares with its records. -/
theorem lookup_sharedAttributes {t : RecordType} {types : Table RecordType} {n : String} {v : Value}
    (ht : types.get? t.identity.id = some t) (hv : RecordType.dataUnder t.members n = some v) :
    Value.lookup n (Session.sharedAttributes types t.identity) = some v := by
  have hmember : Value.lookup n t.members = some (.data v) := by
    unfold RecordType.dataUnder Namespace.member? at hv
    split at hv
    · rename_i w hw
      rwa [← Option.some.inj hv]
    · cases hv
  simp only [Session.sharedAttributes, ht]
  generalize t.members = members at hmember
  induction members with
  | nil => cases hmember
  | cons m members ih =>
    by_cases hm : m.1 = n
    · have hdata : m.2 = .data v := by simpa [Value.lookup, hm] using hmember
      simp [Value.lookup, hm, hdata]
    · have hrest : Value.lookup n members = some (.data v) := by
        simpa [Value.lookup, hm] using hmember
      -- A member under another name is passed over, whatever it is.
      cases hdata : m.2 with
      | data w => simpa [Value.lookup, hm, hdata] using ih hrest
      | _ => simpa [hdata] using ih hrest

theorem lookup_revisedFields (r : Revision) (attributes : List (String × Value)) (n : String) :
    Value.lookup n (Value.revisedFields r attributes) =
      (Value.lookup n attributes).map (Value.revised r) := by
  induction attributes with
  | nil => rfl
  | cons p attributes ih =>
    obtain ⟨k, v⟩ := p
    rw [Value.revisedFields]
    by_cases hk : k = n
    · simp [Value.lookup, hk]
    · simpa [Value.lookup, hk] using ih

/-- Shared attributes are found where a record has none of its own. -/
theorem lookup_append_shared (own shared : List (String × Value)) (n : String) :
    Value.lookup n (own ++ shared.filter fun p => !own.any (·.1 == p.1)) =
      (Value.lookup n own).or (Value.lookup n shared) := by
  unfold Value.lookup
  rw [List.find?_append, Option.map_or, List.find?_filter]
  cases hown : own.find? (·.1 == n) with
  | some p => rfl
  | none =>
    have hnone : own.any (·.1 == n) = false := by
      rw [List.any_eq_false]
      exact fun p hp => List.find?_eq_none.1 hown p hp
    -- Nothing under this name is left out of what is shared.
    have hkeep : (fun p : String × Value => decide ((!own.any (·.1 == p.1)) = true ∧
        (p.1 == n) = true)) = fun p => p.1 == n := by
      funext p
      by_cases hp : p.1 = n
      · subst hp
        simp only [hnone, Bool.not_false, beq_self_eq_true, and_self, decide_true]
      · simp [hp]
    rw [hkeep]

namespace RecordType

/-- Attributes that hold the values of a record under the names of its fields, all of them fitting
their columns. -/
def Holds (t : RecordType) (r : Value) (attributes : List (String × Value)) : Prop :=
  ∀ p ∈ t.schema.columnTypes, Value.lookup p.1 attributes = some (t.valueIn r p.1) ∧
    p.2.Fits (t.valueIn r p.1)

variable {t : RecordType} {r : Value} {records : List Value} {types : Table RecordType}

/-- A record that is completed holds the values that it had. -/
theorem HasRecord.completed (hr : t.HasRecord r) (ht : types.get? t.identity.id = some t) :
    ∃ cell attributes, r.revised { shared := Session.sharedAttributes types } =
      .record cell t.identity attributes ∧ t.Holds r attributes := by
  obtain ⟨cell, attributes, rfl, hvalues⟩ := hr
  simp only [Value.revised]
  refine ⟨cell, _, rfl, fun p hp => ?_⟩
  obtain ⟨v, hv, hfits⟩ := hvalues p hp
  have hvalue : t.valueIn (.record cell t.identity attributes) p.1 = v := by simp [valueIn, hv]
  rw [hvalue, lookup_append_shared, lookup_revisedFields]
  refine ⟨?_, hfits⟩
  rcases Option.or_eq_some_iff.1 hv with hown | ⟨hnone, hshared⟩
  · simp [hown, hfits.revised_eq]
  · simp [hnone, lookup_sharedAttributes ht hshared]

/-! ## Laying out records -/

/-- Completed records are rows that hold the values of the records. -/
theorem exists_recordRows (ht : types.get? t.identity.id = some t)
    (hrecords : ∀ r ∈ records, t.HasRecord r) :
    ∃ rows, Frame.recordRows t
        (records.map (Value.revised { shared := Session.sharedAttributes types })) = .ok rows ∧
      List.Forall₂ t.Holds records rows := by
  induction records with
  | nil => exact ⟨[], rfl, .nil⟩
  | cons r records ih =>
    obtain ⟨cell, attributes, hrevised, hholds⟩ :=
      (hrecords r (List.mem_cons_self ..)).completed ht
    obtain ⟨rows, hrows, hall⟩ := ih fun r' hr' => hrecords r' (List.mem_cons_of_mem _ hr')
    refine ⟨attributes :: rows, ?_, .cons hholds hall⟩
    unfold Frame.recordRows at *
    rw [List.map_cons, List.mapM_cons, hrevised, hrows]
    simp

/-- A field has a column with the values of the records. -/
theorem fieldColumn_of_holds {rows : List (List (String × Value))}
    (h : List.Forall₂ t.Holds records rows) {p : String × ColumnType}
    (hp : p ∈ t.schema.columnTypes) :
    Frame.fieldColumn rows p.1 p.2 = .ok ⟨p.1, p.2, records.map fun r => t.valueIn r p.1⟩ := by
  have hfits : ∀ v ∈ records.map fun r => t.valueIn r p.1, p.2.Fits v := by
    intro v hv
    obtain ⟨r, hr, rfl⟩ := List.mem_map.1 hv
    obtain ⟨attributes, -, hholds⟩ := exists_left_of_mem h.flip hr
    exact (hholds p hp).2
  unfold Frame.fieldColumn
  refine bind_eq_ok_iff.2 ⟨records.map fun r => t.valueIn r p.1, ?_, ?_⟩
  · refine mapM_eq_ok_iff.2
      (List.forall₂_map_right_iff.2 (h.flip.imp fun attributes r hholds => ?_))
    rw [(hholds p hp).1]
  · rw [Frame.column, ColumnType.storeAll_of_fits hfits]
    rfl

/-- The columns of a frame of records go together. -/
theorem ofColumns_frameOf (ht : t.schema.keys.Nodup) (records : List Value) :
    Frame.ofColumns (t.frameOf records).columns = .ok (t.frameOf records) := by
  have hnames : ((t.frameOf records).columns.map (·.name)).Nodup := by
    rw [frameOf, List.map_map]
    exact (keys_columnTypes ht).symm ▸ ht
  have hlengths : (t.frameOf records).columns.all
      (fun c => c.values.length == (t.frameOf records).height) = true := by
    refine List.all_eq_true.2 fun c hc => ?_
    obtain ⟨p, hp, rfl⟩ := List.mem_map.1 hc
    simp [height_frameOf (List.ne_nil_of_mem hp)]
  unfold Frame.ofColumns
  simp only [hnames, decide_true, Bool.not_true, Bool.false_eq_true, if_false]
  rw [if_neg (by simpa using hlengths)]

/-- Records whose values are held are laid out. -/
theorem ofRecords_of_holds (ht : t.schema.keys.Nodup) {values : List Value}
    {rows : List (List (String × Value))} (hrows : Frame.recordRows t values = .ok rows)
    (h : List.Forall₂ t.Holds records rows) :
    Frame.ofRecords t values = .ok (t.frameOf records) := by
  have hcolumns : t.schema.columnTypes.mapM (fun p => Frame.fieldColumn rows p.1 p.2) =
      .ok (t.frameOf records).columns :=
    mapM_eq_ok_iff.2 (List.forall₂_map_right_iff.2 (List.forall₂_same.2 fun p hp =>
      fieldColumn_of_holds h hp))
  unfold Frame.ofRecords
  rw [hrows, ok_bind, hcolumns, mapError_ok, ok_bind, ofColumns_frameOf ht]
  rfl

namespace IsOrdinary

open RecordSchema.Session

variable {σ : Session}

theorem runs_typeBehind (ht : t.IsOrdinary) (hσ : σ.types.get? t.identity.id = some t) :
    Runs (typeBehind (.recordClass t.identity)) σ (.ok t) σ := by
  refine Runs.bind (a := some t) ?_ (runs_pure t σ)
  unfold typeBehind?
  simp only [ht.hasSchema, if_true]
  exact Runs.bind (runs_typeOf hσ) (runs_pure _ σ)

/-- The frame of records whose values fit holds these values. -/
theorem runs_toFrame (ht : t.IsOrdinary) (hσ : σ.types.get? t.identity.id = some t)
    (hrecords : ∀ r ∈ records, t.HasRecord r) :
    Runs (toFrame (.recordType t.identity.id) records) σ (.ok (t.frameOf records)) σ := by
  have hcompleted : Runs (records.mapM completed) σ
      (.ok (records.map (Value.revised { shared := sharedAttributes σ.types }))) σ :=
    runs_mapM fun r _ => Runs.bind (runs_get σ) (runs_pure _ σ)
  obtain ⟨rows, hrows, hholds⟩ := exists_recordRows hσ hrecords
  unfold toFrame
  refine Runs.bind (runs_typeOf hσ) (Runs.bind hcompleted (Runs.bind (runs_ofExcept hrows σ) ?_))
  refine Runs.bind (ht.runs_typeBehind hσ) ?_
  rw [ht.isReadable]
  exact runs_ofExcept (ofRecords_of_holds ht.distinct hrows hholds) σ

/-! ## Reading rows -/

/-- The constructor takes the values of a record as they are. -/
theorem construct_valuesIn (ht : t.schema.keys.Nodup) (hself : receiver ∉ t.schema.keys)
    (r : Value) : t.construct [] (t.valuesIn r) = .ok (t.valuesIn r) := by
  have hkeys := keys_valuesIn t r
  rw [construct_eq_fill (hkeys ▸ ht) (hkeys ▸ hself),
    fill_of_covers ht rfl (show t.schema.Covers (t.valuesIn r) from .of_eq hkeys),
    Schema.arranged_eq_self ht hkeys]

/-- A row with the values of a record makes a record with these values. -/
theorem exists_runs_makeOf (ht : t.IsOrdinary) (hself : receiver ∉ t.schema.keys) (r : Value)
    (σ : Session) :
    ∃ o σ', Runs (makeOf t [] (t.valuesIn r)) σ (.ok o) σ' ∧ σ'.types = σ.types ∧
      ∃ cell, o = .record cell t.identity (t.valuesIn r) := by
  have hmake := ht.runs_makeOf [] (t.valuesIn r) σ
  rw [construct_valuesIn ht.distinct hself] at hmake
  exact ⟨_, _, hmake, rfl, _, rfl⟩

/-- Reading a frame of records back. -/
theorem runs_fromFrame (ht : t.IsOrdinary) (hself : receiver ∉ t.schema.keys)
    (hσ : σ.types.get? t.identity.id = some t) (records : List Value) (id : Nat) (strict : Bool) :
    ∃ os σ', Runs (fromFrame (.recordType t.identity.id) (.frame id (t.frameOf records)) strict) σ
        (.ok os) σ' ∧ σ'.types = σ.types ∧
      List.Forall₂ (fun r o => ∃ cell, o = .record cell t.identity (t.valuesIn r))
        (t.returned records) os := by
  obtain ⟨os, σ', hmade, htypes, hplaces⟩ :=
    exists_runs_mapM (ht.exists_runs_makeOf hself) (t.returned records) σ
  have hclass :
      Runs (Object.recordType t.identity.id).toValue σ (.ok (.recordClass t.identity)) σ :=
    Runs.bind (runs_typeOf hσ) (runs_pure _ σ)
  refine ⟨os, σ', ?_, htypes, hplaces⟩
  refine Runs.bind hclass (Runs.bind (ht.runs_typeBehind hσ) ?_)
  show Runs (((t.frameOf records).arguments t strict).mapM (makeOf t [])) _ _ _
  rw [arguments_frameOf ht.distinct, List.mapM_map]
  exact hmade

/-- The fields of a record are listed with its values. -/
theorem runs_fieldsOf_hasRecord (ht : t.IsOrdinary) (hσ : σ.types.get? t.identity.id = some t)
    {r : Value} (hr : t.HasRecord r) : Runs (fieldsOf r) σ (.ok (t.valuesIn r)) σ := by
  obtain ⟨cell, attributes, rfl, hvalues⟩ := hr
  refine ht.runs_fieldsOf (keys_valuesIn t _) (fun p hp => ?_) hσ
  obtain ⟨n, hn, rfl⟩ := List.mem_map.1 hp
  rw [← keys_columnTypes ht.distinct] at hn
  obtain ⟨q, hq, rfl⟩ := List.mem_map.1 hn
  obtain ⟨v, hv, -⟩ := hvalues q hq
  simp [valueIn, hv]

end IsOrdinary

/-- Records that are laid out in a frame and read back are as many as before exactly if the class
has a field or there are none; then each has the values that it had. -/
theorem frame_round_trip (ht : t.IsOrdinary) (hself : "self" ∉ t.schema.keys) {σ : Session}
    (hσ : σ.types.get? t.identity.id = some t) (hrecords : ∀ r ∈ records, t.HasRecord r)
    (id : Nat) (strict : Bool) :
    ∃ f os σ', Session.Runs (Session.toFrame (.recordType t.identity.id) records) σ (.ok f) σ ∧
      Session.Runs (Session.fromFrame (.recordType t.identity.id) (.frame id f) strict) σ
        (.ok os) σ' ∧
      (os.length = records.length ↔ t.schema.fields ≠ [] ∨ records = []) ∧
      (os.length = records.length → List.Forall₂ (fun r o => ∃ v values,
        Session.Runs o.toValue σ' (.ok v) σ' ∧ Session.Runs (Session.fieldsOf r) σ (.ok values) σ ∧
          Session.Runs (Session.fieldsOf v) σ' (.ok values) σ') records os) := by
  have hframe := ht.runs_toFrame hσ hrecords
  obtain ⟨os, σ', hread, htypes, hplaces⟩ := ht.runs_fromFrame hself hσ records id strict
  have hlength := hplaces.length_eq
  refine ⟨_, os, σ', hframe, hread, hlength ▸ length_returned_iff, fun hsame => ?_⟩
  rw [returned_eq_of_length (hlength.trans hsame)] at hplaces
  have hσ' : σ'.types.get? t.identity.id = some t := htypes ▸ hσ
  have hlisted : ∀ r ∈ records, Session.Runs (Session.fieldsOf r) σ (.ok (t.valuesIn r)) σ :=
    fun r hr => ht.runs_fieldsOf_hasRecord hσ (hrecords r hr)
  refine ((List.forall₂_and_left _ _).2 ⟨hlisted, hplaces⟩).imp ?_
  rintro r o ⟨hr, cell, rfl⟩
  exact ⟨_, _, Session.runs_pure _ _, hr, ht.runs_fieldsOf_own (keys_valuesIn t r) cell hσ'⟩

end RecordType

namespace Builder

open RecordSchema.Session

/-- Two records of a class with one field come back, one of them with `None`. -/
theorem frame_round_trip_number :
    ((Builder.new (.text "P")).after (classField (.int 5))).reply .build =
      .ok (.schema (classSchema (.int 5))) ∧
    ∃ t σ f os σ', Runs (createType (classSchema (.int 5)) {}) {} (.ok t) σ ∧
      Runs (toFrame (.recordType t.identity.id)
        [.record 2 t.identity [("n", .int 7)], .record 3 t.identity [("n", .none)]]) σ (.ok f) σ ∧
      Runs (fromFrame (.recordType t.identity.id) (.frame 4 f) false) σ (.ok os) σ' ∧
      os.length = 2 := by
  have hgiven : isGiven (.int 5) = true := rfl
  have hbuild := build_classField hgiven
  have hs := isNamed_of_build (by simp) hbuild
  obtain ⟨t, σ, hcreate, hplain, hσ⟩ := (runs_createType hs {}).2
    (by simp [classSchema, Schema.keys, RecordType.receiver])
  have hschema := hplain.schema_eq
  have ht := hplain.isOrdinary hs
  have hrecord {cell : Nat} {v : Value}
      (hv : v = .none ∨ Primitive.int.Has v ∧ ∀ n, v = .int n → Word.holds 64 n = true) :
      t.HasRecord (.record cell t.identity [("n", v)]) := by
    refine RecordType.hasRecord_of_primitive ht.distinct fun f hf => ?_
    rw [hschema] at hf
    obtain rfl := List.mem_singleton.1 hf
    exact ⟨.int, .inl rfl, v, rfl, hv⟩
  have hrecords : ∀ r ∈ [.record 2 t.identity [("n", .int 7)], .record 3 t.identity [("n", .none)]],
      t.HasRecord r := by
    intro r hr
    rcases List.mem_pair.1 hr with rfl | rfl
    · refine hrecord (.inr ⟨.int 7, fun n hn => ?_⟩)
      obtain rfl := Value.int.inj hn
      decide
    · exact hrecord (.inl rfl)
  obtain ⟨f, os, σ', hframe, hread, hlength, -⟩ := RecordType.frame_round_trip ht
    (by rw [hschema]; simp [classSchema, Schema.keys]) hσ hrecords 4 false
  refine ⟨hbuild, t, σ, f, os, σ', hcreate, hframe, hread, hlength.2 (.inl ?_)⟩
  rw [hschema]
  exact List.cons_ne_nil _ _

/-- The record of a class without fields is lost: its frame has no columns, and so no rows. -/
theorem record_lost_without_fields :
    ((Builder.new (.text "P")).after []).reply .build = .ok (.schema ⟨.text "P", [], []⟩) ∧
    ∃ t σ r σ₁ f σ₂, Runs (createType ⟨.text "P", [], []⟩ {}) {} (.ok t) σ ∧
      Runs (do (← make (.recordType t.identity.id) [] []).toValue) σ (.ok r) σ₁ ∧
      Runs (toFrame (.recordType t.identity.id) [r]) σ₁ (.ok f) σ₁ ∧
      Runs (fromFrame (.recordType t.identity.id) (.frame 3 f) false) σ₁ (.ok []) σ₂ := by
  have hbuild : ((Builder.new (.text "P")).after []).reply .build =
      .ok (.schema ⟨.text "P", [], []⟩) := rfl
  have hs := isNamed_of_build (by simp) hbuild
  obtain ⟨t, σ, hcreate, hplain, hσ⟩ := (runs_createType hs {}).2 (by simp [Schema.keys])
  have hschema := hplain.schema_eq
  have ht := hplain.isOrdinary hs
  have hself : RecordType.receiver ∉ t.schema.keys := by
    rw [hschema]
    exact List.not_mem_nil
  have hmake := ht.runs_make hσ [] []
  have hmade : t.construct [] [] = .ok [] := by
    have hempty : (([] : List (String × Value)).map Prod.fst).Nodup := List.nodup_nil
    rw [RecordType.construct_eq_fill hempty List.not_mem_nil]
    exact RecordType.fill_of_covers hs.distinct hschema .nil
  rw [hmade] at hmake
  have hrecord : t.HasRecord (.record (σ.last + 1) t.identity []) := by
    refine ⟨_, _, rfl, fun p hp => ?_⟩
    rw [hschema] at hp
    cases hp
  have hrecords : ∀ r ∈ [.record (σ.last + 1) t.identity []], t.HasRecord r :=
    fun r hr => List.mem_singleton.1 hr ▸ hrecord
  have hσ₁ : ({ σ with last := σ.last + 1 } : Session).types.get? t.identity.id = some t := hσ
  have hframe := ht.runs_toFrame hσ₁ hrecords
  obtain ⟨os, σ₂, hread, -, hplaces⟩ :=
    ht.runs_fromFrame hself hσ₁ [.record (σ.last + 1) t.identity []] 3 false
  -- Without columns there is nothing that tells how many rows there were.
  have hnone : t.returned [.record (σ.last + 1) t.identity []] = [] := by
    rw [RecordType.returned, hschema, if_pos rfl]
  rw [hnone, List.forall₂_nil_left_iff] at hplaces
  subst hplaces
  exact ⟨hbuild, t, σ, _, _, _, σ₂, hcreate, Runs.bind hmake (runs_pure _ _), hframe, hread⟩

end Builder

end RecordSchema
