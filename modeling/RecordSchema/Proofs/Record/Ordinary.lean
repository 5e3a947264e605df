import RecordSchema.Proofs.Record.Class
import RecordSchema.Proofs.Session.Acts
import RecordSchema.Session.Records

/-!
# Ordinary record classes

A class whose body leaves the making of records, their attributes and the names of the fields alone
is ordinary (`RecordType.IsOrdinary`). The class of a schema is of this kind, unless a field is
called like one of the places that every record has (`RecordType.isOrdinary_of_create`). Whatever
else a class defines, the attribute of a record comes before it
(`ClassBody.passiveAt_namespaceFor`).

A call of an ordinary class ends as its constructor does (`RecordType.IsOrdinary.runs_makeOf`), and
the fields of a record are listed with the values that it has under their names
(`RecordType.IsOrdinary.runs_fieldsOf`).
-/

set_option autoImplicit false

namespace RecordSchema

/-! ## Members of a namespace -/

/-- Does the attribute of a record come before a member of its class under the same name? -/
def Member.isPassive : Member → Bool
  | .code .property _ | .attributes | .reference => false
  | _ => true

/-- Is a value known to have no rules of its own (`__set__`, `__delete__`) for the attribute of a
record under whose name it stands in the class? A record may have them from its class, and of any
other object only the printed form is known. -/
def Value.isInert : Value → Bool
  | .record .. | .handle .. => false
  | _ => true

namespace Namespace

theorem member?_putDefault (ns : Namespace) (name n : String) (m : Member) :
    (ns.putDefault name m).member? n =
      if name = n then some ((ns.member? n).getD m) else ns.member? n := by
  unfold putDefault has member?
  by_cases hname : name = n
  · subst hname
    cases hfound : Value.lookup name ns with
    | some found => simp [hfound]
    | none => simp [Schema.lookup_put]
  · rw [if_neg hname]
    split
    · rfl
    · rw [Schema.lookup_put, if_neg hname]

theorem member?_erase_of_ne {ns : Namespace} {name n : String} (h : n ≠ name) :
    (ns.erase name).member? n = ns.member? n := by
  unfold member? erase Value.lookup
  rw [List.find?_filter]
  congr 1
  refine congrFun (congrArg _ (funext fun m => ?_)) ns
  by_cases hm : m.1 = n
  · simp [hm, h]
  · simp [hm]

theorem member?_erase_self (ns : Namespace) (name : String) :
    (ns.erase name).member? name = none := by
  rw [member?, Schema.lookup_eq_none_iff]
  intro hmem
  obtain ⟨m, hm, hname⟩ := List.mem_map.1 hmem
  simpa [hname] using (List.mem_filter.1 hm).2

theorem member?_put (ns : Namespace) (name n : String) (m : Member) :
    member? (Schema.put ns name m) n = if name = n then some m else ns.member? n :=
  Schema.lookup_put ns name n m

theorem has_eq_isSome (ns : Namespace) (n : String) : ns.has n = (ns.member? n).isSome := rfl

/-- What a namespace has under a name, if it has anything there, does not come before the attribute
of a record. -/
def PassiveAt (ns : Namespace) (n : String) : Prop :=
  ∀ m, ns.member? n = some m → m.isPassive = true

section PassiveAt

variable {ns : Namespace} {n : String}

theorem PassiveAt.put (h : ns.PassiveAt n) {name : String} {m : Member}
    (hm : name = n → m.isPassive = true) : PassiveAt (Schema.put ns name m) n := by
  intro found hfound
  rw [member?_put] at hfound
  split at hfound
  · next hname => exact Option.some.inj hfound ▸ hm hname
  · exact h found hfound

theorem PassiveAt.putDefault (h : ns.PassiveAt n) {name : String} {m : Member}
    (hm : name = n → m.isPassive = true) : (ns.putDefault name m).PassiveAt n := by
  intro found hfound
  rw [member?_putDefault] at hfound
  split at hfound
  · next hname =>
    cases hown : ns.member? n with
    | some own => exact Option.some.inj (hown ▸ hfound) ▸ h own hown
    | none => exact Option.some.inj (hown ▸ hfound) ▸ hm hname
  · exact h found hfound

theorem PassiveAt.erase (h : ns.PassiveAt n) (name : String) : (ns.erase name).PassiveAt n := by
  intro found hfound
  by_cases hname : n = name
  · rw [hname, member?_erase_self] at hfound
    cases hfound
  · rw [member?_erase_of_ne hname] at hfound
    exact h found hfound

theorem PassiveAt.putAll {members : List (String × Member)} (h : ns.PassiveAt n)
    (hmembers : ∀ m ∈ members, m.1 = n → m.2.isPassive = true) :
    PassiveAt (Schema.putAll ns members) n := by
  induction members generalizing ns with
  | nil => exact h
  | cons m members ih =>
    exact ih (h.put (hmembers m (List.mem_cons_self ..)))
      fun m' hm' => hmembers m' (List.mem_cons_of_mem _ hm')

theorem PassiveAt.putDefaults {members : List (String × Member)} (h : ns.PassiveAt n)
    (hmembers : ∀ m ∈ members, m.1 = n → m.2.isPassive = true) :
    PassiveAt (members.foldl (fun ns m => ns.putDefault m.1 m.2) ns) n := by
  induction members generalizing ns with
  | nil => exact h
  | cons m members ih =>
    exact ih (h.putDefault (hmembers m (List.mem_cons_self ..)))
      fun m' hm' => hmembers m' (List.mem_cons_of_mem _ hm')

end PassiveAt

end Namespace

namespace ClassBody

/-- A body that leaves the making of records, their attributes and some names alone, as far as code
goes. -/
structure LeavesAlone (body : ClassBody) (names : List String) : Prop where
  hooks : ∀ n ∈ ["__new__", "__setattr__", "__getattribute__"], body.members.has n = false
  passive : ∀ n ∈ names, ∀ m, body.members.member? n = some m → m.isPassive = true

/-- A body that leaves room in records for attributes under any name, and has nothing under some
names that takes the place of an attribute. -/
structure LeavesRoom (body : ClassBody) (names : List String) : Prop
    extends body.LeavesAlone names where
  slots : body.members.has "__slots__" = false
  inert : ∀ n ∈ names, ∀ v, body.members.member? n = some (.data v) → v.isInert = true

/-- A body that besides leaves the kind of its records alone, so that none passes for a class. -/
structure LeavesRecords (body : ClassBody) (names : List String) : Prop
    extends body.LeavesRoom names where
  kind : body.members.has "__class__" = false

/-- A body without members leaves everything alone. -/
theorem leavesAlone_of_members_eq_nil {body : ClassBody} (h : body.members = [])
    (names : List String) : body.LeavesAlone names where
  hooks := fun _ _ => by rw [h]; rfl
  passive := fun _ _ m hm => by rw [h] at hm; cases hm

theorem leavesRecords_of_members_eq_nil {body : ClassBody} (h : body.members = [])
    (names : List String) : body.LeavesRecords names where
  toLeavesAlone := leavesAlone_of_members_eq_nil h names
  slots := by rw [h]; rfl
  inert := fun _ _ v hv => by rw [h] at hv; cases hv
  kind := by rw [h]; rfl

/-- The names that every record class defines. -/
def definedNames : List String :=
  ["__schema__", "__annotations__", "__init__", "__match_args__", "__keys__", "__defaults__",
   "__types__", "__repr__", "__eq__", "__hash__", "__module__", "__doc__", "__dict__",
   "__weakref__", "__qualname__"]

/-- Under any other name the class has what the body brings. -/
theorem member?_namespaceFor {body : ClassBody} {s : Schema} {n : String}
    (hn : n ∉ definedNames) : (body.namespaceFor s).member? n = body.members.member? n := by
  simp only [definedNames, List.mem_cons, List.not_mem_nil, or_false, not_or] at hn
  rcases body with ⟨module, qualname, members⟩
  cases module <;>
    simp [namespaceFor, Schema.putAll, Namespace.member?_putDefault, Namespace.member?_put,
      Namespace.member?_erase_of_ne, Ne.symm, hn]

/-- Nothing that a class defines comes before the attribute of a record, two places apart. -/
theorem passiveAt_namespaceFor {body : ClassBody} {n : String} (h : body.members.PassiveAt n)
    (hdict : n ≠ "__dict__") (hweakref : n ≠ "__weakref__") (s : Schema) :
    (body.namespaceFor s).PassiveAt n := by
  unfold namespaceFor
  refine Namespace.PassiveAt.putDefaults (.putAll (h.erase "__qualname__") ?_) ?_
  · intro m hm _
    rcases List.mem_append.1 hm with hm | hm
    · simp only [List.mem_cons, List.not_mem_nil, or_false] at hm
      rcases hm with rfl | rfl | rfl | rfl | rfl | rfl | rfl <;> rfl
    · obtain ⟨module, -, rfl⟩ := List.mem_map.1 hm
      rfl
  · intro m hm hname
    simp only [List.mem_cons, List.not_mem_nil, or_false] at hm
    rcases hm with rfl | rfl | rfl | rfl | rfl | rfl | rfl
    case inr.inr.inr.inr.inr.inl => exact absurd hname.symm hdict
    case inr.inr.inr.inr.inr.inr => exact absurd hname.symm hweakref
    all_goals rfl

theorem member?_namespaceFor_init (body : ClassBody) (s : Schema) :
    (body.namespaceFor s).member? "__init__" = some (.code .method .initialise) := by
  rcases body with ⟨module, qualname, members⟩
  cases module <;>
    simp [namespaceFor, Schema.putAll, Namespace.member?_putDefault, Namespace.member?_put]

theorem member?_namespaceFor_schema (body : ClassBody) (s : Schema) :
    (body.namespaceFor s).member? "__schema__" = some .schema := by
  rcases body with ⟨module, qualname, members⟩
  cases module <;>
    simp [namespaceFor, Schema.putAll, Namespace.member?_putDefault, Namespace.member?_put]

end ClassBody

/-! ## Ordinary classes -/

/-- A class whose records are made by its schema alone, and which has nothing in the way of the
attributes under the names of the fields. -/
structure RecordType.IsOrdinary (t : RecordType) : Prop where
  hasSchema : t.identity.hasSchema = true
  isReadable : t.identity.isReadable = true
  initialises : t.member? "__init__" = some (.code .method .initialise)
  hooks : ∀ n ∈ ["__new__", "__setattr__"], t.members.has n = false
  distinct : t.schema.keys.Nodup
  proper : ∀ n ∈ t.schema.keys, n ≠ "__class__"
  passive : ∀ n ∈ t.schema.keys, ∀ m, t.member? n = some m → m.isPassive = true

namespace RecordType

/-- Names that can be the parameters of a constructor are distinct. -/
theorem nodup_of_checkParameters {names : List String} (h : checkParameters names = .ok ()) :
    (receiver :: names).Nodup := by
  obtain ⟨⟨⟩, -, hdistinct⟩ := bind_eq_ok_iff.1 h
  by_contra hnot
  simp only [hnot, decide_false, Bool.not_false, if_true] at hdistinct
  cases hdistinct

/-- A class that was made of a schema is settled, with the schema and with what the body and the
schema bring. -/
theorem exists_of_create {id : Nat} {s : Schema} {body : ClassBody} {t : RecordType}
    (h : create id s body = .ok t) :
    checkParameters s.keys = .ok () ∧ (∃ title, checkTitle s.name = .ok title) ∧
      ∃ base : RecordType, t = base.settled ∧ base.schema = s ∧
        base.members = body.namespaceFor s ∧ base.signature = parameters s := by
  obtain ⟨⟨⟩, hparameters, h⟩ := bind_eq_ok_iff.1 h
  obtain ⟨title, htitle, h⟩ := bind_eq_ok_iff.1 h
  refine ⟨hparameters, ⟨title, htitle⟩, ?_⟩
  by_cases hcell : body.members.has "__classcell__" = true
  · rw [hcell] at h
    cases h
  · rw [Bool.not_eq_true] at hcell
    simp only [hcell, Bool.false_eq_true, if_false] at h
    obtain ⟨ownName, -, h⟩ := bind_eq_ok_iff.1 h
    obtain ⟨qualname, -, h⟩ := bind_eq_ok_iff.1 h
    exact ⟨_, (Except.ok.inj h).symm, rfl, by dsimp only, rfl⟩

theorem signature_of_create {id : Nat} {s : Schema} {body : ClassBody} {t : RecordType}
    (h : create id s body = .ok t) : t.signature = parameters s := by
  obtain ⟨-, -, base, rfl, -, -, hsignature⟩ := exists_of_create h
  exact hsignature

/-- The places that every record has, whatever its class defines. -/
def places : List String := ["__class__", "__dict__", "__weakref__"]

/-- The class of a schema is ordinary unless its body interferes or a field is called like a place
that every record has. -/
theorem isOrdinary_of_create {id : Nat} {s : Schema} {body : ClassBody} {t : RecordType}
    (h : create id s body = .ok t) (hkeys : ∀ n ∈ s.keys, n ∉ places)
    (hbody : body.LeavesAlone s.keys) : t.IsOrdinary := by
  obtain ⟨hparameters, -, base, rfl, hschema, hmembers, -⟩ := exists_of_create h
  -- These three are in the namespace only if the body defines them.
  have hhook : ∀ n ∈ ["__new__", "__setattr__", "__getattribute__"],
      base.members.has n = false := by
    intro n hn
    have hdefined : n ∉ ClassBody.definedNames := by
      revert n
      decide
    rw [Namespace.has_eq_isSome, hmembers, ClassBody.member?_namespaceFor hdefined]
    exact hbody.hooks n hn
  constructor
  · rw [hasSchema_settled, Namespace.hasSchema, hmembers, ClassBody.member?_namespaceFor_schema]
  · rw [isReadable_settled, hhook _ (by simp)]
    rfl
  · rw [member?, members_settled, hmembers, ClassBody.member?_namespaceFor_init]
  · exact fun n hn => hhook n (by simp at hn ⊢; tauto)
  · rw [schema_settled, hschema]
    exact (List.nodup_cons.1 (nodup_of_checkParameters hparameters)).2
  · rintro n hn rfl
    rw [schema_settled, hschema] at hn
    exact hkeys "__class__" hn (by decide)
  · intro n hn
    rw [schema_settled, hschema] at hn
    have hplaces := hkeys n hn
    have hpassive : (body.namespaceFor s).PassiveAt n := by
      refine ClassBody.passiveAt_namespaceFor (hbody.passive n hn) ?_ ?_ s
      · rintro rfl
        exact hplaces (by decide)
      · rintro rfl
        exact hplaces (by decide)
    rw [← hmembers] at hpassive
    exact hpassive

/-- A name that does not stand between double underscores is none of these places. -/
theorem notMem_places {n : String} (h : FieldName.isDunder n = false) : n ∉ places := by
  intro hn
  have hall : ∀ n ∈ places, FieldName.isDunder n = true := by decide
  rw [hall n hn] at h
  cases h

/-! ## Records of ordinary classes -/

/-- What is filled in has the names of the fields, in order. -/
theorem keys_of_fill {t : RecordType} {given values : List (String × Value)}
    (ht : t.schema.keys.Nodup) (h : t.fill given = .ok values) :
    values.map Prod.fst = t.schema.keys := by
  unfold fill at h
  split at h
  · rw [← Except.ok.inj h, Schema.defaults_eq_map ht, List.map_map, List.map_map]
    rfl
  · cases h
  · cases h

/-- A class that has nothing but what the schema gives it is ordinary. -/
theorem IsPlain.isOrdinary {t : RecordType} {id : Nat} {s : Schema} {title : String}
    (hs : s.IsNamed title) (ht : t.IsPlain id s) : t.IsOrdinary where
  hasSchema := ht.hasSchema
  isReadable := ht.isReadable
  initialises := ht.member?_initialise
  hooks := fun _ hn => ht.has_eq_false hn
  distinct := by
    rw [ht.schema_eq]
    exact hs.distinct
  proper := by
    rintro n hn rfl
    rw [ht.schema_eq] at hn
    obtain ⟨policy, hallowed⟩ := hs.allowed _ hn
    cases FieldName.isDunder_of_isAllowed hallowed
  passive := by
    intro n hn m hm
    rw [ht.schema_eq] at hn
    obtain ⟨policy, hallowed⟩ := hs.allowed n hn
    rw [ht.member?_eq_none (FieldName.isDunder_of_isAllowed hallowed)] at hm
    cases hm

end RecordType

/-- The value that a record has under a name: its own, or else that of its class. -/
def Session.Instance.value? (x : Session.Instance) (n : String) : Option Value :=
  (Value.lookup n x.attributes).or (RecordType.dataUnder x.type.members n)

namespace RecordType.IsOrdinary

open RecordSchema.Session

variable {t : RecordType} {n : String} {cell : Nat} {attributes : List (String × Value)}

/-- Setting the attribute of a field. -/
theorem runs_set (ht : t.IsOrdinary) (hn : n ∈ t.schema.keys) (cell : Nat)
    (attributes : List (String × Value)) (v : Value) (σ : Session) :
    Runs (Instance.set ⟨cell, t, attributes⟩ n v) σ
      (.ok ⟨cell, t, Schema.put attributes n v⟩) σ := by
  have hproper := ht.proper n hn
  have hpassive := ht.passive n hn
  unfold Instance.set
  rw [ht.hooks _ (by simp)]
  simp only [Bool.false_eq_true, if_false, Instance.put]
  -- The members that an attribute does not come before are not passive.
  split
  case h_6 => exact absurd rfl hproper
  case h_7 => exact absurd rfl hproper
  case h_8 => exact runs_pure _ σ
  all_goals
    rename_i hmember
    cases hpassive _ hmember

/-- What a record holds under a name, itself or by its class, is found there. -/
theorem runs_ordinary {v : Value} (hv : (Instance.mk cell t attributes).value? n = some v)
    (σ : Session) : Runs (Instance.ordinary ⟨cell, t, attributes⟩ n) σ (.ok (.data v)) σ := by
  unfold Instance.ordinary
  rcases Option.or_eq_some_iff.1 hv with hown | ⟨hnone, hshared⟩
  · rw [hown]
    exact runs_pure _ σ
  · rw [hnone]
    unfold dataUnder at hshared
    split at hshared
    · rename_i hmember
      simp only [member?, hmember]
      obtain rfl := Option.some.inj hshared
      exact runs_pure _ σ
    · cases hshared

/-- Reading the attribute of a field. -/
theorem runs_read (ht : t.IsOrdinary) (hn : n ∈ t.schema.keys) {v : Value}
    (hv : (Instance.mk cell t attributes).value? n = some v) (σ : Session) :
    Runs (Instance.read ⟨cell, t, attributes⟩ n) σ (.ok (.data v)) σ := by
  have hproper : (n == "__class__") = false := beq_eq_false_iff_ne.2 (ht.proper n hn)
  have hordinary := runs_ordinary hv σ
  -- Under the name of a field the class has no property and no other member that comes first.
  unfold Instance.read
  simp only [ht.isReadable, Bool.not_true, Bool.false_eq_true, if_false]
  cases hmember : t.member? n with
  | none =>
    simp only [hproper]
    exact hordinary
  | some m =>
    have hpassive := ht.passive n hn m hmember
    cases m with
    | code binding behaviour =>
      cases binding with
      | property => cases hpassive
      | method => exact hordinary
      | classMethod => exact hordinary
      | staticMethod => exact hordinary
    | attributes => cases hpassive
    | reference => cases hpassive
    | data v => exact hordinary
    | schema => exact hordinary

/-- Setting the attributes of fields one after another. -/
theorem runs_setAll (ht : t.IsOrdinary) {values : List (String × Value)}
    (hn : ∀ p ∈ values, p.1 ∈ t.schema.keys) (cell : Nat) (attributes : List (String × Value))
    (σ : Session) :
    Runs (values.foldlM (fun (x : Instance) p => x.set p.1 p.2) ⟨cell, t, attributes⟩) σ
      (.ok ⟨cell, t, Schema.putAll attributes values⟩) σ := by
  induction values generalizing attributes with
  | nil => exact runs_pure _ σ
  | cons p values ih =>
    rw [List.foldlM_cons]
    refine Runs.bind (ht.runs_set (hn p (List.mem_cons_self ..)) cell attributes p.2 σ) ?_
    exact ih (fun q hq => hn q (List.mem_cons_of_mem _ hq)) _

/-- The constructor gives a new record the values that it fills in. -/
theorem runs_initialise (ht : t.IsOrdinary) (positional : List Value)
    (given : List (String × Value)) (cell : Nat) (σ : Session) :
    Runs (initialise ⟨cell, t, []⟩ positional given) σ
      ((t.construct positional given).map fun values => ⟨cell, t, values⟩) σ := by
  unfold initialise construct
  simp only [ht.initialises]
  cases bindArguments positional given with
  | error cause => exact Runs.bind_error (runs_ofRefusal rfl σ) _
  | ok bound =>
    refine Runs.bind (runs_ofRefusal rfl σ) ?_
    simp only [ht.hasSchema, Bool.not_true, Bool.false_eq_true, if_false]
    cases hfill : t.fill bound with
    | error e =>
      simp only [mapError_ok, ok_bind, hfill]
      exact Runs.bind_error (runs_ofExcept rfl σ) _
    | ok values =>
      have hkeys := keys_of_fill ht.distinct hfill
      have hnames : ∀ p ∈ values, p.1 ∈ t.schema.keys := fun p hp =>
        hkeys ▸ List.mem_map_of_mem hp
      have hset := ht.runs_setAll hnames cell [] σ
      -- The names of the fields are distinct, so no value is set over another.
      rw [Schema.putAll_of_nodup (hkeys ▸ ht.distinct)] at hset
      simp only [mapError_ok, ok_bind, hfill]
      exact Runs.bind (runs_ofExcept rfl σ) hset

/-- A call of the class ends as its constructor does, and a record that it makes has a number of its
own. -/
theorem runs_makeOf (ht : t.IsOrdinary) (positional : List Value)
    (given : List (String × Value)) (σ : Session) :
    Runs (makeOf t positional given) σ
      ((t.construct positional given).map fun values => .record (σ.last + 1) t.identity values)
      { σ with last := σ.last + 1 } := by
  have hinit := ht.runs_initialise positional given (σ.last + 1) { σ with last := σ.last + 1 }
  unfold makeOf
  rw [ht.hooks _ (by simp)]
  refine Runs.bind (runs_fresh σ) ?_
  cases hmade : t.construct positional given with
  | error e =>
    rw [hmade] at hinit
    exact Runs.bind_error hinit _
  | ok values =>
    rw [hmade] at hinit
    exact Runs.bind hinit (runs_pure _ _)

theorem runs_make (ht : t.IsOrdinary) {σ : Session} (hσ : σ.types.get? t.identity.id = some t)
    (positional : List Value) (given : List (String × Value)) :
    Runs (make (.recordType t.identity.id) positional given) σ
      ((t.construct positional given).map fun values => .record (σ.last + 1) t.identity values)
      { σ with last := σ.last + 1 } :=
  Runs.bind (runs_typeOf hσ) (ht.runs_makeOf positional given σ)

/-- The fields of a record are listed in declaration order with the values that it has. -/
theorem runs_fieldsOf (ht : t.IsOrdinary) {values : List (String × Value)}
    (hkeys : values.map Prod.fst = t.schema.keys)
    (hvalues : ∀ p ∈ values, (Instance.mk cell t attributes).value? p.1 = some p.2)
    {σ : Session} (hσ : σ.types.get? t.identity.id = some t) :
    Runs (fieldsOf (.record cell t.identity attributes)) σ (.ok values) σ := by
  have hdistinct : (values.map Prod.fst).Nodup := hkeys ▸ ht.distinct
  have htype : Runs (typeBehind (.record cell t.identity attributes)) σ (.ok t) σ := by
    refine Runs.bind (a := some t) ?_ (runs_pure t σ)
    unfold typeBehind?
    simp only [ht.isReadable, ht.hasSchema, if_true]
    exact Runs.bind (runs_typeOf hσ) (runs_pure _ σ)
  have hinstance : Runs (instance? (.record cell t.identity attributes)) σ
      (.ok (some ⟨cell, t, attributes⟩)) σ := Runs.bind (runs_typeOf hσ) (runs_pure _ σ)
  refine Runs.bind htype ?_
  rw [← Schema.map_lookup_of_nodup hdistinct .none, hkeys]
  refine runs_mapM fun n hn => ?_
  obtain ⟨p, hp, rfl⟩ := List.mem_map.1 (hkeys ▸ hn)
  have hread := ht.runs_read hn (hvalues p hp) σ
  rw [Schema.lookup_of_mem hdistinct hp]
  exact Runs.bind hinstance (Runs.bind hread (runs_pure _ σ))

/-- A record that has its fields and nothing else lists what it has. -/
theorem runs_fieldsOf_own (ht : t.IsOrdinary) (hkeys : attributes.map Prod.fst = t.schema.keys)
    (cell : Nat) {σ : Session} (hσ : σ.types.get? t.identity.id = some t) :
    Runs (fieldsOf (.record cell t.identity attributes)) σ (.ok attributes) σ :=
  ht.runs_fieldsOf hkeys (fun _ hp =>
    Option.or_eq_some_iff.2 (.inl (Schema.lookup_of_mem (hkeys ▸ ht.distinct) hp))) hσ

end RecordType.IsOrdinary

end RecordSchema
