import RecordSchema.Proofs.Descriptor.Export
import RecordSchema.Proofs.Json.Conformance

/-!
# Which bundles are JSON

The text of the bundle of descriptors is a JSON value with a line feed behind it exactly if the
floating-point numbers among the defaults of the schemas are finite
(`Descriptor.isLine_bundleText_iff`). All other leaves of a descriptor are texts, integers, truth
values and `None`, or have become texts, as all that JSON has no form for becomes its printed form;
only infinities and what is not a number pass as they are.
-/

set_option autoImplicit false

namespace RecordSchema

open Value

/-- The floating-point numbers among the defaults of a schema, as its descriptor holds them. -/
def Schema.reals (s : Schema) : List Binary64 := s.defaults.flatMap fun p => (plain p.2).reals

namespace Descriptor

/-! ## Numbers in a bundle -/

theorem reals_texts {vs : List Value} (h : ∀ v ∈ vs, ∃ s, v = .text s) : realsIn vs = [] := by
  rw [realsIn_eq_flatMap, List.flatMap_eq_nil_iff]
  intro v hv
  obtain ⟨s, rfl⟩ := h v hv
  rfl

theorem reals_fields (fields : List (String × String)) :
    realsIn (fields.map fun p => .mapping [(.text "name", .text p.1), (.text "type", .text p.2)]) =
      [] := by
  rw [realsIn_eq_flatMap, List.flatMap_eq_nil_iff]
  intro v hv
  obtain ⟨p, -, rfl⟩ := List.mem_map.1 hv
  rfl

/-- The entry of a schema under a text holds the numbers of its defaults and no others. -/
theorem reals_stamped {s : Schema} (hname : ∃ title, s.name = .text title) {e : Value}
    (he : (ofSchema s).stamped = .ok e) : e.reals = s.reals := by
  obtain ⟨h, -, rfl⟩ := stamped_eq_ok_iff.1 he
  obtain ⟨title, htitle⟩ := hname
  have hlisted (names : List String) : realsIn (names.map Value.text) = [] := by
    refine reals_texts fun v hv => ?_
    obtain ⟨n, -, rfl⟩ := List.mem_map.1 hv
    exact ⟨n, rfl⟩
  have hdefaults : realsUnder (s.defaults.map fun p => (.text p.1, plain p.2)) = s.reals := by
    rw [realsUnder_eq_flatMap, List.flatMap_map]
    rfl
  simp only [ofSchema, entries, htitle, List.cons_append, List.nil_append, reals, realsUnder,
    ofList, reals_fields, hlisted, hdefaults, List.append_nil]

/-- A bundle holds the numbers of the defaults, schema by schema. -/
theorem reals_bundle {schemas : List Schema} {ds : List Descriptor} {whole : Value}
    (hnames : ∀ s ∈ schemas, ∃ title, s.name = .text title)
    (hdescribe : schemas.mapM Schema.describe = .ok ds) (hwhole : bundle ds = .ok whole) :
    whole.reals = schemas.flatMap Schema.reals := by
  obtain ⟨es, hes, rfl⟩ := bundle_eq_ok_iff.1 hwhole
  have hentries : List.Forall₂ (fun s e => s.reals = e.reals) schemas es := by
    have hof := (List.forall₂_and_left _ _).2 ⟨hnames, mapM_eq_ok_iff.1 hdescribe⟩
    refine forall₂_chain (fun s d e hs he => ?_) hof hes
    obtain rfl := Schema.eq_of_describe hs.2
    exact (reals_stamped hs.1 he).symm
  have hmap : es.map reals = schemas.map Schema.reals :=
    map_eq_map_of_forall₂ hentries fun _ _ h => h.symm
  show ([] : List Binary64) ++ (realsIn es ++ []) = _
  rw [List.nil_append, List.append_nil, realsIn_eq_flatMap, List.flatMap_def, hmap,
    ← List.flatMap_def]

/-! ## The text of a bundle -/

theorem isLine_bundleText_iff_of_named {indent : Value} {schemas : List Schema}
    {ds : List Descriptor} {text : String} (hnames : ∀ s ∈ schemas, ∃ title, s.name = .text title)
    (hgrid : ∀ s ∈ schemas, ∀ x ∈ s.reals, x.OnGrid)
    (hindent : indent = .none ∨ (∃ b, indent = .bool b) ∨ ∃ n, indent = .int n)
    (hdescribe : schemas.mapM Schema.describe = .ok ds) (htext : bundleText indent ds = .ok text) :
    Json.IsLine text ↔ ∀ s ∈ schemas, ∀ x ∈ s.reals, x.IsFinite := by
  obtain ⟨whole, l, body, hwhole, hl, hbody, rfl⟩ := exists_of_bundleText htext
  have hreals {P : Binary64 → Prop} :
      (∀ x ∈ whole.reals, P x) ↔ ∀ s ∈ schemas, ∀ x ∈ s.reals, P x := by
    rw [reals_bundle hnames hdescribe hwhole, List.forall_mem_flatMap]
  rw [Json.isLine_append_iff, ← hreals]
  exact Json.derives_encode_iff (isSpaced_layout hindent hl) (hreals.2 hgrid) hbody

/-- **Bundles of finite numbers are JSON.** The text that is written for the descriptors of schemas
from blocks, without indentation or with one given by a number, is a JSON value with a line feed
behind it exactly if the floating-point numbers among the defaults are finite. That they are numbers
of the binary format holds of all that are read from documents (`Binary64.onGrid_ofDecimal`). -/
theorem isLine_bundleText_iff {indent : Value} {schemas : List Schema} {ds : List Descriptor}
    {text : String} (hschemas : ∀ s ∈ schemas, s.IsEmitted)
    (hgrid : ∀ s ∈ schemas, ∀ x ∈ s.reals, x.OnGrid)
    (hindent : indent = .none ∨ (∃ b, indent = .bool b) ∨ ∃ n, indent = .int n)
    (hdescribe : schemas.mapM Schema.describe = .ok ds) (htext : bundleText indent ds = .ok text) :
    Json.IsLine text ↔ ∀ s ∈ schemas, ∀ x ∈ s.reals, x.IsFinite := by
  have hnames : ∀ s ∈ schemas, ∃ title, s.name = .text title := fun s hs => (hschemas s hs).named.1
  exact isLine_bundleText_iff_of_named hnames hgrid hindent hdescribe htext

/-! ## A schema of one number -/

/-- The schema of a block with one field, a number with a default. -/
def numberSchema (x : Binary64) : Schema :=
  ⟨.text "P", [⟨"x", .real x, .text "float", .text "float", .bool false⟩], []⟩

theorem isEmitted_numberSchema (x : Binary64) : (numberSchema x).IsEmitted :=
  ⟨"P", _, _, _, Builder.build_of_default (by decide +kernel) _ rfl⟩

theorem named_numberSchema (x : Binary64) : ∀ s ∈ [numberSchema x], ∃ title, s.name = .text title :=
  List.forall_mem_singleton.2 ⟨"P", rfl⟩

theorem exists_bundleText_numberSchema (x : Binary64) :
    ∃ text, bundleText .none [ofSchema (numberSchema x)] = .ok text := by
  refine (exists_bundleText_iff (named_numberSchema x) rfl).2
    ⟨⟨.canonical, rfl⟩, List.forall_mem_singleton.2 ?_⟩
  rw [Schema.exists_hash_iff ⟨"P", rfl⟩]
  rintro (hfault | ⟨p, hp, hlong⟩)
  · exact hfault rfl
  · rw [show p = ("x", .real x) from List.mem_singleton.1 hp] at hlong
    cases hlong

/-- Its only number is the default. -/
theorem forall_mem_reals_numberSchema {x : Binary64} {P : Binary64 → Prop} :
    (∀ s ∈ [numberSchema x], ∀ y ∈ s.reals, P y) ↔ P x := by
  rw [List.forall_mem_singleton]
  exact List.forall_mem_singleton

/-- A number that is read from a document, exported without indentation. -/
theorem isLine_bundleText_oneAndHalf :
    (numberSchema (.ofDecimal false [1, 5] (-1))).IsEmitted ∧
    ∃ text, bundleText .none [ofSchema (numberSchema (.ofDecimal false [1, 5] (-1)))] = .ok text ∧
      Json.IsLine text := by
  have hvalue : Binary64.ofDecimal false [1, 5] (-1) = .finite false 6755399441055744 (-52) := by
    decide +kernel
  have hemitted := isEmitted_numberSchema (.ofDecimal false [1, 5] (-1))
  have hgrid := Binary64.onGrid_ofDecimal false [1, 5] (-1)
  obtain ⟨text, htext⟩ := exists_bundleText_numberSchema (.ofDecimal false [1, 5] (-1))
  refine ⟨hemitted, text, htext, ?_⟩
  rw [isLine_bundleText_iff (List.forall_mem_singleton.2 hemitted)
    (forall_mem_reals_numberSchema.2 hgrid) (.inl rfl) rfl htext, forall_mem_reals_numberSchema,
    hvalue]
  trivial

/-- A default that is not a number is written, and what is written is not JSON. -/
theorem not_isLine_bundleText_nan :
    (numberSchema (.nan 0)).IsEmitted ∧
    ∃ text, bundleText .none [ofSchema (numberSchema (.nan 0))] = .ok text ∧
      ¬ Json.IsLine text := by
  obtain ⟨text, htext⟩ := exists_bundleText_numberSchema (.nan 0)
  have hgrid : (Binary64.nan 0).OnGrid := trivial
  refine ⟨isEmitted_numberSchema _, text, htext, ?_⟩
  rw [isLine_bundleText_iff_of_named (named_numberSchema _)
    (forall_mem_reals_numberSchema.2 hgrid) (.inl rfl) rfl htext, forall_mem_reals_numberSchema]
  exact id

end Descriptor

end RecordSchema
