import RecordSchema.Proofs.Readers.Tokens
import RecordSchema.Yaml.Reader

/-!
# Faults of YAML texts

A YAML text is malformed, or the rules of values refuse one of its scalars for one of six causes
(`Yaml.isFault_of_decode`). Tokens come first, then the nodes that are made of them, and then the
values of the nodes; a fault among the tokens shows when the nodes are made.
-/

set_option autoImplicit false

namespace RecordSchema.Yaml

open RecordSchema.Text

/-! ## From tokens to nodes -/

namespace Parse

/-- The tokens left are no faults but those of a YAML text. -/
def IsSound (p : Parse) : Prop := ∀ t ∈ p.tokens, t.IsSound

variable {p : Parse}

theorem IsSound.of_suffix (h : p.IsSound) {q : Parse} (hq : q.tokens <:+ p.tokens) : q.IsSound :=
  fun t ht => h t (hq.subset ht)

theorem IsSound.drop (h : p.IsSound) : p.drop.IsSound := h.of_suffix (List.tail_suffix p.tokens)

theorem sound_check (h : p.IsSound) : Sound p.check := by
  unfold check
  split
  · rename_i cause rest hfault
    have hmem : Token.fault cause ∈ p.tokens := hfault ▸ List.mem_cons_self
    exact h _ hmem
  · trivial

theorem sound_fullTag (p : Parse) (written : Option (Option String × String)) :
    Sound (p.fullTag written) := by
  unfold fullTag
  split
  · trivial
  · trivial
  · split
    · trivial
    · exact ensures_malformed

theorem ensures_properties (h : p.IsSound) :
    Ensures IsFault (fun found => found.2.2.IsSound) p.properties := by
  have hafter {t : Token} {rest : List Token} (hrest : p.tokens = t :: rest) :
      Parse.IsSound { p with tokens := rest } :=
    h.of_suffix (hrest ▸ List.suffix_cons t rest)
  unfold properties
  -- An anchor and a tag come in either order, or one of them alone, or none.
  split
  · rename_i a rest hrest
    refine (sound_check (hafter hrest)).bind fun _ => ?_
    split
    · exact (hafter hrest).of_suffix (List.suffix_cons _ _)
    · exact hafter hrest
  · rename_i handle suffix rest hrest
    refine (sound_check (hafter hrest)).bind fun _ => ?_
    split
    · exact (hafter hrest).of_suffix (List.suffix_cons _ _)
    · exact hafter hrest
  · exact h

end Parse

/-- A reader of nodes leaves tokens without faults but those of a YAML text. -/
def Leaves {α : Type} (r : Except DocumentFault (α × Parse)) : Prop :=
  Ensures IsFault (fun q => q.2.IsSound) r

theorem Leaves.bind {α β : Type} {r : Except DocumentFault (α × Parse)}
    {f : α × Parse → Except DocumentFault (β × Parse)} (hr : Leaves r)
    (hf : ∀ a q, q.IsSound → Leaves (f (a, q))) : Leaves (r >>= f) :=
  Ensures.bind hr fun q hq => hf q.1 q.2 hq

/-- The readers of nodes with one fuel for all of them. -/
structure NodesLeave (fuel : Nat) : Prop where
  node : ∀ block unindented p, p.IsSound → Leaves (node fuel block unindented p)
  nodeUnless : ∀ block unindented ends p, p.IsSound →
    Leaves (nodeUnless fuel block unindented ends p)
  blockItems : ∀ p, p.IsSound → Leaves (blockItems fuel p)
  unindentedItems : ∀ p, p.IsSound → Leaves (unindentedItems fuel p)
  blockValue : ∀ p, p.IsSound → Leaves (blockValue fuel p)
  blockEntries : ∀ p, p.IsSound → Leaves (blockEntries fuel p)
  flowValue : ∀ close p, p.IsSound → Leaves (flowValue fuel close p)
  flowItems : ∀ first p, p.IsSound → Leaves (flowItems fuel first p)
  flowEntries : ∀ first p, p.IsSound → Leaves (flowEntries fuel first p)

theorem nodesLeave_zero : NodesLeave 0 where
  node _ _ _ _ := ensures_malformed
  nodeUnless _ _ _ _ _ := ensures_malformed
  blockItems _ _ := ensures_malformed
  unindentedItems _ _ := ensures_malformed
  blockValue _ _ := ensures_malformed
  blockEntries _ _ := ensures_malformed
  flowValue _ _ _ := ensures_malformed
  flowItems _ _ _ := ensures_malformed
  flowEntries _ _ _ := ensures_malformed

section Succ

variable {fuel : Nat} {p : Parse} (ih : NodesLeave fuel) (h : p.IsSound)

include ih h

theorem leaves_nodeUnless (block unindented : Bool) (ends : List Token) :
    Leaves (nodeUnless (fuel + 1) block unindented ends p) := by
  unfold nodeUnless
  refine (Parse.sound_check h).bind fun _ => ?_
  split
  · exact h
  · exact ih.node block unindented p h

theorem leaves_blockItems : Leaves (blockItems (fuel + 1) p) := by
  unfold blockItems
  refine (Parse.sound_check h).bind fun _ => ?_
  split
  · refine Leaves.bind (ih.nodeUnless true false _ p.drop h.drop) fun n q hq => ?_
    exact Leaves.bind (ih.blockItems q hq) fun ns q hq => hq
  · exact h.drop
  · exact ensures_malformed

theorem leaves_unindentedItems : Leaves (unindentedItems (fuel + 1) p) := by
  unfold unindentedItems
  refine (Parse.sound_check h).bind fun _ => ?_
  split
  · refine Leaves.bind (ih.nodeUnless true false _ p.drop h.drop) fun n q hq => ?_
    exact Leaves.bind (ih.unindentedItems q hq) fun ns q hq => hq
  · exact h

theorem leaves_blockValue : Leaves (blockValue (fuel + 1) p) := by
  unfold blockValue
  refine (Parse.sound_check h).bind fun _ => ?_
  split
  · exact ih.nodeUnless true true _ p.drop h.drop
  · exact h

theorem leaves_blockEntries : Leaves (blockEntries (fuel + 1) p) := by
  unfold blockEntries
  refine (Parse.sound_check h).bind fun _ => ?_
  split
  · refine Leaves.bind (ih.nodeUnless true true _ p.drop h.drop) fun k q hq => ?_
    refine Leaves.bind (ih.blockValue q hq) fun v q hq => ?_
    exact Leaves.bind (ih.blockEntries q hq) fun es q hq => hq
  · exact h.drop
  · exact ensures_malformed

theorem leaves_flowValue (close : Token) : Leaves (flowValue (fuel + 1) close p) := by
  unfold flowValue
  refine (Parse.sound_check h).bind fun _ => ?_
  split
  · exact ih.nodeUnless false false _ p.drop h.drop
  · exact h

theorem leaves_flowItems (first : Bool) : Leaves (flowItems (fuel + 1) first p) := by
  unfold flowItems
  refine (Parse.sound_check h).bind fun _ => ?_
  split
  · exact h.drop
  · extract_lets item
    -- The item after the comma, if there is one: a single pair, nothing, or a node.
    have hitem (q : Parse) (hq : q.IsSound) : Leaves (item q) := by
      refine (Parse.sound_check hq).bind fun _ => ?_
      split
      · refine Leaves.bind (ih.nodeUnless false false _ _ (Parse.IsSound.drop hq)) fun k q hq => ?_
        refine Leaves.bind (ih.flowValue _ q hq) fun v q hq => ?_
        exact Leaves.bind (ih.flowItems false _ hq) fun ns q hq => hq
      · exact hq.drop
      · refine Leaves.bind (ih.node false false q hq) fun n q hq => ?_
        exact Leaves.bind (ih.flowItems false q hq) fun ns q hq => hq
    split
    · exact hitem p h
    split
    · exact hitem p.drop h.drop
    · exact ensures_malformed_bind

theorem leaves_flowEntries (first : Bool) : Leaves (flowEntries (fuel + 1) first p) := by
  unfold flowEntries
  refine (Parse.sound_check h).bind fun _ => ?_
  split
  · exact h.drop
  · extract_lets entry
    -- The entry after the comma, if there is one: a pair, nothing, or a key alone.
    have hentry (q : Parse) (hq : q.IsSound) : Leaves (entry q) := by
      refine (Parse.sound_check hq).bind fun _ => ?_
      split
      · refine Leaves.bind (ih.nodeUnless false false _ _ hq.drop) fun k q hq => ?_
        refine Leaves.bind (ih.flowValue _ q hq) fun v q hq => ?_
        exact Leaves.bind (ih.flowEntries false q hq) fun es q hq => hq
      · exact hq.drop
      · refine Leaves.bind (ih.node false false q hq) fun k q hq => ?_
        exact Leaves.bind (ih.flowEntries false _ hq) fun es q hq => hq
    split
    · exact hentry p h
    split
    · exact hentry p.drop h.drop
    · exact ensures_malformed_bind

theorem leaves_node (block unindented : Bool) :
    Leaves (node (fuel + 1) block unindented p) := by
  unfold node
  refine (Parse.sound_check h).bind fun _ => ?_
  split
  · rename_i a rest hrest
    split
    · exact h.of_suffix (hrest ▸ List.suffix_cons _ rest)
    · exact ensures_malformed
  · refine Ensures.bind (Parse.ensures_properties h) fun found hfound => ?_
    obtain ⟨anchor, written, q⟩ := found
    refine (Parse.sound_fullTag _ _).bind fun tag => ?_
    refine (Parse.sound_check hfound).bind fun _ => ?_
    extract_lets sequenceTag mappingTag opening isScalar content guarded
    -- A collection of either kind, or a scalar that may be empty.
    have hcontent : Leaves (content ()) := by
      unfold content
      clear_value opening
      cases opening with
      | some isSequence =>
        cases isSequence with
        | true =>
          dsimp only
          split
          · exact Leaves.bind (ih.flowItems true _ (Parse.IsSound.drop hfound)) fun ns q hq => hq
          · exact Leaves.bind (ih.unindentedItems _ hfound) fun ns q hq => hq
          · exact Leaves.bind (ih.blockItems _ (Parse.IsSound.drop hfound)) fun ns q hq => hq
        | false =>
          dsimp only
          split
          · exact Leaves.bind (ih.flowEntries true _ (Parse.IsSound.drop hfound)) fun es q hq => hq
          · exact Leaves.bind (ih.blockEntries _ (Parse.IsSound.drop hfound)) fun es q hq => hq
      | none =>
        dsimp only
        split
        · rename_i s plain rest hrest
          exact Parse.IsSound.of_suffix hfound (hrest ▸ List.suffix_cons _ rest)
        · exact hfound
    have hguarded : Leaves (guarded ()) := by
      unfold guarded
      split
      · exact ensures_malformed_bind
      · exact hcontent
    split
    · exact ensures_malformed_bind
    · exact hguarded

end Succ

/-- Whatever the fuel, the readers of nodes make no faults of their own. -/
theorem nodesLeave (fuel : Nat) : NodesLeave fuel := by
  induction fuel with
  | zero => exact nodesLeave_zero
  | succ fuel ih =>
    exact {
      node := fun block unindented p h => leaves_node ih h block unindented
      nodeUnless := fun block unindented ends p h => leaves_nodeUnless ih h block unindented ends
      blockItems := fun p h => leaves_blockItems ih h
      unindentedItems := fun p h => leaves_unindentedItems ih h
      blockValue := fun p h => leaves_blockValue ih h
      blockEntries := fun p h => leaves_blockEntries ih h
      flowValue := fun close p h => leaves_flowValue ih h close
      flowItems := fun first p h => leaves_flowItems ih h first
      flowEntries := fun first p h => leaves_flowEntries ih h first }

/-! ## Documents -/

theorem ensures_directives (ts : List Token) (seen : Bool) (handles : List (String × String))
    (h : ∀ t ∈ ts, t.IsSound) :
    Ensures IsFault (fun found => ∀ t ∈ found.2, t.IsSound) (directives ts seen handles) := by
  fun_induction directives ts seen handles with
  | case1 => exact ensures_malformed
  | case2 major rest seen handles hok ih => exact ih fun t ht => h t (List.mem_cons_of_mem _ ht)
  | case3 => exact ensures_malformed
  | case4 handle start rest seen handles hok ih =>
    exact ih fun t ht => h t (List.mem_cons_of_mem _ ht)
  | case5 rest seen handles ih => exact ih fun t ht => h t (List.mem_cons_of_mem _ ht)
  | case6 cause rest seen handles => exact h _ List.mem_cons_self
  | case7 => exact h

theorem sound_document (ts : List Token) (h : ∀ t ∈ ts, t.IsSound) : Sound (document ts) := by
  unfold document
  extract_lets fuel done
  -- Whatever comes after the document is a fault, that of a token or one of its own.
  have hdone (found : Nat × Parse) (hfound : found.2.IsSound) : Sound (done found) := by
    unfold done
    dsimp only
    split
    · trivial
    · rename_i cause rest hrest
      have hmem : Token.fault cause ∈ found.2.tokens.dropWhile isDocumentEnd :=
        hrest ▸ List.mem_cons_self
      exact hfound _ ((List.dropWhile_suffix _).subset hmem)
    · exact ensures_malformed
  clear_value done
  have hnode (p : Parse) (hp : p.IsSound) : Sound (node fuel true false p >>= done) :=
    Ensures.bind ((nodesLeave fuel).node true false p hp) hdone
  split
  · trivial
  split
  case h_1 | h_2 =>
    -- Directives, if any, come before the mark of the document that they belong to.
    refine Ensures.bind (ensures_directives _ false [] h) fun found hfound => ?_
    dsimp only
    split
    · rename_i rest hrest
      have hp : Parse.IsSound { tokens := rest, handles := found.1 ++ standardHandles } :=
        fun t ht => hfound t (hrest ▸ List.mem_cons_of_mem _ ht)
      refine (Parse.sound_check hp).bind fun _ => ?_
      split
      · exact hdone _ hp
      split
      · exact hdone _ hp
      · exact hnode _ hp
    · exact ensures_malformed_bind
  case h_3 => exact hnode _ h

/-! ## Scalars -/

theorem sound_refused {α : Type} {cause : Refusal} (h : cause ∈ refusals) :
    Sound (refused cause : Except DocumentFault α) :=
  ensures_refused h

theorem sound_ofOption {α : Type} {cause : Refusal} (h : cause ∈ refusals) (o : Option α) :
    Sound (ofOption cause o) := by
  cases o with
  | none => exact sound_refused h
  | some a => trivial

theorem sound_map {α β : Type} {r : Except DocumentFault α} (hr : Sound r) (f : α → β) :
    Sound (r.map f) :=
  Ensures.map hr fun _ _ => trivial

theorem sound_signAndBody (cs : List Char) : Sound (signAndBody cs) := by
  unfold signAndBody
  split
  · exact sound_refused (by decide)
  · trivial

theorem sound_basedInteger (base : Nat) (mark : Char) (cs : List Char) :
    Sound (basedInteger base mark cs) := by
  unfold basedInteger
  extract_lets digit
  split
  extract_lets body
  split
  · trivial
  · exact sound_refused (by decide)

theorem sound_decimalInteger (cs : List Char) : Sound (decimalInteger cs) :=
  sound_ofOption (by decide) _

theorem sound_integer (s : String) : Sound (integer s) := by
  unfold integer
  refine (sound_signAndBody _).bind fun p => ?_
  dsimp only
  split
  · trivial
  · exact (sound_basedInteger _ _ _).bind fun _ => trivial
  · exact (sound_basedInteger _ _ _).bind fun _ => trivial
  · exact (sound_basedInteger _ _ _).bind fun _ => trivial
  · exact sound_refused (by decide)
  · -- Groups to the base sixty, or digits in one row.
    split
    · exact Ensures.bind (Ensures.mapM fun part _ => sound_decimalInteger part) fun _ _ => trivial
    · exact (sound_decimalInteger _).bind fun _ => trivial

theorem sound_sexagesimalReal (parts : List Binary64) : Sound (sexagesimalReal parts) := by
  unfold sexagesimalReal
  refine Sound.bind (Ensures.foldlM trivial fun state _ part _ => ?_) fun _ => trivial
  exact (sound_ofOption (by decide) _).bind fun _ => trivial

theorem sound_real (s : String) : Sound (real s) := by
  unfold real
  refine (sound_signAndBody _).bind fun p => ?_
  dsimp only
  split
  · trivial
  split
  · trivial
  split
  · refine Ensures.bind (Ensures.mapM fun part _ => sound_ofOption (by decide) _) fun _ _ => ?_
    exact (sound_sexagesimalReal _).bind fun _ => trivial
  · exact (sound_ofOption (by decide) _).bind fun _ => trivial

theorem sound_timestamp (s : String) : Sound (timestamp s) := by
  unfold timestamp
  refine (sound_ofOption (by decide) _).bind fun stamp => ?_
  dsimp only
  -- A day that is in no calendar, and a time that no clock shows or that lies out of range.
  split
  · split
    · trivial
    · exact sound_refused (by decide)
  · split
    · exact sound_refused (by decide)
    split
    · trivial
    · exact sound_refused (by decide)

theorem sound_octets (s : String) : Sound (octets s) := by
  unfold octets
  split
  · split
    · trivial
    · exact ensures_malformed
  · exact ensures_malformed

theorem sound_scalarValue (tag s : String) : Sound (scalarValue tag s) := by
  unfold scalarValue
  split
  · trivial
  split
  · exact sound_map (sound_ofOption (by decide) _) _
  split
  · exact sound_map (sound_integer s) _
  split
  · exact sound_map (sound_real s) _
  split
  · trivial
  split
  · exact sound_timestamp s
  split
  · exact sound_octets s
  · exact ensures_malformed

/-! ## From nodes to values -/

namespace Construction

/-- The replacement of merge keys in a mapping, and in those that it takes entries from. -/
theorem sound_flattenFrom (fuel : Nat) :
    (∀ place brought c, Sound (flattenFrom fuel place brought c)) ∧
      ∀ source c, Sound (mergedFrom fuel source c) := by
  induction fuel with
  | zero => exact ⟨fun _ _ _ => ensures_malformed, fun _ _ => ensures_malformed⟩
  | succ fuel ih =>
    -- The two call each other, and every call has less fuel.
    obtain ⟨hflatten, hmerged⟩ := ih
    refine ⟨fun place brought c => ?_, fun source c => ?_⟩
    · unfold flattenFrom
      dsimp only
      split
      · trivial
      · exact (hmerged _ _).bind fun _ => hflatten _ _ _
    · unfold mergedFrom
      extract_lets mappingEntries
      have hmapping (source : Nat) (c : Construction) : Sound (mappingEntries source c) := by
        unfold mappingEntries
        split
        · exact (hflatten _ _ _).bind fun _ => trivial
        · exact ensures_malformed
      split
      · refine Ensures.foldlM trivial fun state _ source _ => ?_
        exact (hmapping source state.2).bind fun _ => trivial
      · exact hmapping source c

variable (c : Construction)

theorem sound_scalarText (fuel place : Nat) : Sound (scalarText fuel c place) := by
  induction fuel generalizing place with
  | zero => exact ensures_malformed
  | succ fuel ih =>
    unfold scalarText
    split
    · trivial
    · split
      · exact ih _
      · exact ensures_malformed
    · exact ensures_malformed

theorem sound_visit (place : Nat) : Sound (c.visit place) := by
  unfold visit
  dsimp only
  split
  · split
    · trivial
    · trivial
  split
  · refine (sound_scalarText c _ place).bind fun text => ?_
    split
    · exact (sound_scalarValue _ _).bind fun _ => trivial
    · split
      · exact sound_refused (by decide)
      · exact (sound_scalarValue _ _).bind fun _ => trivial
  · exact ensures_malformed

theorem sound_visitAll (places : List Nat) : Sound (c.visitAll places) := by
  induction places generalizing c with
  | nil => trivial
  | cons place places ih =>
    exact (sound_visit c place).bind fun _ => (ih _).bind fun _ => trivial

theorem sound_visitEntries (entries : List (Nat × Nat)) : Sound (c.visitEntries entries) := by
  induction entries generalizing c with
  | nil => trivial
  | cons entry entries ih =>
    unfold visitEntries
    refine (sound_visit c entry.1).bind fun visited => ?_
    split
    · exact ensures_malformed
    · exact (sound_visit _ entry.2).bind fun _ => (ih _).bind fun _ => trivial

theorem sound_visitPairs (places : List Nat) : Sound (c.visitPairs places) := by
  induction places generalizing c with
  | nil => trivial
  | cons place places ih =>
    unfold visitPairs
    split
    · refine (sound_visit c _).bind fun _ => (sound_visit _ _).bind fun _ => ?_
      exact (ih _).bind fun _ => trivial
    · exact ensures_malformed

theorem sound_enter (place : Nat) : Sound (c.enter place) := by
  unfold enter
  dsimp only
  split
  · split
    · exact ensures_malformed
    · refine ((sound_flattenFrom _).1 place [] c).bind fun c => ?_
      exact (sound_visitEntries c _).bind fun _ => trivial
  · split
    · split
      · exact (sound_visitAll c _).bind fun _ => trivial
      · exact (sound_visitPairs c _).bind fun _ => trivial
    · exact ensures_malformed

theorem sound_enterAll (places : List Nat) : Sound (enterAll places c) := by
  induction places generalizing c with
  | nil => trivial
  | cons place places ih => exact (sound_enter c place).bind ih

theorem sound_run (fuel : Nat) : Sound (run fuel c) := by
  induction fuel generalizing c with
  | zero => trivial
  | succ fuel ih =>
    unfold run
    split
    · trivial
    · exact (sound_enterAll _ _).bind ih

end Construction

/-- A YAML text is malformed, or one of its scalars is refused for one of six causes. -/
theorem isFault_of_decode {cs : List Char} {e : DocumentFault} (h : decode cs = .error e) :
    IsFault e := by
  have hdecode : Sound (decode cs) := by
    unfold decode
    refine (sound_document _ (isSound_of_mem_tokens cs)).bind fun found => ?_
    split
    · trivial
    · refine (Construction.sound_visit _ _).bind fun visited => ?_
      exact (Construction.sound_run _ _).bind fun _ => trivial
  exact hdecode.of_eq_error h

end RecordSchema.Yaml
