import RecordSchema.Document.Load
import RecordSchema.Proofs.Readers.Json
import RecordSchema.Proofs.Readers.Toml
import RecordSchema.Proofs.Readers.Yaml
import RecordSchema.Proofs.TypeTerm.Text

/-!
# Files that are no documents

What comes of a file as a document (`Document.load_outcomes`): the mapping that it holds, or an
error that tells why there is none, or a refusal without words. Refusals are of octets that encode
no text and of scalars (`Document.Refuses`). Which scalars these can be depends on the format:
numbers that are too long in JSON and TOML, and scalars that do not fit their tags in YAML.

A text is a sequence of characters, and half of a surrogate pair is none. Documents in JSON and YAML
can escape one by its number all the same; those that do not are whole (`Document.IsWhole`).
-/

set_option autoImplicit false

namespace RecordSchema

open RecordSchema.Text

/-! ## Paths -/

/-- A text without NUL is the path of a file that there can be. -/
theorem Path.isUnusable_ofText {s : String} (h : '\x00' ∉ s.toList) :
    (ofText s).isUnusable = false := by
  cases hunusable : (ofText s).isUnusable with
  | false => rfl
  | true =>
    obtain ⟨part, hpart, hnul⟩ := List.any_eq_true.1 hunusable
    obtain ⟨cs, hcs, rfl⟩ := List.mem_map.1 (List.mem_filter.1 hpart).1
    have hmem : '\x00' ∈ cs := by simpa using hnul
    exact absurd (TypeTerm.mem_of_mem_splitAt hcs hmem) h

/-- An error by which the loading of a document tells why there is none. -/
def Error.isLoading : Error → Bool
  | .unsupportedFile _ | .unreadable .. | .notMapping .. => true
  | _ => false

namespace Document

/-! ## Formats -/

theorem ofSuffix_eq_none_iff {suffix : String} :
    Format.ofSuffix? suffix = none ↔ lower suffix ∉ [".yaml", ".yml", ".json", ".toml"] := by
  unfold Format.ofSuffix?
  grind

/-! ## Halves of surrogate pairs -/

/-- The number in a fixed count of hexadecimal digits at the front. -/
def hexNumber? (width : Nat) (cs : List Char) : Option Nat :=
  let digits := cs.take width
  if digits.length == width then (digits.mapM (digitIn? 16)).map (ofDigits 16) else none

/-- Does a text begin with the escape of the second half of a pair? -/
def startsSecondHalf : List Char → Bool
  | '\\' :: 'u' :: rest => (hexNumber? 4 rest).any isLowSurrogate
  | _ => false

/-- Does a text in JSON escape half of a pair without the other half beside it? `paired` says that
the next escape is the second half of a pair. -/
def escapesHalfInJson (paired : Bool) : List Char → Bool
  | '\\' :: 'u' :: rest =>
    match hexNumber? 4 rest with
    | some n =>
      if isHighSurrogate n then !startsSecondHalf (rest.drop 4) || escapesHalfInJson true rest
      else isLowSurrogate n && !paired || escapesHalfInJson false rest
    | none => escapesHalfInJson false rest
  | '\\' :: _ :: rest => escapesHalfInJson false rest
  | _ :: rest => escapesHalfInJson paired rest
  | [] => false

/-- Does a text in YAML escape half of a pair? Two halves beside each other do not become one
character there. -/
def escapesHalfInYaml : List Char → Bool
  | '\\' :: c :: rest =>
    ((Yaml.escapeWidth? c).bind (hexNumber? · rest)).any
        (fun n => isHighSurrogate n || isLowSurrogate n) ||
      escapesHalfInYaml rest
  | _ :: rest => escapesHalfInYaml rest
  | [] => false

/-- Does a text escape half of a pair, read in a format? No text in TOML can. -/
def escapesHalf : Format → List Char → Bool
  | .json => escapesHalfInJson false
  | .yaml => escapesHalfInYaml
  | .toml => fun _ => false

example : escapesHalf .json "\\ud83d\\ude00".toList = false := by decide

example : escapesHalf .json "\\ude00\\ud83d".toList = true := by decide

/-- No half of a pair is escaped in the document that a file may hold. -/
def IsWhole (files : FileTree) (path : String) : Prop :=
  ∀ format octets cs, Format.ofSuffix? (Path.ofText path).suffix = some format →
    files.read (Path.ofText path) = .ok octets → Utf8.decode? octets = some cs →
      escapesHalf format cs = false

/-! ## Refusals -/

/-- The rules of values refuse a scalar of a text, read in a format. -/
def RefusesScalar (format : Format) (cs : List Char) (cause : Refusal) : Prop :=
  match format with
  | .json => Json.decode (unifyLines cs) = .error .longNumber ∧ cause = .badValue
  | .toml => Toml.decode cs = .error (.refused cause)
  | .yaml => Yaml.decode (unifyLines cs) = .error (.refused cause)

/-- Octets are refused as a document: they encode no text, or a scalar of the text is refused. -/
inductive Refuses (format : Format) (octets : List UInt8) : Refusal → Prop where
  | undecodable (nothing : Utf8.decode? octets = none) : Refuses format octets .undecodable
  | scalar {cs : List Char} {cause : Refusal} (text : Utf8.decode? octets = some cs)
      (refused : RefusesScalar format cs cause) : Refuses format octets cause

/-- What a format can refuse of a text: an overlong number, or in YAML one of six causes. -/
def Format.CanRefuse (format : Format) (cs : List Char) (cause : Refusal) : Prop :=
  match format with
  | .json | .toml => cause = .badValue ∧ HasLongNumber cs
  | .yaml => cause ∈ Yaml.refusals

theorem canRefuse_of_refusesScalar {format : Format} {cs : List Char} {cause : Refusal}
    (h : RefusesScalar format cs cause) : format.CanRefuse cs cause := by
  cases format with
  | json =>
    have hlong := Json.hasLongNumber_of_decode h.1
    exact ⟨h.2, (linesUnified_unifyLines cs).hasLongNumber hlong⟩
  | toml =>
    rcases Toml.fault_of_decode h with hmalformed | ⟨hcause, hlong⟩
    · cases hmalformed
    · exact ⟨DocumentFault.refused.inj hcause, hlong⟩
  | yaml =>
    rcases Yaml.isFault_of_decode h with hmalformed | ⟨cause', hmem, hcause⟩
    · cases hmalformed
    · exact DocumentFault.refused.inj hcause ▸ hmem

/-! ## Reading -/

theorem told_eq_error_iff {path : String} {r : Except DocumentFault Value} {e : Error} :
    read.told path r = .error e ↔
      (r = .error .malformed ∧ e = .unreadable path DocumentFault.untold) ∨
        ∃ cause, r = .error (.refused cause) ∧ e = .refused cause := by
  cases r with
  | ok v => simp [read.told]
  | error fault => cases fault <;> simp [read.told, eq_comm]

/-- Octets that are a text are refused for a scalar in it. -/
theorem refuses_iff_of_text {format : Format} {octets : List UInt8} {cs : List Char}
    (htext : Utf8.decode? octets = some cs) {cause : Refusal} :
    Refuses format octets cause ↔ RefusesScalar format cs cause := by
  constructor
  · intro h
    cases h with
    | undecodable nothing => cases htext.symm.trans nothing
    | scalar text refused => exact Option.some.inj (htext.symm.trans text) ▸ refused
  · exact .scalar htext

theorem read_eq_refused_iff {format : Format} {path : String} {octets : List UInt8}
    {cause : Refusal} :
    read format path octets = .error (.refused cause) ↔ Refuses format octets cause := by
  cases htext : Utf8.decode? octets with
  | none =>
    simp only [read, htext]
    constructor
    · intro h
      obtain rfl := Error.refused.inj (Except.error.inj h)
      exact .undecodable htext
    · intro h
      cases h with
      | undecodable _ => rfl
      | scalar text _ => cases htext.symm.trans text
  | some cs =>
    -- Only a text of JSON can be malformed in a way that tells where.
    rw [refuses_iff_of_text htext]
    cases format with
    | json =>
      simp only [read, htext, RefusesScalar]
      cases hdecode : Json.decode (unifyLines cs) with
      | ok v => simp
      | error fault => cases fault <;> simp [eq_comm]
    | toml => simp [read, htext, RefusesScalar, told_eq_error_iff]
    | yaml => simp [read, htext, RefusesScalar, told_eq_error_iff]

/-- What is not read is unreadable or refused. -/
theorem unreadable_or_refused_of_read {format : Format} {path : String} {octets : List UInt8}
    {e : Error} (h : read format path octets = .error e) :
    (∃ why, e = .unreadable path why) ∨ ∃ cause, e = .refused cause := by
  unfold read at h
  split at h
  · exact .inr ⟨_, (Except.error.inj h).symm⟩
  · split at h
    · dsimp only at h
      split at h
      · cases h
      · exact .inl ⟨_, (Except.error.inj h).symm⟩
      · exact .inr ⟨_, (Except.error.inj h).symm⟩
    · exact (told_eq_error_iff.1 h).imp (fun h => ⟨_, h.2⟩) fun ⟨cause, _, he⟩ => ⟨cause, he⟩
    · exact (told_eq_error_iff.1 h).imp (fun h => ⟨_, h.2⟩) fun ⟨cause, _, he⟩ => ⟨cause, he⟩

/-! ## Loading -/

section Load

variable {files : FileTree} {path : String} {format : Format}

theorem load_of_unsupported (h : Format.ofSuffix? (Path.ofText path).suffix = none) :
    load files path = .error (.unsupportedFile (Path.ofText path).name) := by
  unfold load
  simp only [h]
  rfl

theorem load_of_fault (h : Format.ofSuffix? (Path.ofText path).suffix = some format)
    (hpath : '\x00' ∉ path.toList) {fault : FileFault}
    (hfault : files.read (Path.ofText path) = .error fault) :
    load files path = .error (.unreadable (Path.ofText path).text fault.message) := by
  unfold load
  simp only [h, Path.isUnusable_ofText hpath, hfault]
  rfl

/-- What is read from a file has to be a mapping. -/
theorem load_of_octets (h : Format.ofSuffix? (Path.ofText path).suffix = some format)
    (hpath : '\x00' ∉ path.toList) {octets : List UInt8}
    (hoctets : files.read (Path.ofText path) = .ok octets) :
    load files path = read format (Path.ofText path).text octets >>= fun v =>
      match v with
      | .mapping entries => .ok (.mapping entries)
      | v => .error (.notMapping (Path.ofText path).text v.kindName) := by
  unfold load
  simp only [h, Path.isUnusable_ofText hpath, hoctets]
  rfl

/-- Octets that are at hand are refused in loading as they are in reading. -/
theorem load_of_octets_eq_refused_iff
    (h : Format.ofSuffix? (Path.ofText path).suffix = some format) (hpath : '\x00' ∉ path.toList)
    {octets : List UInt8} (hoctets : files.read (Path.ofText path) = .ok octets) {cause : Refusal} :
    load files path = .error (.refused cause) ↔ Refuses format octets cause := by
  rw [load_of_octets h hpath hoctets, bind_eq_error_iff, read_eq_refused_iff]
  -- Once a value is read, what can still go wrong is that it is no mapping, which is told.
  refine ⟨fun h => h.resolve_right ?_, .inl⟩
  rintro ⟨v, -, hv⟩
  split at hv
  · cases hv
  · cases hv

/-- The ways in which the loading of a document ends. -/
inductive Loads (files : FileTree) (path : String) : Except Error Value → Prop where
  | unsupported (unknown : Format.ofSuffix? (Path.ofText path).suffix = none) :
      Loads files path (.error (.unsupportedFile (Path.ofText path).name))
  | document {format : Format} (known : Format.ofSuffix? (Path.ofText path).suffix = some format)
      (entries : List (Value × Value)) : Loads files path (.ok (.mapping entries))
  | notMapping {format : Format} (known : Format.ofSuffix? (Path.ofText path).suffix = some format)
      (kind : String) : Loads files path (.error (.notMapping (Path.ofText path).text kind))
  | unreadable {format : Format} (known : Format.ofSuffix? (Path.ofText path).suffix = some format)
      (why : String) : Loads files path (.error (.unreadable (Path.ofText path).text why))
  | refused {format : Format} {octets : List UInt8} {cause : Refusal}
      (known : Format.ofSuffix? (Path.ofText path).suffix = some format)
      (held : files.read (Path.ofText path) = .ok octets) (refuses : Refuses format octets cause) :
      Loads files path (.error (.refused cause))

theorem loads_load (files : FileTree) (hpath : '\x00' ∉ path.toList) :
    Loads files path (load files path) := by
  -- The suffix is looked at first, then the octets, then what they encode.
  cases hformat : Format.ofSuffix? (Path.ofText path).suffix with
  | none =>
    rw [load_of_unsupported hformat]
    exact .unsupported hformat
  | some format =>
    cases hoctets : files.read (Path.ofText path) with
    | error fault =>
      rw [load_of_fault hformat hpath hoctets]
      exact .unreadable hformat _
    | ok octets =>
      rw [load_of_octets hformat hpath hoctets]
      cases hread : read format (Path.ofText path).text octets with
      | ok v =>
        rw [ok_bind]
        split
        · exact .document hformat _
        · exact .notMapping hformat _
      | error e =>
        rw [error_bind]
        rcases unreadable_or_refused_of_read hread with ⟨why, rfl⟩ | ⟨cause, rfl⟩
        · exact .unreadable hformat why
        · exact .refused hformat hoctets (read_eq_refused_iff.1 hread)

end Load

/-- A file that holds an empty list. -/
def listFile : FileTree := { entries := [(["a.json"], .file [0x5B, 0x5D])] }

/-- A file whose only octet is no text. -/
def octetFile : FileTree := { entries := [(["a.json"], .file [0xFF])] }

end Document

end RecordSchema
