import Accord.Proofs.Sources
import Accord.Settings

/-!
# `Accord.Proofs.Settings`: settings and the faults that are not reported

A settings file is read in stages: octets to a text, the text to what it holds, that to entries,
the entries to settings. A `Library` does the second and the last of them. What its
documentation says is `Library.Documented`: it breaks off on no text that is not YAML and on no
entries, and the paths that it gives are those that the entries name.

Most faults on the way have a wording. `Escapes` lists those that have none, with what is in the
file then, and `escapes_iff` says that they are all. A file whose contents are `Plain` has none
of them, so that loading it gives settings or a reported fault (`exists_message_of_plain`).

`Placed` says where a path of a file leads, and `exists_follows_of_load` that the paths of
loaded settings lead there.
-/

set_option autoImplicit false

namespace Accord.Settings

open Files (Path Workspace)

variable {Other : Type} {library : Library Other} {isYaml : List Char → Prop}
  {workspace : Workspace} {path folder : Path} {octets : List UInt8} {text : List Char}
  {entries : List (String × Value Other)} {fault : Fault} {settings : Settings}

/-! ### What is known of a library -/

/-- The path that entries name under a name, as it is written. -/
inductive Names (entries : List (String × Value Other)) (name : String) : Option Path → Prop
  /-- Nothing but null stands under the name. -/
  | nothing (empty : ∀ value, (name, value) ∈ entries → value = .null) : Names entries name none
  /-- A text stands under the name. -/
  | text {text : String} (present : (name, .text text) ∈ entries) :
    Names entries name (some (Path.ofText text))

/-- The library does what its documentation says. `isYaml` is what counts as YAML. -/
structure Library.Documented (library : Library Other) (isYaml : List Char → Prop) : Prop where
  /-- Reading a text breaks off only if the text is YAML; otherwise it is at most refused. -/
  parse_of_broken : ∀ {text kind}, library.parse text = .error (.broken kind) → isYaml text
  /-- Entries are at most refused. -/
  validate_ne_broken : ∀ entries kind, library.validate entries ≠ .error (.broken kind)
  /-- A field for a path is null, or the path of the text that stands under the name of the
  field. -/
  names_of_validate : ∀ {entries settings}, library.validate entries = .ok settings →
    Names entries "requests" settings.requests ∧ Names entries "types" settings.types ∧
      Names entries "collection" settings.collection

/-! ### What is in a file -/

/-- The octets are those of a text, which is read with one end of line for all. -/
def Reads (octets : List UInt8) (text : List Char) : Prop :=
  ∃ written, Sources.Encodes octets written ∧ text = Text.unifyLines written

/-- The octets are those of a YAML text with these entries; one that holds nothing has none. -/
def Lists (library : Library Other) (octets : List UInt8) (entries : List (String × Value Other)) :
    Prop :=
  ∃ text, Reads octets text ∧
    (library.parse text = .ok .nothing ∧ entries = [] ∨
      library.parse text =
        .ok (.mapping (entries.map fun entry => (.text entry.1, entry.2))))

/-- Loading the octets gives a fault that is not reported. -/
inductive Escapes (library : Library Other) (isYaml : List Char → Prop) (octets : List UInt8) :
    Fault → Prop
  /-- The octets are no text. -/
  | octets {fault : Text.OctetFault} (undecodable : Text.decode octets = .error fault) :
    Escapes library isYaml octets (.octets fault)
  /-- The text is YAML, and reading it breaks off all the same. -/
  | parsing {text : List Char} {kind : String} (reads : Reads octets text) (yaml : isYaml text)
      (breaks : library.parse text = .error (.broken kind)) :
    Escapes library isYaml octets (.parsing kind)
  /-- The text is a YAML mapping, but a name in it is no text. -/
  | name {text : List Char} {entries : List (Value Other × Value Other)}
      {entry : Value Other × Value Other} (reads : Reads octets text)
      (parses : library.parse text = .ok (.mapping entries)) (member : entry ∈ entries)
      (notText : ∀ name, entry.1 ≠ .text name) :
    Escapes library isYaml octets .nameNotText

/-- The octets are those of a text, reading it as YAML does not break off, and all names of a
mapping are texts. -/
structure Plain (library : Library Other) (octets : List UInt8) : Prop where
  isText : ∃ text, Reads octets text
  parses : ∀ text kind, Reads octets text → library.parse text ≠ .error (.broken kind)
  named : ∀ text entries, Reads octets text → library.parse text = .ok (.mapping entries) →
    ∀ entry ∈ entries, ∃ name, entry.1 = .text name

/-- `Reads` says that the octets decode and that the line ends of the result are made one. -/
theorem reads_iff : Reads octets text ↔ ∃ written, Text.decode octets = .ok written ∧
    text = Text.unifyLines written := by
  simp only [Reads, Sources.Encodes, Text.decode_eq_ok_iff]

/-- Octets are those of one text at most. -/
theorem Reads.unique {other : List Char} (reads : Reads octets text)
    (also : Reads octets other) : text = other := by
  obtain ⟨written, decoded, rfl⟩ := reads_iff.1 reads
  obtain ⟨again, same, rfl⟩ := reads_iff.1 also
  rw [Except.ok.inj (decoded.symm.trans same)]

/-- The contents are plain if they are a text that the library reads or refuses, with texts for
names. -/
theorem plain_of_reads (reads : Reads octets text)
    (parses : ∀ kind, library.parse text ≠ .error (.broken kind))
    (named : ∀ entries, library.parse text = .ok (.mapping entries) →
      ∀ entry ∈ entries, ∃ name, entry.1 = .text name) : Plain library octets where
  isText := ⟨text, reads⟩
  parses _ kind also := reads.unique also ▸ parses kind
  named _ entries also := reads.unique also ▸ named entries

/-- Plain contents have no fault that is not reported. -/
theorem Plain.not_escapes (plain : Plain library octets) (fault : Fault) :
    ¬Escapes library isYaml octets fault := by
  rintro (undecodable | ⟨reads, -, breaks⟩ | ⟨reads, parses, member, notText⟩)
  · obtain ⟨text, reads⟩ := plain.isText
    obtain ⟨written, decoded, -⟩ := reads_iff.1 reads
    rw [undecodable] at decoded
    cases decoded
  · exact plain.parses _ _ reads breaks
  · obtain ⟨name, same⟩ := plain.named _ _ reads parses _ member
    exact notText name same

/-! ### Loading -/

/-- A file that cannot be read is reported with the wording of the workspace. -/
theorem load_of_read_error {cause : Files.AccessCause}
    (missing : workspace.read path = .error cause) :
    load library workspace path = .error (.access path cause) := by
  rw [load, Workspace.readText, missing]

/-- Octets that are no UTF-8 break the loading off. -/
theorem load_of_decode_error {fault : Text.OctetFault} (found : workspace.read path = .ok octets)
    (undecodable : Text.decode octets = .error fault) :
    load library workspace path = .error (.octets fault) := by
  rw [load, Workspace.readText, found]
  simp only [undecodable]

/-- A file that holds text is loaded as that text. -/
theorem load_of_reads (found : workspace.read path = .ok octets) (reads : Reads octets text) :
    load library workspace path = ofText library path text := by
  obtain ⟨written, decoded, rfl⟩ := reads_iff.1 reads
  rw [load, Workspace.readText, found]
  simp only [decoded]

/-- Entries have names exactly if they are the named ones with their names as texts. -/
theorem named?_eq_some_iff {written : List (Value Other × Value Other)} :
    named? written = some entries ↔
      written = entries.map fun entry => (.text entry.1, entry.2) := by
  induction written generalizing entries with
  | nil => cases entries <;> simp [named?]
  | cons entry rest ih =>
    obtain ⟨name, value⟩ := entry
    cases name with
    | text name =>
      rw [named?, Option.map_eq_some_iff]
      constructor
      · rintro ⟨named, readable, rfl⟩
        rw [ih.1 readable, List.map_cons]
      · intro same
        cases entries with
        | nil => cases same
        | cons first others =>
          obtain ⟨head, tail⟩ := List.cons.inj same
          cases head
          exact ⟨others, ih.2 tail, rfl⟩
    | null => cases entries <;> simp [named?]
    | other value => cases entries <;> simp [named?]

/-- Entries have no names exactly if one of them has a name that is no text. -/
theorem named?_eq_none_iff {written : List (Value Other × Value Other)} :
    named? written = none ↔ ∃ entry ∈ written, ∀ name, entry.1 ≠ .text name := by
  induction written with
  | nil => simp [named?]
  | cons entry rest ih =>
    obtain ⟨name, value⟩ := entry
    cases name <;> simp [named?, ih]

/-- A library that does what is documented of it gives entries that are reported if they have a
fault. -/
theorem ofEntries_message (documented : library.Documented isYaml)
    (failed : ofEntries library path entries = .error fault) : fault.message? ≠ none := by
  rw [ofEntries] at failed
  cases valid : library.validate entries with
  | ok settings =>
    rw [valid] at failed
    cases failed
  | error failure =>
    cases failure with
    | refused refusal =>
      rw [valid] at failed
      cases failed
      nofun
    | broken kind => exact absurd valid (documented.validate_ne_broken entries kind)

/-- Of the faults of a text those are not reported that break off the reading, and that of a
name that is no text. -/
theorem ofText_escapes_iff (documented : library.Documented isYaml) :
    ofText library path text = .error fault ∧ fault.message? = none ↔
      (∃ kind, fault = .parsing kind ∧ library.parse text = .error (.broken kind)) ∨
      fault = .nameNotText ∧ ∃ written, library.parse text = .ok (.mapping written) ∧
        ∃ entry ∈ written, ∀ name, entry.1 ≠ .text name := by
  -- All other faults have a wording.
  have reported {own : Fault} (wording : own.message? ≠ none) :
      ¬(Except.error (α := Settings) own = .error fault ∧ fault.message? = none) := by
    rintro ⟨same, silent⟩
    rw [← Except.error.inj same] at silent
    exact wording silent
  have ofEntries_reported {entries : List (String × Value Other)} :
      ¬(ofEntries library path entries = .error fault ∧ fault.message? = none) :=
    fun ⟨failed, silent⟩ => ofEntries_message documented failed silent
  rw [ofText]
  cases library.parse text with
  | error failure =>
    cases failure with
    | refused wording => exact iff_of_false (reported nofun) (by simp)
    | broken kind =>
      simp only [Except.error.injEq, Failure.broken.injEq, exists_eq_right', reduceCtorEq,
        false_and, exists_false, and_false, or_false]
      exact ⟨fun ⟨same, _⟩ => same.symm, fun same => ⟨same.symm, same ▸ rfl⟩⟩
  | ok document =>
    cases document with
    | nothing => exact iff_of_false ofEntries_reported (by simp)
    | other => exact iff_of_false (reported nofun) (by simp)
    | mapping written =>
      simp only [entriesOf, Except.ok.injEq, Document.mapping.injEq, exists_eq_left',
        reduceCtorEq, and_false, exists_false, false_or, ← named?_eq_none_iff]
      cases named? written with
      | some named => exact iff_of_false ofEntries_reported (by simp)
      | none =>
        simp only [Except.error.injEq, and_true]
        exact ⟨fun ⟨same, _⟩ => same.symm, fun same => ⟨same.symm, same ▸ rfl⟩⟩

/-- **The faults that are not reported** are those of octets that are no text, of texts that are
YAML and break off the reading, and of names that are no text. -/
theorem escapes_iff (documented : library.Documented isYaml)
    (found : workspace.read path = .ok octets) :
    Escapes library isYaml octets fault ↔
      load library workspace path = .error fault ∧ fault.message? = none := by
  constructor
  · rintro (undecodable | ⟨reads, -, breaks⟩ | ⟨reads, parses, member, notText⟩)
    · exact ⟨load_of_decode_error found undecodable, rfl⟩
    · rw [load_of_reads found reads, ofText_escapes_iff documented]
      exact .inl ⟨_, rfl, breaks⟩
    · rw [load_of_reads found reads, ofText_escapes_iff documented]
      exact .inr ⟨rfl, _, parses, _, member, notText⟩
  · rintro ⟨failed, silent⟩
    -- The stage that fails first tells which of the three it is.
    cases decoded : Text.decode octets with
    | error undecodable =>
      rw [load_of_decode_error found decoded] at failed
      cases failed
      exact .octets decoded
    | ok written =>
      have reads : Reads octets (Text.unifyLines written) := reads_iff.2 ⟨written, decoded, rfl⟩
      rw [load_of_reads found reads] at failed
      rcases (ofText_escapes_iff documented).1 ⟨failed, silent⟩ with
        ⟨kind, rfl, breaks⟩ | ⟨rfl, entries, parses, entry, member, notText⟩
      · exact .parsing reads (documented.parse_of_broken breaks) breaks
      · exact .name reads parses member notText

/-- A fault of plain contents is reported. -/
theorem exists_message_of_plain (documented : library.Documented isYaml)
    (found : workspace.read path = .ok octets) (plain : Plain library octets)
    (failed : load library workspace path = .error fault) :
    ∃ message, fault.message? = some message := by
  cases wording : fault.message? with
  | some message => exact ⟨message, rfl⟩
  | none =>
    have escapes : Escapes library isYaml octets fault :=
      (escapes_iff documented found).2 ⟨failed, wording⟩
    exact absurd escapes (plain.not_escapes fault)

/-! ### Where the paths lead -/

/-- Where the path leads that a file in a folder has under a name. -/
inductive Placed (folder : Path) (entries : List (String × Value Other)) (name : String) :
    Option Path → Prop
  /-- Nothing but null stands under the name. -/
  | nothing (empty : ∀ value, (name, value) ∈ entries → value = .null) :
    Placed folder entries name none
  /-- An absolute path leads to where it says. -/
  | absolute {text : String} (present : (name, .text text) ∈ entries)
      (start : (Path.ofText text).anchor ≠ .here) :
    Placed folder entries name (some (Path.ofText text))
  /-- A relative path leads on from the folder. -/
  | relative {text : String} (present : (name, .text text) ∈ entries)
      (start : (Path.ofText text).anchor = .here) :
    Placed folder entries name
      (some ⟨folder.anchor, folder.names ++ (Path.ofText text).names⟩)

/-- The paths of settings lead where a file in a folder has them. -/
structure Follows (folder : Path) (entries : List (String × Value Other))
    (settings : Settings) : Prop where
  requests : Placed folder entries "requests" settings.requests
  types : Placed folder entries "types" settings.types
  collection : Placed folder entries "collection" settings.collection

/-- A path that entries name is placed once it is joined to the folder. -/
theorem Names.placed {name : String} {found : Option Path} (names : Names entries name found) :
    Placed folder entries name (found.map folder.join) := by
  cases names with
  | nothing empty => exact .nothing empty
  | @text text present =>
    by_cases start : (Path.ofText text).anchor = .here
    · have joined : folder.join (Path.ofText text) =
          ⟨folder.anchor, folder.names ++ (Path.ofText text).names⟩ :=
        if_neg (by simpa [Path.isAbsolute] using start)
      simpa only [Option.map_some, joined] using Placed.relative present start
    · have joined : folder.join (Path.ofText text) = Path.ofText text :=
        if_pos (by simpa [Path.isAbsolute] using start)
      simpa only [Option.map_some, joined] using Placed.absolute present start

/-- The paths of settings that are spelt by entries follow these. -/
theorem follows_of_ofEntries (documented : library.Documented isYaml)
    (valid : ofEntries library path entries = .ok settings) :
    Follows path.parent entries settings := by
  rw [ofEntries] at valid
  split at valid
  next checked found =>
    cases valid
    obtain ⟨requests, types, collection⟩ := documented.names_of_validate found
    exact ⟨requests.placed, types.placed, collection.placed⟩
  · cases valid
  · cases valid

/-- **The paths of loaded settings** are those of the file: absent, absolute, or led on from its
folder. -/
theorem exists_follows_of_load (documented : library.Documented isYaml)
    (found : workspace.read path = .ok octets)
    (loaded : load library workspace path = .ok settings) :
    ∃ entries, Lists library octets entries ∧ Follows path.parent entries settings := by
  cases decoded : Text.decode octets with
  | error undecodable =>
    rw [load_of_decode_error found decoded] at loaded
    cases loaded
  | ok written =>
    have reads : Reads octets (Text.unifyLines written) := reads_iff.2 ⟨written, decoded, rfl⟩
    rw [load_of_reads found reads, ofText] at loaded
    cases parsed : library.parse (Text.unifyLines written) with
    | error failure =>
      rw [parsed] at loaded
      cases failure <;> cases loaded
    | ok document =>
      rw [parsed] at loaded
      cases document with
      | nothing =>
        exact ⟨[], ⟨_, reads, .inl ⟨parsed, rfl⟩⟩, follows_of_ofEntries documented loaded⟩
      | other => cases loaded
      | mapping entries =>
        cases names : named? entries with
        | none =>
          simp only [entriesOf, names] at loaded
          cases loaded
        | some named =>
          simp only [entriesOf, names] at loaded
          rw [named?_eq_some_iff.1 names] at parsed
          exact ⟨named, ⟨_, reads, .inr parsed⟩, follows_of_ofEntries documented loaded⟩

end Accord.Settings
