import Accord.Proofs.Files.Path
import Accord.Proofs.Report
import Accord.Proofs.Table
import Accord.Proofs.Text.Utf8
import Accord.Sources

/-!
# `Accord.Proofs.Sources`: the source files below a folder

`Filter.Eligible` says which names below a folder count, and `mem_selected_iff` that exactly the
files under such names are selected. The selected files stand in the strict order of their names
(`pairwise_selected`). Since no location holds two files, that order leaves one list only: how
the tree is listed has no say (`selected_of_perm`).

Each selected file is read by itself. `Discovery` puts together what a folder gives: the units,
what is left out and noted, and the order of both.
-/

set_option autoImplicit false

namespace Accord

namespace Files

/-- A tree as file systems hold one: the names in it can stand in a path, and no file is a
folder. -/
structure Tree.Proper (tree : Tree) : Prop where
  isName : ∀ entry ∈ tree.files, ∀ name ∈ entry.1, IsName name
  noFolder : ∀ entry ∈ tree.files, tree.isFolder entry.1 = false

/-- Two trees hold the same, however they list it. -/
structure Tree.Alike (tree other : Tree) : Prop where
  files : tree.files.Perm other.files
  folders : tree.folders.Perm other.folders

/-- The path to what the names lead to from a path on. -/
def Path.under (path : Path) (names : List String) : Path :=
  ⟨path.anchor, path.names ++ names⟩

section Proper

variable {workspace : Workspace} {path : Path} {folder location : List String}

/-- No file of a proper tree is where a folder is. -/
theorem Tree.Proper.file?_of_isFolder {tree : Tree} (proper : tree.Proper)
    (isFolder : tree.isFolder location = true) : tree.file? location = none := by
  refine Option.eq_none_iff_forall_not_mem.2 fun octets found => ?_
  rw [proper.noFolder _ (Entries.mem_of_get?_eq_some found)] at isFolder
  cases isFolder

/-- A path to a folder is no path to a file. -/
theorem Workspace.read_of_folder? (proper : workspace.tree.Proper)
    (leads : workspace.folder? path = some folder) : workspace.read path = .error .isFolder := by
  unfold folder? at leads
  split at leads
  · next location located =>
    split at leads
    · next isFolder =>
      rw [read, located]
      simp only [proper.file?_of_isFolder isFolder, isFolder, if_true]
    · cases leads
  · cases leads

end Proper

section Alike

variable {tree other : Tree}

/-- Trees that are listed otherwise have the same files. -/
theorem Tree.Alike.file? (alike : tree.Alike other) (location : List String) :
    tree.file? location = other.file? location :=
  Entries.get?_of_perm alike.files tree.nodup location

/-- They have the same folders. -/
theorem Tree.Alike.isFolder (alike : tree.Alike other) (location : List String) :
    tree.isFolder location = other.isFolder location := by
  rw [Tree.isFolder, Tree.isFolder, alike.folders.any_eq, alike.files.any_eq]

/-- Following names leads to the same place. -/
theorem Tree.Alike.follow (alike : tree.Alike other) (location names : List String) :
    tree.follow location names = other.follow location names := by
  induction names generalizing location with
  | nil => rfl
  | cons name rest ih =>
    rw [Tree.follow, Tree.follow, alike.isFolder, alike.file?, ih]

variable {here : List String}

/-- A path leads to the same folder. -/
theorem Tree.Alike.folder? (alike : tree.Alike other) (path : Path) :
    (⟨tree, here⟩ : Workspace).folder? path = (⟨other, here⟩ : Workspace).folder? path := by
  simp only [Workspace.folder?, Workspace.locate, Workspace.start, alike.follow, alike.isFolder]

/-- Reading a path gives the same. -/
theorem Tree.Alike.read (alike : tree.Alike other) (path : Path) :
    (⟨tree, here⟩ : Workspace).read path = (⟨other, here⟩ : Workspace).read path := by
  simp only [Workspace.read, Workspace.locate, Workspace.start, alike.follow, alike.isFolder,
    alike.file?]

end Alike

end Files

namespace Sources

open Files (IsName Path Tree Workspace)

variable {ε : Type} {tree : Tree} {filter : Filter} {folder names : List String}
  {octets : List UInt8} {file : Path × List UInt8}

/-! ### The files that count -/

/-- The names lead to a file that counts: the last one ends in one of the extensions, and none
of them is excluded. -/
structure Filter.Eligible (filter : Filter) (names : List String) : Prop where
  ending : ∃ above name extension, names = above ++ [name] ∧ extension ∈ filter.extensions ∧
    extension.toList <:+ name.toList
  included : ∀ name ∈ names, name ∉ filter.exclude

/-- Who has an ending has a last name. -/
theorem Filter.Eligible.ne_nil (eligible : filter.Eligible names) : names ≠ [] := by
  obtain ⟨above, name, -, rfl, -⟩ := eligible.ending
  exact List.append_ne_nil_of_right_ne_nil above (List.cons_ne_nil name [])

/-- A name has one of the extensions when it ends in one. -/
theorem Filter.hasExtension_iff {name : String} :
    filter.hasExtension name = true ↔
      ∃ extension ∈ filter.extensions, extension.toList <:+ name.toList := by
  simp [hasExtension]

/-- The filter admits the files that count. -/
theorem Filter.admits_iff : filter.admits names = true ↔ filter.Eligible names := by
  -- The extension is asked of the last name and the exclusion of all of them.
  rcases List.eq_nil_or_concat names with rfl | ⟨above, name, rfl⟩
  · exact iff_of_false (by simp [admits]) fun eligible => eligible.ne_nil rfl
  · rw [List.concat_eq_append, admits, List.getLast?_concat, Bool.and_eq_true, List.all_eq_true,
      Option.map_some, Option.getD_some, hasExtension_iff]
    constructor
    · rintro ⟨⟨extension, listed, ends⟩, included⟩
      exact ⟨⟨above, name, extension, rfl, listed, ends⟩, by simpa using included⟩
    · rintro ⟨⟨above', name', extension, same, listed, ends⟩, included⟩
      obtain ⟨-, rfl⟩ := List.append_inj' same rfl |>.imp_right List.head_eq_of_cons_eq
      exact ⟨⟨extension, listed, ends⟩, by simpa using included⟩

/-- A location is below a folder when the names of the folder lead on to it. -/
theorem below?_eq_some_iff {location : List String} :
    below? folder location = some names ↔ location = folder ++ names ∧ names ≠ [] := by
  induction folder generalizing location with
  | nil =>
    cases location with
    | nil => simp [below?]
    | cons first location =>
      simp only [below?, List.nil_append, Option.some.injEq]
      exact ⟨fun same => ⟨same, same ▸ List.cons_ne_nil _ _⟩, And.left⟩
  | cons name folder ih =>
    cases location with
    | nil => simp [below?]
    | cons first location =>
      rw [below?]
      split
      · next same => simp [ih, same]
      · next other => simp [Ne.symm other]

/-- The files below a folder that count, as the tree lists them. -/
def candidates (tree : Tree) (filter : Filter) (folder : List String) :
    List (List String × List UInt8) :=
  tree.files.filterMap fun entry => do
    let names ← below? folder entry.1
    if filter.admits names then some (names, entry.2) else none

/-- The selected files are sorted by their locations. -/
theorem selected_eq_mergeSort :
    selected tree filter folder = (candidates tree filter folder).mergeSort locationLe :=
  rfl

/-- A candidate is an eligible file below the folder. -/
theorem candidate_iff {entry : List String × List UInt8} :
    (do
      let names ← below? folder entry.1
      if filter.admits names then some (names, entry.2) else none) = some (names, octets) ↔
      entry = (folder ++ names, octets) ∧ filter.Eligible names := by
  simp only [Option.bind_eq_bind, Option.bind_eq_some_iff, below?_eq_some_iff,
    Option.ite_none_right_eq_some, Option.some.injEq, Prod.mk.injEq, Filter.admits_iff]
  constructor
  · rintro ⟨names, ⟨located, -⟩, eligible, rfl, rfl⟩
    exact ⟨Prod.ext located rfl, eligible⟩
  · rintro ⟨rfl, eligible⟩
    exact ⟨names, ⟨rfl, eligible.ne_nil⟩, eligible, rfl, rfl⟩

/-- **What is selected**: the files of the tree under names that count. -/
theorem mem_selected_iff :
    (names, octets) ∈ selected tree filter folder ↔
      tree.file? (folder ++ names) = some octets ∧ filter.Eligible names := by
  rw [selected_eq_mergeSort, List.mem_mergeSort, candidates, List.mem_filterMap, Tree.file?,
    Entries.get?_eq_some_iff tree.nodup]
  simp only [candidate_iff]
  constructor
  · rintro ⟨entry, member, rfl, eligible⟩
    exact ⟨member, eligible⟩
  · rintro ⟨member, eligible⟩
    exact ⟨_, member, rfl, eligible⟩

/-! ### Their order -/

/-- Names lead to one file at most. -/
theorem pairwise_candidates :
    (candidates tree filter folder).Pairwise fun first second => first.1 ≠ second.1 := by
  have distinct : tree.files.Pairwise fun first second => first.1 ≠ second.1 :=
    List.pairwise_map.1 tree.nodup
  refine List.Pairwise.filterMap _ ?_ distinct
  rintro first second apart ⟨names, octets⟩ one ⟨others, octets'⟩ two rfl
  exact apart ((congrArg Prod.fst (candidate_iff.1 one).1).trans
    (congrArg Prod.fst (candidate_iff.1 two).1).symm)

/-- The selected files stand in the strict order of their names. -/
theorem pairwise_selected :
    (selected tree filter folder).Pairwise fun first second => first.1 < second.1 := by
  have sorted : (selected tree filter folder).Pairwise fun first second =>
      locationLe first second = true := by
    refine List.pairwise_mergeSort (fun a b c first second => ?_) (fun a b => ?_) _
    · simp only [locationLe, decide_eq_true_eq] at *
      exact List.le_trans first second
    · simp only [locationLe, Bool.or_eq_true, decide_eq_true_eq]
      exact List.le_total a.1 b.1
  have distinct : (selected tree filter folder).Pairwise fun first second => first.1 ≠ second.1 :=
    (List.mergeSort_perm _ _).symm.pairwise pairwise_candidates fun apart => apart.symm
  refine (sorted.and distinct).imp fun ⟨ordered, apart⟩ => ?_
  refine Classical.byContradiction fun notBefore => apart ?_
  exact List.le_antisymm (of_decide_eq_true ordered) (List.not_lt.1 notBefore)

-- What is below a folder stands before the files whose names only begin as its own does.
example : locationLe (["a", "x.ts"], []) (["a-b", "q.ts"], []) = true ∧
    locationLe (["a-b", "q.ts"], []) (["a.ts"], []) = true := by
  decide

/-- How the tree is listed has no say in what is selected. -/
theorem selected_of_perm {other : Tree} (perm : tree.files.Perm other.files) :
    selected tree filter folder = selected other filter folder := by
  have same : (selected tree filter folder).Perm (selected other filter folder) :=
    (List.mergeSort_perm _ _).trans ((perm.filterMap _).trans (List.mergeSort_perm _ _).symm)
  refine same.eq_of_pairwise (fun first second _ _ before after => ?_) pairwise_selected
    pairwise_selected
  exact absurd (List.lt_trans before after) (List.lt_irrefl _)

/-! ### Reading them -/

/-- The octets of a file are a text in the usual encoding. -/
def Encodes (octets : List UInt8) (text : List Char) : Prop :=
  octets = text.flatMap String.utf8EncodeChar

/-- The unit in a file that is a text. -/
def unit? (file : Path × List UInt8) : Option SourceUnit :=
  (Text.decode file.2).toOption.map fun text =>
    ⟨file.1.text, String.ofList (Text.unifyLines text)⟩

/-- What is noted of a file that is no text. -/
def undecodable? (file : Path × List UInt8) : Option Event :=
  match Text.decode file.2 with
  | .ok _ => none
  | .error fault => some (.sourceUndecodable file.1.text fault)

/-- A file is read as its unit, or as none. -/
theorem outcome_unitOf (file : Path × List UInt8) :
    (unitOf file : Report ε (List SourceUnit)).outcome = .ok (unit? file).toList := by
  unfold unitOf unit?
  cases Text.decode file.2 <;> rfl

/-- A file that is no text is noted, and that is all. -/
theorem events_unitOf (file : Path × List UInt8) :
    (unitOf file : Report ε (List SourceUnit)).events = (undecodable? file).toList := by
  unfold unitOf undecodable?
  cases Text.decode file.2 <;> rfl

/-- Files are read one by one. -/
theorem gather_unitOf (files : List (Path × List UInt8)) :
    (Report.gather unitOf files : Report ε (List SourceUnit)) =
      ⟨files.filterMap undecodable?, .ok (files.filterMap unit?)⟩ := by
  have outcome := Report.outcome_gather fun file (_ : file ∈ files) => outcome_unitOf (ε := ε) file
  have events := Report.events_gather (outcome_unitOf (ε := ε)) files
  simp only [events_unitOf, ← List.filterMap_eq_flatMap_toList] at outcome events
  rw [← events, ← outcome]

/-- A file gives a unit when its octets are a text. -/
theorem unit?_eq_some_iff {unit : SourceUnit} :
    unit? file = some unit ↔ ∃ text, Encodes file.2 text ∧
      unit = ⟨file.1.text, String.ofList (Text.unifyLines text)⟩ := by
  simp only [Encodes, ← Text.decode_eq_ok_iff, unit?]
  cases Text.decode file.2 <;> simp [Except.toOption, eq_comm]

/-- Octets that encode no text are those that the decoder refuses. -/
theorem forall_not_encodes_iff :
    (∀ text, ¬Encodes octets text) ↔ ∃ fault, Text.decode octets = .error fault := by
  simp only [Encodes, ← Text.decode_eq_ok_iff]
  cases Text.decode octets <;> simp

/-- What loading gives: the units in the files that a path names, and a note for each other file. -/
theorem load_eq (workspace : Workspace) (filter : Filter) (path : Path) :
    (load workspace filter path : Report ε (List SourceUnit)) =
      let files := named workspace filter path
      let units := files.filterMap unit?
      ⟨files.filterMap undecodable? ++ [.sourcesLoaded units.length path.text], .ok units⟩ := by
  rw [load, gather_unitOf]
  rfl

/-! ### Below a folder -/

/-- The units in the files below a folder that count. -/
def unitsBelow (tree : Tree) (filter : Filter) (path : Path) (folder : List String) :
    List SourceUnit :=
  (selected tree filter folder).filterMap fun entry => unit? (path.under entry.1, entry.2)

/-- Why a file below a folder is no text. -/
def fault? (entry : List String × List UInt8) : Option (List String × Text.OctetFault) :=
  match Text.decode entry.2 with
  | .ok _ => none
  | .error fault => some (entry.1, fault)

/-- The files below a folder that count and are no texts. -/
def skippedBelow (tree : Tree) (filter : Filter) (folder : List String) :
    List (List String × Text.OctetFault) :=
  (selected tree filter folder).filterMap fault?

/-- The note of a file below a path that is no text. -/
def noteOf (path : Path) (file : List String × Text.OctetFault) : Event :=
  .sourceUndecodable (path.under file.1).text file.2

section Folder

variable {workspace : Workspace} {path : Path} {given : String}

/-- The fault of a file is that of decoding it. -/
theorem fault?_eq_some_iff {fault : Text.OctetFault} {entry : List String × List UInt8} :
    fault? entry = some (names, fault) ↔ entry.1 = names ∧ Text.decode entry.2 = .error fault := by
  unfold fault?
  cases Text.decode entry.2 <;> simp

/-- What is noted of a file below a path says where it is and why it is no text. -/
theorem undecodable?_under (path : Path) (entry : List String × List UInt8) :
    undecodable? (path.under entry.1, entry.2) = (fault? entry).map (noteOf path) := by
  unfold undecodable? fault?
  cases Text.decode entry.2 <;> rfl

/-- A folder is named by the files that are selected below it. -/
theorem named_of_folder? (proper : workspace.tree.Proper)
    (leads : workspace.folder? path = some folder) :
    named workspace filter path =
      (selected workspace.tree filter folder).map fun entry => (path.under entry.1, entry.2) := by
  rw [named, Workspace.read_of_folder? proper leads]
  simp only [leads]
  rfl

/-- What loading from a folder gives. -/
theorem load_of_folder? (proper : workspace.tree.Proper)
    (leads : workspace.folder? path = some folder) :
    (load workspace filter path : Report ε (List SourceUnit)) =
      let units := unitsBelow workspace.tree filter path folder
      ⟨(skippedBelow workspace.tree filter folder).map (noteOf path) ++
        [.sourcesLoaded units.length path.text], .ok units⟩ := by
  rw [load_eq, named_of_folder? proper leads]
  simp only [List.filterMap_map, Function.comp_def, undecodable?_under, unitsBelow, skippedBelow,
    List.map_filterMap]

/-- All notes of skipped files are warnings, and an event of another level behind them is none. -/
theorem warnings_notes {units : List SourceUnit} (skipped : List (List String × Text.OctetFault))
    (last : Event) (level : last.level = .debug) :
    (⟨skipped.map (noteOf path) ++ [last], .ok units⟩ : Report ε (List SourceUnit)).warnings =
      skipped.map fun file => (noteOf path file).message := by
  have isWarning : ∀ file, (noteOf path file).level = .warning := fun _ => rfl
  simp [Report.warnings, List.filter_map, Function.comp_def, isWarning, level]

/-- A unit is there for each file that counts and is a text. -/
theorem mem_unitsBelow_iff {unit : SourceUnit} :
    unit ∈ unitsBelow tree filter path folder ↔ ∃ names octets text,
      tree.file? (folder ++ names) = some octets ∧ filter.Eligible names ∧ Encodes octets text ∧
        unit = ⟨(path.under names).text, String.ofList (Text.unifyLines text)⟩ := by
  simp only [unitsBelow, List.mem_filterMap, unit?_eq_some_iff, Prod.exists, mem_selected_iff]
  constructor
  · rintro ⟨names, octets, ⟨found, eligible⟩, text, encodes, rfl⟩
    exact ⟨names, octets, text, found, eligible, encodes, rfl⟩
  · rintro ⟨names, octets, text, found, eligible, encodes, rfl⟩
    exact ⟨names, octets, ⟨found, eligible⟩, text, encodes, rfl⟩

/-- A file is left out when it counts and is no text. -/
theorem mem_skippedBelow_iff {fault : Text.OctetFault} :
    (names, fault) ∈ skippedBelow tree filter folder ↔ ∃ octets,
      tree.file? (folder ++ names) = some octets ∧ filter.Eligible names ∧
        Text.decode octets = .error fault := by
  simp only [skippedBelow, List.mem_filterMap, fault?_eq_some_iff, Prod.exists, mem_selected_iff]
  constructor
  · rintro ⟨names, octets, ⟨found, eligible⟩, rfl, failed⟩
    exact ⟨octets, found, eligible, failed⟩
  · rintro ⟨octets, found, eligible, failed⟩
    exact ⟨names, octets, ⟨found, eligible⟩, rfl, failed⟩

/-- The files that are skipped stand in the order of their locations. -/
theorem pairwise_skippedBelow :
    (skippedBelow tree filter folder).Pairwise fun first second => first.1 < second.1 := by
  refine pairwise_selected.filterMap _ ?_
  rintro first second before ⟨names, fault⟩ one ⟨others, fault'⟩ two
  -- Being skipped keeps the location, by which the selection is sorted.
  rwa [(fault?_eq_some_iff.1 one).1, (fault?_eq_some_iff.1 two).1] at before

/-- The path to a selected file is read back from its text. -/
theorem ofText_under (proper : tree.Proper) {entry : List String × List UInt8}
    (member : entry ∈ selected tree filter folder) :
    Path.ofText ((Path.ofText given).under entry.1).text = (Path.ofText given).under entry.1 := by
  refine Path.ofText_text fun name among => ?_
  rcases List.mem_append.1 among with above | below
  · exact Files.isName_of_mem_names above
  · have found := Entries.mem_of_get?_eq_some (mem_selected_iff.1 member).1
    exact proper.isName _ found name (List.mem_append_right _ below)

/-- The units stand in the order of their paths, name by name. -/
theorem pairwise_unitsBelow (proper : tree.Proper) :
    (unitsBelow tree filter (Path.ofText given) folder).Pairwise fun first second =>
      (Path.ofText first.path).names < (Path.ofText second.path).names := by
  have paths : (selected tree filter folder).Pairwise fun first second =>
      (Path.ofText ((Path.ofText given).under first.1).text).names <
        (Path.ofText ((Path.ofText given).under second.1).text).names := by
    refine pairwise_selected.imp_of_mem fun one two before => ?_
    rw [ofText_under proper one, ofText_under proper two]
    exact List.append_left_lt before
  refine paths.filterMap _ ?_
  intro first second before one isUnit two isUnit'
  obtain ⟨-, -, rfl⟩ := unit?_eq_some_iff.1 isUnit
  obtain ⟨-, -, rfl⟩ := unit?_eq_some_iff.1 isUnit'
  exact before

/-- How the tree is listed has no say in what is loaded. -/
theorem load_of_alike {other : Tree} (alike : tree.Alike other) (here : List String) :
    (load ⟨other, here⟩ filter path : Report ε (List SourceUnit)) =
      load ⟨tree, here⟩ filter path := by
  rw [load, load, named, named, alike.read, alike.folder?]
  simp only [selected_of_perm alike.files]

end Folder

/-- What the files give that count below the folder which a path leads to: units for those that are
texts, a warning for each other one, both in the order of their paths, name by name. -/
structure Discovery (tree : Tree) (filter : Filter) (path : Path) (folder : List String)
    (report : Report ε (List SourceUnit)) (units : List SourceUnit)
    (skipped : List (List String × Text.OctetFault)) : Prop where
  outcome : report.outcome = .ok units
  warnings : report.warnings = skipped.map fun file => (noteOf path file).message
  pairwise_units : units.Pairwise fun first second =>
    (Path.ofText first.path).names < (Path.ofText second.path).names
  mem_units : ∀ unit, unit ∈ units ↔ ∃ names octets text,
    tree.file? (folder ++ names) = some octets ∧ filter.Eligible names ∧ Encodes octets text ∧
      unit = ⟨(path.under names).text, String.ofList (Text.unifyLines text)⟩
  pairwise_skipped : skipped.Pairwise fun first second => first.1 < second.1
  mem_skipped : ∀ names, (∃ fault, (names, fault) ∈ skipped) ↔ ∃ octets,
    tree.file? (folder ++ names) = some octets ∧ filter.Eligible names ∧
      ∀ text, ¬Encodes octets text
  fault_of_mem : ∀ names fault, (names, fault) ∈ skipped → ∃ octets,
    tree.file? (folder ++ names) = some octets ∧ Text.decode octets = .error fault

/-- **The source files below a folder**: exactly those that count and are texts are found, in
the order of their paths; each other file that counts gives one warning. How the tree is listed
has no say. -/
theorem load_folder (tree : Tree) (here : List String) (filter : Filter) (given : String)
    (folder : List String) (proper : tree.Proper)
    (leads : (⟨tree, here⟩ : Workspace).folder? (Path.ofText given) = some folder) :
    (∃ units skipped, Discovery tree filter (Path.ofText given) folder
      (load ⟨tree, here⟩ filter (Path.ofText given) : Report ε (List SourceUnit)) units skipped) ∧
    ∀ other : Tree, tree.Alike other →
      (load ⟨other, here⟩ filter (Path.ofText given) : Report ε (List SourceUnit)) =
        load ⟨tree, here⟩ filter (Path.ofText given) := by
  have loaded : (load ⟨tree, here⟩ filter (Path.ofText given) : Report ε (List SourceUnit)) = _ :=
    load_of_folder? proper leads
  refine ⟨⟨unitsBelow tree filter (Path.ofText given) folder, skippedBelow tree filter folder, ?_⟩,
    fun other alike => load_of_alike alike here⟩
  exact {
    outcome := by rw [loaded]
    warnings := by
      rw [loaded]
      exact warnings_notes _ _ rfl
    pairwise_units := pairwise_unitsBelow proper
    mem_units := fun unit => mem_unitsBelow_iff
    pairwise_skipped := pairwise_skippedBelow
    mem_skipped := fun names => by
      simp only [mem_skippedBelow_iff, forall_not_encodes_iff]
      exact ⟨
        fun ⟨fault, octets, found, eligible, failed⟩ => ⟨octets, found, eligible, fault, failed⟩,
        fun ⟨octets, found, eligible, fault, failed⟩ => ⟨fault, octets, found, eligible, failed⟩⟩
    fault_of_mem := fun names fault member => by
      obtain ⟨octets, found, -, failed⟩ := mem_skippedBelow_iff.1 member
      exact ⟨octets, found, failed⟩ }

/-- A folder with files next to folders of their names, a file that is no text and files that do not
count, listed in no order. -/
def webTree : Tree where
  files := [(["web", "a.ts"], [0x61]), (["web", "notes.md"], [0x61]), (["web", "a-b", "q.ts"], []),
    (["web", "a", "x.ts"], [0xC3, 0xA9]), (["web", "node_modules", "m.ts"], [0x61]),
    (["web", "a", "bad.ts"], [0xC3, 0x28]), (["main.ts"], [0x61])]
  folders := [["web", "empty"]]
  nodup := by decide

/-- The files below `./../web/` are found from the folder `web` itself, however the tree is listed.
-/
theorem load_webTree :
    webTree.Proper ∧ (⟨webTree, ["web"]⟩ : Workspace).folder? (Path.ofText "./../web/") =
      some ["web"] ∧
    (∃ units skipped, Discovery webTree .standard (Path.ofText "./../web/") ["web"]
      (load ⟨webTree, ["web"]⟩ .standard (Path.ofText "./../web/") : Report Empty (List SourceUnit))
      units skipped) ∧
    ∀ other : Tree, webTree.Alike other →
      (load ⟨other, ["web"]⟩ .standard (Path.ofText "./../web/") : Report Empty (List SourceUnit)) =
        load ⟨webTree, ["web"]⟩ .standard (Path.ofText "./../web/") := by
  have proper : webTree.Proper := ⟨by decide, by decide⟩
  have leads :
      (⟨webTree, ["web"]⟩ : Workspace).folder? (Path.ofText "./../web/") = some ["web"] := by
    decide
  exact ⟨proper, leads, load_folder webTree ["web"] .standard "./../web/" ["web"] proper leads⟩

end Sources

end Accord
