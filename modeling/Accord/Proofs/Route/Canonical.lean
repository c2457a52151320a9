import Accord.Proofs.Route

/-!
# `Accord.Proofs.Route.Canonical`: the normal form is canonical

`keptParts` cuts a path at its slashes and filters the parts; it looks at whole parts where
`Route.normalize` rewrites characters. `keptParts_eq_pieces` says that it keeps what the normal
form is made of, and `normalize_canonical` collects what follows:

* the normal form joins the kept parts with slashes;
* it has no slash at its ends and no doubled one (`IsTidy`), since a cut at such a slash would
  give an empty part;
* it is its own normal form;
* two paths have one normal form exactly when they keep the same parts.
-/

set_option autoImplicit false

namespace Accord.Route

/-- The parts of a path between its slashes, empty ones left out. The first of them is kept whatever
it is, a later one unless it is a colon with something behind it. -/
def keptParts (path : List Char) : List (List Char) :=
  match (path.splitOn '/').filter fun part => !part.isEmpty with
  | [] => []
  | first :: later =>
    first :: later.filter fun part => !(part.head? == some ':' && decide (2 ≤ part.length))

/-- A parameter is a colon with something behind it. -/
theorem isParameter_eq (part : List Char) :
    isParameter part = (part.head? == some ':' && decide (2 ≤ part.length)) := by
  unfold isParameter
  split
  · simp
  · next other =>
    -- A colon with something behind it would be of the excluded form.
    cases part with
    | nil => rfl
    | cons c rest =>
      cases rest with
      | nil => simp
      | cons d rest =>
        have plain : c ≠ ':' := fun same => other d rest (same ▸ rfl)
        simp [plain]

/-- The kept parts are the pieces of the normal form. -/
theorem keptParts_eq_pieces (path : List Char) : keptParts path = pieces path := by
  have parts : segmentsFrom [] path = (path.splitOn '/').filter fun part => !part.isEmpty :=
    segmentsFrom_eq_splitOn List.not_mem_nil
  rw [keptParts, pieces, parts]
  cases (path.splitOn '/').filter fun part => !part.isEmpty with
  | nil => rfl
  | cons first later => simp only [isParameter_eq]

/-- A path without a slash at its ends and without a doubled one. -/
structure IsTidy (path : List Char) : Prop where
  leading : path.head? ≠ some '/'
  trailing : path.getLast? ≠ some '/'
  doubled : ¬['/', '/'] <:+: path

/-- A slash at an end, or next to another one, is cut off with an empty part. -/
theorem isTidy_of_splitOn {path : List Char} (nonempty : [] ∉ path.splitOn '/') : IsTidy path := by
  refine ⟨fun leading => ?_, fun trailing => ?_, fun doubled => ?_⟩
  · obtain ⟨rest, rfl⟩ := List.head?_eq_some_iff.1 leading
    have cut := List.splitOn_append_cons_self (a := '/') [] rest
    rw [List.nil_append] at cut
    exact nonempty (by simp [cut])
  · obtain ⟨front, rfl⟩ := List.getLast?_eq_some_iff.1 trailing
    exact nonempty (by simp [List.splitOn_append_cons_self])
  · obtain ⟨front, rest, rfl⟩ := doubled
    have cut := List.splitOn_append_cons_self (a := '/') [] rest
    rw [List.nil_append] at cut
    exact nonempty (by simp [List.splitOn_append_cons_self, cut])

/-- The normal form of a path is tidy. -/
theorem isTidy_normalizeChars (path : List Char) : IsTidy (normalizeChars path) := by
  rw [normalizeChars_eq]
  by_cases none : pieces path = []
  · -- An empty path has the empty part and no slash.
    rw [none]
    exact ⟨by simp, by simp, by simp⟩
  · apply isTidy_of_splitOn
    -- Cutting the normal form at its slashes gives the pieces back.
    have plain : ∀ part ∈ pieces path, '/' ∉ part := fun part member =>
      (isSegment_of_mem_pieces member).plain
    rw [List.splitOn_intercalate '/' plain none]
    exact fun member => (isSegment_of_mem_pieces member).nonempty rfl

/-- The normal form keeps its own pieces. -/
theorem pieces_normalizeChars (path : List Char) : pieces (normalizeChars path) = pieces path := by
  rw [pieces, segmentsFrom_normalizeChars]
  cases kept : pieces path with
  | nil => rfl
  | cons first later =>
    -- What is behind the first piece has been filtered before.
    have filtered : later.filter (fun part => !isParameter part) = later := by
      rw [pieces] at kept
      split at kept
      · cases kept
      · obtain ⟨-, rfl⟩ := List.cons.inj kept
        rw [List.filter_filter]
        simp
    show first :: later.filter (fun part => !isParameter part) = first :: later
    rw [filtered]

/-- A path is its own normal form once it has been normalized. -/
theorem normalize_normalize (path : String) : normalize (normalize path) = normalize path := by
  rw [normalize_eq_iff, normalize, String.toList_ofList, pieces_normalizeChars]

/-- **The normal form is canonical**: it joins the kept parts of a path, it is tidy, normalizing it
again changes nothing, and two paths share it exactly when they keep the same parts. -/
theorem normalize_canonical (path : String) :
    normalize path = String.ofList (['/'].intercalate (keptParts path.toList)) ∧
      IsTidy (normalize path).toList ∧
      normalize (normalize path) = normalize path ∧
      ∀ other : String, normalize path = normalize other ↔
        keptParts path.toList = keptParts other.toList := by
  refine ⟨?_, ?_, normalize_normalize path, fun other => ?_⟩
  · rw [normalize, normalizeChars_eq, keptParts_eq_pieces]
  · rw [normalize, String.toList_ofList]
    exact isTidy_normalizeChars path.toList
  · rw [normalize_eq_iff, keptParts_eq_pieces, keptParts_eq_pieces]

/-- Of the two parts with a colon only the one behind the first part is left out, and a colon alone
stays. -/
example : normalize "//:version/:/users//:id/" = ":version/:/users" := by decide +kernel

end Accord.Route
