import Accord.Files.Path
import Mathlib.Data.List.TakeWhile

/-!
# `Accord.Proofs.Files.Path`: a path and its text

A path that is read from a text has names that can stand in a text (`isName_of_mem_names`), and
a path with such names is read back from its own text (`ofText_text`). So the text of a path
shows all of its names, in order.
-/

set_option autoImplicit false

namespace Accord.Files

/-- A name that can stand in the text of a path. -/
structure IsName (name : String) : Prop where
  plain : '/' ∉ name.toList
  telling : isIdle name.toList = false

/-- `IsName` is decided by its two parts. -/
instance (name : String) : Decidable (IsName name) :=
  decidable_of_iff ('/' ∉ name.toList ∧ isIdle name.toList = false)
    ⟨fun ⟨plain, telling⟩ => ⟨plain, telling⟩, fun ⟨plain, telling⟩ => ⟨plain, telling⟩⟩

/-- `Text.cut` splits a text at every mark, as the splitting of lists does. -/
theorem cut_eq_splitOn (mark : Char) (chars : List Char) :
    Text.cut mark chars = chars.splitOn mark := by
  induction chars with
  | nil => rfl
  | cons c rest ih =>
    rw [Text.cut, ih, List.splitOn_cons_eq_if_modifyHead]
    obtain ⟨piece, pieces, cut⟩ := List.exists_cons_of_ne_nil (List.splitOn_ne_nil mark rest)
    simp only [cut, List.modifyHead_cons, beq_iff_eq]

/-- No piece of a text holds the mark. -/
theorem not_mem_of_mem_cut {mark : Char} {chars piece : List Char}
    (h : piece ∈ Text.cut mark chars) : mark ∉ piece := by
  induction chars generalizing piece with
  | nil =>
    rw [List.mem_singleton.1 h]
    exact List.not_mem_nil
  | cons c rest ih =>
    rw [Text.cut] at h
    split at h
    -- At the mark a new piece starts, and the one before it is empty.
    · rcases List.mem_cons.1 h with rfl | later
      · exact List.not_mem_nil
      · exact ih later
    · next other =>
      split at h
      · rw [List.mem_singleton.1 h]
        simpa using Ne.symm other
      -- Any other character belongs to the first of the pieces that the rest is cut into.
      · next first later cut =>
        rw [cut] at ih
        rcases List.mem_cons.1 h with rfl | member
        · simpa [Ne.symm other] using ih List.mem_cons_self
        · exact ih (List.mem_cons_of_mem _ member)

/-- The names of a path that is read from a text can stand in a text. -/
theorem isName_of_mem_names {text name : String} (h : name ∈ (Path.ofText text).names) :
    IsName name := by
  obtain ⟨piece, member, rfl⟩ := List.mem_map.1 h
  obtain ⟨cut, telling⟩ := List.mem_filter.1 member
  exact ⟨by simpa using not_mem_of_mem_cut cut, by simpa using telling⟩

namespace Path

variable {names : List String}

/-- The characters of names with slashes between them. -/
def joined (names : List String) : List Char :=
  ['/'].intercalate (names.map String.toList)

/-- Names that can stand in a text do not start with a slash when they are joined. -/
theorem head?_joined (proper : ∀ name ∈ names, IsName name) :
    ∀ c, (joined names).head? = some c → c ≠ '/' := by
  intro c head
  cases names with
  | nil => cases head
  | cons name later =>
    have first := proper name List.mem_cons_self
    -- The first name is not empty, because an empty piece is idle and no name.
    cases chars : name.toList with
    | nil =>
      have telling := first.telling
      rw [chars] at telling
      cases telling
    | cons start rest =>
      have startsWith : (joined (name :: later)).head? = some start := by
        cases later <;> simp [joined, chars, List.intercalate_cons_cons]
      rw [startsWith] at head
      obtain rfl := Option.some.inj head
      rintro rfl
      exact first.plain (chars ▸ List.mem_cons_self)

/-- Names that can stand in a text are found again between the slashes. -/
theorem cut_joined (proper : ∀ name ∈ names, IsName name) :
    (Text.cut '/' (joined names)).filter (fun piece => !isIdle piece) =
      names.map String.toList := by
  have kept : ∀ piece ∈ names.map String.toList, (!isIdle piece) = true := by
    simpa using fun name member => (proper name member).telling
  cases names with
  | nil => rfl
  | cons name later =>
    have plain : ∀ piece ∈ (name :: later).map String.toList, '/' ∉ piece := by
      simpa using fun other member => (proper other member).plain
    rw [cut_eq_splitOn, joined, List.splitOn_intercalate '/' plain (by simp),
      List.filter_eq_self.2 kept]

/-- What a path with an anchor and names that can stand in a text is written as, is read back. -/
theorem ofText_slashes (anchor : Anchor) (proper : ∀ name ∈ names, IsName name) :
    ofText (String.ofList (anchor.text.toList ++ joined names)) = ⟨anchor, names⟩ := by
  -- Only the anchor contributes slashes at the start, so `anchorOf` counts those and no more.
  have noSlash : (joined names).takeWhile (· == '/') = [] := by
    cases chars : joined names with
    | nil => rfl
    | cons c rest =>
      exact List.takeWhile_cons_of_neg (by simpa using head?_joined proper c (chars ▸ rfl))
  have read := cut_joined proper
  have empty : isIdle [] = true := rfl
  -- Every slash of the anchor cuts off an empty piece, which says nothing.
  cases anchor with
  | here =>
    simp [ofText, anchorOf, Anchor.text, noSlash, read]
  | root =>
    simp [ofText, anchorOf, Anchor.text, noSlash, Text.cut, empty, read]
  | doubleRoot =>
    simp [ofText, anchorOf, Anchor.text, noSlash, Text.cut, empty, read]

/-- **A path is read back from its text**, if its names can stand in one. -/
theorem ofText_text {path : Path} (proper : ∀ name ∈ path.names, IsName name) :
    ofText path.text = path := by
  rw [text]
  split
  · next here =>
    rw [here]
    decide
  · have chars : path.anchor.text ++ "/".intercalate path.names =
        String.ofList (path.anchor.text.toList ++ joined path.names) := by
      rw [← String.toList_inj]
      simp [joined, String.toList_intercalate]
    rw [chars, ofText_slashes path.anchor proper]

end Path

end Accord.Files
