import Accord.Proofs.Route
import Accord.Url

/-!
# `Accord.Proofs.Route.Segment`: one route, written in a contract and in code

A route is a list of segments, each of them fixed or a parameter. A contract declares a
parameter as a colon and its name (`Segment.declared`). In code a parameter is a slot of a
template, of which nothing is left in the literal text (`Segment.erased`), so that the slashes
around it stand side by side.

`pieces_declaredPath` and `pieces_erasedPath` compute what the normal form keeps of either way
of writing. Both keep the fixed segments in order; the declared way also keeps a parameter at
the front, of which the other has no trace. `normalize_declared_eq_erased_iff` is the
conclusion.

`routeItems` is what a template in code writes for a route, slots included, and
`filterMap_routeItems` says that the erased path is what its literal text comes down to.
-/

set_option autoImplicit false

namespace Accord.Route

/-- The text of a segment that is no parameter. It has no colon in front, and no tab or line end,
which a URL would lose. -/
structure IsFixed (text : List Char) : Prop extends IsSegment text where
  unmarked : text.head? ≠ some ':'
  kept : ∀ c ∈ text, Url.isDropped c = false

/-- A segment of a route. -/
inductive Segment where
  | fixed (text : List Char) (isFixed : IsFixed text)
  | parameter (name : List Char) (isName : IsSegment name)

namespace Segment

/-- A segment as a contract declares it. -/
def declared : Segment → List Char
  | .fixed text _ => text
  | .parameter name _ => ':' :: name

/-- What is left of a segment in the literal text of a call. -/
def erased : Segment → List Char
  | .fixed text _ => text
  | .parameter _ _ => []

/-- The text of a fixed segment. -/
def text? : Segment → Option (List Char)
  | .fixed text _ => some text
  | .parameter _ _ => none

/-- What a segment is declared as is a segment of a path. -/
theorem isSegment_declared (segment : Segment) : IsSegment segment.declared := by
  cases segment with
  | fixed text isFixed => exact isFixed.toIsSegment
  | parameter name isName =>
    refine ⟨by simp [declared], ?_⟩
    simpa [declared] using isName.plain

/-- No slash is left of a segment in code. -/
theorem not_mem_erased (segment : Segment) : '/' ∉ segment.erased := by
  cases segment with
  | fixed text isFixed => exact isFixed.plain
  | parameter => exact List.not_mem_nil

/-- A fixed segment is no parameter. -/
theorem isParameter_of_isFixed {text : List Char} (h : IsFixed text) :
    isParameter text = false := by
  unfold isParameter
  split
  · exact absurd rfl h.unmarked
  · rfl

/-- A name behind a colon is a parameter. -/
theorem isParameter_marked {name : List Char} (h : IsSegment name) :
    isParameter (':' :: name) = true := by
  cases name with
  | nil => exact absurd rfl h.nonempty
  | cons => rfl

end Segment

open Segment

/-- The texts of the fixed segments of a route. -/
def fixedTexts (segments : List Segment) : List (List Char) :=
  segments.filterMap text?

/-- A fixed segment gives its text. -/
@[simp]
theorem fixedTexts_fixed (text : List Char) (isFixed : IsFixed text) (later : List Segment) :
    fixedTexts (.fixed text isFixed :: later) = text :: fixedTexts later :=
  rfl

/-- A parameter gives none. -/
@[simp]
theorem fixedTexts_parameter (name : List Char) (isName : IsSegment name) (later : List Segment) :
    fixedTexts (.parameter name isName :: later) = fixedTexts later :=
  rfl

/-- The texts that are left are fixed. -/
theorem isFixed_of_mem_fixedTexts {segments : List Segment} {text : List Char}
    (h : text ∈ fixedTexts segments) : IsFixed text := by
  obtain ⟨segment, _, found⟩ := List.mem_filterMap.1 h
  cases segment with
  | fixed other isFixed =>
    obtain rfl : other = text := Option.some.inj found
    exact isFixed
  | parameter => cases found

/-- Of the declared segments, those that are no parameters are the fixed ones. -/
theorem filter_declared (segments : List Segment) :
    (segments.map declared).filter (fun segment => !isParameter segment) =
      fixedTexts segments := by
  induction segments with
  | nil => rfl
  | cons first later ih =>
    rw [List.map_cons, List.filter_cons, ih]
    cases first with
    | fixed text isFixed => simp [declared, isParameter_of_isFixed isFixed]
    | parameter name isName => simp [declared, isParameter_marked isName]

/-- Of the segments in code, those that are not empty are the fixed ones. -/
theorem filter_erased (segments : List Segment) :
    (segments.map erased).filter (fun part => !part.isEmpty) = fixedTexts segments := by
  induction segments with
  | nil => rfl
  | cons first later ih =>
    rw [List.map_cons, List.filter_cons, ih]
    cases first with
    | fixed text isFixed => simp [erased, isFixed.nonempty]
    | parameter => simp [erased]

/-! ### Paths -/

/-- The path that a contract declares for a route. -/
def declaredPath (segments : List Segment) : List Char :=
  ['/'].intercalate (segments.map declared)

/-- The path that remains of a route in code. -/
def erasedPath (segments : List Segment) : List Char :=
  ['/'].intercalate (segments.map erased)

/-- No declared segment is empty, so all of them are segments of the path. Then the parameters among
the later ones go. -/
theorem pieces_declaredPath (first : Segment) (later : List Segment) :
    pieces (declaredPath (first :: later)) = first.declared :: fixedTexts later := by
  have plain : ∀ part ∈ (first :: later).map declared, '/' ∉ part := by
    intro part member
    obtain ⟨segment, _, rfl⟩ := List.mem_map.1 member
    exact (isSegment_declared segment).plain
  -- A declared parameter has its colon at least, and a fixed segment is not empty.
  have nonempty : ((first :: later).map declared).filter (fun part => !part.isEmpty) =
      (first :: later).map declared := by
    rw [List.filter_eq_self]
    intro part member
    obtain ⟨segment, _, rfl⟩ := List.mem_map.1 member
    simpa using (isSegment_declared segment).nonempty
  rw [declaredPath, pieces, segmentsFrom_intercalate plain, nonempty, List.map_cons]
  show first.declared :: _ = _
  rw [filter_declared]

/-- The parameters go when the path is cut into segments. No fixed segment looks like a
parameter, so there is nothing left to drop. -/
theorem pieces_erasedPath (segments : List Segment) :
    pieces (erasedPath segments) = fixedTexts segments := by
  have plain : ∀ part ∈ segments.map erased, '/' ∉ part := by
    intro part member
    obtain ⟨segment, _, rfl⟩ := List.mem_map.1 member
    exact not_mem_erased segment
  rw [erasedPath, pieces, segmentsFrom_intercalate plain, filter_erased]
  cases texts : fixedTexts segments with
  | nil => rfl
  | cons first later =>
    show first :: _ = _
    rw [List.filter_eq_self.2]
    intro text member
    have isFixed : IsFixed text :=
      isFixed_of_mem_fixedTexts (texts ▸ List.mem_cons_of_mem _ member)
    rw [isParameter_of_isFixed isFixed]
    rfl

/-- A route without segments, or with a fixed segment at its front. -/
def StartsFixed : List Segment → Prop
  | [] | .fixed _ _ :: _ => True
  | .parameter _ _ :: _ => False

/-- The two ways of writing a route have one normal form unless a parameter stands at the front. -/
theorem normalize_declared_eq_erased_iff (segments : List Segment) :
    normalize (String.ofList (declaredPath segments)) =
        normalize (String.ofList (erasedPath segments)) ↔
      StartsFixed segments := by
  rw [normalize_eq_iff, String.toList_ofList, String.toList_ofList, pieces_erasedPath]
  cases segments with
  | nil => exact iff_of_true rfl trivial
  | cons first later =>
    rw [pieces_declaredPath]
    cases first with
    | fixed text isFixed => exact iff_of_true rfl trivial
    | parameter name isName =>
      -- The colon at the front of the one normal form is at the front of no fixed segment.
      refine iff_of_false (fun same => ?_) id
      have front : (':' :: name) ∈ fixedTexts (.parameter name isName :: later) :=
        same ▸ List.mem_cons_self
      exact (isFixed_of_mem_fixedTexts front).unmarked rfl

/-- What remains of a route with a fixed segment at its front starts with none of the characters
that would give a URL a host part. -/
theorem head?_erasedPath {segments : List Segment} (h : StartsFixed segments) (c : Char)
    (front : (erasedPath segments).head? = some c) : c ≠ '/' ∧ Url.isDropped c = false := by
  cases segments with
  | nil => cases front
  | cons first later =>
    cases first with
    | parameter => exact h.elim
    | fixed text isFixed =>
      have member : c ∈ text := by
        rw [erasedPath, List.map_cons, intercalate_cons, erased] at front
        cases text with
        | nil => exact absurd rfl isFixed.nonempty
        | cons d text =>
          obtain rfl : d = c := Option.some.inj front
          exact List.mem_cons_self
      exact ⟨fun slash => isFixed.plain (slash ▸ member), isFixed.kept c member⟩

/-! ### Templates -/

/-- What a template writes for a segment: its characters, or a slot. -/
def Segment.items : Segment → List (Option Char)
  | .fixed text _ => text.map some
  | .parameter _ _ => [none]

/-- What a template writes for a route: a slash, and the segments with slashes between them. -/
def routeItems (segments : List Segment) : List (Option Char) :=
  some '/' :: [some '/'].intercalate (segments.map Segment.items)

/-- Leaving out the placeholders of a segment is erasing it. -/
theorem filterMap_items (segment : Segment) : segment.items.filterMap id = segment.erased := by
  cases segment with
  | fixed text isFixed => simp [items, erased]
  | parameter => rfl

/-- Without its slots, the template of a route is a slash and what remains of the route. -/
theorem filterMap_routeItems (segments : List Segment) :
    (routeItems segments).filterMap id = '/' :: erasedPath segments := by
  -- Slashes stay and slots go, segment by segment; the induction follows the slashes between them.
  have inside : ([some '/'].intercalate (segments.map Segment.items)).filterMap id =
      erasedPath segments := by
    rw [erasedPath]
    induction segments with
    | nil => rfl
    | cons first later ih =>
      cases later with
      | nil => simpa using filterMap_items first
      | cons second later =>
        simp only [List.map_cons] at ih ⊢
        rw [List.intercalate_cons_cons, List.intercalate_cons_cons, List.filterMap_append,
          List.filterMap_append, filterMap_items, ih]
        rfl
  rw [routeItems, List.filterMap_cons, inside]
  rfl

end Accord.Route
