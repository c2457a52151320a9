import Accord.Proofs.Contract.Address
import Mathlib.Data.List.Forall2

/-!
# `Accord.Proofs.Contract.Spelling`: the spellings of one URL

The URL of a request may be given as one text, as an object with that text, or as an object with
the path alone: segment by segment, or as a text that starts with a slash. A `WholeUrl` is the
text by its parts: what stands for the host, the segments of the path, and what follows the
path.

`dropHost_append` cuts the host off, in both forms that it may have, and `pathOfUrl_chars` what
follows the path. `pathOf_spellings` says that all spellings declare the same path: the segments
with slashes between them.
-/

set_option autoImplicit false

namespace Accord.Contract

/-! ### The parts of a URL -/

/-- What stands for the host of a URL: a scheme with a host part, or a placeholder in doubled
braces. -/
inductive IsHost : List Char → Prop where
  | named {first : Char} {scheme authority : List Char} : first.isAlpha = true →
      (∀ c ∈ scheme, isSchemeRest c = true) → (∀ c ∈ authority, Url.endsAuthority c = false) →
      IsHost (first :: (scheme ++ ':' :: '/' :: '/' :: authority))
  | placeholder {name : List Char} : '}' ∉ name → IsHost ('{' :: '{' :: (name ++ ['}', '}']))

/-- A URL by its parts. -/
structure WholeUrl where
  host : List Char
  segments : List String
  /-- The query and the fragment. -/
  suffix : List Char
  isHost : IsHost host
  isSegment : ∀ segment ∈ segments, Route.IsSegment segment.toList
  withinPath : ∀ segment ∈ segments, '?' ∉ segment.toList ∧ '#' ∉ segment.toList
  endsPath : ∀ c, suffix.head? = some c → c = '?' ∨ c = '#'

/-- A segment of a path, as a text or as an object that holds the text as its value. -/
inductive Spells : Json → String → Prop where
  | text (segment : String) : Spells (.string segment) segment
  | value {members : List (String × Json)} {segment : String} :
      Entries.get? members "value" = some (.string segment) → Spells (.object members) segment

/-! ### The host -/

/-- A host is cut off at the slash behind it. -/
theorem dropHost_append {host : List Char} (h : IsHost host) (path : List Char) :
    dropHost (host ++ '/' :: path) = '/' :: path := by
  rw [dropHost]
  cases h with
  | @named first scheme authority letter inside noEnd =>
    -- No character of the host is a slash, so the first one stands behind it.
    have noSlash : ∀ c ∈ authority, (c != '/') = true := by
      intro c member
      have inside := noEnd c member
      simp only [Url.endsAuthority, Bool.or_eq_false_iff, beq_eq_false_iff_ne] at inside
      simpa using inside.1.1
    have whole : (first :: (scheme ++ ':' :: '/' :: '/' :: authority)) ++ '/' :: path =
        first :: (scheme ++ ':' :: '/' :: '/' :: (authority ++ '/' :: path)) := by simp
    rw [whole, afterHost?_cons letter inside, Option.getD_some,
      List.dropWhile_append_of_pos noSlash, List.dropWhile_cons_of_neg (by decide)]
  | @placeholder name noBrace =>
    have inside : ∀ c ∈ name, (c != '}') = true := fun c member => by
      simpa using fun same : c = '}' => noBrace (same ▸ member)
    have cut : (name ++ '}' :: '}' :: '/' :: path).dropWhile (· != '}') =
        '}' :: '}' :: '/' :: path := by
      rw [List.dropWhile_append_of_pos inside, List.dropWhile_cons_of_neg (by decide)]
    have whole : ('{' :: '{' :: (name ++ ['}', '}'])) ++ '/' :: path =
        '{' :: '{' :: (name ++ '}' :: '}' :: '/' :: path) := by simp
    -- A brace begins no scheme, so the rule about placeholders is tried.
    have noScheme : ∀ rest, afterHost? ('{' :: rest) = none := fun _ => rfl
    rw [whole, noScheme, Option.getD_none, afterPlaceholder?]
    simp only [cut, Option.getD_some]

namespace WholeUrl

variable (url : WholeUrl)

/-- The path: the segments with slashes between them. -/
def path : String :=
  "/".intercalate url.segments

/-- The characters of the URL. -/
def chars : List Char :=
  url.host ++ '/' :: (url.path.toList ++ url.suffix)

/-- The URL as one text. -/
def text : String :=
  String.ofList url.chars

/-! ### The path -/

/-- The characters of the path are those of its segments with a slash between any two. -/
theorem toList_path : url.path.toList = ['/'].intercalate (url.segments.map String.toList) :=
  String.toList_intercalate

/-- The path has no slash at the start. -/
theorem dropSlash_path : dropSlash url.path.toList = url.path.toList := by
  rw [toList_path]
  exact dropSlash_intercalate (List.forall_mem_map.2 url.isSegment)

/-- Nothing in the path ends it. -/
theorem not_mem_path {c : Char} (ends : c = '?' ∨ c = '#') : c ∉ url.path.toList := by
  have other : c ≠ '/' := by rcases ends with rfl | rfl <;> decide
  have inside : ∀ segment ∈ url.segments, c ∉ segment.toList := by
    intro segment member
    rcases ends with rfl | rfl
    · exact (url.withinPath segment member).1
    · exact (url.withinPath segment member).2
  rw [toList_path]
  cases segments : url.segments with
  | nil => exact List.not_mem_nil
  | cons first later =>
    rw [segments] at inside
    obtain ⟨inFirst, inLater⟩ := List.forall_mem_cons.1 inside
    rw [List.map_cons, Route.intercalate_cons, Route.slashed]
    simpa [inFirst, other] using inLater

/-- The path of the whole URL is its own, with a slash at the start. -/
theorem pathOfUrl_chars : pathOfUrl url.chars = '/' :: url.path.toList := by
  have inside : ∀ c ∈ url.path.toList, (c != '?' && c != '#') = true := by
    intro c member
    have noQuery : c ≠ '?' := fun same => url.not_mem_path (.inl same) member
    have noFragment : c ≠ '#' := fun same => url.not_mem_path (.inr same) member
    simp [noQuery, noFragment]
  have outside : url.suffix.takeWhile (fun c => c != '?' && c != '#') = [] := by
    cases suffix : url.suffix with
    | nil => rfl
    | cons c rest =>
      refine List.takeWhile_cons_of_neg ?_
      rcases url.endsPath c (by rw [suffix]; rfl) with rfl | rfl <;> decide
  rw [pathOfUrl, chars, dropHost_append url.isHost, List.takeWhile_cons_of_pos (by decide),
    List.takeWhile_append_of_pos inside, outside, List.append_nil]

end WholeUrl

/-! ### Objects -/

/-- An object with a member is no absent URL: its path is what the members say. -/
theorem pathOf_object {members : List (String × Json)} {name : String} {value : Json}
    (h : Entries.get? members name = some value) :
    pathOf (.object members) =
      (pathOfMembers members).map fun path => String.ofList (dropSlash path) := by
  cases members with
  | nil => cases h
  | cons => rfl

/-- A value that spells a segment is read as that segment. -/
theorem segmentText_of_spells {value : Json} {segment : String} (h : Spells value segment)
    (nonempty : segment ≠ "") : segmentText value = segment := by
  cases h with
  | text => rfl
  | value held =>
    have present : (Json.string segment).isPresent = true := by
      simpa [Json.isPresent] using nonempty
    rw [segmentText, held]
    simp only [present, if_true]
    rfl

/-- Segments that are spelled one by one are the segments. -/
theorem map_segmentText {values : List Json} {segments : List String}
    (h : List.Forall₂ Spells values segments) (nonempty : ∀ segment ∈ segments, segment ≠ "") :
    values.map segmentText = segments := by
  induction h with
  | nil => rfl
  | cons spells _ ih =>
    obtain ⟨first, others⟩ := List.forall_mem_cons.1 nonempty
    rw [List.map_cons, segmentText_of_spells spells first, ih others]

/-- **All spellings of a URL declare the same path**: the URL as one text, an object with that
text and without a path, an object with the segments, each of them a text or an object with a
value, and an object with the path as a text behind a slash. -/
theorem pathOf_spellings (url : WholeUrl) :
    pathOf (.string url.text) = .ok url.path ∧
    (∀ members, Entries.get? members "path" = none →
      Entries.get? members "raw" = some (.string url.text) →
      pathOf (.object members) = .ok url.path) ∧
    (∀ members values, Entries.get? members "path" = some (.array values) →
      List.Forall₂ Spells values url.segments → pathOf (.object members) = .ok url.path) ∧
    ∀ members, Entries.get? members "path" = some (.string ("/" ++ url.path)) →
      pathOf (.object members) = .ok url.path := by
  -- The whole URL is read in two of the spellings.
  have whole : String.ofList (dropSlash (pathOfUrl url.text.toList)) = url.path := by
    rw [WholeUrl.text, String.toList_ofList, url.pathOfUrl_chars]
    exact String.ofList_toList
  refine ⟨?text, fun members noPath hasRaw => ?raw, fun members values hasPath spelled => ?segments,
    fun members hasPath => ?path⟩
  case text =>
    have present : (Json.string url.text).isPresent = true := by
      simp [Json.isPresent, WholeUrl.text, WholeUrl.chars]
    rw [pathOf, present]
    exact congrArg Except.ok whole
  case raw =>
    rw [pathOf_object hasRaw, pathOfMembers, noPath, hasRaw]
    exact congrArg Except.ok whole
  case segments =>
    have nonempty : ∀ segment ∈ url.segments, segment ≠ "" := by
      rintro _ member rfl
      exact (url.isSegment _ member).nonempty rfl
    rw [pathOf_object hasPath, pathOfMembers, hasPath]
    simp only [map_segmentText spelled nonempty]
    exact congrArg Except.ok
      ((congrArg String.ofList url.dropSlash_path).trans String.ofList_toList)
  case path =>
    have behindSlash : ("/" ++ url.path).toList = '/' :: url.path.toList := by
      rw [String.toList_append]
      rfl
    rw [pathOf_object hasPath, pathOfMembers, hasPath]
    simp only [behindSlash]
    exact congrArg Except.ok String.ofList_toList

/-- The URL of a user, behind a placeholder and with a query that looks like a path. -/
def userUrl : WholeUrl where
  host := '{' :: '{' :: ("base".toList ++ ['}', '}'])
  segments := ["users", ":id"]
  suffix := "?next=/login".toList
  isHost := .placeholder (by decide)
  isSegment := List.forall_mem_cons.2 ⟨⟨by decide, by decide⟩,
    List.forall_mem_singleton.2 ⟨by decide, by decide⟩⟩
  withinPath := by decide
  endsPath := by simp

/-- Its four spellings. -/
theorem pathOf_userUrl :
    pathOf (.string userUrl.text) = .ok "users/:id" ∧
    pathOf (.object [("query", .array []), ("raw", .string userUrl.text)]) = .ok "users/:id" ∧
    pathOf (.object [("path", .array [.string "users",
      .object [("type", .string "any"), ("value", .string ":id")]])]) = .ok "users/:id" ∧
    pathOf (.object [("path", .string "/users/:id")]) = .ok "users/:id" := by
  have path : userUrl.path = "users/:id" := by decide
  obtain ⟨text, raw, segments, slashed⟩ := pathOf_spellings userUrl
  rw [path] at text raw segments slashed
  refine ⟨text, raw _ rfl rfl, segments _ _ rfl ?_, slashed _ rfl⟩
  exact .cons (.text "users") (.cons (.value rfl) .nil)

end Accord.Contract
