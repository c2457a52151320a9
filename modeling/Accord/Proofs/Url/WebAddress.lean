import Accord.Proofs.Url

/-!
# `Accord.Proofs.Url.WebAddress`: the parts of an absolute web address

A `WebAddress` is an address by its parts: scheme, host part and rest. `split_text` says that
the text of the parts is cut into the same parts, and `resolve_text` that a call with the
address reaches the path in its rest, whatever the base path, unless the host part is refused.

The letters of the scheme may be capitals. The rest starts with the slash of the path, with a
query or with a fragment, or is empty, so the host part ends where it starts.
-/

set_option autoImplicit false

namespace Accord

namespace Url

/-! ### The parts -/

/-- An absolute web address by its parts. -/
structure WebAddress where
  scheme : List Char
  authority : List Char
  /-- The path, the query and the fragment. -/
  rest : List Char
  isWeb : scheme.map Char.toLower = "http".toList ∨ scheme.map Char.toLower = "https".toList
  hasHost : authority ≠ []
  hostEnds : ∀ c ∈ authority, endsAuthority c = false
  restStarts : ∀ c, rest.head? = some c → endsAuthority c = true
  plain : ∀ c ∈ authority ++ rest, isDropped c = false

namespace WebAddress

variable (address : WebAddress)

/-- The characters of the address. -/
def chars : List Char :=
  address.scheme ++ ':' :: '/' :: '/' :: (address.authority ++ address.rest)

/-- The text of the address. -/
def text : String :=
  String.ofList address.chars

/-- The characters of the text are those of the address. -/
@[simp]
theorem toList_text : address.text.toList = address.chars :=
  String.toList_ofList

/-- A scheme consists of letters. -/
theorem isAlpha_scheme {c : Char} (h : c ∈ address.scheme) : c.isAlpha = true := by
  have letters : ∀ letter ∈ address.scheme.map Char.toLower, letter.isAlpha = true := by
    rcases address.isWeb with same | same <;> rw [same] <;> simp
  exact Text.isAlpha_of_toLower (letters _ (List.mem_map_of_mem h))

/-- The scheme is not empty. -/
theorem scheme_ne_nil : address.scheme ≠ [] := by
  intro empty
  rcases address.isWeb with same | same <;> simp [empty] at same

end WebAddress

/-- Every letter may stand in a scheme. -/
theorem isSchemeChar_of_isAlpha {c : Char} (h : c.isAlpha = true) : isSchemeChar c = true := by
  simp [isSchemeChar, Char.isAlphanum, h]

/-- A letter is no character that is none. -/
theorem ne_of_isAlpha {c : Char} (other : Char) (h : c.isAlpha = true)
    (h' : other.isAlpha = false) :
    c ≠ other := by
  rintro rfl
  rw [h] at h'
  cases h'

/-- A letter may stand at the start of a URL. -/
theorem isLeading_of_isAlpha {c : Char} (h : c.isAlpha = true) : isLeading c = false := by
  have code := (Text.toNat_of_isAlpha h).1
  simp only [isLeading, decide_eq_false_iff_not]
  omega

/-- A letter is not dropped. -/
theorem isDropped_of_isAlpha {c : Char} (h : c.isAlpha = true) : isDropped c = false :=
  Bool.eq_false_iff.2 fun dropped => by
    simpa [isLeading_of_isAlpha h] using isLeading_of_isDropped dropped

/-- A scheme of letters is cut off at its colon. -/
theorem splitScheme_append {scheme : List Char} (some : scheme ≠ [])
    (letters : ∀ c ∈ scheme, c.isAlpha = true) (rest : List Char) :
    splitScheme (scheme ++ ':' :: rest) = (scheme.map Char.toLower, rest) := by
  have cut : (scheme ++ ':' :: rest).span (· != ':') = (scheme, ':' :: rest) := by
    refine Text.span_run (fun c member => ?_) (fun c head => ?_)
    · simpa using ne_of_isAlpha _ (letters c member) (by decide)
    · obtain rfl := Option.some.inj head
      decide
  obtain ⟨first, more, rfl⟩ := List.exists_cons_of_ne_nil some
  have all : (first :: more).all isSchemeChar = true :=
    List.all_eq_true.2 fun c member => isSchemeChar_of_isAlpha (letters c member)
  rw [splitScheme, cut]
  simp only [letters first List.mem_cons_self, all, Bool.and_self, if_true]

namespace WebAddress

variable (address : WebAddress)

/-- An address is read as it is: it starts with a letter, and none of its characters is dropped. -/
theorem readChars_chars : readChars address.chars = address.chars := by
  have all : (address.chars.filter fun c => !isDropped c) = address.chars := by
    rw [List.filter_eq_self]
    intro c member
    rcases List.mem_append.1 member with letter | later
    · simp [isDropped_of_isAlpha (address.isAlpha_scheme letter)]
    · simp only [List.mem_cons] at later
      rcases later with rfl | rfl | rfl | later
      · decide
      · decide
      · decide
      · simp [address.plain c later]
  obtain ⟨first, more, scheme⟩ := List.exists_cons_of_ne_nil address.scheme_ne_nil
  have letter : first.isAlpha = true := address.isAlpha_scheme (scheme ▸ List.mem_cons_self)
  -- The first character is a letter of the scheme, so the strip at the front takes nothing.
  have starts : address.chars.dropWhile isLeading = address.chars := by
    rw [chars, scheme, List.cons_append]
    exact List.dropWhile_cons_of_neg (by simp [isLeading_of_isAlpha letter])
  rw [readChars, starts, all]

/-- The text behind the scheme is cut where the host part ends. -/
theorem splitAuthority_rest :
    splitAuthority ('/' :: '/' :: (address.authority ++ address.rest)) =
      (address.authority, address.rest) := by
  rw [splitAuthority]
  refine Text.span_run (fun c member => ?_) (fun c head => ?_)
  · simp [address.hostEnds c member]
  · simp [address.restStarts c head]

/-- The text of an address is cut into its parts, unless its host part is refused. -/
theorem split_chars :
    split address.chars =
      if acceptsAuthority address.authority then
        some ⟨address.scheme.map Char.toLower, address.authority, pathOf address.rest⟩
      else none := by
  rw [split, address.readChars_chars, chars,
    splitScheme_append address.scheme_ne_nil fun c member => address.isAlpha_scheme member]
  simp only [splitAuthority_rest]

/-- What is cut out of the text of an address is a web address with the path in its rest. -/
theorem isWebAddress_of_split {parts : Url} (h : split address.chars = some parts) :
    parts.isWebAddress = true ∧ parts.path = pathOf address.rest := by
  rw [split_chars] at h
  split at h
  · obtain rfl := Option.some.inj h
    have host : address.authority.isEmpty = false := by simpa using address.hasHost
    refine ⟨?_, rfl⟩
    rcases address.isWeb with same | same <;> simp [isWebAddress, same, host]
  · cases h

/-- A call with an address reaches the path in its rest, behind every base path. -/
theorem resolve_text (accepted : (split address.chars).isSome = true) (basePath : String) :
    resolve address.text basePath = some (String.ofList (dropSlash (pathOf address.rest))) := by
  obtain ⟨parts, found⟩ := Option.isSome_iff_exists.1 accepted
  obtain ⟨isWeb, path⟩ := address.isWebAddress_of_split found
  rw [resolve, toList_text, found, Option.map_some, if_pos isWeb, path]

end WebAddress

end Url

end Accord
