import Accord.Proofs.Text
import Accord.Url
import Mathlib.Data.List.TakeDrop

/-!
# `Accord.Proofs.Url`: what a call with a URL reaches

A URL that starts with a slash has no scheme, and so it is no web address, whatever follows the
slash. It reaches its own path behind the base path, if its host part is accepted. It has a host
part only when a second slash follows the first one.

`readChars_readChars` says that what is read of a URL is read as it is, so `split` depends on
the `readChars` of a URL alone.

The path of an absolute web address is shorter than the address: scheme and colon are not part
of it (`length_of_split`). So the path is never the address itself (`dropSlash_path_ne`).
-/

set_option autoImplicit false

namespace Accord.Url

/-! ### The characters that are read -/

/-- The characters dropped anywhere are among those dropped at the start. -/
theorem isLeading_of_isDropped {c : Char} (h : isDropped c = true) : isLeading c = true := by
  simp only [isDropped, Bool.or_eq_true, beq_iff_eq] at h
  rcases h with (rfl | rfl) | rfl <;> decide

/-- A character that may stand at the start of a URL is read, and the text behind it loses only the
dropped characters. -/
theorem readChars_cons {c : Char} (h : isLeading c = false) (rest : List Char) :
    readChars (c :: rest) = c :: rest.filter fun c => !isDropped c := by
  have kept : isDropped c = false :=
    Bool.eq_false_iff.2 fun dropped => by simp [isLeading_of_isDropped dropped] at h
  rw [readChars, List.dropWhile_cons_of_neg (by simp [h]), List.filter_cons_of_pos (by simp [kept])]

/-- What is read of a URL is read as it is. -/
theorem readChars_readChars (url : List Char) : readChars (readChars url) = readChars url := by
  cases chars : url.dropWhile isLeading with
  | nil => simp [readChars, chars]
  | cons c rest =>
    have head : (url.dropWhile isLeading).head? = some c := by rw [chars]; rfl
    have starts : isLeading c = false := Text.not_of_head?_dropWhile head
    have read : readChars url = readChars (c :: rest) := by
      rw [readChars, readChars, chars, List.dropWhile_cons_of_neg (by simp [starts])]
    rw [read, readChars_cons starts, readChars_cons starts, List.filter_filter]
    simp only [Bool.and_self]

/-- What is read of a URL is no longer than the URL. -/
theorem length_readChars_le (url : List Char) : (readChars url).length ≤ url.length :=
  (List.length_filter_le _ _).trans (List.dropWhile_suffix _).length_le

/-! ### URLs that start with a slash -/

/-- A URL that starts with a slash has no scheme. -/
theorem splitScheme_slash (rest : List Char) : splitScheme ('/' :: rest) = ([], '/' :: rest) := by
  rw [splitScheme, List.span_eq_takeWhile_dropWhile, List.takeWhile_cons_of_pos (by decide)]
  split
  · next found =>
    obtain rfl := (List.cons.inj (Prod.mk.inj found).1).1
    rfl
  · rfl

/-- A URL that starts with a slash is no web address. -/
theorem isWebAddress_of_split_slash {rest : List Char} {url : Url}
    (h : split ('/' :: rest) = some url) : url.isWebAddress = false := by
  rw [split, readChars_cons (by decide), splitScheme_slash] at h
  simp only at h
  split at h
  · obtain rfl := Option.some.inj h
    rfl
  · cases h

/-- A URL that starts with a slash reaches itself behind the base path, unless it is refused. -/
theorem resolve_slash {url : String} {rest : List Char} (h : url.toList = '/' :: rest)
    (basePath : String) :
    resolve url basePath =
      if (split url.toList).isSome then
        some (String.ofList (dropSlash (basePath.toList ++ url.toList)))
      else none := by
  rw [resolve]
  cases parts : split url.toList with
  | none => rfl
  | some found =>
    have relative : found.isWebAddress = false := isWebAddress_of_split_slash (h ▸ parts)
    rw [Option.map_some, relative]
    rfl

/-- A URL whose one slash at the start is followed by something else has no host part. -/
theorem split_slash_isSome {rest : List Char}
    (h : ∀ c, rest.head? = some c → c ≠ '/' ∧ isDropped c = false) :
    (split ('/' :: rest)).isSome = true := by
  rw [split, readChars_cons (by decide), splitScheme_slash]
  cases rest with
  | nil => rfl
  | cons c rest =>
    obtain ⟨other, kept⟩ := h c rfl
    -- Two slashes would open a host; the second character is none.
    have noHost : ∀ more, splitAuthority ('/' :: c :: more) = ([], '/' :: c :: more) := by
      intro more
      rw [splitAuthority]
      rintro _ same
      exact other (List.cons.inj (List.cons.inj same).2).1
    rw [List.filter_cons_of_pos (by simp [kept])]
    simp only [noHost]
    rfl

/-! ### Absolute addresses -/

/-- A URL is an absolute web address that is not refused. -/
def IsAbsolute (url : List Char) : Prop :=
  ∃ parts, split url = some parts ∧ parts.isWebAddress = true

/-- What begins with a slash is no absolute address, since it has no scheme. -/
theorem not_isAbsolute_slash (rest : List Char) : ¬IsAbsolute ('/' :: rest) := by
  rintro ⟨parts, found, isWeb⟩
  rw [isWebAddress_of_split_slash found] at isWeb
  cases isWeb

/-- A scheme that is cut off stands before a colon. -/
theorem splitScheme_of_ne_nil {url : List Char} (h : (splitScheme url).1 ≠ []) :
    ∃ scheme, url = scheme ++ ':' :: (splitScheme url).2 ∧
      (splitScheme url).1 = scheme.map Char.toLower := by
  rcases cut : url.span (· != ':') with ⟨before, after⟩
  have whole : before ++ after = url := by
    rw [List.span_eq_takeWhile_dropWhile] at cut
    obtain ⟨rfl, rfl⟩ := Prod.mk.inj cut
    exact List.takeWhile_append_dropWhile
  rw [splitScheme, cut] at h ⊢
  split at h
  · next first more rest same =>
    obtain ⟨rfl, rfl⟩ := Prod.mk.inj same
    split at h
    · next accepted =>
      simp only [accepted, if_true]
      -- What stands before the colon is the scheme up to the case of its letters.
      exact ⟨first :: more, whole.symm, rfl⟩
    · exact absurd rfl h
  · exact absurd rfl h

/-- The parts of a URL, stage by stage. -/
theorem split_eq (url : List Char) :
    split url =
      let cut := splitScheme (readChars url)
      let host := splitAuthority cut.2
      if acceptsAuthority host.1 then some ⟨cut.1, host.1, pathOf host.2⟩ else none :=
  rfl

/-- What stands behind the host is not longer than the whole. -/
theorem length_splitAuthority (url : List Char) : (splitAuthority url).2.length ≤ url.length := by
  unfold splitAuthority
  split
  · next rest =>
    have shorter : (rest.dropWhile fun c => !endsAuthority c).length ≤ rest.length :=
      (List.dropWhile_suffix _).length_le
    rw [List.span_eq_takeWhile_dropWhile]
    simp only [List.length_cons]
    omega
  · exact Nat.le_refl _

/-- Scheme and path are not the whole of a URL with a scheme: the colon is in neither. -/
theorem length_of_split {url : List Char} {parts : Url} (h : split url = some parts)
    (hasScheme : parts.scheme ≠ []) : parts.path.length + parts.scheme.length < url.length := by
  simp only [split_eq] at h
  split at h
  · obtain rfl := Option.some.inj h
    obtain ⟨scheme, whole, lower⟩ := splitScheme_of_ne_nil hasScheme
    have kept := length_readChars_le url
    have host := length_splitAuthority (splitScheme (readChars url)).2
    have path := (List.takeWhile_prefix (fun c => c != '#' && c != '?') (l :=
      (splitAuthority (splitScheme (readChars url)).2).2)).length_le
    have length := congrArg List.length whole
    simp only [lower, pathOf, List.length_map, List.length_append, List.length_cons] at length ⊢
    -- The colon is one character more than scheme and path can account for.
    omega
  · cases h

/-- One slash is dropped at most. -/
theorem length_dropSlash (path : List Char) :
    (dropSlash path).length ≤ path.length ∧ path.length ≤ (dropSlash path).length + 1 := by
  unfold dropSlash
  split <;> simp

/-- The path of an absolute address is not the address, also without slashes at their starts. -/
theorem dropSlash_path_ne {url : List Char} {parts : Url} (h : split url = some parts)
    (isWeb : parts.isWebAddress = true) : dropSlash parts.path ≠ dropSlash url := by
  have scheme : 4 ≤ parts.scheme.length := by
    simp only [isWebAddress, Bool.and_eq_true, Bool.or_eq_true, beq_iff_eq] at isWeb
    rcases isWeb.1 with same | same <;> rw [same] <;> decide
  have shorter := length_of_split h (List.ne_nil_of_length_pos (by omega))
  have path := (length_dropSlash parts.path).1
  have whole := (length_dropSlash url).2
  intro same
  rw [same] at path
  omega

end Accord.Url
