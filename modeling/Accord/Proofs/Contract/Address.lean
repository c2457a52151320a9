import Accord.Contract.Collection
import Accord.Proofs.Report
import Accord.Proofs.Route
import Accord.Proofs.Url.WebAddress
import Mathlib.Data.List.TakeWhile

/-!
# `Accord.Proofs.Contract.Address`: the path that a web address declares

`pathOf_text` computes the path that a request with an absolute web address for its URL
declares. The loader takes everything up to the first slash for the host. This is the host part
when the path follows it, but a query or a fragment may follow it as well, and then a slash in
there is taken for the start of the path. `HidesPath` is this case, and `declaredPath_eq_iff`
says that the path that is declared is the one in the address in all other cases, and only in
them.
-/

set_option autoImplicit false

namespace Accord

namespace Contract

/-- A path of a collection loses its first slash as a path in a script does. -/
theorem dropSlash_eq (path : List Char) : dropSlash path = Url.dropSlash path :=
  rfl

/-- Every letter may stand behind the first one of a scheme. -/
theorem isSchemeRest_of_isAlpha {c : Char} (h : c.isAlpha = true) : isSchemeRest c = true := by
  simp [isSchemeRest, Char.isAlphanum, h]

/-- A scheme and what follows it up to a slash count as the host. -/
theorem afterHost?_cons {first : Char} {scheme : List Char} (letter : first.isAlpha = true)
    (inside : ∀ c ∈ scheme, isSchemeRest c = true) (host : List Char) :
    afterHost? (first :: (scheme ++ ':' :: '/' :: '/' :: host)) =
      some (host.dropWhile (· != '/')) := by
  have cut : (scheme ++ ':' :: '/' :: '/' :: host).dropWhile isSchemeRest =
      ':' :: '/' :: '/' :: host := by
    rw [List.dropWhile_append_of_pos inside, List.dropWhile_cons_of_neg (by decide)]
  rw [afterHost?, if_pos letter, cut]
  rfl

/-- A scheme may consist of letters only. -/
theorem afterHost?_append {scheme : List Char} (some : scheme ≠ [])
    (letters : ∀ c ∈ scheme, c.isAlpha = true) (host : List Char) :
    afterHost? (scheme ++ ':' :: '/' :: '/' :: host) = Option.some (host.dropWhile (· != '/')) := by
  obtain ⟨first, more, rfl⟩ := List.exists_cons_of_ne_nil some
  exact afterHost?_cons (letters first List.mem_cons_self)
    (fun c member => isSchemeRest_of_isAlpha (letters c (List.mem_cons_of_mem _ member))) host

/-- Segments that are joined have no slash at the start. -/
theorem dropSlash_intercalate {parts : List (List Char)}
    (segments : ∀ part ∈ parts, Route.IsSegment part) :
    dropSlash (['/'].intercalate parts) = ['/'].intercalate parts := by
  cases parts with
  | nil => rfl
  | cons first later =>
    have isSegment := segments first List.mem_cons_self
    obtain ⟨c, rest, rfl⟩ := List.exists_cons_of_ne_nil isSegment.nonempty
    have other : c ≠ '/' := fun slash => isSegment.plain (slash ▸ List.mem_cons_self)
    rw [Route.intercalate_cons, List.cons_append, dropSlash]
    exact fun _ same => other (List.cons.inj same).1

/-- The path of the endpoint of a request is that of its URL. -/
theorem pathOf_of_endpointOf [Json.Nesting] {item : List (String × Json)} {request url : Json}
    {endpoint : ContractEndpoint} (h : (endpointOf item request).outcome = .ok endpoint)
    (hasUrl : member (fullRequest request) "url" = .ok url) : pathOf url = .ok endpoint.path := by
  simp only [endpointOf, Report.bind_eq, Report.outcome_andThen_eq_ok_iff] at h
  obtain ⟨method, -, path, found, body, -, requestBody, -, responseBody, -, last⟩ := h
  rw [hasUrl] at found
  split at last
  · obtain rfl := Except.ok.inj last
    exact found
  · cases last

end Contract

namespace Url.WebAddress

variable (address : WebAddress)

/-- The path in the address, without the slash at its start. -/
def path : List Char :=
  dropSlash (pathOf address.rest)

/-- The path that a request with the address declares: behind the first slash after the scheme. -/
def declaredPath : List Char :=
  dropSlash (pathOf (address.rest.dropWhile (· != '/')))

/-- A query or a fragment right behind the host holds a slash, and after its first slash something
that is taken for a path. -/
def HidesPath : Prop :=
  ∃ query c after, address.rest = query ++ '/' :: c :: after ∧ query ≠ [] ∧ '/' ∉ query ∧
    c ≠ '?' ∧ c ≠ '#'

/-- The path of the whole address is that of the part behind the host, because the characters up to
there are neither slashes nor ends of the host. -/
theorem pathOfUrl_chars :
    Contract.pathOfUrl address.chars = pathOf (address.rest.dropWhile (· != '/')) := by
  have host : (address.authority ++ address.rest).dropWhile (· != '/') =
      address.rest.dropWhile (· != '/') := by
    refine List.dropWhile_append_of_pos fun c member => ?_
    have inside := address.hostEnds c member
    simp only [endsAuthority, Bool.or_eq_false_iff, beq_eq_false_iff_ne] at inside
    simpa using inside.1.1
  rw [Contract.pathOfUrl, Contract.dropHost, chars,
    Contract.afterHost?_append address.scheme_ne_nil fun c member => address.isAlpha_scheme member,
    Option.getD_some, host, pathOf]
  congr 1
  funext c
  exact Bool.and_comm _ _

/-- A request with the address declares a path. -/
theorem pathOf_text :
    Contract.pathOf (.string address.text) = .ok (String.ofList address.declaredPath) := by
  have present : (Json.string address.text).isPresent = true := by
    simp [Json.isPresent, text, chars]
  rw [Contract.pathOf, present, toList_text, pathOfUrl_chars, Contract.dropSlash_eq]
  rfl

/-- An address whose rest does not start with a slash has no path. -/
theorem path_eq_nil (noSlash : address.rest.head? ≠ some '/') : address.path = [] := by
  have none : pathOf address.rest = [] := by
    cases rest : address.rest with
    | nil => rfl
    | cons c later =>
      have starts : endsAuthority c = true := address.restStarts c (by rw [rest]; rfl)
      have other : c ≠ '/' := fun same => noSlash (by rw [rest, same]; rfl)
      refine List.takeWhile_cons_of_neg ?_
      simp only [endsAuthority, Bool.or_eq_true, beq_iff_eq, other, false_or] at starts
      rcases starts with rfl | rfl <;> decide
  rw [path, none]
  rfl

/-- An address whose first slash behind the host stands in a query or a fragment has no path. -/
theorem path_of_slash {query after : List Char} (found : address.rest = query ++ '/' :: after)
    (some : query ≠ []) (noSlash : '/' ∉ query) : address.path = [] := by
  refine address.path_eq_nil fun head => ?_
  obtain ⟨first, more, rfl⟩ := List.exists_cons_of_ne_nil some
  rw [found] at head
  exact noSlash (Option.some.inj head ▸ List.mem_cons_self)

/-- What is declared when a slash in the rest follows something without slashes. -/
theorem declaredPath_of_slash {query after : List Char}
    (found : address.rest = query ++ '/' :: after)
    (noSlash : '/' ∉ query) : address.declaredPath = pathOf after := by
  have inside : ∀ c ∈ query, (c != '/') = true := fun c member => by
    simpa using fun same : c = '/' => noSlash (same ▸ member)
  rw [declaredPath, found, List.dropWhile_append_of_pos inside,
    List.dropWhile_cons_of_neg (by decide), pathOf, List.takeWhile_cons_of_pos (by decide)]
  rfl

/-- The path that is declared is the one in the address, unless a query hides it. -/
theorem declaredPath_eq_iff : address.declaredPath = address.path ↔ ¬address.HidesPath := by
  constructor
  -- With a query in front of the slash the declared path begins where the path has ended.
  · rintro same ⟨query, c, after, found, some, noSlash, noQuery, noFragment⟩
    rw [address.declaredPath_of_slash found noSlash, address.path_of_slash found some noSlash,
      pathOf,
      List.takeWhile_cons_of_pos (by simp [noQuery, noFragment])] at same
    cases same
  · intro shown
    -- Without a slash both are empty; with one, what stands in front of it decides.
    by_cases slash : '/' ∈ address.rest
    · obtain ⟨query, after, found, noSlash⟩ := List.eq_append_cons_of_mem slash
      rw [address.declaredPath_of_slash found noSlash]
      cases query with
      | nil =>
        rw [path, found, List.nil_append, pathOf, pathOf, List.takeWhile_cons_of_pos (by decide)]
        rfl
      | cons first more =>
        rw [address.path_of_slash found (List.cons_ne_nil _ _) noSlash]
        cases after with
        | nil => rfl
        | cons c later =>
          refine List.takeWhile_cons_of_neg fun isPath => shown ?_
          simp only [Bool.and_eq_true, bne_iff_ne] at isPath
          exact ⟨first :: more, c, later, found, List.cons_ne_nil _ _, noSlash, isPath.2, isPath.1⟩
    · have none : address.rest.dropWhile (· != '/') = [] :=
        List.dropWhile_eq_nil_iff.2 fun c member => by
          simpa using fun same : c = '/' => slash (same ▸ member)
      rw [declaredPath, none, address.path_eq_nil fun head => slash (List.mem_of_head? head)]
      rfl

end Url.WebAddress

end Accord
