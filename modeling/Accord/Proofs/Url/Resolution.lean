import Accord.Proofs.Url.WebAddress

/-!
# `Accord.Proofs.Url.Resolution`: what the path of a call depends on

`HasWebHost` says of the characters of a URL that a host follows the scheme `http` or `https`.
`isWebAddress_iff` says that the parts of a URL are those of a web address exactly then.

So there are two ways to a path, and `resolve_reads_path` has both. Of an address with a host
the path is all that counts: neither the base path nor the host, the query or the fragment can
be told from it. Every other URL that is not refused counts as it is written, behind the base
path.
-/

set_option autoImplicit false

namespace Accord.Url

/-! ### Which URLs have a host -/

/-- The letters `http` or `https`, some of them capitals. -/
def IsWebScheme (scheme : List Char) : Prop :=
  scheme.map Char.toLower = "http".toList ∨ scheme.map Char.toLower = "https".toList

/-- A URL names a host: the characters that are read start with a web scheme, a colon, two
slashes and a character that does not end the host part at once. -/
def HasWebHost (url : List Char) : Prop :=
  ∃ scheme first rest, IsWebScheme scheme ∧ endsAuthority first = false ∧
    readChars url = scheme ++ ':' :: '/' :: '/' :: first :: rest

/-- Only the characters that are read have a say. -/
theorem split_readChars (url : List Char) : split (readChars url) = split url := by
  rw [split_eq, split_eq, readChars_readChars]

/-- A host part that is not empty stands behind two slashes. -/
theorem splitAuthority_of_ne_nil {url : List Char} (h : (splitAuthority url).1 ≠ []) :
    ∃ first rest, url = '/' :: '/' :: first :: rest ∧ endsAuthority first = false := by
  unfold splitAuthority at h
  split at h
  · next rest =>
    rw [List.span_eq_takeWhile_dropWhile] at h
    cases rest with
    | nil => exact absurd rfl h
    | cons first rest =>
      refine ⟨first, rest, rfl, ?_⟩
      cases ends : endsAuthority first with
      | false => rfl
      | true => simp [ends] at h
  · exact absurd rfl h

/-- The characters that are read of a URL with a host write an address. -/
theorem exists_webAddress_of_hasWebHost {url : List Char} (h : HasWebHost url) :
    ∃ address : WebAddress, address.chars = readChars url := by
  obtain ⟨scheme, first, rest, isWeb, inside, read⟩ := h
  obtain ⟨authority, behind, whole, hostEnds, restStarts⟩ :=
    Text.exists_run_and_rest (fun c => !endsAuthority c) (first :: rest)
  have hasHost : authority ≠ [] := by
    rintro rfl
    rw [List.nil_append] at whole
    have starts := restStarts first (whole ▸ rfl)
    simp [inside] at starts
  have plain : ∀ c ∈ authority ++ behind, isDropped c = false := by
    intro c member
    have kept : c ∈ readChars url := by
      rw [read, whole]
      simp only [List.mem_append, List.mem_cons] at member ⊢
      tauto
    simpa using (List.mem_filter.1 kept).2
  exact ⟨⟨scheme, authority, behind, isWeb, hasHost, by simpa using hostEnds,
    by simpa using restStarts, plain⟩, by rw [read, whole]; rfl⟩

/-- **The parts of a URL are those of a web address** exactly when the URL names a host. -/
theorem isWebAddress_iff {url : List Char} {parts : Url} (h : split url = some parts) :
    parts.isWebAddress = true ↔ HasWebHost url := by
  constructor
  · intro isWeb
    simp only [split_eq] at h
    split at h
    · obtain rfl := Option.some.inj h
      simp only [isWebAddress, Bool.and_eq_true, Bool.or_eq_true, beq_iff_eq, Bool.not_eq_true',
        List.isEmpty_eq_false_iff] at isWeb
      obtain ⟨isScheme, hasHost⟩ := isWeb
      have hasScheme : (splitScheme (readChars url)).1 ≠ [] := by
        rcases isScheme with same | same <;> rw [same] <;> decide
      obtain ⟨scheme, whole, lower⟩ := splitScheme_of_ne_nil hasScheme
      obtain ⟨first, rest, behind, inside⟩ := splitAuthority_of_ne_nil hasHost
      rw [lower] at isScheme
      refine ⟨scheme, first, rest, isScheme, inside, ?_⟩
      rw [whole, behind]
    · cases h
  · intro hasHost
    obtain ⟨address, written⟩ := exists_webAddress_of_hasWebHost hasHost
    rw [← split_readChars, ← written] at h
    exact (address.isWebAddress_of_split h).1

/-- A URL that names no host counts as it is written, behind the base path. -/
theorem resolve_of_not_hasWebHost {url : String} (accepted : (split url.toList).isSome = true)
    (noHost : ¬HasWebHost url.toList) (basePath : String) :
    resolve url basePath = some (String.ofList (dropSlash (basePath.toList ++ url.toList))) := by
  obtain ⟨parts, found⟩ := Option.isSome_iff_exists.1 accepted
  have relative : parts.isWebAddress = false :=
    Bool.eq_false_iff.2 fun isWeb => noHost ((isWebAddress_iff found).1 isWeb)
  rw [resolve, found, Option.map_some, relative]
  rfl

/-! ### Addresses by their path -/

/-- The characters of a host name and of the port behind it. -/
def isHostChar (c : Char) : Bool :=
  c.isAlphanum || c == '.' || c == '-' || c == ':'

/-- A web address with a plain host, and with its path apart from the query and the fragment. -/
structure PlainAddress where
  scheme : List Char
  authority : List Char
  path : List Char
  /-- The query and the fragment. -/
  suffix : List Char
  isWeb : IsWebScheme scheme
  hasHost : authority ≠ []
  isHost : ∀ c ∈ authority, isHostChar c = true
  pathStarts : ∀ c, path.head? = some c → c = '/'
  pathEnds : ∀ c ∈ path, c ≠ '?' ∧ c ≠ '#'
  suffixStarts : ∀ c, suffix.head? = some c → c = '?' ∨ c = '#'
  plain : ∀ c ∈ path ++ suffix, isDropped c = false

/-- The characters of a plain host are among the first 128. -/
theorem toNat_lt_of_isHostChar {c : Char} (h : isHostChar c = true) : c.toNat < 128 := by
  simp only [isHostChar, Bool.or_eq_true, beq_iff_eq] at h
  rcases h with ((alphanumeric | rfl) | rfl) | rfl
  · rcases Bool.or_eq_true_iff.1 alphanumeric with letter | digit
    · have code := (Text.toNat_of_isAlpha letter).2
      omega
    · simp only [Char.isDigit, Bool.and_eq_true, decide_eq_true_eq, UInt32.le_iff_toNat_le] at digit
      have code : c.toNat = c.val.toNat := rfl
      have bound : c.val.toNat ≤ 57 := digit.2
      omega
  all_goals decide

/-- A plain host is not refused. -/
theorem acceptsAuthority_of_isHost {authority : List Char}
    (isHost : ∀ c ∈ authority, isHostChar c = true) : acceptsAuthority authority = true := by
  have noBracket : ∀ bracket, isHostChar bracket = false → authority.contains bracket = false := by
    intro bracket other
    rw [← Bool.not_eq_true, List.contains_iff_mem]
    intro member
    rw [isHost _ member] at other
    cases other
  have beyond : ∀ range ∈ disguisedRanges, 128 ≤ range.1 := by decide
  have plain : ∀ c ∈ authority, disguisedRanges.covers c = false := by
    intro c member
    rw [← Bool.not_eq_true, Text.Ranges.covers_iff]
    rintro ⟨range, held, low, -⟩
    have code := toNat_lt_of_isHostChar (isHost c member)
    have bound := beyond range held
    omega
  rw [acceptsAuthority, noBracket '[' (by decide), noBracket ']' (by decide),
    List.any_eq_false.2 fun c member => by simp [plain c member]]
  rfl

namespace PlainAddress

variable (address : PlainAddress)

/-- The text of the address. -/
def text : String :=
  String.ofList (address.scheme ++ "://".toList ++ address.authority ++ address.path ++
    address.suffix)

/-- The address by the parts that it is cut into first. -/
def toWebAddress : WebAddress where
  scheme := address.scheme
  authority := address.authority
  rest := address.path ++ address.suffix
  isWeb := address.isWeb
  hasHost := address.hasHost
  hostEnds c member := by
    have host := address.isHost c member
    cases ends : endsAuthority c with
    | false => rfl
    | true =>
      simp only [endsAuthority, Bool.or_eq_true, beq_iff_eq] at ends
      -- The characters that end a host are none of a plain one.
      rcases ends with (rfl | rfl) | rfl <;> exact absurd host (by decide)
  restStarts c head := by
    rw [List.head?_append] at head
    -- Behind the host stands a slash, or the mark of a query or a fragment, or nothing.
    cases path : address.path.head? with
    | some first =>
      rw [path] at head
      rw [← Option.some.inj head, address.pathStarts first path]
      rfl
    | none =>
      rw [path] at head
      rcases address.suffixStarts c head with rfl | rfl <;> rfl
  plain c member := by
    rcases List.mem_append.1 member with host | rest
    · have alphanumeric := address.isHost c host
      cases dropped : isDropped c with
      | false => rfl
      | true =>
        simp only [isDropped, Bool.or_eq_true, beq_iff_eq] at dropped
        rcases dropped with (rfl | rfl) | rfl <;> exact absurd alphanumeric (by decide)
    · exact address.plain c rest

/-- Cutting the address otherwise keeps its text. -/
theorem text_toWebAddress : address.toWebAddress.text = address.text := by
  rw [WebAddress.text, WebAddress.chars, text]
  simp [toWebAddress]

/-- What stands behind the host is cut where the path ends. -/
theorem pathOf_rest : pathOf address.toWebAddress.rest = address.path := by
  show pathOf (address.path ++ address.suffix) = address.path
  have inPath : ∀ c ∈ address.path, (c != '#' && c != '?') = true := by
    intro c member
    simp [address.pathEnds c member]
  rw [pathOf, List.takeWhile_append_of_pos inPath]
  cases suffix : address.suffix with
  | nil => simp
  | cons mark rest =>
    have ends : (mark != '#' && mark != '?') = false := by
      rcases address.suffixStarts mark (suffix ▸ rfl) with rfl | rfl <;> decide
    rw [List.takeWhile_cons, ends]
    simp

/-- Without its slash the path starts behind the first character. -/
theorem dropSlash_path : dropSlash address.path = address.path.drop 1 := by
  cases path : address.path with
  | nil => rfl
  | cons c rest =>
    obtain rfl := address.pathStarts c (path ▸ rfl)
    rfl

/-- A call with the address reaches the path of the address, whatever the rest of it is. -/
theorem resolve_text (basePath : String) :
    resolve address.text basePath = some (String.ofList (address.path.drop 1)) := by
  have accepted : (split address.toWebAddress.chars).isSome = true := by
    have accepts := acceptsAuthority_of_isHost address.isHost
    rw [WebAddress.split_chars]
    simp [toWebAddress, accepts]
  rw [← text_toWebAddress, WebAddress.resolve_text _ accepted, pathOf_rest, dropSlash_path]

end PlainAddress

/-- **What the path of a call depends on.** Of a web address with a plain host only the path counts,
without its slash: it is the same behind every base path, on every host and with every query and
fragment. A URL that names no host and is not refused counts unchanged behind the base path, without
the slash at the start of the two. -/
theorem resolve_reads_path (basePath : String) :
    (∀ address : PlainAddress,
      resolve address.text basePath = some (String.ofList (address.path.drop 1))) ∧
    ∀ url : String, (split url.toList).isSome = true → ¬HasWebHost url.toList →
      resolve url basePath = some (String.ofList (dropSlash (basePath.toList ++ url.toList))) :=
  ⟨fun address => address.resolve_text basePath,
    fun _ accepted noHost => resolve_of_not_hasWebHost accepted noHost basePath⟩

/-- The path of the witness has neither a query nor a fragment in it. -/
theorem searchPath_ends : ∀ c ∈ "//users/7".toList, c ≠ '?' ∧ c ≠ '#' := by
  simp

/-- No character of the witness is dropped. -/
theorem searchAddress_plain :
    ∀ c ∈ "//users/7".toList ++ "?next=http://a/b?c#/d".toList, isDropped c = false := by
  have plain : ("//users/7".toList ++ "?next=http://a/b?c#/d".toList).all
      (fun c => !isDropped c) = true := by decide
  simpa using plain

/-- An address with a port, and with slashes, colons and question marks in its query. -/
def searchAddress : PlainAddress where
  scheme := "Http".toList
  authority := "api.example.com:8080".toList
  path := "//users/7".toList
  suffix := "?next=http://a/b?c#/d".toList
  isWeb := .inl (by decide)
  hasHost := by decide
  isHost := List.all_eq_true.1 (by decide)
  pathStarts := fun _ head => (Option.some.inj head).symm
  pathEnds := searchPath_ends
  suffixStarts := fun _ head => .inl (Option.some.inj head).symm
  plain := searchAddress_plain

/-- The address reaches its path, and the address of a file stands behind the base path. -/
theorem resolve_searchAddress :
    resolve "Http://api.example.com:8080//users/7?next=http://a/b?c#/d" "/v1" =
      some "/users/7" ∧
    (split "ftp://files/a?b".toList).isSome = true ∧ ¬HasWebHost "ftp://files/a?b".toList ∧
    resolve "ftp://files/a?b" "/v1/" = some "v1/ftp://files/a?b" := by
  have parts : split "ftp://files/a?b".toList =
      some ⟨"ftp".toList, "files".toList, "/a".toList⟩ := by decide
  have accepted : (split "ftp://files/a?b".toList).isSome = true := by rw [parts]; rfl
  have noHost : ¬HasWebHost "ftp://files/a?b".toList := by
    rw [← isWebAddress_iff parts]
    decide
  exact ⟨(resolve_reads_path "/v1").1 searchAddress, accepted, noHost,
    (resolve_reads_path "/v1/").2 "ftp://files/a?b" accepted noHost⟩

end Accord.Url
