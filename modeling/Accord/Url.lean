import Accord.Url.Host

/-!
# `Accord.Url`: the parts of a URL that a call names

`Url.split` cuts a URL into scheme, host part and path by the generic syntax of URLs. Only its
`readChars` count: blanks and control characters at its start are dropped first, and then tabs
and line ends wherever they stand. A host part that `acceptsAuthority` declines is refused.

`Url.resolve` is the path that a call site with this URL reaches: that of an absolute web
address, and otherwise the URL itself behind the base path, without the slash at the start.
-/

set_option autoImplicit false

namespace Accord

/-- The parts of a URL. -/
structure Url where
  /-- The scheme in lower case, empty when there is none. -/
  scheme : List Char
  /-- What stands between `//` and the path. -/
  authority : List Char
  /-- What stands before the query and the fragment. -/
  path : List Char
  deriving DecidableEq, Repr

namespace Url

/-- The control characters and the blank, which are no part of a URL where they stand at its
start. -/
def isLeading (c : Char) : Bool :=
  c.toNat ≤ 0x20

/-- The characters that are no part of a URL wherever they stand. -/
def isDropped (c : Char) : Bool :=
  c == '\t' || c == '\r' || c == '\n'

/-- The characters of a URL that are read. -/
def readChars (url : List Char) : List Char :=
  (url.dropWhile isLeading).filter fun c => !isDropped c

/-- The characters of a scheme. -/
def isSchemeChar (c : Char) : Bool :=
  c.isAlphanum || c == '+' || c == '-' || c == '.'

/-- The scheme before the first colon and what follows it. Without a scheme all is left. -/
def splitScheme (url : List Char) : List Char × List Char :=
  match url.span (· != ':') with
  | (first :: more, ':' :: rest) =>
    if first.isAlpha && (first :: more).all isSchemeChar then
      ((first :: more).map Char.toLower, rest)
    -- A colon behind something that is no scheme belongs to the path.
    else ([], url)
  | _ => ([], url)

/-- Whether a character ends the host part. -/
def endsAuthority (c : Char) : Bool :=
  c == '/' || c == '?' || c == '#'

/-- The host part after two slashes and what follows it. -/
def splitAuthority : List Char → List Char × List Char
  | '/' :: '/' :: rest => rest.span fun c => !endsAuthority c
  | url => ([], url)

/-- The path before a fragment or a query. -/
def pathOf (rest : List Char) : List Char :=
  rest.takeWhile fun c => c != '#' && c != '?'

/-- The parts of a URL, or nothing when its host part is refused. -/
def split (url : List Char) : Option Url :=
  let (scheme, afterScheme) := splitScheme (readChars url)
  let (authority, rest) := splitAuthority afterScheme
  if acceptsAuthority authority then some ⟨scheme, authority, pathOf rest⟩ else none

/-- Whether the parts are those of an absolute web address. -/
def isWebAddress (url : Url) : Bool :=
  (url.scheme == "http".toList || url.scheme == "https".toList) && !url.authority.isEmpty

/-- A path without the slash at its start. -/
def dropSlash : List Char → List Char
  | '/' :: rest => rest
  | path => path

/-- The path that a call with a URL reaches behind a base path, or nothing when the URL is
refused. -/
def resolve (url basePath : String) : Option String :=
  (split url.toList).map fun parts =>
    String.ofList <| dropSlash <|
      -- What is put behind the base path is the URL as it is written, with its query and its
      -- dropped characters.
      if parts.isWebAddress then parts.path else basePath.toList ++ url.toList

end Url

end Accord
