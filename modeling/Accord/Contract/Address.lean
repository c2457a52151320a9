import Accord.Contract.Fault
import Accord.Json.Printer

/-!
# `Accord.Contract.Address`: the path of a request

The URL of a request is a text, or an object with a path (a list of segments, or a text) or else
with the text of the whole URL. The path of a whole URL is what remains without the scheme and
the host, or the placeholder that stands for them, and without query and fragment. A slash at
the start is dropped.
-/

set_option autoImplicit false

namespace Accord.Contract

/-- The characters of a scheme after the first one. -/
def isSchemeRest (c : Char) : Bool :=
  c.isAlphanum || c == '+' || c == '.' || c == '-'

/-- What follows a scheme and a host at the start of a URL, if it starts with them. -/
def afterHost? (url : List Char) : Option (List Char) :=
  match url with
  | first :: rest =>
    if first.isAlpha then
      match rest.dropWhile isSchemeRest with
      -- Only a slash ends the host here: a query right behind it is taken for a part of the host.
      | ':' :: '/' :: '/' :: host => some (host.dropWhile (· != '/'))
      | _ => none
    else none
  | [] => none

/-- What follows a placeholder in doubled braces at the start of a URL, if it starts with one. -/
def afterPlaceholder? : List Char → Option (List Char)
  | '{' :: '{' :: name =>
    match name.dropWhile (· != '}') with
    | '}' :: '}' :: rest => some rest
    | _ => none
  | _ => none

/-- A URL without scheme and host. -/
def dropHost (url : List Char) : List Char :=
  (afterHost? url).getD ((afterPlaceholder? url).getD url)

/-- The path of a whole URL. -/
def pathOfUrl (url : List Char) : List Char :=
  (dropHost url).takeWhile fun c => c != '?' && c != '#'

/-- A path without the slash at its start. -/
def dropSlash : List Char → List Char
  | '/' :: rest => rest
  | path => path

/-- The text of a segment. A segment may be an object that holds it as its value. -/
def segmentText : Json → String
  | .object members =>
    match Entries.get? members "value" with
    -- A value that counts as absent leaves the segment empty.
    | some value => if value.isPresent then value.display else ""
    | none => ""
  | other => other.display

/-- The path of a URL that is an object. -/
def pathOfMembers (members : List (String × Json)) : Except Fault (List Char) :=
  match Entries.get? members "path" with
  | some (.array segments) => .ok (String.intercalate "/" (segments.map segmentText)).toList
  | some (.string path) => .ok path.toList
  | _ =>
    match Entries.get? members "raw" with
    | none => .ok []
    | some (.string raw) => .ok (pathOfUrl raw.toList)
    | some _ => .error .notText

/-- The path of the URL of a request. No URL gives the empty path. -/
def pathOf (url : Json) : Except Fault String :=
  if !url.isPresent then .ok ""
  else
    match url with
    | .string text => .ok (String.ofList (dropSlash (pathOfUrl text.toList)))
    | .object members => (pathOfMembers members).map fun path => String.ofList (dropSlash path)
    | _ => .error .noMembers

end Accord.Contract
