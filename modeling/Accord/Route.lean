/-!
# `Accord.Route`: paths in the form in which they are compared

Two paths name one route when their normal forms are equal. The normal form has no slash at its
ends and no doubled slash, and segments that are parameters (a colon and a name) are left out,
but for the first one, which has no slash before it. Letter case, query and percent-encoding are
kept.

`normalize` works on the characters in the order of the rule: collapse slashes, drop a leading
one, drop parameters, drop a trailing slash, collapse again. `pieces` is the list of segments
that the normal form keeps.
-/

set_option autoImplicit false

namespace Accord.Route

/-- One slash for every run of slashes. -/
def collapse : List Char → List Char
  | [] => []
  | '/' :: '/' :: rest => collapse ('/' :: rest)
  | c :: rest => c :: collapse rest

/-- A path without the slash at its start. -/
def dropLeading : List Char → List Char
  | '/' :: rest => rest
  | path => path

/-- A path without the slash at its end. -/
def dropTrailing (path : List Char) : List Char :=
  if path.getLast? = some '/' then path.dropLast else path

/-- What has been read of a parameter and not yet been written or dropped. -/
inductive Pending where
  /-- Nothing. -/
  | nothing
  /-- A slash. -/
  | slash
  /-- A slash and a colon. -/
  | colon
  /-- The start of a parameter, which is dropped up to the next slash. -/
  | parameter
  deriving DecidableEq, Repr

/-- A path without its parameters, each of them a slash, a colon and at least one character of a
name. A colon with no name after it is kept. -/
def dropParameters : Pending → List Char → List Char
  | .nothing, [] => []
  -- What is pending at the end is written, unless it belongs to a parameter.
  | .slash, [] => ['/']
  | .colon, [] => ['/', ':']
  | .parameter, [] => []
  | .nothing, c :: rest =>
    if c = '/' then dropParameters .slash rest else c :: dropParameters .nothing rest
  | .slash, c :: rest =>
    if c = ':' then dropParameters .colon rest
    else if c = '/' then '/' :: dropParameters .slash rest
    else '/' :: c :: dropParameters .nothing rest
  | .colon, c :: rest =>
    -- A colon that a slash follows is no parameter, and both are written.
    if c = '/' then '/' :: ':' :: dropParameters .slash rest else dropParameters .parameter rest
  | .parameter, c :: rest =>
    if c = '/' then dropParameters .slash rest else dropParameters .parameter rest

/-- The normal form of a path, on its characters. -/
def normalizeChars (path : List Char) : List Char :=
  collapse (dropTrailing (dropParameters .nothing (dropLeading (collapse path))))

/-- The normal form of a path. -/
def normalize (path : String) : String :=
  String.ofList (normalizeChars path.toList)

/-- The segments of a path: its maximal runs of characters other than the slash. `segment` is the
run read so far. -/
def segmentsFrom (segment : List Char) : List Char → List (List Char)
  | [] => if segment.isEmpty then [] else [segment]
  | c :: rest =>
    if c = '/' then
      if segment.isEmpty then segmentsFrom [] rest else segment :: segmentsFrom [] rest
    else segmentsFrom (segment ++ [c]) rest

/-- Whether a segment is a parameter: a colon and a name of at least one character. -/
def isParameter : List Char → Bool
  | ':' :: _ :: _ => true
  | _ => false

/-- The segments that a normal form keeps: the first one, and the later ones that are no
parameters. -/
def pieces (path : List Char) : List (List Char) :=
  match segmentsFrom [] path with
  | [] => []
  | first :: later => first :: later.filter fun segment => !isParameter segment

end Accord.Route
