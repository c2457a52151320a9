import Accord.Calls
import Accord.Proofs.Report
import Accord.Proofs.Text

/-!
# `Accord.Proofs.Calls`: the endpoint of a call

`endpoint_of_siteOf?` takes the endpoint of a call apart: what it has of the call and where
from. `resolve_of_siteOf?` reads the origin of the path off it.

`SoleCall` says of a tree that one call in it counts, and what its arguments are. Of such a
tree, `outcome_extract` computes the endpoints: there is one, or none when the URL is refused,
and the URL and the options decide about it as they do about every call. `methodOf_of_asksFor`
is what the options say about the method.
-/

set_option autoImplicit false

namespace Accord.Calls

open Script (Node Place)

variable {names : Names} {root : Node}

/-! ### The parts of an endpoint -/

/-- The endpoint of a call has its method and request type from the options, its path from the
URL, and its response type from the place of the call. -/
theorem endpoint_of_siteOf? {basePath source : String} {call : Place} {found : CodeEndpoint}
    (h : siteOf? names basePath source call = some (.endpoint found)) :
    ∃ arguments first url, call.node.child? .arguments = some arguments ∧
      arguments.namedChildren.head? = some first ∧ first.literalText = some url ∧
      Url.resolve url basePath = some found.path ∧
      found.method = methodOf (optionPairs arguments.namedChildren.tail) ∧
      found.requestBody = requestType names.serializer (optionPairs arguments.namedChildren.tail)
        (call.node :: call.above) ∧
      found.responseBody = responseType call ∧ found.source = source := by
  simp only [siteOf?, Option.bind_eq_bind, Option.bind_eq_some_iff] at h
  obtain ⟨arguments, called, first, given, url, literal, h⟩ := h
  -- An empty URL gives no site, and a refused one no endpoint.
  split at h
  · cases h
  · split at h
    · cases h
    · next path reached =>
      obtain rfl := Site.endpoint.inj (Option.some.inj h)
      exact ⟨arguments, first, url, called, given, literal, reached, rfl, rfl, rfl, rfl⟩

/-- The literal text of the URL that a call is given. -/
def urlText? (call : Node) : Option String :=
  (call.child? .arguments).bind fun arguments =>
    arguments.namedChildren.head?.bind Node.literalText

/-- The path of the endpoint of a call is the one that its URL reaches. -/
theorem resolve_of_siteOf? {basePath source url : String} {call : Place} {found : CodeEndpoint}
    (h : siteOf? names basePath source call = some (.endpoint found))
    (hasUrl : urlText? call.node = some url) : Url.resolve url basePath = some found.path := by
  obtain ⟨arguments, first, literal, called, given, spelled, reached, -⟩ := endpoint_of_siteOf? h
  rw [urlText?, called, Option.bind_some, given, Option.bind_some, spelled] at hasUrl
  rwa [← Option.some.inj hasUrl]

/-! ### A tree with one call -/

/-- A tree with one call that counts. -/
structure SoleCall (names : Names) (root : Node) where
  call : Place
  /-- The list of arguments of the call. -/
  arguments : Node
  /-- The first argument. -/
  url : Node
  /-- The other arguments. -/
  others : List Node
  only : root.walk.filter (fun place => isCallOf names.call place.node) = [call]
  called : call.node.child? .arguments = some arguments
  given : arguments.namedChildren = url :: others

namespace SoleCall

variable (sole : SoleCall names root)

/-- The members of the options of the call. -/
def pairs : List Node :=
  optionPairs sole.others

/-- The endpoint of the call when its URL reaches a path. -/
def endpoint (source path : String) : CodeEndpoint where
  method := methodOf sole.pairs
  path := path
  requestBody := requestType names.serializer sole.pairs (sole.call.node :: sole.call.above)
  responseBody := responseType sole.call
  source := source

/-- The call site of the call: its endpoint, or a note when the URL is refused. -/
def site (source url : String) : Option String → Site
  | none => .malformed url
  | some path => .endpoint (sole.endpoint source path)

/-- The only call of a tree gives `sole.site`, once its URL has a literal text that is not empty. -/
theorem siteOf?_call {url : String} (literal : sole.url.literalText = some url)
    (nonempty : url ≠ "") (basePath source : String) :
    siteOf? names basePath source sole.call =
      some (sole.site source url (Url.resolve url basePath)) := by
  have filled : url.isEmpty = false := by simpa using nonempty
  simp only [siteOf?, sole.called, sole.given, List.head?_cons, List.tail_cons, literal, filled,
    Option.bind_eq_bind, Option.bind_some, Bool.false_eq_true, if_false]
  cases Url.resolve url basePath <;> rfl

/-- The endpoints of a tree with one call: the path that the URL reaches makes one, a refused URL
makes none. -/
theorem outcome_find {ε : Type} {url : String} (literal : sole.url.literalText = some url)
    (nonempty : url ≠ "") (unit : SourceUnit) :
    (find names unit root : Report ε (List CodeEndpoint)).outcome =
      .ok ((Url.resolve url root.basePath).toList.map (sole.endpoint unit.path)) := by
  have found : sites names unit.path root =
      [sole.site unit.path url (Url.resolve url root.basePath)] := by
    rw [sites, sole.only, List.filterMap_cons, sole.siteOf?_call literal nonempty]
    rfl
  rw [find, found]
  cases Url.resolve url root.basePath <;> rfl

/-- The endpoints that are extracted from a unit with one call. -/
theorem outcome_extract {ε : Type} {url : String} (literal : sole.url.literalText = some url)
    (nonempty : url ≠ "") {unit : SourceUnit} (parsed : unit.tree? = some root) :
    (extract names [unit] : Report ε (List CodeEndpoint)).outcome =
      .ok ((Url.resolve url root.basePath).toList.map (sole.endpoint unit.path)) := by
  rw [extract, SourceUnit.gather, Report.gather_singleton]
  simp only [parsed]
  exact sole.outcome_find literal nonempty unit

end SoleCall

/-- Of the members named `method`, the last one is a string with this text. -/
def AsksFor (pairs : List Node) (method : String) : Prop :=
  ∃ pair value quote, (pairs.filter (hasKey "method")).getLast? = some pair ∧
    pair.child? .value = some value ∧ value.kind = .string ∧ Text.isQuote quote = true ∧
    value.text.toList = quote :: (method.toList ++ [quote])

/-- The method of a call is the string that the options ask for, in capitals. -/
theorem methodOf_of_asksFor {pairs : List Node} {method : String} (h : AsksFor pairs method) :
    methodOf pairs = Text.upper method := by
  obtain ⟨pair, value, quote, last, found, isString, isQuote, quoted⟩ := h
  obtain ⟨before, members⟩ := List.getLast?_eq_some_iff.1 last
  have chosen : ((valuesOf "method" pairs).filter fun value => value.kind = .string).getLast? =
      some value := by
    rw [valuesOf, members, List.filterMap_append, List.filter_append]
    simp [found, isString]
  rw [methodOf, chosen]
  simp only
  rw [Text.unquote_quoted isQuote quoted]

end Accord.Calls
