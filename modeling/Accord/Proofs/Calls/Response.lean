import Accord.Proofs.Calls
import Accord.Proofs.Calls.Payload
import Accord.Proofs.Script.TypeName

/-!
# `Accord.Proofs.Calls.Response`: the type of the response of a call

A call that is not the first value of a variable with an annotation (`IsDeclared`) gets the type
of its response from the functions around it. By the rule of the language that is what the
innermost function gives back, of whatever form the function is (`Returns`).

Functions of all forms are looked at but one: a generator that is an expression is passed, as if
its body stood in the function around it. `responseBody_of_undeclared` says what the response is
for every call site, and that it is the one of the innermost function unless that is such a
generator.

`responseBody_of_arrow` is a call in a function without an annotation inside one with an
annotation. `responseBody_of_generator` is a call in a generator that is an expression.
-/

set_option autoImplicit false

namespace Accord.Calls

open Script (Node Place Role)

/-! ### The rule -/

/-- Whether a node is a function, of any form. -/
def isAnyFunction (node : Node) : Bool :=
  [.functionDeclaration, .functionExpression, .generatorFunctionDeclaration, .generatorFunction,
    .arrowFunction, .methodDefinition].contains node.kind

/-- What a function gives back by its annotation. -/
def returned (function : Node) : Option TypeReference :=
  (function.child? .returnType).bind Node.typeReference

/-- The innermost function around a place gives back this type. Without an annotation, and where
there is no function, nothing is known of it. -/
inductive Returns : List Node → Option TypeReference → Prop where
  | nowhere : Returns [] none
  | here {function : Node} {outer : List Node} : isAnyFunction function = true →
      Returns (function :: outer) (returned function)
  | around {node : Node} {outer : List Node} {type : Option TypeReference} :
      isAnyFunction node = false → Returns outer type → Returns (node :: outer) type

/-- A node is the first value of a variable with an annotation. -/
def Fills (node : Node) (above : List Node) : Prop :=
  ∃ declarator outer, above = declarator :: outer ∧ declarator.kind = .variableDeclarator ∧
    node.role = some .value ∧ (declarator.child? .type).isSome = true

/-- A call, waited for or not, is the first value of a variable with an annotation. -/
def IsDeclared (call : Place) : Prop :=
  Fills call.node call.above ∨
    ∃ wait outer, call.above = wait :: outer ∧ wait.kind = .awaitExpression ∧ Fills wait outer

/-- A generator that is an expression. -/
def isGeneratorExpression (node : Node) : Bool :=
  node.kind = .generatorFunction

/-- The innermost function around a place is a generator that is an expression. -/
def InGeneratorExpression (above : List Node) : Prop :=
  ∃ inner function outer, above = inner ++ function :: outer ∧
    (∀ node ∈ inner, isAnyFunction node = false) ∧ isGeneratorExpression function = true

variable {above : List Node} {type : Option TypeReference}

/-- The rule gives one type around every place. -/
theorem returns_iff : Returns above type ↔ (above.find? isAnyFunction).bind returned = type := by
  constructor
  · intro rule
    -- The relation has one constructor per outcome of a step of `find?`.
    induction rule with
    | nowhere => rfl
    | here isFunction => rw [List.find?_cons_of_pos isFunction, Option.bind_some]
    | around other _ ih => rw [List.find?_cons_of_neg (by simp [other]), ih]
  · rintro rfl
    induction above with
    | nil => exact .nowhere
    | cons node outer ih =>
      cases isFunction : isAnyFunction node with
      | true =>
        rw [List.find?_cons_of_pos isFunction, Option.bind_some]
        exact .here isFunction
      | false =>
        rw [List.find?_cons_of_neg (by simp [isFunction])]
        exact .around isFunction ih

/-! ### The functions that are looked at -/

/-- All functions are looked at but the generators that are expressions. -/
theorem isFunction_eq (node : Node) :
    node.isFunction = (!isGeneratorExpression node && isAnyFunction node) := by
  rw [Node.isFunction, isAnyFunction, isGeneratorExpression]
  cases node.kind <;> rfl

/-- What is looked at around a place are the functions that are left without those generators. -/
theorem enclosingReturnType?_bind (above : List Node) :
    (enclosingReturnType? above).bind Node.typeReference =
      ((above.filter fun node => !isGeneratorExpression node).find? isAnyFunction).bind
        returned := by
  rw [enclosingReturnType?, List.find?_filter, Option.bind_assoc, funext isFunction_eq]
  simp only [Bool.decide_and, Bool.decide_eq_true]
  rfl

/-- Without those generators the innermost function stays the innermost one, unless it is such a
generator itself. -/
theorem find?_filter_of_not_inGeneratorExpression (outside : ¬InGeneratorExpression above) :
    (above.filter fun node => !isGeneratorExpression node).find? isAnyFunction =
      above.find? isAnyFunction := by
  rw [List.find?_filter]
  cases found : above.find? isAnyFunction with
  | none =>
    rw [List.find?_eq_none] at found ⊢
    intro node member
    simp [found node member]
  | some function =>
    obtain ⟨isFunction, inner, outer, rfl, others⟩ := List.find?_eq_some_iff_append.1 found
    have others : ∀ node ∈ inner, isAnyFunction node = false := by simpa using others
    -- What stands further in is no function, so that leaving some of it out changes nothing.
    rw [List.find?_eq_some_iff_append]
    refine ⟨?_, inner, outer, rfl, fun node member => by simp [others node member]⟩
    cases generator : isGeneratorExpression function with
    | true => exact absurd ⟨inner, function, outer, rfl, others, generator⟩ outside
    | false => simpa using isFunction

/-- Around a function of another form one is not in such a generator, whatever is further out. -/
theorem not_inGeneratorExpression {function : Node} {outer : List Node}
    (isFunction : isAnyFunction function = true)
    (otherForm : isGeneratorExpression function = false) :
    ¬InGeneratorExpression (function :: outer) := by
  rintro ⟨_ | ⟨node, inner⟩, generator, further, split, others, isGenerator⟩
  · obtain ⟨rfl, -⟩ := List.cons.inj split
    rw [otherForm] at isGenerator
    cases isGenerator
  · obtain ⟨rfl, -⟩ := List.cons.inj split
    rw [others _ List.mem_cons_self] at isFunction
    cases isFunction

/-! ### Calls whose result is not declared -/

/-- A call right inside a node that is neither a variable nor waits for it is not declared. -/
theorem not_isDeclared {call : Place} {parent : Node} {outer : List Node}
    (enclosed : call.above = parent :: outer) (noVariable : parent.kind ≠ .variableDeclarator)
    (noWait : parent.kind ≠ .awaitExpression) : ¬IsDeclared call := by
  rintro (⟨declarator, _, split, isVariable, -⟩ | ⟨wait, _, split, isWait, -⟩)
  · obtain ⟨rfl, -⟩ := List.cons.inj (enclosed.symm.trans split)
    exact noVariable isVariable
  · obtain ⟨rfl, -⟩ := List.cons.inj (enclosed.symm.trans split)
    exact noWait isWait

/-- A node that fills no annotated variable has no `initialisedType?`. -/
theorem initialisedType?_eq_none {node : Node} (unfilled : ¬Fills node above) :
    initialisedType? node above = none := by
  cases above with
  | nil => rfl
  | cons parent outer =>
    rw [initialisedType?]
    split
    · next isValue =>
      rw [Bool.and_eq_true, decide_eq_true_eq, decide_eq_true_eq] at isValue
      rw [← Option.not_isSome_iff_eq_none]
      exact fun annotated => unfilled ⟨parent, outer, rfl, isValue.1, isValue.2, annotated⟩
    · rfl

/-- A call that is not declared has no `resultType?`. -/
theorem resultType?_eq_none {call : Place} (undeclared : ¬IsDeclared call) :
    resultType? call = none := by
  rw [IsDeclared, not_or] at undeclared
  rw [resultType?]
  split
  · next parent outer enclosed =>
    split
    -- Behind `await` it is the waiting that may fill a variable, not the call.
    · next isWait =>
      exact initialisedType?_eq_none fun fills =>
        undeclared.2 ⟨parent, outer, enclosed, isWait, fills⟩
    · exact initialisedType?_eq_none undeclared.1
  · rfl

/-- **The response of a call whose result is not declared** is what the innermost function
around the call gives back, unless that is a generator that is an expression. Such generators
are passed over: the response is what the rule gives without them. -/
theorem responseBody_of_undeclared {names : Names} {basePath source : String} {call : Place}
    {found : CodeEndpoint} (h : siteOf? names basePath source call = some (.endpoint found))
    (undeclared : ¬IsDeclared call) :
    (¬InGeneratorExpression call.above → Returns call.above found.responseBody) ∧
    Returns (call.above.filter fun node => !isGeneratorExpression node) found.responseBody := by
  obtain ⟨_, _, _, -, -, -, -, -, -, response, -⟩ := endpoint_of_siteOf? h
  have looked : found.responseBody =
      ((call.above.filter fun node => !isGeneratorExpression node).find? isAnyFunction).bind
        returned := by
    rw [response, responseType, resultType?_eq_none undeclared, Option.none_or,
      enclosingReturnType?_bind]
  refine ⟨fun outside => returns_iff.2 ?_, returns_iff.2 looked.symm⟩
  rw [looked, find?_filter_of_not_inGeneratorExpression outside]

/-! ### Units with a function in a function -/

/-- The annotation of a function with the type that it gives back. -/
def returning (type : String) : Node :=
  .mk .typeAscription (some .returnType) "" "" [.leaf .token "" ":", .leaf .typeIdentifier " " type]

/-- The parameters of a function without any. -/
def noParameters (gap : String) : Node :=
  .mk .formalParameters (some .parameters) gap "" [.leaf .token "" "(", .leaf .token "" ")"]

/-- The URL of the call. -/
def pagesUrl : Node :=
  .leaf .string "" "'/pages'"

/-- The call, in a role. -/
def pagesCall (role : Option Role) : Node :=
  .mk .callExpression role " " ""
    [boundName .function "fetch",
      .mk .arguments (some .arguments) "" "" [.leaf .token "" "(", pagesUrl, .leaf .token "" ")"]]

/-- A function without an annotation that gives back the call. -/
def pagesArrow : Node :=
  .mk .arrowFunction (some .value) " " ""
    [noParameters "", .leaf .token " " "=>", pagesCall (some .body)]

/-- What gives out the call. -/
def pagesYield : Node :=
  .mk .yieldExpression none "" "" [.leaf .token "" "yield", pagesCall none]

/-- The statement that gives out the call. -/
def pagesStatement : Node :=
  .mk .expressionStatement none " " "" [pagesYield]

/-- The body of the generator. -/
def pagesBlock : Node :=
  .mk .statementBlock (some .body) " " ""
    [.leaf .token "" "\x7b", pagesStatement, .leaf .token " " "\x7d"]

/-- A generator with an annotation that gives out the call. -/
def pagesGenerator : Node :=
  .mk .generatorFunction (some .value) " " ""
    [.leaf .token "" "function", .leaf .token "" "*", noParameters " ", returning "Pages",
      pagesBlock]

/-- The variable with a first value. -/
def pagesVariable (value : Node) : Node :=
  .mk .variableDeclarator none " " "" [boundName .name "pages", .leaf .token " " "=", value]

/-- The statement that declares the variable. -/
def pagesDeclaration (value : Node) : Node :=
  .mk .lexicalDeclaration none "\n  " "" [.leaf .token "" "const", pagesVariable value]

/-- The body of the outer function. -/
def loadingBlock (value : Node) : Node :=
  .mk .statementBlock (some .body) " " ""
    [.leaf .token "" "\x7b", pagesDeclaration value, .leaf .token "\n" "\x7d"]

/-- The outer function, with an annotation. -/
def loadingFunction (value : Node) : Node :=
  .mk .functionDeclaration none "" ""
    [.leaf .token "" "function", .mk .identifier (some .name) " " "load" [], noParameters "",
      returning "Users", loadingBlock value]

/-- The tree of a unit with a function that declares one variable. -/
def loadingTree (value : Node) : Node :=
  .mk .program none "" "" [loadingFunction value]

/-- A unit with a function that declares one variable. -/
def loadingUnit (value : String) : SourceUnit where
  path := "api.ts"
  text := "function load(): Users \x7b\n  const pages = " ++ value ++ "\n\x7d"

/-- What is around the first value of the variable. -/
def aroundValue (value : Node) : List Node :=
  [pagesVariable value, pagesDeclaration value, loadingBlock value, loadingFunction value,
    loadingTree value]

/-- The place of the call in the function without an annotation. -/
def arrowPlace : Place where
  node := pagesCall (some .body)
  above := pagesArrow :: aroundValue pagesArrow

/-- The place of the call in the generator. -/
def generatorPlace : Place where
  node := pagesCall none
  above := [pagesYield, pagesStatement, pagesBlock, pagesGenerator] ++ aroundValue pagesGenerator

/-- The endpoint of the call, with the type of its response. -/
def pagesEndpoint (responseBody : Option TypeReference) : CodeEndpoint where
  method := "GET"
  path := "pages"
  requestBody := none
  responseBody := responseBody
  source := "api.ts"

/-- The literal text of `pagesUrl` is its path. -/
theorem literalText_pagesUrl : pagesUrl.literalText = some "/pages" := by
  rw [Node.literalText]
  rfl

/-- The annotation of a result refers to its type. -/
theorem typeReference_returning (type : String) :
    (returning type).typeReference = some ⟨type, .local, false⟩ := by
  have inside : (returning type).inner? = some (.leaf .typeIdentifier " " type) := rfl
  have noWrapper : (Node.leaf .typeIdentifier " " type).kind ∉ Node.wrapperKinds :=
    show Script.Kind.typeIdentifier ∉ Node.wrapperKinds by decide
  calc (returning type).typeReference
    _ = (Node.leaf .typeIdentifier " " type).typeReference :=
      Node.typeReferenceFrom_of_inner? false inside
    _ = some ⟨(Node.leaf .typeIdentifier " " type).text, .local, false⟩ :=
      Node.typeReference_of_not_wrapper noWrapper
    _ = some ⟨type, .local, false⟩ := by rw [Node.text_leaf]

/-- The unit has one call that counts, when that is the only one that is found. -/
def pagesOnly {value : Node} {role : Option Role} {place : Place}
    (only : (loadingTree value).walk.filter (fun place => isCallOf "fetch" place.node) = [place])
    (isCall : place.node = pagesCall role) : SoleCall .standard (loadingTree value) where
  call := place
  arguments := .mk .arguments (some .arguments) "" ""
    [.leaf .token "" "(", pagesUrl, .leaf .token "" ")"]
  url := pagesUrl
  others := []
  only := only
  called := isCall ▸ rfl
  given := rfl

/-- What is extracted from such a unit: the endpoint of the call. -/
theorem outcome_extract_pages {ε : Type} {value : Node} {role : Option Role} {place : Place}
    {unit : SourceUnit}
    (only : (loadingTree value).walk.filter (fun place => isCallOf "fetch" place.node) = [place])
    (isCall : place.node = pagesCall role) (parsed : unit.tree? = some (loadingTree value))
    (named : unit.path = "api.ts") :
    (extract .standard [unit] : Report ε (List CodeEndpoint)).outcome =
      .ok [pagesEndpoint (responseType place)] := by
  rw [(pagesOnly only isCall).outcome_extract literalText_pagesUrl (by decide) parsed, named]
  rfl

/-- A call in a function without an annotation has no type of its response, whatever the
function around that one gives back. -/
theorem responseBody_of_arrow :
    (extract .standard [loadingUnit "() => fetch('/pages')"] :
      Report Empty (List CodeEndpoint)).outcome = .ok [pagesEndpoint none] := by
  have parsed : (loadingUnit "() => fetch('/pages')").tree? = some (loadingTree pagesArrow) := by
    decide +kernel
  have only : (loadingTree pagesArrow).walk.filter (fun place => isCallOf "fetch" place.node) =
      [arrowPlace] := by
    rw [Node.walk_eq_places]
    rfl
  have site : siteOf? .standard "" "api.ts" arrowPlace =
      some (.endpoint (pagesEndpoint (responseType arrowPlace))) :=
    (pagesOnly only rfl).siteOf?_call literalText_pagesUrl (by decide) "" "api.ts"
  have undeclared : ¬IsDeclared arrowPlace := not_isDeclared rfl (by decide) (by decide)
  have outside : ¬InGeneratorExpression arrowPlace.above := not_inGeneratorExpression rfl rfl
  -- The innermost function is the arrow, which has no annotation.
  have silent : responseType arrowPlace = none :=
    (returns_iff.1 ((responseBody_of_undeclared site undeclared).1 outside)).symm
  rw [outcome_extract_pages only rfl parsed rfl, silent]

/-- A call in a generator that is an expression has the type that the function around the
generator gives back, though by the rule it has the one that the generator gives back. -/
theorem responseBody_of_generator :
    (extract .standard [loadingUnit "function* (): Pages \x7b yield fetch('/pages') \x7d"] :
      Report Empty (List CodeEndpoint)).outcome =
        .ok [pagesEndpoint (some ⟨"Users", .local, false⟩)] ∧
    (loadingUnit "function* (): Pages \x7b yield fetch('/pages') \x7d").tree? =
      some (loadingTree pagesGenerator) ∧
    generatorPlace ∈ (loadingTree pagesGenerator).walk ∧ ¬IsDeclared generatorPlace ∧
    Returns generatorPlace.above (some ⟨"Pages", .local, false⟩) := by
  have parsed : (loadingUnit "function* (): Pages \x7b yield fetch('/pages') \x7d").tree? =
      some (loadingTree pagesGenerator) := by decide +kernel
  have only : (loadingTree pagesGenerator).walk.filter
      (fun place => isCallOf "fetch" place.node) = [generatorPlace] := by
    rw [Node.walk_eq_places]
    rfl
  have visited : generatorPlace ∈ (loadingTree pagesGenerator).walk :=
    (List.mem_filter.1 (by rw [only]; exact List.mem_singleton_self _)).1
  -- `enclosingReturnType?` does not see the generator and takes the function around it.
  have outer : responseType generatorPlace = (returning "Users").typeReference := rfl
  have inner : (generatorPlace.above.find? isAnyFunction).bind returned =
      (returning "Pages").typeReference := rfl
  refine ⟨?_, parsed, visited, not_isDeclared rfl (by decide) (by decide), returns_iff.2 ?_⟩
  · rw [outcome_extract_pages only rfl parsed rfl, outer, typeReference_returning]
  · rw [inner, typeReference_returning]

end Accord.Calls
