import Accord.Script.Scope

/-!
# `Accord.Proofs.Script.Binding`: what the nodes around a place bind

By the rules of the language a function binds the names of its parameters, and a block, the body
of a switch, a loop or a handler binds the names of the variables that it declares.
`Node.binding?` says what such a node binds a name to: the type that is written down for the
name, another name, or nothing that is known. A name that is taken out of an object or an array
has no type of its own. A variable is bound where its declaration stands, whatever the word for
the declaration is. All of this is said of the tree alone: none of the functions by which
`lookup` goes through it is used.

`lookup` reads only some of these bindings. `Node.BindsRead` says which: annotated parameters of
all functions but generator expressions, and variables among the statements of a block.
`Node.BindsUnread` lists the forms of the others, and `bindsUnread_of_binding?` says that there
are no more. `Node.answersFor` is the test that the walk makes, and `answersFor_iff_bindsRead`
that it tells the ones from the others; `binding?_of_parameterType?` and
`binding?_of_declarator?` say that what is read is read as the language does.
-/

set_option autoImplicit false

namespace Accord.Script

namespace Node

mutual

/-- The names that a pattern binds: it is a name, or takes names out of an object or an array. -/
def boundNames : Node → List String
  | .mk kind _ _ lexeme children =>
    match kind with
    | .identifier | .shorthandPropertyIdentifierPattern => [lexeme ++ textAll children]
    | .objectPattern | .arrayPattern | .restPattern => boundNamesBeside none children
    -- The key of a property and a default value bind nothing.
    | .pairPattern => boundNamesBeside (some .key) children
    | .assignmentPattern | .objectAssignmentPattern => boundNamesBeside (some .value) children
    | _ => []

/-- The names that several patterns bind, those in one role left out. -/
def boundNamesBeside (omitted : Option Role) : List Node → List String
  | [] => []
  | node :: rest =>
    (if omitted.isSome && node.role = omitted then [] else boundNames node) ++
      boundNamesBeside omitted rest

end

end Node

/-- What is bound, and what is said about it as a whole. -/
structure Binder where
  target : Node
  binding : Binding

/-- What an annotation says, if there is one. -/
def Binding.ofAscription : Option Node → Binding
  | some type => .known type
  | none => .unknown

namespace Node

/-- The type that the first value of a variable is cast to. -/
def initialCast? (declarator : Node) : Option Node :=
  ((declarator.child? .value).filter fun value => value.kind = .asExpression).bind castType?

/-- The name that is the first value of a variable. -/
def initialName? (declarator : Node) : Option String :=
  ((declarator.child? .value).filter fun value => value.kind = .identifier).map text

end Node

/-- What is said about a variable: its annotation comes first, then the cast of its first value,
then the name that this value is. -/
def Binding.ofVariable (declarator : Node) : Binding :=
  match declarator.child? .type, declarator.initialCast?, declarator.initialName? with
  | some type, _, _ => .known type
  | none, some type, _ => .known type
  | none, none, some other => .sameAs other
  | none, none, none => .unknown

/-- A variable is read as the language reads it. -/
theorem Binding.ofDeclarator_eq (declarator : Node) :
    Binding.ofDeclarator declarator = Binding.ofVariable declarator := by
  rw [ofDeclarator, ofVariable, Node.initialCast?, Node.initialName?]
  cases declarator.child? .type with
  | some type => rfl
  | none =>
    cases declarator.child? .value with
    | none => rfl
    | some value =>
      simp only [Option.filter_some, decide_eq_true_eq]
      by_cases isCast : value.kind = .asExpression
      · cases target : value.castType? <;> simp [isCast, target]
      · by_cases isName : value.kind = .identifier <;> simp [isName, isCast]

namespace Node

/-! ### The binders of a node -/

/-- What a parameter of a function binds. -/
def parameterBinder? (parameter : Node) : Option Binder :=
  if [.requiredParameter, .optionalParameter].contains parameter.kind then
    (parameter.child? .pattern).map fun pattern =>
      ⟨pattern, .ofAscription (parameter.child? .type)⟩
  else none

/-- What is behind the dots, when a parameter takes all the arguments that are left. -/
def restBinder? (parameter : Node) : Option Binder :=
  (parameterBinder? parameter).bind fun binder =>
    if binder.target.kind = .restPattern then
      binder.target.namedChildren.getLast?.map fun name => ⟨name, binder.binding⟩
    else none

/-- The parameters of a function. -/
def parameterList (function : Node) : List Node :=
  (function.child? .parameters).toList.flatMap namedChildren

/-- The single parameter that an arrow has without a list. -/
def loneParameters (function : Node) : List Node :=
  function.children.filter fun child =>
    function.kind = .arrowFunction && child.kind = .identifier && child.role.isNone

/-- What a function binds. -/
def parameterBinders (function : Node) : List Binder :=
  function.parameterList.filterMap parameterBinder? ++
    (function.parameterList.filterMap restBinder? ++
      function.loneParameters.map fun name => ⟨name, .unknown⟩)

/-- What a variable binds where it is declared. -/
def declaratorBinder? (declarator : Node) : Option Binder :=
  (declarator.child? .name).map fun target => ⟨target, .ofVariable declarator⟩

/-- What a statement declares: itself, or what it exports. -/
def declarations (statement : Node) : List Node :=
  if statement.kind = .exportStatement then (statement.child? .declaration).toList else [statement]

/-- The variables of a declaration. -/
def ownVariables (declaration : Node) : List Node :=
  if [.lexicalDeclaration, .variableDeclaration].contains declaration.kind then
    declaration.namedChildren.filter fun child => child.kind = .variableDeclarator
  else []

/-- The variables that a statement declares, exported or not. -/
def statedVariables (statement : Node) : List Node :=
  statement.declarations.flatMap ownVariables

/-- The variables that a statement says to be declared elsewhere. -/
def ambientDeclarators (statement : Node) : List Node :=
  (statement.declarations.filter fun declaration => declaration.kind = .ambientDeclaration).flatMap
    fun declaration => declaration.namedChildren.flatMap statedVariables

/-- The variables that the statements of a case declare. -/
def caseDeclarators (node : Node) : List Node :=
  if [.switchCase, .switchDefault].contains node.kind then
    node.namedChildren.flatMap statedVariables
  else []

/-- What the variables of a node bind: those that its statements declare, those that they say to be
declared elsewhere, and, when it is the body of a switch, those of all its cases. -/
def variableBinders (scope : Node) : List Binder :=
  (scope.namedChildren.flatMap statedVariables).filterMap declaratorBinder? ++
    (scope.namedChildren.flatMap ambientDeclarators ++
      scope.namedChildren.flatMap caseDeclarators).filterMap declaratorBinder?

/-- What a loop over the members of something binds, when it declares a variable. -/
def loopBinders (loop : Node) : List Binder :=
  if loop.children.any fun child =>
      child.kind = .token && ["const", "let", "var"].contains child.lexeme then
    (loop.child? .left).toList.map fun target => ⟨target, .unknown⟩
  else []

/-- What the handler of an error binds. -/
def handlerBinders (handler : Node) : List Binder :=
  (handler.namedChildren.filter fun child => child.role.isNone).map fun target =>
    ⟨target, .ofAscription (handler.child? .type)⟩

/-- Whether the node is a function of any kind. -/
def takesParameters (node : Node) : Bool :=
  [.functionDeclaration, .functionExpression, .arrowFunction, .methodDefinition,
    .generatorFunctionDeclaration, .generatorFunction].contains node.kind

/-- Whether the statements of the node declare variables for what is inside it. -/
def holdsStatements (node : Node) : Bool :=
  [.program, .statementBlock, .classBody, .switchBody, .forStatement].contains node.kind

/-- What a node binds for what is inside it. -/
def binders (node : Node) : List Binder :=
  if node.takesParameters then node.parameterBinders
  else if node.holdsStatements then node.variableBinders
  else if node.kind = .forInStatement then node.loopBinders
  else if node.kind = .catchClause then node.handlerBinders
  else []

/-- What a node says about a name that it binds. -/
def binding? (node : Node) (name : String) : Option Binding :=
  match node.binders.find? fun binder => binder.target.text == name with
  | some binder => some binder.binding
  | none =>
    if node.binders.any fun binder => binder.target.boundNames.contains name then some .unknown
    else none

/-! ### The bindings that are read -/

/-- A node binds a name in a form that is read. -/
inductive BindsRead (node : Node) (name : String) : Prop where
  /-- The first parameter that is called so has an annotation. The function is no generator that
  is an expression. -/
  | parameter {pattern type : Node} (isFunction : node.takesParameters = true)
      (noGenerator : node.kind ≠ .generatorFunction)
      (first : (node.parameterList.filterMap parameterBinder?).find?
        (fun binder => binder.target.text == name) = some ⟨pattern, .known type⟩)
  /-- A statement declares a variable that is called so. The node is no loop. -/
  | variable {statement declarator target : Node} (isBlock : node.holdsStatements = true)
      (noLoop : node.kind ≠ .forStatement) (stated : statement ∈ node.namedChildren)
      (declared : declarator ∈ statement.statedVariables)
      (binds : declarator.child? .name = some target) (named : target.text = name)

/-- A node binds a name in a form that is not read. -/
inductive BindsUnread (node : Node) (name : String) : Prop where
  /-- A parameter has no annotation. -/
  | unannotated {parameter pattern : Node} (isFunction : node.takesParameters = true)
      (listed : parameter ∈ node.parameterList)
      (binds : parameter.parameterBinder? = some ⟨pattern, .unknown⟩) (named : pattern.text = name)
  /-- A parameter takes all the arguments that are left. -/
  | rest {parameter : Node} {binder : Binder} (isFunction : node.takesParameters = true)
      (listed : parameter ∈ node.parameterList) (binds : parameter.restBinder? = some binder)
      (named : binder.target.text = name)
  /-- The parameter of an arrow stands without a list. -/
  | lone {parameter : Node} (isArrow : node.kind = .arrowFunction)
      (listed : parameter ∈ node.loneParameters) (named : parameter.text = name)
  /-- The function is a generator that is an expression. -/
  | generator (isGenerator : node.kind = .generatorFunction)
  /-- The name is taken out of an object or an array. -/
  | taken {binder : Binder} (binds : binder ∈ node.binders)
      (inside : name ∈ binder.target.boundNames) (notWhole : binder.target.text ≠ name)
  /-- The variable is that of a loop. -/
  | loop (isLoop : node.kind = .forStatement ∨ node.kind = .forInStatement)
  /-- The name is that of the error that is handled. -/
  | handler (isHandler : node.kind = .catchClause)
  /-- The variable is declared in a case of a switch. -/
  | inCase {case declarator target : Node} (listed : case ∈ node.namedChildren)
      (declared : declarator ∈ case.caseDeclarators)
      (binds : declarator.child? .name = some target) (named : target.text = name)
  /-- The variable is said to be declared elsewhere. -/
  | ambient {statement declarator target : Node} (stated : statement ∈ node.namedChildren)
      (declared : declarator ∈ statement.ambientDeclarators)
      (binds : declarator.child? .name = some target) (named : target.text = name)

/-- Whether the lookup of a name ends at a node: the node is a function with an annotated
parameter of that name, or a scope with a variable of that name. -/
def answersFor (node : Node) (name : String) : Bool :=
  node.isFunction && (node.parameterType? name).isSome ||
    node.isScope && (node.declarator? name).isSome

/-- A function is no scope of variables. -/
theorem not_isScope_of_isFunction {node : Node} (h : node.isFunction = true) :
    node.isScope = false := by
  simp only [isFunction, List.contains_iff_mem, List.mem_cons, List.not_mem_nil, or_false] at h
  rcases h with kind | kind | kind | kind | kind <;> rw [isScope, kind] <;> rfl

/-- A scope of variables is no function. -/
theorem not_isFunction_of_isScope {node : Node} (h : node.isScope = true) :
    node.isFunction = false :=
  Bool.eq_false_iff.2 fun isFunction =>
    absurd h (by rw [not_isScope_of_isFunction isFunction]; decide)

/-- The functions that are looked at are all but the generators that are expressions. -/
theorem isFunction_iff {node : Node} :
    node.isFunction = true ↔ node.takesParameters = true ∧ node.kind ≠ .generatorFunction := by
  rw [isFunction, takesParameters]
  cases node.kind <;> decide

/-- The statements that are looked at are all but those of a loop. -/
theorem isScope_iff {node : Node} :
    node.isScope = true ↔ node.holdsStatements = true ∧ node.kind ≠ .forStatement := by
  rw [isScope, holdsStatements]
  cases node.kind <;> decide

/-- What holds statements takes no parameters. -/
theorem not_takesParameters_of_holdsStatements {node : Node} (h : node.holdsStatements = true) :
    node.takesParameters = false := by
  simp only [holdsStatements, List.contains_iff_mem, List.mem_cons, List.not_mem_nil,
    or_false] at h
  rcases h with kind | kind | kind | kind | kind <;> rw [takesParameters, kind] <;> rfl

/-- What is declared is what the language says to be declared. -/
theorem declarators_eq_statedVariables : declarators = statedVariables := by
  have own (declaration : Node) : ownVariables declaration =
      if declaration.isVariableStatement then
        declaration.namedChildren.filter fun child => child.kind = .variableDeclarator
      else [] := by
    simp [ownVariables, isVariableStatement]
  funext statement
  rw [declarators, statedVariables, declarations, exported?]
  by_cases exported : statement.kind = .exportStatement
  · rw [if_pos exported, if_pos exported]
    cases statement.child? .declaration with
    | none => rfl
    | some declaration => simp [own]
  · simp [own, exported]

/-- What takes parameters binds these. -/
theorem binders_of_takesParameters {node : Node} (h : node.takesParameters = true) :
    node.binders = node.parameterBinders := by
  rw [binders, if_pos h]

/-- A function binds its parameters. -/
theorem binders_of_isFunction {node : Node} (h : node.isFunction = true) :
    node.binders = node.parameterBinders :=
  binders_of_takesParameters (isFunction_iff.1 h).1

/-- What holds statements binds the variables they declare. -/
theorem binders_of_holdsStatements {node : Node} (h : node.holdsStatements = true) :
    node.binders = node.variableBinders := by
  rw [binders, not_takesParameters_of_holdsStatements h, if_neg Bool.false_ne_true, if_pos h]

/-- A scope binds the variables of its statements. -/
theorem binders_of_isScope {node : Node} (h : node.isScope = true) :
    node.binders = node.variableBinders :=
  binders_of_holdsStatements (isScope_iff.1 h).1

/-- The first binder with the name for its target gives the binding. -/
theorem binding?_of_find? {node : Node} {name : String} {binder : Binder}
    (h : node.binders.find? (fun binder => binder.target.text == name) = some binder) :
    node.binding? name = some binder.binding := by
  rw [binding?, h]

/-- What is declared first under a name is what is bound. -/
theorem find?_declaratorBinder? {declarators : List Node} {declarator : Node} {name : String}
    (h : declarators.find? (fun declarator =>
      (declarator.child? .name).any fun found => found.text == name) = some declarator) :
    ∃ target, (declarators.filterMap declaratorBinder?).find?
        (fun binder => binder.target.text == name) =
      some ⟨target, .ofVariable declarator⟩ := by
  have isNamed := List.find?_some h
  obtain ⟨target, named, -⟩ := (Option.any_eq_true _ _).1 isNamed
  refine ⟨target, ?_⟩
  rw [List.find?_filterMap]
  simp only [declaratorBinder?, Option.any_map, h, Option.bind_some, named, Option.map_some]

/-- The variable of a scope that is read is the first that it binds under the name. -/
theorem find?_binders_of_declarator? {node declarator : Node} {name : String}
    (isScope : node.isScope = true) (h : node.declarator? name = some declarator) :
    ∃ target, node.binders.find? (fun binder => binder.target.text == name) =
      some ⟨target, .ofVariable declarator⟩ := by
  rw [declarator?, declarators_eq_statedVariables] at h
  obtain ⟨target, found⟩ := find?_declaratorBinder? h
  refine ⟨target, ?_⟩
  rw [binders_of_isScope isScope, variableBinders, List.find?_append, found, Option.some_or]

/-- A variable of a scope is read as the language reads it. -/
theorem binding?_of_declarator? {node declarator : Node} {name : String}
    (isScope : node.isScope = true) (h : node.declarator? name = some declarator) :
    node.binding? name = some (.ofDeclarator declarator) := by
  obtain ⟨_, bound⟩ := find?_binders_of_declarator? isScope h
  rw [Binding.ofDeclarator_eq]
  exact binding?_of_find? bound

/-- What a parameter binds has a name when it is a parameter with that name for its pattern. -/
theorem any_parameterBinder? (parameter : Node) (name : String) :
    ((parameterBinder? parameter).any fun binder => binder.target.text == name) =
      ([.requiredParameter, .optionalParameter].contains parameter.kind &&
        (parameter.child? .pattern).any fun pattern => pattern.text == name) := by
  rw [parameterBinder?]
  split
  · next isParameter => rw [isParameter, Bool.true_and, Option.any_map]
  · next other => rw [Bool.not_eq_true] at other; rw [other]; rfl

/-- The annotated parameter that is read is the first in the list that binds the name. -/
theorem find?_parameterBinder? {function type : Node} {name : String}
    (h : function.parameterType? name = some type) :
    ∃ target, (function.parameterList.filterMap parameterBinder?).find?
        (fun binder => binder.target.text == name) = some ⟨target, .known type⟩ := by
  simp only [parameterType?, Option.bind_eq_bind, Option.bind_eq_some_iff] at h
  obtain ⟨parameters, listed, parameter, found, annotated⟩ := h
  have isParameter := List.find?_some found
  rw [← any_parameterBinder?] at isParameter
  obtain ⟨binder, binds, -⟩ := (Option.any_eq_true _ _).1 isParameter
  have same : binder.binding = .known type := by
    rw [parameterBinder?] at binds
    split at binds
    · obtain ⟨pattern, -, rfl⟩ := Option.map_eq_some_iff.1 binds
      rw [annotated]
      rfl
    · cases binds
  refine ⟨binder.target, ?_⟩
  rw [← same, List.find?_filterMap, parameterList, listed]
  simp only [any_parameterBinder?, Option.toList_some, List.flatMap_singleton, found,
    Option.bind_some, binds]

/-- The parameter of a function that is read is the first that it binds under the name. -/
theorem find?_binders_of_parameterType? {node type : Node} {name : String}
    (isFunction : node.isFunction = true) (h : node.parameterType? name = some type) :
    ∃ target, node.binders.find? (fun binder => binder.target.text == name) =
      some ⟨target, .known type⟩ := by
  obtain ⟨target, found⟩ := find?_parameterBinder? h
  refine ⟨target, ?_⟩
  rw [binders_of_isFunction isFunction, parameterBinders, List.find?_append, found, Option.some_or]

/-- An annotated parameter is read as the language reads it. -/
theorem binding?_of_parameterType? {node type : Node} {name : String}
    (isFunction : node.isFunction = true) (h : node.parameterType? name = some type) :
    node.binding? name = some (.known type) := by
  obtain ⟨_, bound⟩ := find?_binders_of_parameterType? isFunction h
  exact binding?_of_find? bound

/-- A function at which the lookup ends has an annotated parameter of the name. -/
theorem exists_parameterBinder_of_answersFor {node : Node} {name : String}
    (isFunction : node.isFunction = true) (h : node.answersFor name = true) :
    ∃ binder ∈ node.parameterList.filterMap parameterBinder?, binder.target.text = name := by
  obtain ⟨type, annotated⟩ : ∃ type, node.parameterType? name = some type := by
    simpa [answersFor, isFunction, not_isScope_of_isFunction isFunction,
      Option.isSome_iff_exists] using h
  obtain ⟨_, found⟩ := find?_parameterBinder? annotated
  have named := List.find?_some found
  exact ⟨_, List.mem_of_find?_eq_some found, eq_of_beq named⟩

/-- A scope at which the lookup ends has a variable of the name among its statements. -/
theorem exists_declaratorBinder_of_answersFor {node : Node} {name : String}
    (isScope : node.isScope = true) (h : node.answersFor name = true) :
    ∃ binder ∈ (node.namedChildren.flatMap statedVariables).filterMap declaratorBinder?,
      binder.target.text = name := by
  obtain ⟨declarator, declared⟩ : ∃ declarator, node.declarator? name = some declarator := by
    simpa [answersFor, isScope, not_isFunction_of_isScope isScope,
      Option.isSome_iff_exists] using h
  rw [declarator?, declarators_eq_statedVariables] at declared
  obtain ⟨_, found⟩ := find?_declaratorBinder? declared
  have named := List.find?_some found
  exact ⟨_, List.mem_of_find?_eq_some found, eq_of_beq named⟩

/-- A node at which the lookup ends has a binder of the name. -/
theorem exists_binder_of_answersFor {node : Node} {name : String}
    (h : node.answersFor name = true) :
    ∃ binder ∈ node.binders, binder.target.text = name := by
  cases isFunction : node.isFunction with
  | true =>
    obtain ⟨binder, member, named⟩ := exists_parameterBinder_of_answersFor isFunction h
    rw [binders_of_isFunction isFunction, parameterBinders]
    exact ⟨binder, List.mem_append_left _ member, named⟩
  | false =>
    have isScope : node.isScope = true := by
      simp only [answersFor, isFunction, Bool.false_and, Bool.false_or, Bool.and_eq_true] at h
      exact h.1
    obtain ⟨binder, member, named⟩ := exists_declaratorBinder_of_answersFor isScope h
    rw [binders_of_isScope isScope, variableBinders]
    exact ⟨binder, List.mem_append_left _ member, named⟩

/-- The lookup does not end at a node that binds no such name. -/
theorem answersFor_of_binding?_eq_none {node : Node} {name : String}
    (h : node.binding? name = none) : node.answersFor name = false := by
  rw [answersFor, Bool.or_eq_false_iff, Bool.and_eq_false_iff, Bool.and_eq_false_iff]
  constructor
  · by_cases isFunction : node.isFunction = true
    · right
      cases found : node.parameterType? name with
      | none => rfl
      | some type =>
        rw [binding?_of_parameterType? isFunction found] at h
        cases h
    · exact .inl (Bool.not_eq_true _ ▸ isFunction)
  · by_cases isScope : node.isScope = true
    · right
      cases found : node.declarator? name with
      | none => rfl
      | some declarator =>
        rw [binding?_of_declarator? isScope found] at h
        cases h
    · exact .inl (Bool.not_eq_true _ ▸ isScope)

/-! ### What is read and what is not -/

/-- The type that an annotated parameter gives is its annotation. -/
theorem child?_type_of_parameterBinder? {parameter pattern type : Node}
    (binds : parameter.parameterBinder? = some ⟨pattern, .known type⟩) :
    parameter.child? .type = some type := by
  rw [parameterBinder?] at binds
  split at binds
  · obtain ⟨_, -, same⟩ := Option.map_eq_some_iff.1 binds
    cases written : parameter.child? .type with
    | none =>
      rw [written] at same
      cases same
    | some annotation =>
      rw [written] at same
      cases same
      rfl
  · cases binds

/-- The first parameter that is called so is the one that is looked at. -/
theorem parameterType?_of_find? {function pattern type : Node} {name : String}
    (first : (function.parameterList.filterMap parameterBinder?).find?
      (fun binder => binder.target.text == name) = some ⟨pattern, .known type⟩) :
    function.parameterType? name = some type := by
  rw [List.find?_filterMap, parameterList] at first
  simp only [any_parameterBinder?] at first
  cases listed : function.child? .parameters with
  | none =>
    rw [listed] at first
    cases first
  | some parameters =>
    rw [listed, Option.toList_some, List.flatMap_singleton] at first
    obtain ⟨parameter, found, binds⟩ := Option.bind_eq_some_iff.1 first
    simp only [parameterType?, listed, found, Option.bind_eq_bind, Option.bind_some]
    exact child?_type_of_parameterBinder? binds

/-- **The lookup ends at the nodes that bind a name in a form that is read.** -/
theorem answersFor_iff_bindsRead {node : Node} {name : String} :
    node.answersFor name = true ↔ node.BindsRead name := by
  rw [answersFor, Bool.or_eq_true, Bool.and_eq_true, Bool.and_eq_true]
  constructor
  -- A function is asked for a parameter and a scope for a declarator, and the two exclude each
  -- other.
  · rintro (⟨isFunction, annotated⟩ | ⟨isScope, declared⟩)
    · obtain ⟨type, annotated⟩ := Option.isSome_iff_exists.1 annotated
      obtain ⟨takes, noGenerator⟩ := isFunction_iff.1 isFunction
      obtain ⟨pattern, first⟩ := find?_parameterBinder? annotated
      exact .parameter takes noGenerator first
    · obtain ⟨declarator, declared⟩ := Option.isSome_iff_exists.1 declared
      obtain ⟨holds, noLoop⟩ := isScope_iff.1 isScope
      rw [declarator?, declarators_eq_statedVariables] at declared
      obtain ⟨statement, stated, among⟩ :=
        List.mem_flatMap.1 (List.mem_of_find?_eq_some declared)
      have isNamed := List.find?_some declared
      obtain ⟨target, binds, named⟩ := (Option.any_eq_true _ _).1 isNamed
      exact .variable holds noLoop stated among binds (eq_of_beq named)
  · rintro (⟨takes, noGenerator, first⟩ | ⟨holds, noLoop, stated, declared, binds, named⟩)
    · rw [parameterType?_of_find? first]
      exact .inl ⟨isFunction_iff.2 ⟨takes, noGenerator⟩, rfl⟩
    · refine .inr ⟨isScope_iff.2 ⟨holds, noLoop⟩, ?_⟩
      rw [declarator?, declarators_eq_statedVariables, List.find?_isSome]
      refine ⟨_, List.mem_flatMap.2 ⟨_, stated, declared⟩, ?_⟩
      rw [binds, Option.any_some, named, beq_self_eq_true]

/-- A function that binds a name as a whole, and not in a form that is read, has one of the
other forms of parameters. -/
theorem bindsUnread_of_parameterBinders {node : Node} {name : String} {binder : Binder}
    (takes : node.takesParameters = true) (unread : ¬node.BindsRead name)
    (found : node.parameterBinders.find? (fun binder => binder.target.text == name) = some binder) :
    node.BindsUnread name := by
  by_cases isGenerator : node.kind = .generatorFunction
  · exact .generator isGenerator
  have isNamed := List.find?_some found
  have named : binder.target.text = name := eq_of_beq isNamed
  rw [parameterBinders, List.find?_append] at found
  cases first : (node.parameterList.filterMap parameterBinder?).find?
      (fun binder => binder.target.text == name) with
  | some own =>
    -- The first parameter of the name has no annotation, or it would be read.
    rw [first, Option.some_or] at found
    obtain rfl := Option.some.inj found
    obtain ⟨parameter, listed, binds⟩ := List.mem_filterMap.1 (List.mem_of_find?_eq_some first)
    obtain ⟨pattern, binding⟩ := own
    have said : binding = .ofAscription (parameter.child? .type) := by
      rw [parameterBinder?] at binds
      split at binds
      · obtain ⟨_, -, same⟩ := Option.map_eq_some_iff.1 binds
        exact (congrArg Binder.binding same).symm
      · cases binds
    cases written : parameter.child? .type with
    | some type =>
      rw [said, written] at first
      exact absurd (.parameter takes isGenerator first) unread
    | none =>
      rw [said, written] at binds
      exact .unannotated takes listed binds named
  | none =>
    rw [first, Option.none_or] at found
    -- No parameter of the list has the name, so it is a rest parameter or the lone one of an arrow.
    rcases List.mem_append.1 (List.mem_of_find?_eq_some found) with among | among
    · obtain ⟨parameter, listed, binds⟩ := List.mem_filterMap.1 among
      exact .rest takes listed binds named
    · obtain ⟨parameter, listed, rfl⟩ := List.mem_map.1 among
      have isArrow : node.kind = .arrowFunction := by
        have kept := (List.mem_filter.1 listed).2
        simp only [Bool.and_eq_true, decide_eq_true_eq] at kept
        exact kept.1.1
      exact .lone isArrow listed named

/-- A node that binds a name as a variable, and not in a form that is read, is a loop or has one
of the other forms of declarations. -/
theorem bindsUnread_of_variableBinders {node : Node} {name : String} {binder : Binder}
    (holds : node.holdsStatements = true) (unread : ¬node.BindsRead name)
    (among : binder ∈ node.variableBinders) (named : binder.target.text = name) :
    node.BindsUnread name := by
  by_cases isLoop : node.kind = .forStatement
  · exact .loop (.inl isLoop)
  have binds_of {declarator : Node} (binds : declarator.declaratorBinder? = some binder) :
      declarator.child? .name = some binder.target := by
    obtain ⟨target, bound, rfl⟩ := Option.map_eq_some_iff.1 binds
    exact bound
  rw [variableBinders, List.mem_append, List.filterMap_append, List.mem_append] at among
  rcases among with among | among | among <;>
    obtain ⟨declarator, declared, binds⟩ := List.mem_filterMap.1 among <;>
    obtain ⟨statement, stated, declared⟩ := List.mem_flatMap.1 declared
  · exact absurd (.variable holds isLoop stated declared (binds_of binds) named) unread
  · exact .ambient stated declared (binds_of binds) named
  · exact .inCase stated declared (binds_of binds) named

/-- **A name that is bound is bound in a form that is read or in one that is not.** -/
theorem bindsUnread_of_binding? {node : Node} {name : String} {binding : Binding}
    (bound : node.binding? name = some binding) (unread : ¬node.BindsRead name) :
    node.BindsUnread name := by
  rw [binding?] at bound
  split at bound
  · next binder found =>
    have isNamed := List.find?_some found
    have named : binder.target.text = name := eq_of_beq isNamed
    have among := List.mem_of_find?_eq_some found
    -- The name is the whole target of a binder: of a parameter, a variable, a loop or a handler.
    rw [binders] at found among
    split at found
    · exact bindsUnread_of_parameterBinders ‹_› unread found
    · split at found
      · rw [if_neg ‹_›, if_pos ‹_›] at among
        exact bindsUnread_of_variableBinders ‹_› unread among named
      · split at found
        · exact .loop (.inr ‹_›)
        · split at found
          · exact .handler ‹_›
          · cases found
  · next notWhole =>
    split at bound
    · next inside =>
      obtain ⟨binder, binds, inside⟩ := List.any_eq_true.1 inside
      have whole := List.find?_eq_none.1 notWhole binder binds
      exact .taken binds (List.contains_iff_mem.1 inside) (by simpa using whole)
    · cases bound

end Node

end Accord.Script
