import Accord.Proofs.Script.Node
import Accord.Proofs.Script.Scope
import Accord.Proofs.Script.Walk
import Mathlib.Logic.Relation

/-!
# `Accord.Proofs.Script.Alias`: names that lead to other names

A variable that is initialised with another name has the type of that name. `Leads` is a chain
of such names, all of them bound once in the tree, up to a binding with a type. The chain is
followed exactly when it is not longer than the limit, and a circle of such names ends without a
type.

Every step starts anew, from the scope of the variable instead of the place where its name is
used. `lookupWith_of_inside` makes one statement of all starting places: inside the scope of a
name that is bound once the walk comes to the binding. `lookup_of_leads` is then the induction
on the chain, for every number of names that may still be followed.

The type at the end may be one that the lookup does not read (`GivesUnreadType`): that of a rest
parameter, of a variable in a `declare` statement, or of a parameter of a generator in an
expression. Such a chain ends without a type, whatever its length.
-/

set_option autoImplicit false

namespace Accord.Script

/-! ### Names that are bound once -/

/-- Whether a binder binds a name. What is behind the dots of a rest parameter has a binder of its
own. -/
def Binder.binds (name : String) (binder : Binder) : Bool :=
  binder.target.text == name ||
    binder.target.kind ≠ .restPattern && binder.target.boundNames.contains name

/-- A binder whose target is the name binds it. -/
theorem Binder.binds_of_text {name : String} {binder : Binder} (h : binder.target.text = name) :
    binder.binds name = true := by
  rw [Binder.binds, h, beq_self_eq_true, Bool.true_or]

/-- The binders of a name in a tree, each with the place of its node. -/
def Node.bindersOf (root : Node) (name : String) : List (Place × Binder) :=
  root.walk.flatMap fun place =>
    (place.node.binders.filter (Binder.binds name)).map fun binder => (place, binder)

/-- A name has one binder in a tree. -/
def Node.BindsOnce (root : Node) (name : String) : Prop :=
  (root.bindersOf name).length = 1

/-- `bindersOf` lists the binders of a name with the places they stand at. -/
theorem Node.mem_bindersOf_iff {root : Node} {name : String} {place : Place} {binder : Binder} :
    (place, binder) ∈ root.bindersOf name ↔
      place ∈ root.walk ∧ binder ∈ place.node.binders ∧ binder.binds name = true := by
  simp only [Node.bindersOf, List.mem_flatMap, List.mem_map, List.mem_filter, Prod.mk.injEq]
  constructor
  · rintro ⟨_, visited, _, binds, rfl, rfl⟩
    exact ⟨visited, binds⟩
  · rintro ⟨visited, binds⟩
    exact ⟨_, visited, _, binds, rfl, rfl⟩

/-- A binder whose target is the name is among them. -/
theorem Node.mem_bindersOf_of_text {root : Node} {name : String} {place : Place} {binder : Binder}
    (visited : place ∈ root.walk) (member : binder ∈ place.node.binders)
    (named : binder.target.text = name) : (place, binder) ∈ root.bindersOf name :=
  Node.mem_bindersOf_iff.2 ⟨visited, member, Binder.binds_of_text named⟩

namespace Node.BindsOnce

variable {root node : Node} {name : String}

/-- Two binders of the name are one, at one place. -/
theorem eq {place place' : Place} {binder binder' : Binder} (once : root.BindsOnce name)
    (h : (place, binder) ∈ root.bindersOf name) (h' : (place', binder') ∈ root.bindersOf name) :
    place = place' ∧ binder = binder' := by
  obtain ⟨_, single⟩ := List.length_eq_one_iff.1 once
  rw [single, List.mem_singleton] at h h'
  exact Prod.mk.inj (h.trans h'.symm)

/-- No node has two binders of the name, one behind the other. -/
theorem not_two {place : Place} {front back : List Binder} {first second : Binder}
    (once : root.BindsOnce name) (visited : place ∈ root.walk)
    (binders : place.node.binders = front ++ back) (inFront : first ∈ front)
    (binds : first.binds name = true) (inBack : second ∈ back)
    (binds' : second.binds name = true) : False := by
  have two : 2 ≤ (place.node.binders.filter (Binder.binds name)).length := by
    have one := List.length_pos_of_mem (List.mem_filter.2 ⟨inFront, binds⟩)
    have other := List.length_pos_of_mem (List.mem_filter.2 ⟨inBack, binds'⟩)
    rw [binders, List.filter_append, List.length_append]
    omega
  -- The binders of the tree are at least those of this node.
  obtain ⟨before, after, split⟩ := List.append_of_mem visited
  have all : (root.bindersOf name).length = 1 := once
  rw [bindersOf, split, List.flatMap_append, List.flatMap_cons, List.length_append,
    List.length_append, List.length_map] at all
  omega

end Node.BindsOnce

/-! ### The walk to the only binder -/

/-- A name and the node that binds it, with the nodes around that. -/
structure Declaration where
  name : String
  node : Node
  outer : List Node

namespace Declaration

/-- The place of the node that binds the name. -/
def place (declaration : Declaration) : Place :=
  ⟨declaration.node, declaration.outer⟩

/-- The nodes from the one that binds the name outwards. -/
def scope (declaration : Declaration) : List Node :=
  declaration.node :: declaration.outer

end Declaration

/-- The nodes of a list stand around some place of a tree. -/
def Node.Around (root : Node) (above : List Node) : Prop :=
  ∀ node outer, node :: outer <:+ above → (⟨node, outer⟩ : Place) ∈ root.walk

/-- The nodes above a place of a tree enclose it. -/
theorem Node.around_of_mem_walk {root : Node} {place : Place} (visited : place ∈ root.walk) :
    root.Around place.above :=
  fun _ _ around => Node.mem_walk_of_suffix visited around

/-- A node of a place stands around what is in it, like the nodes around the place. -/
theorem Node.around_cons_of_mem_walk {root : Node} {place : Place} (visited : place ∈ root.walk) :
    root.Around (place.node :: place.above) := by
  intro node outer around
  rcases List.suffix_cons_iff.1 around with same | further
  · obtain ⟨rfl, rfl⟩ := List.cons.inj same
    exact visited
  · exact Node.mem_walk_of_suffix visited further

/-- The outer ones of them do too. -/
theorem Node.Around.of_suffix {root : Node} {above inner : List Node} (h : root.Around above)
    (suffix : inner <:+ above) : root.Around inner :=
  fun node outer around => h node outer (around.trans suffix)

variable {root : Node} {declaration other : Declaration} {above : List Node}
  {follow : String → List Node → Option Node}

/-- For a name that is bound once, the lookup can only end at the node that binds it. -/
theorem place_eq_of_answersFor {binder : Binder} {node : Node} {outer : List Node}
    (once : root.BindsOnce declaration.name)
    (bound : (declaration.place, binder) ∈ root.bindersOf declaration.name)
    (visited : (⟨node, outer⟩ : Place) ∈ root.walk)
    (answers : node.answersFor declaration.name = true) :
    node = declaration.node ∧ outer = declaration.outer := by
  obtain ⟨binder', member, named⟩ := Node.exists_binder_of_answersFor answers
  have bound' := Node.mem_bindersOf_of_text visited member named
  exact Place.mk.inj (once.eq bound' bound).1

/-- Inside the scope of a name that is bound once, the walk comes to its binder. -/
theorem lookupWith_of_inside {binder : Binder} (once : root.BindsOnce declaration.name)
    (bound : (declaration.place, binder) ∈ root.bindersOf declaration.name)
    (around : root.Around above) (inside : declaration.scope <:+ above) :
    lookupWith follow declaration.name above =
      lookupWith follow declaration.name declaration.scope := by
  induction above with
  | nil => cases List.suffix_nil.1 inside
  | cons node outer ih =>
    rcases List.suffix_cons_iff.1 inside with same | further
    · rw [same]
    · -- A node that answers would be the one that binds the name, which stands further out.
      have passed : node.answersFor declaration.name = false := by
        refine Bool.eq_false_iff.2 fun answers => ?_
        obtain ⟨-, rfl⟩ :=
          place_eq_of_answersFor once bound (around node outer List.suffix_rfl) answers
        exact absurd further.length_le (by simp [Declaration.scope])
      rw [lookupWith_cons_of_not_answersFor passed]
      exact ih (around.of_suffix (List.suffix_cons node outer)) further

/-- A name whose only binder is not read has no type. -/
theorem lookupWith_of_unread {binder : Binder} (once : root.BindsOnce declaration.name)
    (bound : (declaration.place, binder) ∈ root.bindersOf declaration.name)
    (around : root.Around declaration.scope)
    (unread : declaration.node.answersFor declaration.name = false) :
    lookupWith follow declaration.name declaration.scope = none := by
  refine lookupWith_eq_none fun node member => Bool.eq_false_iff.2 fun answers => ?_
  obtain ⟨inner, outer, split⟩ := List.append_of_mem member
  have visited := around node outer ⟨inner, split.symm⟩
  obtain ⟨rfl, -⟩ := place_eq_of_answersFor once bound visited answers
  rw [unread] at answers
  cases answers

/-! ### Variables and parameters -/

/-- A statement directly in a unit or a block declares a variable, exported or not. -/
structure Declares (scope : Node) (name : String) (declarator : Node) : Prop where
  isBlock : scope.kind = .program ∨ scope.kind = .statementBlock
  stated : ∃ statement ∈ scope.namedChildren, declarator ∈ statement.declarators
  named : ∃ target, declarator.child? .name = some target ∧ target.text = name

/-- What gives a name a type: an annotated variable, a variable initialised with a cast to a
type, or an annotated parameter. -/
inductive GivesType (node : Node) (name : String) (type : Node) : Prop where
  | annotation {declarator : Node} (declares : Declares node name declarator)
      (written : declarator.child? .type = some type)
  | cast {declarator value : Node} (declares : Declares node name declarator)
      (unwritten : declarator.child? .type = none)
      (initial : declarator.child? .value = some value) (isCast : value.kind = .asExpression)
      (target : value.castType? = some type)
  | parameter {parameter pattern : Node} (isFunction : node.isFunction = true)
      (listed : parameter ∈ node.parameterList)
      (binds : parameter.parameterBinder? = some ⟨pattern, .known type⟩)
      (named : pattern.text = name)

/-- What gives a name a type that is not read: the annotation of a rest parameter, of a variable
that is said to be declared elsewhere, or of a parameter of a generator in an expression. -/
inductive GivesUnreadType (node : Node) (name : String) (type : Node) : Prop where
  | rest {parameter target : Node} (isFunction : node.isFunction = true)
      (listed : parameter ∈ node.parameterList)
      (binds : parameter.restBinder? = some ⟨target, .known type⟩) (named : target.text = name)
  | ambient {statement declarator target : Node}
      (isBlock : node.kind = .program ∨ node.kind = .statementBlock)
      (stated : statement ∈ node.namedChildren)
      (declared : declarator ∈ statement.ambientDeclarators)
      (binds : declarator.child? .name = some target) (named : target.text = name)
      (written : declarator.child? .type = some type)
  | generator {parameter pattern : Node} (isGenerator : node.kind = .generatorFunction)
      (listed : parameter ∈ node.parameterList)
      (binds : parameter.parameterBinder? = some ⟨pattern, .known type⟩)
      (named : pattern.text = name)

/-- A variable without a type of its own is initialised with another name, which is declared in the
same scope or around it. -/
structure AliasOf (root : Node) (declaration other : Declaration) : Prop where
  once : root.BindsOnce declaration.name
  declares : ∃ declarator, Declares declaration.node declaration.name declarator ∧
    declarator.child? .type = none ∧
    ∃ value, declarator.child? .value = some value ∧ value.kind = .identifier ∧
      value.text = other.name
  around : other.scope <:+ declaration.scope

/-- A chain of so many aliases, from a name to one that gets its type from the node that binds
it. -/
inductive Leads (root : Node) (Ends : Node → String → Node → Prop) :
    Nat → Declaration → Node → Prop where
  | ends {declaration : Declaration} {type : Node} (once : root.BindsOnce declaration.name)
      (gives : Ends declaration.node declaration.name type) : Leads root Ends 0 declaration type
  | follow {length : Nat} {declaration other : Declaration} {type : Node}
      (step : AliasOf root declaration other) (rest : Leads root Ends length other type) :
      Leads root Ends (length + 1) declaration type

/-! ### Where a chain ends -/

/-- A program and a block are scopes. -/
theorem isScope_of_isBlock {node : Node} (h : node.kind = .program ∨ node.kind = .statementBlock) :
    node.isScope = true := by
  rcases h with kind | kind <;> rw [Node.isScope, kind] <;> rfl

/-- A declarator is among the binders of the scope it declares in. -/
theorem mem_binders_of_declares {name : String} {scope declarator : Node}
    (h : Declares scope name declarator) :
    ∃ target, (⟨target, .ofVariable declarator⟩ : Binder) ∈ scope.binders ∧ target.text = name := by
  obtain ⟨isBlock, ⟨statement, stated, declared⟩, target, binds, named⟩ := h
  refine ⟨target, ?_, named⟩
  rw [Node.binders_of_isScope (isScope_of_isBlock isBlock), Node.variableBinders]
  refine List.mem_append_left _ (List.mem_filterMap.2 ⟨declarator, ?_, ?_⟩)
  · rw [Node.declarators_eq_statedVariables] at declared
    exact List.mem_flatMap.2 ⟨statement, stated, declared⟩
  · rw [Node.declaratorBinder?, binds]
    rfl

/-- A variable that is the only one of its name is the one that is read, wherever the walk
starts in its scope. -/
theorem lookupWith_of_declares {declarator : Node} (once : root.BindsOnce declaration.name)
    (around : root.Around above) (inside : declaration.scope <:+ above)
    (declares : Declares declaration.node declaration.name declarator) :
    lookupWith follow declaration.name above =
      (Binding.ofDeclarator declarator).typeWith follow declaration.scope := by
  have visited := around declaration.node declaration.outer inside
  have isScope := isScope_of_isBlock declares.isBlock
  obtain ⟨target, member, named⟩ := mem_binders_of_declares declares
  have bound := Node.mem_bindersOf_of_text visited member named
  obtain ⟨found, declared⟩ :
      ∃ found, declaration.node.declarator? declaration.name = some found := by
    obtain ⟨-, ⟨statement, stated, declared⟩, target, binds, named⟩ := declares
    refine Option.isSome_iff_exists.1 (List.find?_isSome.2 ⟨declarator, ?_, ?_⟩)
    · exact List.mem_flatMap.2 ⟨statement, stated, declared⟩
    · rw [binds, Option.any_some, named, beq_self_eq_true]
  obtain ⟨target', first⟩ := Node.find?_binders_of_declarator? isScope declared
  have named' := List.find?_some first
  have bound' := Node.mem_bindersOf_of_text visited (List.mem_of_find?_eq_some first)
    (eq_of_beq named')
  have same : Binding.ofDeclarator found = Binding.ofDeclarator declarator := by
    rw [Binding.ofDeclarator_eq, Binding.ofDeclarator_eq]
    exact congrArg Binder.binding (once.eq bound' bound).2
  rw [lookupWith_of_inside once bound around inside, Declaration.scope,
    lookupWith_of_declarator? isScope declared, same]

/-- A parameter of a function is among its binders. -/
theorem mem_binders_of_parameterBinder? {function parameter : Node} {binder : Binder}
    (isFunction : function.takesParameters = true)
    (listed : parameter ∈ function.parameterList)
    (binds : parameter.parameterBinder? = some binder) : binder ∈ function.binders := by
  rw [Node.binders_of_takesParameters isFunction, Node.parameterBinders]
  exact List.mem_append_left _ (List.mem_filterMap.2 ⟨parameter, listed, binds⟩)

/-- An annotated parameter that is the only one of its name is the one that is read. -/
theorem parameterType?_of_binds {name : String} {function parameter pattern type : Node}
    {outer : List Node} (once : root.BindsOnce name)
    (visited : (⟨function, outer⟩ : Place) ∈ root.walk) (isFunction : function.isFunction = true)
    (listed : parameter ∈ function.parameterList)
    (binds : parameter.parameterBinder? = some ⟨pattern, .known type⟩)
    (named : pattern.text = name) :
    function.parameterType? name = some type := by
  have read : (⟨pattern, .known type⟩ : Binder) ∈
      function.parameterList.filterMap Node.parameterBinder? :=
    List.mem_filterMap.2 ⟨parameter, listed, binds⟩
  have among {binder : Binder}
      (member : binder ∈ function.parameterList.filterMap Node.parameterBinder?)
      (named : binder.target.text = name) : (⟨function, outer⟩, binder) ∈ root.bindersOf name := by
    refine Node.mem_bindersOf_of_text visited ?_ named
    rw [Node.binders_of_isFunction isFunction]
    exact List.mem_append_left _ member
  -- The search ends at a parameter of the name, and there is only one.
  obtain ⟨first, found⟩ : ∃ first, (function.parameterList.filterMap Node.parameterBinder?).find?
      (fun binder => binder.target.text == name) = some first :=
    Option.isSome_iff_exists.1 (List.find?_isSome.2 ⟨_, read, beq_iff_eq.2 named⟩)
  have isNamed := List.find?_some found
  obtain ⟨-, rfl⟩ := once.eq (among (List.mem_of_find?_eq_some found) (eq_of_beq isNamed))
    (among read named)
  exact Node.parameterType?_of_find? found

/-- At the end of a chain the walk gives the type. -/
theorem lookupWith_of_givesType {type : Node} (once : root.BindsOnce declaration.name)
    (around : root.Around above) (inside : declaration.scope <:+ above)
    (types : GivesType declaration.node declaration.name type) :
    lookupWith follow declaration.name above = some type := by
  cases types with
  | annotation declares written =>
    rw [lookupWith_of_declares once around inside declares, Binding.ofDeclarator, written]
    rfl
  | cast declares unwritten initial isCast target =>
    rw [lookupWith_of_declares once around inside declares, Binding.ofDeclarator, unwritten]
    simp only [initial, isCast, if_true, target]
    rfl
  | parameter isFunction listed binds named =>
    have visited := around declaration.node declaration.outer inside
    have member :=
      mem_binders_of_parameterBinder? (Node.isFunction_iff.1 isFunction).1 listed binds
    have bound := Node.mem_bindersOf_of_text visited member named
    rw [lookupWith_of_inside once bound around inside, Declaration.scope]
    exact lookupWith_of_parameterType? isFunction
      (parameterType?_of_binds once visited isFunction listed binds named)

/-- A binder behind those that are read is not read: it is the only one of its name. -/
theorem unread_of_behind {name : String} {node : Node} {outer : List Node}
    {front back : List Binder}
    {binder : Binder} (once : root.BindsOnce name) (visited : (⟨node, outer⟩ : Place) ∈ root.walk)
    (split : node.binders = front ++ back) (behind : binder ∈ back)
    (named : binder.target.text = name)
    (read : node.answersFor name = true → ∃ first ∈ front, first.target.text = name) :
    node.answersFor name = false ∧ ∃ binder, (⟨node, outer⟩, binder) ∈ root.bindersOf name := by
  constructor
  · refine Bool.eq_false_iff.2 fun answers => ?_
    obtain ⟨first, inFront, named'⟩ := read answers
    exact once.not_two visited split inFront (Binder.binds_of_text named') behind
      (Binder.binds_of_text named)
  · exact ⟨binder,
      Node.mem_bindersOf_of_text visited (split ▸ List.mem_append_right _ behind) named⟩

/-- The lookup does not end at a node whose type for the name is not read, although the node binds
the name. -/
theorem unread_of_givesUnreadType {name : String} {node type : Node} {outer : List Node}
    (once : root.BindsOnce name) (visited : (⟨node, outer⟩ : Place) ∈ root.walk)
    (unread : GivesUnreadType node name type) :
    node.answersFor name = false ∧ ∃ binder, (⟨node, outer⟩, binder) ∈ root.bindersOf name := by
  cases unread with
  | @rest parameter target isFunction listed binds named =>
    -- The rest parameter comes behind the parameters that are read, and the name is bound once.
    have behind : (⟨target, .known type⟩ : Binder) ∈
        node.parameterList.filterMap Node.restBinder? ++
          node.loneParameters.map fun name => ⟨name, .unknown⟩ :=
      List.mem_append_left _ (List.mem_filterMap.2 ⟨parameter, listed, binds⟩)
    exact unread_of_behind once visited (Node.binders_of_isFunction isFunction) behind named
      (Node.exists_parameterBinder_of_answersFor isFunction)
  | @ambient statement declarator target isBlock stated declared binds named written =>
    have isScope := isScope_of_isBlock isBlock
    have behind : (⟨target, .ofVariable declarator⟩ : Binder) ∈
        (node.namedChildren.flatMap Node.ambientDeclarators ++
          node.namedChildren.flatMap Node.caseDeclarators).filterMap Node.declaratorBinder? := by
      refine List.mem_filterMap.2 ⟨declarator, List.mem_append_left _ ?_, ?_⟩
      · exact List.mem_flatMap.2 ⟨statement, stated, declared⟩
      · rw [Node.declaratorBinder?, binds]
        rfl
    exact unread_of_behind once visited (Node.binders_of_isScope isScope) behind named
      (Node.exists_declaratorBinder_of_answersFor isScope)
  | @generator parameter pattern isGenerator listed binds named =>
    have takes : node.takesParameters = true := by rw [Node.takesParameters, isGenerator]; rfl
    have member := mem_binders_of_parameterBinder? takes listed binds
    refine ⟨?_, _, Node.mem_bindersOf_of_text visited member named⟩
    rw [Node.answersFor, Node.isFunction, Node.isScope, isGenerator]
    rfl

/-- At the end of a chain with a type that is not read there is none. -/
theorem lookupWith_of_givesUnreadType {type : Node} (once : root.BindsOnce declaration.name)
    (around : root.Around above) (inside : declaration.scope <:+ above)
    (unread : GivesUnreadType declaration.node declaration.name type) :
    lookupWith follow declaration.name above = none := by
  have visited := around declaration.node declaration.outer inside
  obtain ⟨passed, _, bound⟩ := unread_of_givesUnreadType once visited unread
  rw [lookupWith_of_inside once bound around inside]
  exact lookupWith_of_unread once bound (around.of_suffix inside) passed

/-! ### Following a chain -/

/-- One step: at an alias the walk goes on with the other name, from the scope of the variable. -/
theorem lookupWith_of_aliasOf (step : AliasOf root declaration other) (around : root.Around above)
    (inside : declaration.scope <:+ above) :
    lookupWith follow declaration.name above = follow other.name declaration.scope := by
  obtain ⟨declarator, declares, unwritten, value, initial, isName, named⟩ := step.declares
  rw [lookupWith_of_declares step.once around inside declares, Binding.ofDeclarator, unwritten]
  simp [initial, isName, named, Binding.typeWith]

/-- A chain is followed when it is not longer than the number of names that may be followed,
whatever its end gives. The induction is on the chain, for all starting places and all such
numbers. -/
theorem lookup_of_leads {Ends : Node → String → Node → Prop} (result : Node → Option Node)
    (atEnd : ∀ {declaration : Declaration} {type : Node} {above : List Node}
      {follow : String → List Node → Option Node}, root.BindsOnce declaration.name →
      Ends declaration.node declaration.name type → root.Around above →
      declaration.scope <:+ above → lookupWith follow declaration.name above = result type)
    {length : Nat} {type : Node} (leads : Leads root Ends length declaration type)
    (follows : Nat) (around : root.Around above) (inside : declaration.scope <:+ above) :
    lookup follows declaration.name above = if length ≤ follows then result type else none := by
  induction leads generalizing follows above with
  | ends once gives =>
    rw [if_pos (Nat.zero_le follows)]
    cases follows <;> exact atEnd once gives around inside
  | @follow length declaration other type step rest ih =>
    cases follows with
    | zero =>
      rw [lookup, lookupWith_of_aliasOf step around inside, if_neg (Nat.not_succ_le_zero length)]
    | succ follows =>
      rw [lookup, lookupWith_of_aliasOf step around inside,
        ih follows (around.of_suffix inside) step.around]
      simp only [Nat.succ_le_succ_iff]

/-- A chain to a type that is read gives this type. -/
theorem lookup_of_leads_type {length : Nat} {type : Node}
    (leads : Leads root GivesType length declaration type) (follows : Nat)
    (around : root.Around above)
    (inside : declaration.scope <:+ above) :
    lookup follows declaration.name above = if length ≤ follows then some type else none :=
  lookup_of_leads some
    (fun once gives around inside => lookupWith_of_givesType once around inside gives)
    leads follows around
    inside

/-- A chain to a type that is not read gives none. -/
theorem lookup_of_leads_unread {length : Nat} {type : Node}
    (leads : Leads root GivesUnreadType length declaration type) (follows : Nat)
    (around : root.Around above) (inside : declaration.scope <:+ above) :
    lookup follows declaration.name above = none := by
  have ended := lookup_of_leads (fun _ => none)
    (fun once gives around inside => lookupWith_of_givesUnreadType once around inside gives)
    leads follows
    around inside
  rwa [ite_self] at ended

/-- A circle of aliases has no type. The induction is on the number of names that may be
followed. -/
theorem lookup_of_circle (follows : Nat)
    (circle : Relation.TransGen (AliasOf root) declaration declaration)
    (around : root.Around above) (inside : declaration.scope <:+ above) :
    lookup follows declaration.name above = none := by
  induction follows generalizing declaration above with
  | zero =>
    obtain ⟨other, step, -⟩ := Relation.TransGen.head'_iff.1 circle
    rw [lookup, lookupWith_of_aliasOf step around inside]
  | succ follows ih =>
    obtain ⟨other, step, rest⟩ := Relation.TransGen.head'_iff.1 circle
    rw [lookup, lookupWith_of_aliasOf step around inside]
    -- The next name is on the circle too: the circle goes on from it.
    exact ih (Relation.TransGen.tail' rest step) (around.of_suffix inside) step.around

/-- **Aliases are followed up to the limit, and circles end**: at a place in the scope of a name
that leads through a chain of aliases to a type, the name has this type when there are at most
eight of them, and none when there are more. A chain to a type that is not read, and a circle,
give none. -/
theorem declaredType?_of_aliases {root : Node} {use : Place} (visited : use ∈ root.walk)
    {declaration : Declaration} (inside : declaration.scope <:+ use.above) :
    (∀ length type, Leads root GivesType length declaration type →
      declaredType? declaration.name use.above = if length ≤ 8 then some type else none) ∧
    (∀ length type, Leads root GivesUnreadType length declaration type →
      declaredType? declaration.name use.above = none) ∧
    (Relation.TransGen (AliasOf root) declaration declaration →
      declaredType? declaration.name use.above = none) := by
  have around := Node.around_of_mem_walk visited
  exact ⟨fun length type leads => lookup_of_leads_type leads aliasLimit around inside,
    fun length type leads => lookup_of_leads_unread leads aliasLimit around inside,
    fun circle => lookup_of_circle aliasLimit circle around inside⟩

/-! ### A unit with a chain and a circle -/

/-- A variable that is initialised with another name. -/
def aliasStatement (name other : String) : Node :=
  .mk .lexicalDeclaration none "\n" ""
    [.leaf .token "" "const",
      .mk .variableDeclarator none " " ""
        [.mk .identifier (some .name) "" name [], .leaf .token " " "=",
          .mk .identifier (some .value) " " other []]]

/-- An annotation with the name of a type. -/
def ascribedName (type : String) : Node :=
  Node.ascribed (.leaf .typeIdentifier " " type)

/-- The parameters. -/
def savingParameters : Node :=
  .mk .formalParameters (some .parameters) "" ""
    [.leaf .token "" "(",
      .mk .requiredParameter none "" ""
        [.mk .identifier (some .pattern) "" "user" [], ascribedName "User"],
      .leaf .token "" ",",
      .mk .requiredParameter none " " ""
        [.mk .restPattern (some .pattern) "" ""
          [.leaf .token "" "...", .leaf .identifier "" "others"],
          ascribedName "Users"],
      .leaf .token "" ")"]

/-- The use of a name. -/
def savedName : Node :=
  .leaf .identifier "" "saved"

/-- The statement with the use. -/
def savingStatement : Node :=
  .mk .expressionStatement none "\n" "" [savedName]

/-- The body of the function: two variables that lead to the parameters. -/
def savingBlock : Node :=
  .mk .statementBlock (some .body) " " ""
    [.leaf .token "" "\x7b", aliasStatement "copy" "user", aliasStatement "saved" "copy",
      aliasStatement "rest" "others", savingStatement, .leaf .token "\n" "\x7d"]

/-- The function. -/
def savingFunction : Node :=
  .mk .functionDeclaration none "\n" ""
    [.leaf .token "" "function", .mk .identifier (some .name) " " "save" [], savingParameters,
      savingBlock]

/-- The unit: the function stands behind two variables that lead to each other. -/
def savingTree : Node :=
  .mk .program none "" ""
    [aliasStatement "left" "right", aliasStatement "right" "left", savingFunction]

/-- The place of the use. -/
def savedPlace : Place :=
  ⟨savedName, [savingStatement, savingBlock, savingFunction, savingTree]⟩

/-- Such a statement in a unit or a block is one step of a chain. -/
theorem aliasOf_of_mem {root : Node} {declaration other : Declaration}
    (once : root.BindsOnce declaration.name)
    (isBlock : declaration.node.kind = .program ∨ declaration.node.kind = .statementBlock)
    (stated : aliasStatement declaration.name other.name ∈ declaration.node.namedChildren)
    (around : other.scope <:+ declaration.scope) : AliasOf root declaration other where
  once := once
  declares := by
    refine ⟨_, ⟨isBlock, ⟨_, stated, List.mem_singleton_self _⟩, _, rfl, String.append_empty⟩,
      rfl, ?_⟩
    exact ⟨_, rfl, rfl, String.append_empty⟩
  around := around

/-- What the function binds. -/
def inSaving (name : String) : Declaration :=
  ⟨name, savingFunction, [savingTree]⟩

/-- What the body of the function binds. -/
def inSavingBlock (name : String) : Declaration :=
  ⟨name, savingBlock, [savingFunction, savingTree]⟩

/-- What the unit binds. -/
def inSavingTree (name : String) : Declaration :=
  ⟨name, savingTree, []⟩

/-- The use of the variable is a place of the tree. -/
theorem savedPlace_mem_walk : savedPlace ∈ savingTree.walk := by
  rw [Node.walk_eq_places]
  exact List.mem_of_getElem? (i := 53) rfl

/-- Every name of the tree is bound once. -/
theorem bindsOnce_savingTree :
    ∀ name ∈ ["user", "others", "copy", "saved", "rest", "left", "right"],
      savingTree.BindsOnce name := by
  simp only [List.mem_cons, List.not_mem_nil, or_false, forall_eq_or_imp, forall_eq, Node.BindsOnce,
    Node.bindersOf, Node.walk_eq_places]
  exact ⟨rfl, rfl, rfl, rfl, rfl, rfl, rfl⟩

/-- In the function a name leads through another variable to the type of the parameter, and one
to the rest parameter, whose type is not read. The two variables of the unit lead nowhere. -/
theorem declaredType?_saved :
    declaredType? "saved" savedPlace.above = some (ascribedName "User") ∧
    declaredType? "rest" savedPlace.above = none ∧
    declaredType? "left" savedPlace.above = none := by
  have once := bindsOnce_savingTree
  have saved : AliasOf savingTree (inSavingBlock "saved") (inSavingBlock "copy") :=
    aliasOf_of_mem (once "saved" (by decide)) (.inr rfl) (List.mem_of_getElem? (i := 1) rfl)
      List.suffix_rfl
  have copy : AliasOf savingTree (inSavingBlock "copy") (inSaving "user") :=
    aliasOf_of_mem (once "copy" (by decide)) (.inr rfl) (List.mem_of_getElem? (i := 0) rfl)
      (List.suffix_cons _ _)
  have rest : AliasOf savingTree (inSavingBlock "rest") (inSaving "others") :=
    aliasOf_of_mem (once "rest" (by decide)) (.inr rfl) (List.mem_of_getElem? (i := 2) rfl)
      (List.suffix_cons _ _)
  have left : AliasOf savingTree (inSavingTree "left") (inSavingTree "right") :=
    aliasOf_of_mem (once "left" (by decide)) (.inl rfl) (List.mem_of_getElem? (i := 0) rfl)
      List.suffix_rfl
  have right : AliasOf savingTree (inSavingTree "right") (inSavingTree "left") :=
    aliasOf_of_mem (once "right" (by decide)) (.inl rfl) (List.mem_of_getElem? (i := 1) rfl)
      List.suffix_rfl
  -- The parameter has its type in the list of the function; the rest parameter has one that is
  -- passed over.
  have user : GivesType savingFunction "user" (ascribedName "User") :=
    .parameter rfl (List.mem_of_getElem? (i := 0) rfl) rfl String.append_empty
  have others : GivesUnreadType savingFunction "others" (ascribedName "Users") :=
    .rest rfl (List.mem_of_getElem? (i := 1) rfl) rfl String.append_empty
  have inBlock (name : String) : (inSavingBlock name).scope <:+ savedPlace.above :=
    ⟨[savingStatement], rfl⟩
  have inUnit (name : String) : (inSavingTree name).scope <:+ savedPlace.above :=
    ⟨[savingStatement, savingBlock, savingFunction], rfl⟩
  -- One chain ends at a type, one at a type that is not read, and one goes round.
  refine ⟨?_, ?_, ?_⟩
  · exact (declaredType?_of_aliases savedPlace_mem_walk (inBlock "saved")).1 _ _
      (.follow saved (.follow copy (.ends (once "user" (by decide)) user)))
  · exact (declaredType?_of_aliases savedPlace_mem_walk (inBlock "rest")).2.1 _ _
      (.follow rest (.ends (once "others" (by decide)) others))
  · exact (declaredType?_of_aliases savedPlace_mem_walk (inUnit "left")).2.2
      (.tail (.single left) right)

end Accord.Script
