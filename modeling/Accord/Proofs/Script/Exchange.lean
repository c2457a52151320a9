import Accord.Proofs.Aligned
import Accord.Proofs.Script.Frame
import Accord.Script.Scope

/-!
# `Accord.Proofs.Script.Exchange`: trees that differ in one list of arguments

`DifferIn` says of two trees that one has a list of arguments where the other has another one,
and are the same elsewhere. The way from the top of the tree to the arguments leads through no
name and no string, and into a template through a slot only (`Frame.CanHold`).

Everything that is read from trees on the way to the type of a name comes out alike on such
trees, step by step: children, declared variables and parameters, and from them what a name is
declared with (`rel_lookup`).
-/

set_option autoImplicit false

namespace Accord.Script

/-- The kinds of nodes that no list of arguments stands in: names and strings. -/
def closedKinds : List Kind :=
  [.string, .identifier, .typeIdentifier, .nestedTypeIdentifier, .predefinedType]

/-- A frame that may be around a list of arguments, by way of a child of this kind. -/
structure Frame.CanHold (frame : Frame) (child : Kind) : Prop where
  isOpen : frame.kind ∉ closedKinds
  inSlot : frame.kind = .templateString → child = .templateSubstitution

/-- A list of arguments in parentheses. -/
structure IsArgumentList (node : Node) : Prop where
  kind : node.kind = .arguments
  role : node.role = some .arguments
  opens : '(' ∈ node.text.toList

/-- Two lists of arguments that may stand in the place of each other. -/
structure Exchangeable (given given' : Node) : Prop where
  first : IsArgumentList given
  second : IsArgumentList given'
  gap : given.gap = given'.gap

/-- The two lists of arguments may change places. -/
theorem Exchangeable.symm {given given' : Node} (lists : Exchangeable given given') :
    Exchangeable given' given :=
  ⟨lists.second, lists.first, lists.gap.symm⟩

/-- Two trees differ in a list of arguments: one has `given` where the other has `given'`. -/
inductive DifferIn (given given' : Node) : Node → Node → Prop
  | here : DifferIn given given' given given'
  | inside (frame : Frame) {node node' : Node} (canHold : frame.CanHold node.kind)
      (inner : DifferIn given given' node node') :
      DifferIn given given' (frame.fill node) (frame.fill node')

/-- Two trees are the same or differ in a list of arguments. -/
def AgreeUpTo (given given' node node' : Node) : Prop :=
  node = node' ∨ DifferIn given given' node node'

variable {given given' node node' : Node}

/-! ### One node -/

/-- A character in the text of a node is one in the text of several nodes with it. -/
theorem Node.mem_textAll_of_mem {nodes : List Node} {c : Char} (member : node ∈ nodes)
    (inside : c ∈ node.text.toList) : c ∈ (Node.textAll nodes).toList := by
  induction nodes with
  | nil => cases member
  | cons first rest ih =>
    rw [Node.textAll, String.toList_append, String.toList_append, List.mem_append, List.mem_append]
    rcases List.mem_cons.1 member with rfl | later
    · exact .inl (.inr inside)
    · exact .inr (ih later)

namespace DifferIn

/-- Nodes that differ in the arguments only are of one kind. -/
theorem kind_eq (lists : Exchangeable given given') (differ : DifferIn given given' node node') :
    node.kind = node'.kind := by
  cases differ with
  | here => rw [lists.first.kind, lists.second.kind]
  | inside => rfl

/-- They have one role. -/
theorem role_eq (lists : Exchangeable given given') (differ : DifferIn given given' node node') :
    node.role = node'.role := by
  cases differ with
  | here => rw [lists.first.role, lists.second.role]
  | inside => rfl

/-- They have one gap. -/
theorem gap_eq (lists : Exchangeable given given') (differ : DifferIn given given' node node') :
    node.gap = node'.gap := by
  cases differ with
  | here => exact lists.gap
  | inside => rfl

/-- Differing in the arguments goes both ways. -/
theorem symm (lists : Exchangeable given given') (differ : DifferIn given given' node node') :
    DifferIn given' given node' node := by
  induction differ with
  | here => exact .here
  | inside frame canHold inner ih => exact .inside frame (inner.kind_eq lists ▸ canHold) ih

/-- No name and no string is around the arguments. -/
theorem not_mem_closedKinds (lists : Exchangeable given given')
    (differ : DifferIn given given' node node') : node.kind ∉ closedKinds := by
  cases differ with
  | here =>
    rw [lists.first.kind]
    decide
  | inside frame canHold => exact canHold.isOpen

/-- The text of a tree around the arguments has their parenthesis. -/
theorem mem_text (lists : Exchangeable given given') (differ : DifferIn given given' node node') :
    '(' ∈ node.text.toList ∧ '(' ∈ node'.text.toList := by
  have around : ∀ (frame : Frame) (child : Node), '(' ∈ child.text.toList →
      '(' ∈ (frame.fill child).text.toList := by
    intro frame child inside
    rw [Frame.fill, Node.text, String.toList_append, List.mem_append]
    exact .inr (Node.mem_textAll_of_mem (frame.mem_children_fill child) inside)
  induction differ with
  | here => exact ⟨lists.first.opens, lists.second.opens⟩
  | inside frame canHold inner ih => exact ⟨around frame _ ih.1, around frame _ ih.2⟩

end DifferIn

/-- A node that is no list of arguments of a call. -/
def Node.IsOuter (node : Node) : Prop :=
  node.kind = .arguments → node.role ≠ some .arguments

namespace AgreeUpTo

variable (lists : Exchangeable given given') (agree : AgreeUpTo given given' node node')
include lists agree

/-- Nodes that agree up to the arguments are of one kind. -/
theorem kind_eq : node.kind = node'.kind := by
  rcases agree with rfl | differ
  · rfl
  · exact differ.kind_eq lists

/-- They have one role. -/
theorem role_eq : node.role = node'.role := by
  rcases agree with rfl | differ
  · rfl
  · exact differ.role_eq lists

/-- They are both named or both unnamed. -/
theorem isNamed_eq : node.isNamed = node'.isNamed := by
  rw [Node.isNamed, Node.isNamed, agree.kind_eq lists]

/-- Names and strings are the same. -/
theorem eq_of_mem_closedKinds (isClosed : node.kind ∈ closedKinds) : node = node' := by
  rcases agree with same | differ
  · exact same
  · exact absurd isClosed (differ.not_mem_closedKinds lists)

/-- A name without a parenthesis is the text of both or of none. -/
theorem text_beq {name : String} (plain : '(' ∉ name.toList) :
    (node.text == name) = (node'.text == name) := by
  rcases agree with rfl | differ
  · rfl
  · obtain ⟨opens, opens'⟩ := differ.mem_text lists
    have other : ∀ {text : String}, '(' ∈ text.toList → (text == name) = false := by
      intro text opens
      refine beq_false_of_ne ?_
      rintro rfl
      exact plain opens
    rw [other opens, other opens']

/-! ### Children -/

/-- Outside the arguments the children agree. -/
theorem forall₂_children (outer : node.IsOuter) :
    node.children.Forall₂ (AgreeUpTo given given') node'.children := by
  have same : ∀ nodes : List Node, nodes.Forall₂ (AgreeUpTo given given') nodes :=
    fun nodes => List.forall₂_same.2 fun _ _ => .inl rfl
  rcases agree with rfl | differ
  · exact same node.children
  · cases differ with
    | here => exact absurd lists.first.role (outer lists.first.kind)
    | inside frame canHold inner =>
      exact List.rel_append (same frame.before) (.cons (.inr inner) (same frame.after))

/-- Their named children agree one by one, unless they are the lists of arguments. -/
theorem forall₂_namedChildren (outer : node.IsOuter) :
    node.namedChildren.Forall₂ (AgreeUpTo given given') node'.namedChildren :=
  forall₂_filter (fun _ _ both => both.isNamed_eq lists) (agree.forall₂_children lists outer)

/-- Their children in a role agree. -/
theorem rel_child? (outer : node.IsOuter) (role : Role) :
    Option.Rel (AgreeUpTo given given') (node.child? role) (node'.child? role) :=
  -- A child is found by its role, and the exchange changes none.
  rel_find? (fun _ _ both => by rw [both.role_eq lists]) (agree.forall₂_children lists outer)

/-- Their first children of a kind agree. -/
theorem rel_childOfKind? (outer : node.IsOuter) (kinds : List Kind) :
    Option.Rel (AgreeUpTo given given') (node.childOfKind? kinds) (node'.childOfKind? kinds) :=
  rel_find? (fun _ _ both => by rw [both.kind_eq lists]) (agree.forall₂_namedChildren lists outer)

end AgreeUpTo

/-- A node of another kind is no list of arguments. -/
theorem Node.IsOuter.of_kind {kind : Kind} (isKind : node.kind = kind) (other : kind ≠ .arguments) :
    node.IsOuter :=
  fun isArguments => absurd (isKind.symm.trans isArguments) other

/-- A child in another role is no list of arguments. -/
theorem Node.IsOuter.of_child? {parent : Node} {role : Role}
    (found : parent.child? role = some node)
    (other : role ≠ .arguments) : node.IsOuter := by
  have played := List.find?_some found
  intro _ isArguments
  rw [isArguments] at played
  simp [other.symm] at played

/-! ### Declarations -/

/-- What a statement declares variables by is a declarator. -/
theorem Node.kind_of_mem_declarators {statement declarator : Node}
    (declared : declarator ∈ statement.declarators) : declarator.kind = .variableDeclarator := by
  rw [declarators] at declared
  split at declared
  · split at declared
    · exact of_decide_eq_true (List.mem_filter.1 declared).2
    · cases declared
  · cases declared

namespace AgreeUpTo

variable (lists : Exchangeable given given') (agree : AgreeUpTo given given' node node')
include lists agree

/-- Both are statements that declare variables, or neither is. -/
theorem isVariableStatement_eq : node.isVariableStatement = node'.isVariableStatement := by
  rw [Node.isVariableStatement, Node.isVariableStatement, agree.kind_eq lists]

/-- Both are functions, or neither is. -/
theorem isFunction_eq : node.isFunction = node'.isFunction := by
  rw [Node.isFunction, Node.isFunction, agree.kind_eq lists]

/-- Both are scopes, or neither is. -/
theorem isScope_eq : node.isScope = node'.isScope := by
  rw [Node.isScope, Node.isScope, agree.kind_eq lists]

/-- What two statements export agrees. -/
theorem rel_exported? :
    Option.Rel (AgreeUpTo given given') node.exported? node'.exported? := by
  rw [Node.exported?, Node.exported?, ← agree.kind_eq lists]
  split
  · next isExport => exact agree.rel_child? lists (.of_kind isExport (by decide)) .declaration
  · exact .some agree

/-- The declarators of two statements agree one by one. -/
theorem forall₂_declarators :
    node.declarators.Forall₂ (AgreeUpTo given given') node'.declarators := by
  have exported := agree.rel_exported? lists
  rw [Node.declarators, Node.declarators]
  generalize node.exported? = found at exported
  generalize node'.exported? = found' at exported
  cases exported with
  | none => exact .nil
  | @some declaration declaration' both =>
    simp only [← both.isVariableStatement_eq lists]
    split
    · next isVariable =>
      -- A statement that declares variables is no list of arguments.
      have outer : declaration.IsOuter := by
        intro isArguments
        simp [Node.isVariableStatement, isArguments] at isVariable
      exact forall₂_filter (fun _ _ child => by rw [child.kind_eq lists])
        (both.forall₂_namedChildren lists outer)
    · exact .nil

/-- The types of two casts agree. -/
theorem rel_castType? (outer : node.IsOuter) :
    Option.Rel (AgreeUpTo given given') node.castType? node'.castType? := by
  have members := agree.forall₂_namedChildren lists outer
  rw [Node.castType?, Node.castType?, ← members.length_eq]
  split
  · exact rel_getLast? members
  · exact .none

variable {name : String} (plain : '(' ∉ name.toList)
include plain

/-- A child in a role has the text of the name on both sides or on neither. -/
theorem any_text_beq {role : Role} (outer : node.IsOuter) :
    (node.child? role).any (fun found => found.text == name) =
      (node'.child? role).any fun found => found.text == name :=
  any_eq_of_rel (fun _ _ both => both.text_beq lists plain) (agree.rel_child? lists outer role)

/-- The types of the parameter of a name agree, since no parameter is a list of arguments. -/
theorem rel_parameterType? (isFunction : node.isFunction = true) :
    Option.Rel (AgreeUpTo given given') (node.parameterType? name) (node'.parameterType? name) := by
  have outer : node.IsOuter := by
    intro isArguments
    simp [Node.isFunction, isArguments] at isFunction
  refine rel_bind (fun parameters found parameters' list => ?_)
    (agree.rel_child? lists outer .parameters)
  have isParameter : ∀ parameter : Node,
      [Kind.requiredParameter, .optionalParameter].contains parameter.kind = true →
      parameter.IsOuter := by
    intro parameter isParameter isArguments
    simp [isArguments] at isParameter
  -- The first parameter with the name is at the same place on both sides.
  refine rel_bind (fun parameter found' parameter' both => ?_)
    (rel_find?_of_mem (fun parameter _ parameter' both => ?_)
      (list.forall₂_namedChildren lists (.of_child? found (by decide))))
  · have isNamed := List.find?_some found'
    exact both.rel_child? lists (isParameter _ (Bool.and_eq_true_iff.1 isNamed).1) .type
  · rw [← both.kind_eq lists]
    cases kind : [Kind.requiredParameter, .optionalParameter].contains parameter.kind with
    | false => rfl
    | true => exact both.any_text_beq lists plain (isParameter _ kind)

/-- The declarators of a name agree. -/
theorem rel_declarator? (isScope : node.isScope = true) :
    Option.Rel (AgreeUpTo given given') (node.declarator? name) (node'.declarator? name) := by
  have outer : node.IsOuter := by
    intro isArguments
    simp [Node.isScope, isArguments] at isScope
  refine rel_find?_of_mem (fun declarator member declarator' both => ?_)
    (List.rel_flatMap (agree.forall₂_namedChildren lists outer)
      fun {_ _} statement => statement.forall₂_declarators lists)
  -- The name of a declarator is compared as text, which the exchange may change only if it is a
  -- call.
  obtain ⟨statement, -, declared⟩ := List.mem_flatMap.1 member
  exact both.any_text_beq lists plain
    (.of_kind (Node.kind_of_mem_declarators declared) (by decide))

end AgreeUpTo

/-! ### Names -/

namespace Node

/-- A node is in its own tree. -/
theorem mem_preorder_self (node : Node) : node ∈ node.preorder := by
  rw [preorder_eq]
  exact List.mem_cons_self

/-- What is below a child is below the node. -/
theorem mem_preorder_of_mem_children {node child below : Node} (isChild : child ∈ node.children)
    (inside : below ∈ child.preorder) : below ∈ node.preorder := by
  rw [preorder_eq]
  exact List.mem_cons_of_mem _ (List.mem_flatMap.2 ⟨child, isChild, inside⟩)

/-- The names in a tree have no parenthesis. -/
def NamesPlain (node : Node) : Prop :=
  ∀ below ∈ node.preorder, below.kind = .identifier → '(' ∉ below.text.toList

namespace NamesPlain

variable {node child : Node} (plain : node.NamesPlain)
include plain

/-- A name without a bracket is no call. -/
theorem self (isName : node.kind = .identifier) : '(' ∉ node.text.toList :=
  plain node node.mem_preorder_self isName

/-- Plain names are plain in each child. -/
theorem of_mem (isChild : child ∈ node.children) : child.NamesPlain :=
  fun below inside => plain below (mem_preorder_of_mem_children isChild inside)

/-- They are plain in each named child. -/
theorem of_mem_named (isChild : child ∈ node.namedChildren) : child.NamesPlain :=
  plain.of_mem (mem_children_of_mem_namedChildren isChild)

/-- They are plain in the child of a role. -/
theorem of_child? {role : Role} (found : node.child? role = some child) : child.NamesPlain :=
  plain.of_mem (List.mem_of_find?_eq_some found)

/-- They are plain in each declarator. -/
theorem of_mem_declarators (declared : child ∈ node.declarators) : child.NamesPlain := by
  rw [declarators] at declared
  split at declared
  · next declaration exported =>
    have inDeclaration : declaration.NamesPlain := by
      rw [exported?] at exported
      split at exported
      · exact plain.of_child? exported
      · exact Option.some.inj exported ▸ plain
    split at declared
    · exact inDeclaration.of_mem_named (List.mem_filter.1 declared).1
    · cases declared
  · cases declared

/-- They are plain in the declarator of a name. -/
theorem of_declarator? {name : String} (found : node.declarator? name = some child) :
    child.NamesPlain := by
  obtain ⟨statement, isStatement, declared⟩ := List.mem_flatMap.1 (List.mem_of_find?_eq_some found)
  exact (plain.of_mem_named isStatement).of_mem_declarators declared

end NamesPlain

end Node

/-! ### What a name is declared with -/

/-- Two bindings say the same up to the arguments. -/
inductive Binding.AgreeUpTo (given given' : Node) : Binding → Binding → Prop
  | known {type type' : Node} (agree : Script.AgreeUpTo given given' type type') :
      AgreeUpTo given given' (.known type) (.known type')
  | sameAs {name : String} (plain : '(' ∉ name.toList) :
      AgreeUpTo given given' (.sameAs name) (.sameAs name)
  | unknown : AgreeUpTo given given' .unknown .unknown

section Lookup

variable (lists : Exchangeable given given')
include lists

/-- Declarators that agree bind alike: by their type, by the type of a cast, or as another name. -/
theorem AgreeUpTo.binding (agree : AgreeUpTo given given' node node')
    (isDeclarator : node.kind = .variableDeclarator) (plain : node.NamesPlain) :
    Binding.AgreeUpTo given given' (.ofDeclarator node) (.ofDeclarator node') := by
  have outer : node.IsOuter := .of_kind isDeclarator (by decide)
  rw [Binding.ofDeclarator, Binding.ofDeclarator]
  rcases rel_iff.1 (agree.rel_child? lists outer .type) with
    ⟨untyped, untyped'⟩ | ⟨ascription, ascription', typed, typed', both⟩
  · simp only [untyped, untyped']
    rcases rel_iff.1 (agree.rel_child? lists outer .value) with
      ⟨bare, bare'⟩ | ⟨value, value', valued, valued', both⟩
    · simp only [bare, bare']
      exact .unknown
    · simp only [valued, valued', ← both.kind_eq lists]
      split
      · next isCast =>
        rcases rel_iff.1 (both.rel_castType? lists (.of_kind isCast (by decide))) with
          ⟨none, none'⟩ | ⟨type, type', found, found', types⟩
        · simp only [none, none']
          exact .unknown
        · simp only [found, found']
          exact .known types
      · split
        -- A name has no child that could differ, so it is the same on both sides.
        · next isName =>
          obtain rfl := both.eq_of_mem_closedKinds lists (isName ▸ by decide)
          exact .sameAs ((plain.of_child? valued).self isName)
        · exact .unknown
  · simp only [typed, typed']
    exact .known both

/-- A search goes on alike when the names that it follows do. -/
theorem rel_lookupWith {follow follow' : String → List Node → Option Node}
    (follows : ∀ name above above', '(' ∉ name.toList →
      above.Forall₂ (AgreeUpTo given given') above' → (∀ node ∈ above, node.NamesPlain) →
      Option.Rel (AgreeUpTo given given') (follow name above) (follow' name above'))
    {name : String} (plain : '(' ∉ name.toList) {above above' : List Node}
    (agree : above.Forall₂ (AgreeUpTo given given') above')
    (names : ∀ node ∈ above, node.NamesPlain) :
    Option.Rel (AgreeUpTo given given') (lookupWith follow name above)
      (lookupWith follow' name above') := by
  induction agree with
  | nil => exact .none
  | @cons node node' outer outer' both others ih =>
    have parameters : Option.Rel (AgreeUpTo given given')
        (if node.isFunction then node.parameterType? name else none)
        (if node'.isFunction then node'.parameterType? name else none) := by
      rw [← both.isFunction_eq lists]
      split
      · next isFunction => exact both.rel_parameterType? lists plain isFunction
      · exact .none
    have declared : Option.Rel (AgreeUpTo given given')
        (if node.isScope then node.declarator? name else none)
        (if node'.isScope then node'.declarator? name else none) := by
      rw [← both.isScope_eq lists]
      split
      · next isScope => exact both.rel_declarator? lists plain isScope
      · exact .none
    have plainNode := names node List.mem_cons_self
    rw [lookupWith, lookupWith]
    rcases rel_iff.1 parameters with ⟨none, none'⟩ | ⟨type, type', found, found', types⟩
    · simp only [none, none']
      rcases rel_iff.1 declared with ⟨free, free'⟩ | ⟨declarator, declarator', found, found', pair⟩
      · simp only [free, free']
        exact ih fun inner later => names inner (List.mem_cons_of_mem _ later)
      · simp only [found, found']
        have declares : node.declarator? name = some declarator := by
          rw [Option.ite_none_right_eq_some] at found
          exact found.2
        obtain ⟨statement, -, isDeclarator⟩ :=
          List.mem_flatMap.1 (List.mem_of_find?_eq_some declares)
        have bindings := pair.binding lists (Node.kind_of_mem_declarators isDeclarator)
          (plainNode.of_declarator? declares)
        generalize Binding.ofDeclarator declarator = binding at bindings
        generalize Binding.ofDeclarator declarator' = binding' at bindings
        cases bindings with
        | known types => exact .some types
        | sameAs plain => exact follows _ _ _ plain (.cons both others) names
        | unknown => exact .none
    · simp only [found, found']
      exact .some types

/-- **What a name is declared with** agrees. -/
theorem rel_lookup (follows : Nat) {name : String} (plain : '(' ∉ name.toList)
    {above above' : List Node} (agree : above.Forall₂ (AgreeUpTo given given') above')
    (names : ∀ node ∈ above, node.NamesPlain) :
    Option.Rel (AgreeUpTo given given') (lookup follows name above)
      (lookup follows name above') := by
  induction follows generalizing name above above' with
  | zero => exact rel_lookupWith lists (fun _ _ _ _ _ _ => .none) plain agree names
  | succ follows ih =>
    exact rel_lookupWith lists (fun _ _ _ plain agree names => ih plain agree names)
      plain agree names

end Lookup

/-! ### Frames around the arguments -/

/-- Frames that may be around a list of arguments, the innermost by way of a child of this kind. -/
def Frame.CanHoldAll : List Frame → Kind → Prop
  | [], _ => True
  | frame :: outer, child => frame.CanHold child ∧ CanHoldAll outer frame.kind

/-- The trees that frames make differ in the arguments. -/
theorem DifferIn.plug {frames : List Frame} (differ : DifferIn given given' node node')
    (canHold : Frame.CanHoldAll frames node.kind) :
    DifferIn given given' (Frame.plug frames node) (Frame.plug frames node') := by
  induction frames generalizing node node' with
  | nil => exact differ
  | cons frame outer ih => exact ih (.inside frame canHold.1 differ) canHold.2

/-- The nodes that frames make agree up to the arguments. -/
theorem DifferIn.forall₂_above {frames : List Frame} (differ : DifferIn given given' node node')
    (canHold : Frame.CanHoldAll frames node.kind) :
    (Frame.above frames node).Forall₂ (AgreeUpTo given given') (Frame.above frames node') := by
  induction frames generalizing node node' with
  | nil => exact .nil
  | cons frame outer ih =>
    have inFrame := differ.inside frame canHold.1
    exact .cons (.inr inFrame) (ih inFrame canHold.2)

/-- Names without a parenthesis in a tree are so in what the frames are around and in the nodes
that they make. -/
theorem Node.NamesPlain.of_plug {frames : List Frame}
    (plain : (Frame.plug frames node).NamesPlain) :
    node.NamesPlain ∧ ∀ around ∈ Frame.above frames node, around.NamesPlain := by
  induction frames generalizing node with
  | nil => exact ⟨plain, fun _ none => nomatch none⟩
  | cons frame outer ih =>
    obtain ⟨inFrame, further⟩ := ih plain
    refine ⟨inFrame.of_mem (frame.mem_children_fill node), fun around member => ?_⟩
    rcases List.mem_cons.1 member with rfl | later
    · exact inFrame
    · exact further around later

/-- What the grammar says about a unit: its names have no parenthesis, and no call stands in a
name, in a string or in the text of a template. -/
structure Node.Grammatical (root : Node) : Prop where
  isProgram : root.kind = .program
  names : root.NamesPlain
  closed : ∀ node ∈ root.preorder, node.kind ∈ closedKinds →
    ∀ below ∈ node.preorder, below.kind ≠ .callExpression
  slots : ∀ node ∈ root.preorder, node.kind = .templateString →
    ∀ part ∈ node.children, part.kind ≠ .templateSubstitution →
      ∀ below ∈ part.preorder, below.kind ≠ .callExpression

/-- What is in a node is in what the node is put into. -/
theorem Frame.mem_preorder_plug {frames : List Frame} {node below : Node}
    (inside : below ∈ node.preorder) : below ∈ (plug frames node).preorder := by
  induction frames generalizing node with
  | nil => exact inside
  | cons frame outer ih =>
    exact ih (Node.mem_preorder_of_mem_children (frame.mem_children_fill node) inside)

/-- In a grammatical unit all frames around a call may be around its arguments. -/
theorem Node.Grammatical.canHoldAll {frames : List Frame} {node call : Node}
    (grammatical : (Frame.plug frames node).Grammatical) (inside : call ∈ node.preorder)
    (isCall : call.kind = .callExpression) : Frame.CanHoldAll frames node.kind := by
  induction frames generalizing node with
  | nil => trivial
  | cons frame outer ih =>
    have isChild := frame.mem_children_fill node
    have inFrame : call ∈ (frame.fill node).preorder := mem_preorder_of_mem_children isChild inside
    have inRoot : frame.fill node ∈ (Frame.plug outer (frame.fill node)).preorder :=
      Frame.mem_preorder_plug (frame.fill node).mem_preorder_self
    refine ⟨⟨fun isClosed => ?_, fun isTemplate => ?_⟩, ih grammatical inFrame⟩
    · exact grammatical.closed _ inRoot isClosed call inFrame isCall
    · by_contra noSlot
      exact grammatical.slots _ inRoot isTemplate node isChild noSlot call inside isCall

end Accord.Script
