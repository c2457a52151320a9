import Accord.Proofs.Script.Exchange
import Accord.Proofs.Script.Nameless
import Accord.Proofs.Script.Template

/-!
# `Accord.Proofs.Script.ExchangedText`: what trees are read as that differ in one list of
arguments

The literal text of an expression is the same on both trees, since no string is around the
arguments and slots are left out of templates (`AgreeUpTo.literalText_eq`). So is the base path
(`AgreeUpTo.basePath_eq`).

A type comes down to the same reference on both trees, unless the node behind its wrappers is
around the arguments (`AgreeUpTo.typeReference_eq_or`). Such a node is no name, so its text is
searched, and the arguments with it (`DifferIn.ownReference_eq`).
-/

set_option autoImplicit false

namespace Accord.Script

open Node (literalText)

variable {given given' node node' : Node} (lists : Exchangeable given given')

/-! ### Literal texts -/

section Literal

include lists

/-- Slots are left out of the text of a template, whatever is in them. -/
theorem DifferIn.templateText_eq (differ : DifferIn given given' node node')
    (isTemplate : node.kind = .templateString) : node.templateText = node'.templateText := by
  cases differ with
  | here => rw [lists.first.kind] at isTemplate; cases isTemplate
  | @inside frame slot slot' canHold inner =>
    have isSlot : slot.kind = .templateSubstitution := canHold.inSlot isTemplate
    have isSlot' : slot'.kind = .templateSubstitution := inner.kind_eq lists ▸ isSlot
    have outside : Node.textOutsideSlots (frame.before ++ slot :: frame.after) =
        Node.textOutsideSlots (frame.before ++ slot' :: frame.after) := by
      rw [Node.textOutsideSlots_append, Node.textOutsideSlots_append, Node.textOutsideSlots,
        Node.textOutsideSlots, if_pos isSlot, if_pos isSlot', inner.gap_eq lists]
    show String.ofList ((frame.lexeme ++ _).toList.drop 1).dropLast =
      String.ofList ((frame.lexeme ++ _).toList.drop 1).dropLast
    exact congrArg
      (fun text => String.ofList ((frame.lexeme ++ text).toList.drop 1).dropLast) outside

/-- Both nodes are the sign of a sum, or neither is. -/
theorem AgreeUpTo.isPlus_eq (agree : AgreeUpTo given given' node node') :
    node.isPlus = node'.isPlus := by
  rcases agree with rfl | differ
  · rfl
  · cases differ with
    | here => simp [Node.isPlus, lists.first.kind, lists.second.kind]
    | inside => rfl

/-- The literal text of an expression is the same. -/
theorem AgreeUpTo.literalText_eq (agree : AgreeUpTo given given' node node') :
    node.literalText = node'.literalText := by
  induction size : node.size using Nat.strongRecOn generalizing node node' with
  | ind _ ih =>
    rcases agree with rfl | differ
    · rfl
    · have agree : AgreeUpTo given given' node node' := .inr differ
      rw [Node.literalText_eq node, Node.literalText_eq node', ← agree.kind_eq lists]
      split
      · next isString => exact absurd (isString ▸ by decide) (differ.not_mem_closedKinds lists)
      · next isTemplate => rw [differ.templateText_eq lists isTemplate]
      · next isParenthesized =>
        have outer : node.IsOuter := .of_kind isParenthesized (by decide)
        rcases rel_iff.1 (rel_head? (agree.forall₂_namedChildren lists outer)) with
          ⟨none, none'⟩ | ⟨inner, inner', first, first', both⟩
        · rw [none, none']
        · rw [first, first', Option.bind_some, Option.bind_some]
          exact ih _ (size ▸ Node.size_lt_of_head? first) both rfl
      · next isBinary =>
        have outer : node.IsOuter := .of_kind isBinary (by decide)
        -- Each side of a sum is smaller than the sum.
        have side : ∀ role,
            (node.child? role).bind literalText = (node'.child? role).bind literalText := by
          intro role
          rcases rel_iff.1 (agree.rel_child? lists outer role) with
            ⟨none, none'⟩ | ⟨side, side', found, found', both⟩
          · rw [none, none']
          · rw [found, found', Option.bind_some, Option.bind_some]
            exact ih _ (size ▸ Node.size_lt_of_child? found) both rfl
        rw [any_eq_of_rel (fun _ _ both => both.isPlus_eq lists)
          (agree.rel_child? lists outer .operator),
          side .left, side .right]
      · rfl

/-- Both nodes build a text, or neither does. -/
theorem AgreeUpTo.isStringBuilder_eq (agree : AgreeUpTo given given' node node') :
    node.isStringBuilder = node'.isStringBuilder := by
  rw [Node.isStringBuilder, Node.isStringBuilder, agree.kind_eq lists, agree.literalText_eq lists]

/-- The base path of a unit is the same. -/
theorem AgreeUpTo.basePath_eq (agree : AgreeUpTo given given' node node')
    (isProgram : node.kind = .program) : node.basePath = node'.basePath := by
  have values : node.baseValues.Forall₂ (AgreeUpTo given given') node'.baseValues := by
    refine forall₂_filterMap_of_mem (fun declarator member declarator' both => ?_)
      (List.rel_flatMap (agree.forall₂_namedChildren lists (.of_kind isProgram (by decide)))
        fun {_ _} statement => statement.forall₂_declarators lists)
    obtain ⟨statement, -, declared⟩ := List.mem_flatMap.1 member
    exact rel_filter (fun _ _ value => value.isStringBuilder_eq lists)
      (both.rel_child? lists (.of_kind (Node.kind_of_mem_declarators declared) (by decide)) .value)
  rw [Node.basePath, Node.basePath]
  rcases rel_iff.1 (rel_getLast? values) with ⟨none, none'⟩ | ⟨value, value', last, last', both⟩
  · rw [none, none']
  · rw [last, last', Option.bind_some, Option.bind_some, both.literalText_eq lists]

end Literal

/-! ### Types -/

section Types

include lists

/-- The first type arguments agree. -/
theorem AgreeUpTo.rel_firstArgument? (agree : AgreeUpTo given given' node node')
    (outer : node.IsOuter) :
    Option.Rel (AgreeUpTo given given') node.firstArgument? node'.firstArgument? := by
  refine rel_bind (fun arguments found arguments' both => ?_)
    (agree.rel_childOfKind? lists outer [.typeArguments])
  have isArguments : arguments.kind = .typeArguments := by simpa using List.find?_some found
  exact rel_head? (both.forall₂_namedChildren lists (.of_kind isArguments (by decide)))

/-- The name of a generic type is the same. -/
theorem AgreeUpTo.genericName?_eq (agree : AgreeUpTo given given' node node')
    (outer : node.IsOuter) : node.genericName? = node'.genericName? := by
  have names := agree.rel_childOfKind? lists outer [.typeIdentifier, .nestedTypeIdentifier]
  rw [Node.genericName?, Node.genericName?]
  rcases rel_iff.1 names with ⟨none, none'⟩ | ⟨name, name', found, found', both⟩
  · rw [none, none']
  · have isName : name.kind = .typeIdentifier ∨ name.kind = .nestedTypeIdentifier := by
      simpa using List.find?_some found
    have isClosed : name.kind ∈ closedKinds := by
      rcases isName with kind | kind <;> rw [kind] <;> decide
    rw [found, found', both.eq_of_mem_closedKinds lists isClosed]

/-- What is behind a wrapper agrees. -/
theorem AgreeUpTo.rel_inner? (agree : AgreeUpTo given given' node node') (outer : node.IsOuter) :
    Option.Rel (AgreeUpTo given given') node.inner? node'.inner? := by
  have members := agree.forall₂_namedChildren lists outer
  have names : Option.Rel (AgreeUpTo given given') node.genericName? node'.genericName? := by
    rw [agree.genericName?_eq lists outer]
    cases node'.genericName? with
    | none => exact .none
    | some name => exact .some (.inl rfl)
  rw [Node.inner?, Node.inner?, ← agree.kind_eq lists]
  split
  case h_1 | h_2 | h_3 => exact rel_getLast? members
  case h_4 | h_5 | h_6 => exact rel_head? members
  case h_7 => exact rel_or (agree.rel_firstArgument? lists outer) names
  case h_8 => exact .none

/-- Both nodes mark an array, or neither does. -/
theorem AgreeUpTo.marksArray_eq (agree : AgreeUpTo given given' node node')
    (outer : node.IsOuter) : node.marksArray = node'.marksArray := by
  rw [Node.marksArray, Node.marksArray, ← agree.kind_eq lists]
  split
  · rfl
  · rw [isSome_eq_of_rel (agree.rel_firstArgument? lists outer), agree.genericName?_eq lists outer]
  · rfl

/-- Nodes that agree have cores that agree, and array forms around both or around neither. -/
theorem AgreeUpTo.core (agree : AgreeUpTo given given' node node') :
    Option.Rel (AgreeUpTo given given') node.core? node'.core? ∧
      node.passesArray = node'.passesArray := by
  induction size : node.size using Nat.strongRecOn generalizing node node' with
  | ind _ ih =>
    -- A wrapper hands on to the node inside it, and any other node is its own core.
    by_cases wrapper : node.kind ∈ Node.wrapperKinds
    · have outer : node.IsOuter := by
        intro isArguments
        rw [isArguments] at wrapper
        exact absurd wrapper (by decide)
      have wrapper' : node'.kind ∈ Node.wrapperKinds := agree.kind_eq lists ▸ wrapper
      rcases rel_iff.1 (agree.rel_inner? lists outer) with
        ⟨none, none'⟩ | ⟨inner, inner', found, found', both⟩
      · rw [Node.core?_eq, Node.core?_eq, Node.passesArray_eq, Node.passesArray_eq, if_pos wrapper,
          if_pos wrapper', none, none']
        exact ⟨.none, rfl⟩
      · obtain ⟨cores, arrays⟩ := ih _ (size ▸ Node.size_lt_of_inner? found) both rfl
        rw [Node.core?_of_inner? found, Node.core?_of_inner? found',
          Node.passesArray_of_inner? found, Node.passesArray_of_inner? found',
          agree.marksArray_eq lists outer, arrays]
        exact ⟨cores, rfl⟩
    · have wrapper' : node'.kind ∉ Node.wrapperKinds := agree.kind_eq lists ▸ wrapper
      rw [Node.core?_eq, Node.core?_eq, Node.passesArray_eq, Node.passesArray_eq, if_neg wrapper,
        if_neg wrapper', Node.inner?_eq_none wrapper, Node.inner?_eq_none wrapper']
      exact ⟨.some agree, rfl⟩

/-- **The reference of a type** is the same, unless the node behind its wrappers is around the
arguments. -/
theorem AgreeUpTo.typeReference_eq_or (agree : AgreeUpTo given given' node node') :
    node.typeReference = node'.typeReference ∨
      ∃ core core', node.core? = some core ∧ node'.core? = some core' ∧
        DifferIn given given' core core' := by
  obtain ⟨cores, arrays⟩ := agree.core lists
  rw [Node.typeReference_eq_core, Node.typeReference_eq_core, arrays]
  rcases rel_iff.1 cores with ⟨none, none'⟩ | ⟨core, core', found, found', rfl | differ⟩
  · exact .inl (by rw [none, none'])
  · exact .inl (by rw [found, found'])
  · exact .inr ⟨core, core', found, found', differ⟩

/-- Such a node is searched for the member of an imported module, arguments and all. -/
theorem DifferIn.typeReference_eq {type : Node} (differ : DifferIn given given' node node')
    (reached : type.core? = some node) :
    type.typeReference = (importedName? node.text.toList).map fun name =>
      ⟨String.ofList name, .imported, type.passesArray⟩ := by
  have nameless : node.kind ∉ Node.nameKinds := by
    intro isName
    refine differ.not_mem_closedKinds lists ?_
    revert isName
    simp only [Node.nameKinds, closedKinds, List.mem_cons]
    tauto
  rw [Node.typeReference_eq_core, reached, Option.bind_some,
    Node.ownReference_of_nameless nameless]

end Types

end Accord.Script
