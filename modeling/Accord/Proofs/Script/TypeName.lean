import Accord.Proofs.Script.Node
import Accord.Script.TypeName
import Mathlib.Logic.Function.Iterate

/-!
# `Accord.Proofs.Script.TypeName`: the way to the name in a type expression

`typeReferenceFrom` goes from a wrapper to what is inside it until it comes to a node that is
none. `inner?` is one step of this way, `marksArray` says whether the step makes the reference
an array, and `ownReference` is what a node names that is no wrapper. `typeReferenceFrom_eq`
puts the reduction together from the three.

`core?` is the end of the way. `typeReference_eq_core` reads the reference off it, with
`passesArray` for the array forms on the way. `Reduction.ends` says that the way, taken pass by
pass, is never longer than the tree is large.
-/

set_option autoImplicit false

namespace Accord.Script

namespace Node

/-! ### One step -/

/-- The kinds of nodes that the reduction looks into. -/
def wrapperKinds : List Kind :=
  [.typeAscription, .parenthesizedType, .readonlyType, .arrayType, .genericType, .unionType,
    .intersectionType]

/-- The name of a generic type. -/
def genericName? (type : Node) : Option Node :=
  type.childOfKind? [.typeIdentifier, .nestedTypeIdentifier]

/-- The first argument of a generic type. -/
def firstArgument? (type : Node) : Option Node :=
  (type.childOfKind? [.typeArguments]).bind fun arguments => arguments.namedChildren.head?

/-- What the reduction goes on with behind a wrapper. -/
def inner? (type : Node) : Option Node :=
  match type.kind with
  | .typeAscription | .parenthesizedType | .readonlyType => type.namedChildren.getLast?
  | .unionType | .intersectionType | .arrayType => type.namedChildren.head?
  | .genericType => type.firstArgument?.or type.genericName?
  | _ => none

/-- Whether the step into a wrapper makes the reference an array. -/
def marksArray (type : Node) : Bool :=
  match type.kind with
  | .arrayType => true
  | .genericType =>
    type.firstArgument?.isSome && type.genericName?.any fun name => arrayWrappers.contains name.text
  | _ => false

/-- What a node names that is no wrapper. -/
def ownReference (isArray : Bool) (type : Node) : Option TypeReference :=
  match type.kind with
  | .typeIdentifier | .predefinedType => some ⟨type.text, .local, isArray⟩
  | .nestedTypeIdentifier => some ⟨lastPart type.text, .imported, isArray⟩
  | _ => (importedName? type.text.toList).map fun name => ⟨String.ofList name, .imported, isArray⟩

variable {type inner : Node}

/-- The way leads into a smaller tree. -/
theorem size_lt_of_inner? (h : type.inner? = some inner) : inner.size < type.size := by
  rw [inner?] at h
  split at h
  · exact size_lt_of_getLast? h
  · exact size_lt_of_getLast? h
  · exact size_lt_of_getLast? h
  · exact size_lt_of_head? h
  · exact size_lt_of_head? h
  · exact size_lt_of_head? h
  · rcases Option.or_eq_some_iff.1 h with first | ⟨-, name⟩
    · rw [firstArgument?, Option.bind_eq_some_iff] at first
      obtain ⟨arguments, given, first⟩ := first
      exact Nat.lt_trans (size_lt_of_head? first) (size_lt_of_childOfKind? given)
    · exact size_lt_of_childOfKind? name
  · cases h

/-- Only a wrapper has a type inside. -/
theorem mem_wrapperKinds_of_inner? (h : type.inner? = some inner) : type.kind ∈ wrapperKinds := by
  rw [inner?] at h
  split at h <;> first | cases h | next kind => rw [kind]; decide

/-- What is no wrapper leads nowhere. -/
theorem inner?_eq_none (h : type.kind ∉ wrapperKinds) : type.inner? = none :=
  Option.eq_none_iff_forall_ne_some.2 fun _ found => h (mem_wrapperKinds_of_inner? found)

/-- The reduction of a type expression, one step at a time. -/
theorem typeReferenceFrom_eq (isArray : Bool) (type : Node) :
    type.typeReferenceFrom isArray =
      if type.kind ∈ wrapperKinds then
        type.inner?.bind (typeReferenceFrom (isArray || type.marksArray))
      else type.ownReference isArray := by
  rw [typeReferenceFrom]
  split
  -- The wrappers around their last child: they mark no array of their own.
  case h_1 _ kind | h_2 _ kind | h_3 _ kind =>
    simp only [inner?, marksArray, kind, wrapperKinds, List.mem_cons, reduceCtorEq, false_or,
      true_or,
      if_true, Bool.or_false]
    generalize type.namedChildren.getLast? = last
    cases last <;> rfl
  -- Those around their first child, and the arrays among them.
  case h_4 _ kind | h_5 _ kind | h_6 _ kind =>
    simp only [inner?, marksArray, kind, wrapperKinds, List.mem_cons, reduceCtorEq, false_or,
      true_or,
      or_true, if_true, Bool.or_false, Bool.or_true]
    generalize type.namedChildren.head? = first
    cases first <;> rfl
  -- A generic type is looked into if it is one of a few, and only with an argument.
  case h_7 _ kind =>
    simp only [inner?, marksArray, kind, wrapperKinds, List.mem_cons, reduceCtorEq, false_or,
      true_or,
      if_true, firstArgument?, genericName?]
    generalize type.childOfKind? [.typeIdentifier, .nestedTypeIdentifier] = name
    generalize type.childOfKind? [.typeArguments] = arguments
    -- Without an argument nothing makes the reference an array, and the name is what is left.
    cases name <;> cases arguments with
    | none => simp
    | some arguments =>
      simp only [Option.bind_some]
      generalize arguments.namedChildren.head? = first
      cases first <;> simp
  case h_8 _ kind | h_9 _ kind | h_10 _ kind =>
    simp [ownReference, kind, wrapperKinds]
  case h_11 =>
    simp_all [ownReference, wrapperKinds]

/-- Behind a wrapper the reduction goes on with what is inside. -/
theorem typeReferenceFrom_of_inner? (isArray : Bool) (h : type.inner? = some inner) :
    type.typeReferenceFrom isArray = inner.typeReferenceFrom (isArray || type.marksArray) := by
  rw [typeReferenceFrom_eq, if_pos (mem_wrapperKinds_of_inner? h), h, Option.bind_some]

/-! ### The whole way -/

/-- The node behind all wrappers, if there is one. -/
def core? (type : Node) : Option Node :=
  if type.kind ∈ wrapperKinds then
    match _h : type.inner? with
    | some inner => inner.core?
    | none => none
  else some type
termination_by type.size
decreasing_by exact size_lt_of_inner? _h

/-- Whether one of the wrappers around the core is an array form. -/
def passesArray (type : Node) : Bool :=
  match _h : type.inner? with
  | some inner => type.marksArray || inner.passesArray
  | none => false
termination_by type.size
decreasing_by exact size_lt_of_inner? _h

/-- The core of a wrapper is that of the type inside, and any other type is its own. -/
theorem core?_eq (type : Node) :
    type.core? = if type.kind ∈ wrapperKinds then type.inner?.bind core? else some type := by
  rw [core?]
  generalize type.inner? = inner
  cases inner <;> rfl

/-- There is an array form among the wrappers when the outermost is one, or there is one further
inside. -/
theorem passesArray_eq (type : Node) :
    type.passesArray = type.inner?.any fun inner => type.marksArray || inner.passesArray := by
  rw [passesArray]
  generalize type.inner? = inner
  cases inner <;> rfl

/-- A wrapper with a type inside has its core. -/
theorem core?_of_inner? (h : type.inner? = some inner) : type.core? = inner.core? := by
  rw [core?_eq, if_pos (mem_wrapperKinds_of_inner? h), h, Option.bind_some]

/-- The array forms around the core are those of the wrapper and of the type inside it. -/
theorem passesArray_of_inner? (h : type.inner? = some inner) :
    type.passesArray = (type.marksArray || inner.passesArray) := by
  rw [passesArray_eq, h, Option.any_some]

/-- The reduction gives the name in the core, as an array when it started with the flag or one of
the wrappers is an array form. -/
theorem typeReferenceFrom_eq_core (isArray : Bool) (type : Node) :
    type.typeReferenceFrom isArray =
      type.core?.bind (ownReference (isArray || type.passesArray)) := by
  induction size : type.size using Nat.strongRecOn generalizing type isArray with
  | ind _ ih =>
    by_cases wrapper : type.kind ∈ wrapperKinds
    · cases found : type.inner? with
      | none =>
        rw [typeReferenceFrom_eq, if_pos wrapper, core?_eq, if_pos wrapper, found, Option.bind_none,
          Option.bind_none, Option.bind_none]
      | some inner =>
        rw [typeReferenceFrom_of_inner? isArray found, core?_of_inner? found,
          passesArray_of_inner? found, ← Bool.or_assoc]
        exact ih _ (size ▸ size_lt_of_inner? found) _ inner rfl
    · rw [typeReferenceFrom_eq, if_neg wrapper, core?_eq, if_neg wrapper, passesArray_eq,
        inner?_eq_none wrapper, Option.any_none, Bool.or_false, Option.bind_some]

/-- **A type expression comes down to what the node behind its wrappers names.** -/
theorem typeReference_eq_core (type : Node) :
    type.typeReference = type.core?.bind (ownReference type.passesArray) := by
  rw [typeReference, typeReferenceFrom_eq_core, Bool.false_or]

/-- What is no wrapper comes down to what it names itself. -/
theorem typeReference_of_not_wrapper (h : type.kind ∉ wrapperKinds) :
    type.typeReference = type.ownReference false := by
  rw [typeReference, typeReferenceFrom_eq, if_neg h]

/-- An annotation comes down to what its type comes down to. -/
theorem typeReference_ascribed (named : type.isNamed = true) :
    (ascribed type).typeReference = type.typeReference := by
  have inside : (ascribed type).inner? = some type := by
    show ([leaf .token "" ":", type].filter isNamed).getLast? = some type
    rw [List.filter_cons_of_neg (by decide), List.filter_cons_of_pos named]
    rfl
  rw [typeReference, typeReferenceFrom_of_inner? false inside]
  rfl

/-- Every type has a size. -/
theorem size_pos (type : Node) : 0 < type.size := by
  cases type
  simp only [size, Nat.succ_pos]

end Node

/-! ### The way pass by pass -/

/-- Where the reduction stands: before a node, or at its end. -/
inductive Reduction where
  | before (isArray : Bool) (type : Node)
  | ended (found : Option TypeReference)

namespace Reduction

/-- One pass. -/
def pass : Reduction → Reduction
  | before isArray type =>
    if type.kind ∈ Node.wrapperKinds then
      match type.inner? with
      | some inner => before (isArray || type.marksArray) inner
      | none => ended none
    else ended (type.ownReference isArray)
  | ended found => ended found

/-- A pass ends the reduction with what it finds, or comes before a smaller tree that has the same
to be found. -/
theorem pass_before (isArray : Bool) (type : Node) :
    pass (before isArray type) = ended (type.typeReferenceFrom isArray) ∨
    ∃ isArray' inner, pass (before isArray type) = before isArray' inner ∧
      inner.size < type.size ∧
      inner.typeReferenceFrom isArray' = type.typeReferenceFrom isArray := by
  by_cases wrapper : type.kind ∈ Node.wrapperKinds
  · cases found : type.inner? with
    | none => simp [pass, wrapper, found, Node.typeReferenceFrom_eq isArray type]
    | some inner =>
      refine .inr ⟨isArray || type.marksArray, inner, ?_, Node.size_lt_of_inner? found,
        (Node.typeReferenceFrom_of_inner? isArray found).symm⟩
      simp only [pass, if_pos wrapper, found]
  · simp [pass, wrapper, Node.typeReferenceFrom_eq isArray type]

/-- The reduction ends, after at most as many passes as the tree has nodes. -/
theorem ends (isArray : Bool) (type : Node) :
    ∃ passes ≤ type.size,
      pass^[passes] (before isArray type) = ended (type.typeReferenceFrom isArray) := by
  induction size : type.size using Nat.strongRecOn generalizing type isArray with
  | ind _ ih =>
    rcases pass_before isArray type with last | ⟨isArray', inner, next, smaller, same⟩
    · exact ⟨1, size ▸ type.size_pos, last⟩
    · obtain ⟨passes, bound, done⟩ := ih _ (size ▸ smaller) isArray' inner rfl
      refine ⟨passes + 1, by omega, ?_⟩
      rw [Function.iterate_succ_apply, next, done, same]

end Reduction

end Accord.Script
