import Accord.Proofs.Script.Node
import Accord.Proofs.Script.TypeName
import Accord.Script.Parse

/-!
# `Accord.Proofs.Script.TypeContext`: a type inside other types

A `Layer` is one construct around a type: an annotation, parentheses, `readonly`, an array mark,
the other members of a union or an intersection, or a generic type with its other arguments.
`fill` puts a type into several layers. Each layer is one step of the reduction: it leads back
to the type (`Layer.inner?_around`) and makes the reference an array when it is an array form
itself (`Layer.marksArray_around`).

`typeReference_fill` says what follows for layers of any number and mixture.
-/

set_option autoImplicit false

namespace Accord.Script

namespace Node

/-- What a node has beside one of its children. -/
structure Rim where
  role : Option Role
  gap : String
  before : List Node
  after : List Node

/-- The node of a kind that has a child in a rim. -/
def Rim.around (rim : Rim) (kind : Kind) (child : Node) : Node :=
  .mk kind rim.role rim.gap "" (rim.before ++ child :: rim.after)

variable {rim : Rim} {kind : Kind} {child : Node}

/-- A child with punctuation in front of it is the first named one. -/
theorem Rim.head?_around (named : child.isNamed = true)
    (first : ∀ part ∈ rim.before, part.kind = .token) :
    (rim.around kind child).namedChildren.head? = some child := by
  have unnamed : rim.before.filter isNamed = [] := by
    rw [List.filter_eq_nil_iff]
    intro part member
    simp [isNamed, first part member]
  rw [around, namedChildren, children, List.filter_append, unnamed, List.nil_append,
    List.filter_cons_of_pos named, List.head?_cons]

/-- A child with punctuation behind it is the last named one. -/
theorem Rim.getLast?_around (named : child.isNamed = true)
    (last : ∀ part ∈ rim.after, part.kind = .token) :
    (rim.around kind child).namedChildren.getLast? = some child := by
  have unnamed : rim.after.filter isNamed = [] := by
    rw [List.filter_eq_nil_iff]
    intro part member
    simp [isNamed, last part member]
  rw [around, namedChildren, children, List.filter_append, List.filter_cons_of_pos named, unnamed,
    List.getLast?_concat]

end Node

open Node (Rim)

/-- A construct around a type. No comment stands where the reduction looks for the type. -/
inductive Layer where
  /-- `: T`, `(T)` or `readonly T`. -/
  | behind (kind : Kind) (rim : Rim)
      (isForm : kind ∈ [.typeAscription, .parenthesizedType, .readonlyType])
      (last : ∀ part ∈ rim.after, part.kind = .token)
  /-- `T[]`, `T | U` or `T & U`. -/
  | inFront (kind : Kind) (rim : Rim) (isForm : kind ∈ [.arrayType, .unionType, .intersectionType])
      (first : ∀ part ∈ rim.before, part.kind = .token)
  /-- `W<T, U>`. Comments may stand behind the name. -/
  | argument (role : Option Role) (gap : String) (name : Node)
      (isName : name.kind ∈ [.typeIdentifier, .nestedTypeIdentifier]) (comments : List Node)
      (areComments : ∀ part ∈ comments, part.kind = .comment) (arguments : Rim)
      (first : ∀ part ∈ arguments.before, part.kind = .token)

namespace Layer

/-- The construct with a type in it. -/
def around : Layer → Node → Node
  | behind kind rim _ _, type => rim.around kind type
  | inFront kind rim _ _, type => rim.around kind type
  | argument role gap name _ comments _ arguments _, type =>
    .mk .genericType role gap "" (name :: (comments ++ [arguments.around .typeArguments type]))

/-- Whether the construct is an array form: `T[]`, `Array<T>` or `ReadonlyArray<T>`. -/
def isArray : Layer → Bool
  | behind .. => false
  | inFront kind .. => kind = .arrayType
  | argument _ _ name .. => name.text = "Array" ∨ name.text = "ReadonlyArray"

variable {type : Node}

section Generic

variable {role : Option Role} {gap : String} {name : Node}
  {isName : name.kind ∈ [.typeIdentifier, .nestedTypeIdentifier]} {comments : List Node}
  {areComments : ∀ part ∈ comments, part.kind = .comment} {arguments : Rim}
  {first : ∀ part ∈ arguments.before, part.kind = .token}

/-- The first name in a generic type is that of the generic type. -/
theorem genericName?_around :
    ((argument role gap name isName comments areComments arguments first).around
      type).genericName? = some name := by
  have named : name.isNamed = true := by
    simp only [List.mem_cons, List.not_mem_nil, or_false] at isName
    rcases isName with kind | kind <;> rw [Node.isNamed, kind] <;> rfl
  rw [Node.genericName?, Node.childOfKind?, Node.namedChildren, around, Node.children,
    List.filter_cons_of_pos named]
  exact List.find?_cons_of_pos (by simpa using isName)

/-- The arguments of a generic type are found behind its name, whatever comments stand between. -/
theorem firstArgument?_around (named : type.isNamed = true) :
    ((argument role gap name isName comments areComments arguments first).around
      type).firstArgument? = some type := by
  -- Neither the name nor a comment is taken for the list of arguments, so the search goes on to it.
  have noArguments : ∀ part ∈ (name :: comments).filter Node.isNamed,
      ¬[Kind.typeArguments].contains part.kind = true := by
    intro part member
    rcases List.mem_cons.1 (List.mem_filter.1 member).1 with rfl | comment
    · simp only [List.mem_cons, List.not_mem_nil, or_false] at isName
      rcases isName with kind | kind <;> rw [kind] <;> decide
    · rw [areComments part comment]
      decide
  rw [Node.firstArgument?, Node.childOfKind?, Node.namedChildren, around, Node.children,
    ← List.cons_append, List.filter_append, List.find?_append, List.find?_eq_none.2 noArguments,
    Option.none_or]
  exact Rim.head?_around named first

end Generic

/-- The way into a construct leads to the type. -/
theorem inner?_around (layer : Layer) (named : type.isNamed = true) :
    (layer.around type).inner? = some type := by
  cases layer with
  | behind kind rim isForm last =>
    have found : (rim.around kind type).namedChildren.getLast? = some type :=
      Rim.getLast?_around named last
    simp only [List.mem_cons, List.not_mem_nil, or_false] at isForm
    rcases isForm with rfl | rfl | rfl <;> exact found
  | inFront kind rim isForm first =>
    have found : (rim.around kind type).namedChildren.head? = some type :=
      Rim.head?_around named first
    simp only [List.mem_cons, List.not_mem_nil, or_false] at isForm
    rcases isForm with rfl | rfl | rfl <;> exact found
  | argument role gap name isName comments areComments arguments first =>
    show (Node.firstArgument? _).or _ = _
    rw [firstArgument?_around named, Option.some_or]

/-- The step into a construct makes the reference an array when the construct is an array form. -/
theorem marksArray_around (layer : Layer) (named : type.isNamed = true) :
    (layer.around type).marksArray = layer.isArray := by
  cases layer with
  | behind kind rim isForm last =>
    simp only [List.mem_cons, List.not_mem_nil, or_false] at isForm
    rcases isForm with rfl | rfl | rfl <;> rfl
  | inFront kind rim isForm first =>
    simp only [List.mem_cons, List.not_mem_nil, or_false] at isForm
    rcases isForm with rfl | rfl | rfl <;> rfl
  | argument role gap name isName comments areComments arguments first =>
    show ((Node.firstArgument? _).isSome && (Node.genericName? _).any _) = _
    rw [firstArgument?_around named, genericName?_around]
    simp [isArray, arrayWrappers]

end Layer

/-- A type in layers, the first one outermost. -/
def fill : List Layer → Node → Node
  | [], type => type
  | layer :: layers, type => layer.around (fill layers type)

variable {type : Node}

/-- A named type stays one inside any wrappers. -/
theorem isNamed_fill (layers : List Layer) (named : type.isNamed = true) :
    (fill layers type).isNamed = true := by
  induction layers with
  | nil => exact named
  | cons layer layers ih =>
    have wrapper := Node.mem_wrapperKinds_of_inner? (layer.inner?_around ih)
    have noToken : Kind.token ∉ Node.wrapperKinds := by decide
    exact decide_eq_true fun token => noToken (token ▸ wrapper)

/-- Layers lead to the same node as the type in them. -/
theorem core?_fill (layers : List Layer) (named : type.isNamed = true) :
    (fill layers type).core? = type.core? := by
  induction layers with
  | nil => rfl
  | cons layer layers ih =>
    rw [fill, Node.core?_of_inner? (layer.inner?_around (isNamed_fill layers named)), ih]

/-- The array forms around a type in layers are those of the layers and those around the type. -/
theorem passesArray_fill (layers : List Layer) (named : type.isNamed = true) :
    (fill layers type).passesArray = (layers.any Layer.isArray || type.passesArray) := by
  induction layers with
  | nil => rfl
  | cons layer layers ih =>
    have inside := isNamed_fill layers named
    rw [fill, Node.passesArray_of_inner? (layer.inner?_around inside),
      layer.marksArray_around inside, ih, List.any_cons, Bool.or_assoc]

/-- What a node names does not depend on the array forms around it. -/
theorem Node.ownReference_or (isArray isArray' : Bool) (type : Node) :
    type.ownReference (isArray || isArray') =
      (type.ownReference isArray').map fun found =>
        { found with isArray := found.isArray || isArray } := by
  rw [ownReference, ownReference]
  split <;> simp [Bool.or_comm, Function.comp_def]

/-- **Layers are transparent.** In layers a type comes down to the same name, of the same
origin, or to nothing as before; it is an array when it was one or one of the layers is an array
form. The reduction ends on every tree. -/
theorem typeReference_fill (layers : List Layer) (named : type.isNamed = true) :
    (fill layers type).typeReference =
      type.typeReference.map (fun found =>
        { found with isArray := found.isArray || layers.any Layer.isArray }) ∧
    ∀ tree : Node, ∃ passes ≤ tree.size,
      Reduction.pass^[passes] (.before false tree) = .ended tree.typeReference := by
  refine ⟨?_, Reduction.ends false⟩
  rw [Node.typeReference_eq_core, Node.typeReference_eq_core, core?_fill layers named,
    passesArray_fill layers named, Option.map_bind]
  exact congrArg _ (funext fun core => core.ownReference_or _ _)

/-! ### A type in layers of all forms -/

/-- A generic type with one argument. -/
def generic (gap name : String) : Layer :=
  .argument none gap (.mk .typeIdentifier (some .name) "" name []) (.head _) [] (by simp)
    ⟨none, "", [.leaf .token "" "<"], [.leaf .token "" ">"]⟩ (by simp [Node.leaf, Node.kind])

/-- The layers of a promise of an array of lists whose items may be missing. -/
def memberLayers : List Layer :=
  [.behind .typeAscription ⟨some .type, "", [.leaf .token "" ":"], []⟩ (by decide) (by decide),
    generic " " "Promise", generic "" "Array",
    .behind .readonlyType ⟨none, "", [.leaf .token "" "readonly"], []⟩ (by decide) (by decide),
    .inFront .arrayType ⟨none, " ", [], [.leaf .token "" "[", .leaf .token "" "]"]⟩ (by decide)
      (by decide),
    .behind .parenthesizedType ⟨none, "", [.leaf .token "" "("], [.leaf .token "" ")"]⟩ (by decide)
      (by decide),
    .inFront .unionType
      ⟨none, "", [],
        [.leaf .token " " "|", .mk .literalType none " " "" [.leaf .nullLiteral "" "null"]]⟩
      (by decide) (by decide)]

/-- In these layers a member is still a member, and an array. -/
theorem typeReference_members :
    parse .casts "let x: Promise<Array<readonly (Member | null)[]>>;" =
      some (.declaring (fill memberLayers (.leaf .typeIdentifier "" "Member"))) ∧
    (Node.leaf .typeIdentifier "" "Member").isNamed = true ∧
    (fill memberLayers (.leaf .typeIdentifier "" "Member")).typeReference =
      some ⟨"Member", .local, true⟩ := by
  -- Only the reference of the name itself is computed; the layers are steps of the general theorem.
  have own : (Node.leaf .typeIdentifier "" "Member").typeReference =
      some ⟨"Member", .local, false⟩ := by
    rw [Node.typeReference, Node.typeReferenceFrom_eq]
    rfl
  refine ⟨by decide +kernel, rfl, ?_⟩
  rw [(typeReference_fill memberLayers rfl).1, own]
  rfl

end Accord.Script
