import Accord.Script.Kind

/-!
# `Accord.Script.Node`: syntax trees that hold every character

A `Node` has a kind, the role it plays for its parent, the blanks before it (`gap`), its own
characters when it is a leaf (`lexeme`) and its children. No character is lost: `Node.text` is
the text of the node without the blanks before it, and the text of a parent is made of the gaps
and texts of its children. Comments are nodes like others.

The named children leave out punctuation and the words of the grammar, but not comments.
-/

set_option autoImplicit false

namespace Accord.Script

/-- A node of a syntax tree. -/
inductive Node where
  | mk (kind : Kind) (role : Option Role) (gap lexeme : String) (children : List Node)
  deriving Repr

namespace Node

/-- The default node is an empty token. -/
instance : Inhabited Node :=
  ⟨.mk .token none "" "" []⟩

/-- What the node is. -/
def kind : Node → Kind
  | .mk kind _ _ _ _ => kind

/-- What the node is for its parent. -/
def role : Node → Option Role
  | .mk _ role _ _ _ => role

/-- The blanks before the node. -/
def gap : Node → String
  | .mk _ _ gap _ _ => gap

/-- The characters of a leaf. -/
def lexeme : Node → String
  | .mk _ _ _ lexeme _ => lexeme

/-- The children in the order of the text. -/
def children : Node → List Node
  | .mk _ _ _ _ children => children

/-- The node with another role. -/
def withRole (role : Role) : Node → Node
  | .mk kind _ gap lexeme children => .mk kind (some role) gap lexeme children

/-- The node with other blanks before it. -/
def withGap (gap : String) : Node → Node
  | .mk kind role _ lexeme children => .mk kind role gap lexeme children

/-- A node without children. -/
def leaf (kind : Kind) (gap lexeme : String) : Node :=
  .mk kind none gap lexeme []

/-- A node made of its children. The blanks before the first child stand before the node. -/
def branch (kind : Kind) : List Node → Node
  | [] => .mk kind none "" "" []
  | first :: rest => .mk kind none first.gap "" (first.withGap "" :: rest)

mutual

/-- The text of a node without the blanks before it. -/
def text : Node → String
  | .mk _ _ _ lexeme children => lexeme ++ textAll children

/-- The texts of several nodes with the blanks before each of them. -/
def textAll : List Node → String
  | [] => ""
  | node :: rest => node.gap ++ text node ++ textAll rest

end

mutual

/-- The number of nodes in a tree. -/
def size : Node → Nat
  | .mk _ _ _ _ children => sizeAll children + 1

/-- The number of nodes in several trees. -/
def sizeAll : List Node → Nat
  | [] => 0
  | node :: rest => size node + sizeAll rest

end

/-- Whether the node is neither punctuation nor a word of the grammar. -/
def isNamed (node : Node) : Bool :=
  node.kind ≠ .token

/-- The children that are neither punctuation nor words of the grammar. -/
def namedChildren (node : Node) : List Node :=
  node.children.filter isNamed

/-- The first child in a role. -/
def child? (node : Node) (role : Role) : Option Node :=
  node.children.find? fun child => child.role = some role

/-- The first named child of one of several kinds. -/
def childOfKind? (node : Node) (kinds : List Kind) : Option Node :=
  node.namedChildren.find? fun child => kinds.contains child.kind

/-- A node is no larger than a list of nodes that it is in. -/
theorem size_le_sizeAll {child : Node} {nodes : List Node} (h : child ∈ nodes) :
    child.size ≤ sizeAll nodes := by
  induction nodes with
  | nil => cases h
  | cons node rest ih =>
    simp only [sizeAll]
    rcases List.mem_cons.1 h with rfl | h
    · omega
    · have := ih h
      omega

/-- A child has fewer nodes than its parent. -/
theorem size_lt_of_mem {node child : Node} (h : child ∈ node.children) :
    child.size < node.size := by
  cases node with
  | mk kind role gap lexeme children =>
    simp only [size]
    exact Nat.lt_succ_of_le (size_le_sizeAll h)

/-- Named children are children. -/
theorem mem_children_of_mem_namedChildren {node child : Node} (h : child ∈ node.namedChildren) :
    child ∈ node.children :=
  (List.mem_filter.1 h).1

/-- The child in a role is smaller than its node; recursions through `child?` end by this. -/
theorem size_lt_of_child? {node child : Node} {role : Role} (h : node.child? role = some child) :
    child.size < node.size :=
  size_lt_of_mem (List.mem_of_find?_eq_some h)

/-- The first named child is smaller than its node. -/
theorem size_lt_of_head? {node child : Node} (h : node.namedChildren.head? = some child) :
    child.size < node.size :=
  size_lt_of_mem (mem_children_of_mem_namedChildren (List.mem_of_mem_head? h))

/-- The last named child is smaller than its node. -/
theorem size_lt_of_getLast? {node child : Node} (h : node.namedChildren.getLast? = some child) :
    child.size < node.size :=
  size_lt_of_mem (mem_children_of_mem_namedChildren (List.mem_of_getLast? h))

/-- The first child of some kinds is smaller than its node. -/
theorem size_lt_of_childOfKind? {node child : Node} {kinds : List Kind}
    (h : node.childOfKind? kinds = some child) : child.size < node.size :=
  size_lt_of_mem (mem_children_of_mem_namedChildren (List.mem_of_find?_eq_some h))

end Node

end Accord.Script
