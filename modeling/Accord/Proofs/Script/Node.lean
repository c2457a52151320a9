import Accord.Script.Node

/-!
# `Accord.Proofs.Script.Node`: equality of syntax trees

Two trees can be compared. A tree holds a list of trees, so the comparison goes through trees
and lists of trees at once.

The trees of small declarations, as they are written with one blank between the parts, are put
together by `property`, `braced`, `extending`, `interface`, `ascribed` and `declaring`.
-/

set_option autoImplicit false

namespace Accord.Script.Node

mutual

/-- Compares two trees. -/
def decEq : (first second : Node) → Decidable (first = second)
  | .mk kind role gap lexeme children, .mk kind' role' gap' lexeme' children' =>
    if own : kind = kind' ∧ role = role' ∧ gap = gap' ∧ lexeme = lexeme' then
      match decEqAll children children' with
      | .isTrue same => .isTrue (by
          obtain ⟨rfl, rfl, rfl, rfl⟩ := own
          rw [same])
      | .isFalse other => .isFalse fun equal => other (Node.mk.inj equal).2.2.2.2
    else .isFalse fun equal => own (by
      obtain ⟨sameKind, sameRole, sameGap, sameLexeme, _⟩ := Node.mk.inj equal
      exact ⟨sameKind, sameRole, sameGap, sameLexeme⟩)

/-- Compares two lists of trees. -/
def decEqAll : (first second : List Node) → Decidable (first = second)
  | [], [] => .isTrue rfl
  | [], _ :: _ => .isFalse fun equal => nomatch equal
  | _ :: _, [] => .isFalse fun equal => nomatch equal
  | node :: rest, node' :: rest' =>
    match decEq node node' with
    | .isTrue same =>
      match decEqAll rest rest' with
      | .isTrue sameRest => .isTrue (by rw [same, sameRest])
      | .isFalse other => .isFalse fun equal => other (List.cons.inj equal).2
    | .isFalse other => .isFalse fun equal => other (List.cons.inj equal).1

end

/-- Equality of nodes is decided by `decEq`. -/
instance : DecidableEq Node :=
  decEq

/-- The gap of a leaf is the one it is made with. -/
theorem gap_leaf (kind : Kind) (gap lexeme : String) : (leaf kind gap lexeme).gap = gap :=
  rfl

/-- The text of a leaf is its lexeme. -/
theorem text_leaf (kind : Kind) (gap lexeme : String) : (leaf kind gap lexeme).text = lexeme :=
  String.append_empty

/-! ### Small declarations -/

/-- A property signature. -/
def property (name : String) (type : Node) : Node :=
  .mk .propertySignature none " " ""
    [.mk .propertyIdentifier (some .name) "" name [],
      .mk .typeAscription (some .type) "" "" [.leaf .token "" ":", type]]

/-- Members in braces. -/
def braced (kind : Kind) (role : Option Role) (gap : String) (members : List Node) : Node :=
  .mk kind role gap "" (.leaf .token "" "\x7b" :: members ++ [.leaf .token " " "\x7d"])

/-- The clause of an interface that extends one base. -/
def extending (base : String) : Node :=
  .mk .extendsTypeClause none " " ""
    [.leaf .token "" "extends", .mk .typeIdentifier (some .type) " " base []]

/-- The declaration of an interface. -/
def interface (gap name : String) (clauses members : List Node) : Node :=
  .mk .interfaceDeclaration none gap ""
    ([.leaf .token "" "interface", .mk .typeIdentifier (some .name) " " name []] ++ clauses ++
      [braced .interfaceBody (some .body) " " members])

/-- The annotation with a type. -/
def ascribed (type : Node) : Node :=
  .mk .typeAscription (some .type) "" "" [.leaf .token "" ":", type]

/-- The tree of a unit that declares one variable with an annotation. -/
def declaring (ascription : Node) : Node :=
  .mk .program none "" ""
    [.mk .lexicalDeclaration none "" ""
      [.leaf .token "" "let",
        .mk .variableDeclarator none " " "" [.mk .identifier (some .name) "" "x" [], ascription],
        .leaf .token "" ";"]]

end Accord.Script.Node
