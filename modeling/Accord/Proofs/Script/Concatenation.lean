import Accord.Proofs.Script.TemplateOctets
import Accord.Proofs.Text

/-!
# `Accord.Proofs.Script.Concatenation`: the literal text of sums

A `Concatenation` is the shape of an expression that is made of leaves by sums and parentheses,
and `Writes` says that a node has such a shape. The literal text of the node is that of its
leaves, from left to right (`Writes.literalText_eq`, by induction on the shape). So whatever
leaves the row of leaves as it is, leaves the literal text: other groups of a chain, and more or
fewer parentheses (`Regroups`).
-/

set_option autoImplicit false

namespace Accord.Script

/-- A leaf of a sum: a string with its contents as they are spelled, a template with the parts
between its backquotes, or an expression without literal text. -/
inductive Leaf where
  | string (contents : List Char)
  | template (parts : List Node)
  | other

namespace Leaf

/-- The literal text of a leaf. -/
def text? : Leaf → Option (List Char)
  | .string contents => some contents
  | .template parts => some ((Node.templateItems parts).filterMap id)
  | .other => none

/-- Only a leaf of another kind has no text. -/
theorem text?_eq_none_iff {leaf : Leaf} : leaf.text? = none ↔ leaf = .other := by
  cases leaf <;> simp [text?]

/-- A node is written as the leaf. -/
def Spells : Leaf → Node → Prop
  | .string contents, node =>
    node.kind = .string ∧ ∃ quote, Text.isQuote quote = true ∧
      node.text.toList = quote :: (contents ++ [quote])
  | .template parts, node =>
    ∃ role gap, node = Node.template role gap parts
  | .other, node =>
    node.kind ≠ .string ∧ node.kind ≠ .templateString ∧ node.kind ≠ .parenthesizedExpression ∧
      ¬(node.kind = .binaryExpression ∧ (node.child? .operator).any Node.isPlus = true)

end Leaf

/-- An expression made of leaves by sums and parentheses. -/
inductive Concatenation where
  | operand (leaf : Leaf)
  | parenthesized (inner : Concatenation)
  | sum (left right : Concatenation)

namespace Concatenation

/-- The leaves from left to right. -/
def leaves : Concatenation → List Leaf
  | .operand leaf => [leaf]
  | .parenthesized inner => inner.leaves
  | .sum left right => left.leaves ++ right.leaves

/-- A node is written as the expression. -/
inductive Writes : Node → Concatenation → Prop
  | operand {node : Node} {leaf : Leaf} (spells : leaf.Spells node) : Writes node (.operand leaf)
  | parenthesized {node inner : Node} {expression : Concatenation}
      (isParenthesized : node.kind = .parenthesizedExpression)
      (first : node.namedChildren.head? = some inner) (writes : Writes inner expression) :
      Writes node (.parenthesized expression)
  | sum {node left right : Node} {first second : Concatenation}
      (isBinary : node.kind = .binaryExpression)
      (plus : (node.child? .operator).any Node.isPlus = true)
      (atLeft : node.child? .left = some left) (atRight : node.child? .right = some right)
      (writesLeft : Writes left first) (writesRight : Writes right second) :
      Writes node (.sum first second)

/-- Two expressions that differ in how a chain of sums is grouped and in parentheses. -/
inductive Regroups : Concatenation → Concatenation → Prop
  | assoc (first second third : Concatenation) :
      Regroups (.sum (.sum first second) third) (.sum first (.sum second third))
  | parenthesized (inner : Concatenation) : Regroups (.parenthesized inner) inner
  | inside {inner inner' : Concatenation} (regroups : Regroups inner inner') :
      Regroups (.parenthesized inner) (.parenthesized inner')
  | sum {left left' right right' : Concatenation} (inLeft : Regroups left left')
      (inRight : Regroups right right') : Regroups (.sum left right) (.sum left' right')
  | refl (expression : Concatenation) : Regroups expression expression
  | symm {first second : Concatenation} (regroups : Regroups first second) : Regroups second first
  | trans {first second third : Concatenation} (before : Regroups first second)
      (after : Regroups second third) : Regroups first third

/-- Groups and parentheses leave the row of leaves as it is. -/
theorem Regroups.leaves_eq {first second : Concatenation} (regroups : Regroups first second) :
    first.leaves = second.leaves := by
  induction regroups with
  | assoc first second third => simp only [leaves, List.append_assoc]
  | parenthesized inner => rfl
  | inside _ ih => exact ih
  | sum _ _ inLeft inRight => simp only [leaves, inLeft, inRight]
  | refl => rfl
  | symm _ ih => exact ih.symm
  | trans _ _ before after => exact before.trans after

/-! ### The literal text of leaves -/

/-- The literal texts of a row of leaves, one after the other; without one there is none. -/
def joined (leaves : List Leaf) : Option String :=
  match leaves.filterMap Leaf.text? with
  | [] => none
  | pieces => some (String.ofList pieces.flatten)

/-- Nothing is joined when no leaf has a text. -/
theorem joined_eq_none_iff {leaves : List Leaf} :
    joined leaves = none ↔ ∀ leaf ∈ leaves, leaf = .other := by
  simp only [← Leaf.text?_eq_none_iff, ← List.filterMap_eq_nil_iff]
  unfold joined
  cases leaves.filterMap Leaf.text? <;> simp

/-- Otherwise the texts are joined in their order. -/
theorem joined_of_ne_none {leaves : List Leaf} (literal : joined leaves ≠ none) :
    joined leaves = some (String.ofList (leaves.filterMap Leaf.text?).flatten) := by
  unfold joined at *
  split
  · next none => simp [none] at literal
  · rfl

/-- Two rows of leaves are joined as the two sides of a sum are. -/
theorem joinSides_joined (first second : List Leaf) :
    Node.joinSides (joined first) (joined second) = joined (first ++ second) := by
  unfold joined
  rw [List.filterMap_append]
  cases first.filterMap Leaf.text? <;> cases second.filterMap Leaf.text? <;>
    simp [Node.joinSides, String.append_assoc]

end Concatenation

namespace Leaf

open Concatenation

/-- The literal text of a node that is written as a leaf. -/
theorem Spells.literalText_eq {leaf : Leaf} {node : Node} (spells : leaf.Spells node) :
    node.literalText = joined [leaf] := by
  cases leaf with
  | string contents =>
    obtain ⟨isString, quote, isQuote, quoted⟩ := spells
    have unquoted : Text.unquote node.text = String.ofList contents :=
      Text.unquote_quoted isQuote (by simpa using quoted)
    rw [Node.literalText_eq, isString]
    simp [unquoted, joined, text?]
  | template parts =>
    obtain ⟨role, gap, rfl⟩ := spells
    simp [Node.literalText_template, joined, text?]
  | other =>
    obtain ⟨noString, noTemplate, noParenthesis, noSum⟩ := spells
    have none : joined [.other] = none := rfl
    rw [Node.literalText_eq]
    -- Each of the four forms that have a text is excluded by one of the four facts.
    split <;> simp_all

end Leaf

namespace Concatenation

/-- **The literal text of sums**: the literal texts of the leaves, from left to right. -/
theorem Writes.literalText_eq {node : Node} {expression : Concatenation}
    (writes : Writes node expression) : node.literalText = joined expression.leaves := by
  induction writes with
  | operand spells => exact spells.literalText_eq
  | parenthesized isParenthesized first _ ih =>
    rw [Node.literalText_eq, isParenthesized, first]
    exact ih
  | sum isBinary plus atLeft atRight _ _ inLeft inRight =>
    rw [Node.literalText_eq, isBinary, atLeft, atRight]
    simp only [plus, if_true, Option.bind_some, inLeft, inRight]
    exact joinSides_joined _ _

/-- What builds a string has a literal text: a template always, a sum by definition. -/
theorem literalText_ne_none_of_isStringBuilder {node : Node}
    (builds : node.isStringBuilder = true) : node.literalText ≠ none := by
  unfold Node.isStringBuilder at builds
  split at builds
  · next isTemplate =>
    rw [Node.literalText_eq, isTemplate]
    exact Option.some_ne_none _
  · exact Option.isSome_iff_ne_none.1 builds
  · cases builds

/-- The literal text of an expression that is made by sums and parentheses: there is none
exactly when no leaf is a string or a template, and else it is made of those of the leaves, from
left to right. Groups and parentheses have no say in it. -/
theorem Writes.literalText_of_leaves {node : Node} {expression : Concatenation}
    (writes : Writes node expression) :
    (node.literalText = none ↔ ∀ leaf ∈ expression.leaves, leaf = .other) ∧
    (node.literalText ≠ none → node.literalText =
      some (String.ofList (expression.leaves.filterMap Leaf.text?).flatten)) ∧
    ∀ other regrouped, Writes other regrouped → Regroups expression regrouped →
      other.literalText = node.literalText := by
  have literal := writes.literalText_eq
  refine ⟨?_, ?_, ?_⟩
  · rw [literal]
    exact joined_eq_none_iff
  · rw [literal]
    exact joined_of_ne_none
  · intro other regrouped writes' regroups
    rw [writes'.literalText_eq, literal, regroups.leaves_eq]

/-- **The literal text of expressions** is what the leaves of their sums say, from left to
right. What builds a string has a literal text, and the octets of a template are never cut
within a character. -/
theorem literalText_reads_expressions :
    (∀ (node : Node) (expression : Concatenation), Writes node expression →
      (node.literalText = none ↔ ∀ leaf ∈ expression.leaves, leaf = .other) ∧
      (node.literalText ≠ none → node.literalText =
        some (String.ofList (expression.leaves.filterMap Leaf.text?).flatten)) ∧
      ∀ other regrouped, Writes other regrouped → Regroups expression regrouped →
        other.literalText = node.literalText) ∧
    (∀ builder : Node, builder.isStringBuilder = true → builder.literalText ≠ none) ∧
    ∀ role gap parts, Text.decode (Node.template role gap parts).octetsOutsideSlots =
      .ok ((Node.templateItems parts).filterMap id) :=
  ⟨fun _ _ writes => writes.literalText_of_leaves,
    fun _ => literalText_ne_none_of_isStringBuilder, Node.decode_octetsOutsideSlots⟩

/-- An expression as it is written in a slot of a template. -/
def slot (inner : Node) : Node :=
  .mk .templateSubstitution none "" "" [.leaf .token "" "$\x7b", inner, .leaf .token "" "\x7d"]

/-- The parts of a template with slots at both ends, two of them side by side, one with a
template in it. -/
def welcomeParts : List Node :=
  [slot (.leaf .identifier "" "a"), slot (Node.template none "" [.leaf .stringFragment "" "ü"]),
    .leaf .stringFragment "" "/ß→", slot (.leaf .identifier "" "b")]

/-- The sum of a string and a name, in parentheses. -/
def welcomeStart : Node :=
  .mk .parenthesizedExpression (some .left) "" ""
    [.leaf .token "" "(",
      .mk .binaryExpression none "" ""
        [.mk .string (some .left) "" "'é'" [], .mk .token (some .operator) " " "+" [],
          .mk .identifier (some .right) " " "x" []],
      .leaf .token "" ")"]

/-- The sum of that and a template. -/
def welcome : Node :=
  .mk .binaryExpression none "" ""
    [welcomeStart, .mk .token (some .operator) " " "+" [],
      Node.template (some .right) " " welcomeParts]

/-- The shape of the sum. -/
def welcomeShape : Concatenation :=
  .sum (.parenthesized (.sum (.operand (.string ['é'])) (.operand .other)))
    (.operand (.template welcomeParts))

/-- The expression of the witness writes its shape. -/
theorem writes_welcome : Writes welcome welcomeShape := by
  refine .sum rfl (by decide) rfl rfl
    (.parenthesized rfl rfl (.sum rfl (by decide) rfl rfl ?_ ?_)) ?_
  · exact .operand ⟨rfl, '\'', rfl, by decide⟩
  · exact .operand ⟨by decide, by decide, by decide, by decide⟩
  · exact .operand ⟨_, _, rfl⟩

/-- The leaves of the witness are read as one text, however they are grouped. -/
theorem literalText_welcome :
    Writes welcome welcomeShape ∧
    (welcome.literalText = none ↔ ∀ leaf ∈ welcomeShape.leaves, leaf = .other) ∧
    (welcome.literalText ≠ none → welcome.literalText = some "é/ß→") ∧
    ∀ other regrouped, Writes other regrouped → Regroups welcomeShape regrouped →
      other.literalText = welcome.literalText :=
  ⟨writes_welcome, literalText_reads_expressions.1 welcome welcomeShape writes_welcome⟩

end Concatenation

end Accord.Script
