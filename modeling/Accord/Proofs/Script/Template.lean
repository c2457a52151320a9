import Accord.Script.Literal

/-!
# `Accord.Proofs.Script.Template`: the literal text of a template

A template is a row of parts between two backquotes. `templateItems` reads the parts as
characters and slots, without regard to how the characters are spread over parts.
`literalText_template` says that the literal text is what remains of this reading when the slots
are taken out.
-/

set_option autoImplicit false

namespace Accord.Script.Node

/-- The literal text of an expression, from those of the expressions in it. -/
theorem literalText_eq (node : Node) :
    node.literalText =
      match node.kind with
      | .string => some (Text.unquote node.text)
      | .templateString => some node.templateText
      | .parenthesizedExpression => node.namedChildren.head?.bind literalText
      | .binaryExpression =>
        if (node.child? .operator).any isPlus then
          joinSides ((node.child? .left).bind literalText) ((node.child? .right).bind literalText)
        else none
      | _ => none := by
  rw [literalText]
  generalize node.namedChildren.head? = inner
  generalize node.child? .left = left
  generalize node.child? .right = right
  cases inner <;> cases left <;> cases right <;> rfl

/-- The backquote at either end of a template. -/
def backquote : Node :=
  .leaf .token "" "`"

/-- A template with parts between its backquotes. -/
def template (role : Option Role) (gap : String) (parts : List Node) : Node :=
  .mk .templateString role gap "" (backquote :: (parts ++ [backquote]))

/-- The characters and slots of the parts of a template; a slot is `none`. Blanks before a part
belong to the text. -/
def templateItems : List Node → List (Option Char)
  | [] => []
  | part :: rest =>
    let inside := if part.kind = .templateSubstitution then [none] else part.text.toList.map some
    part.gap.toList.map some ++ inside ++ templateItems rest

/-- Leaving out nothing gives all the items. -/
theorem filterMap_map_some {α : Type} (items : List α) :
    (items.map some).filterMap id = items := by
  rw [List.filterMap_map]
  exact List.filterMap_some

/-- The text outside the slots is what remains without them. -/
theorem toList_textOutsideSlots (parts : List Node) :
    (textOutsideSlots parts).toList = (templateItems parts).filterMap id := by
  induction parts with
  | nil => rfl
  | cons part rest ih =>
    simp only [textOutsideSlots, templateItems, String.toList_append, List.filterMap_append, ih,
      filterMap_map_some]
    split
    · rfl
    · rw [filterMap_map_some]

/-- The text outside the slots is read part by part. -/
theorem textOutsideSlots_append (first second : List Node) :
    textOutsideSlots (first ++ second) = textOutsideSlots first ++ textOutsideSlots second := by
  induction first with
  | nil => simp [textOutsideSlots]
  | cons part rest ih => simp only [List.cons_append, textOutsideSlots, ih, String.append_assoc]

/-- A backquote is outside the slots. -/
theorem toList_textOutsideSlots_backquote (parts : List Node) :
    (textOutsideSlots (backquote :: parts)).toList = '`' :: (textOutsideSlots parts).toList := by
  simp [textOutsideSlots, backquote, leaf, gap, kind, text, textAll]

/-- The literal text of a template is what remains without its slots. -/
theorem literalText_template (role : Option Role) (gap : String) (parts : List Node) :
    (template role gap parts).literalText =
      some (String.ofList ((templateItems parts).filterMap id)) := by
  -- The two backquotes are the first and the last character outside the slots, and are cut off.
  have inside : (template role gap parts).templateText =
      String.ofList ((templateItems parts).filterMap id) := by
    have closing : (textOutsideSlots [backquote]).toList = ['`'] :=
      toList_textOutsideSlots_backquote []
    show String.ofList ((("" ++ textOutsideSlots (backquote :: (parts ++ [backquote]))).toList.drop
      1).dropLast) = _
    rw [String.empty_append, toList_textOutsideSlots_backquote, List.drop_one, List.tail_cons,
      textOutsideSlots_append, String.toList_append, closing, List.dropLast_concat,
      toList_textOutsideSlots]
  rw [literalText]
  show some (template role gap parts).templateText = _
  rw [inside]

end Accord.Script.Node
