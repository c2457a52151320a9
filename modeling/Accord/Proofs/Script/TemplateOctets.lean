import Accord.Proofs.Script.Template
import Accord.Proofs.Text.Utf8

/-!
# `Accord.Proofs.Script.TemplateOctets`: cutting the slots out of octets

The text of a template outside its slots can also be cut out of the octets of the template, by
the places at which the slots begin and end. `octetsOutsideSlots` does so: it carries the place
behind the last slot, counted from the opening backquote, and drops the octet of the closing
one. Every cut falls between two characters, so what is left is the encoding of the text outside
the slots (`decode_octetsOutsideSlots`).
-/

set_option autoImplicit false

namespace Accord.Script.Node

/-- The octets of a text. -/
def octets (text : String) : List UInt8 :=
  text.toList.flatMap String.utf8EncodeChar

/-- The octets of two texts are those of the first and then those of the second. -/
theorem octets_append (first second : String) :
    octets (first ++ second) = octets first ++ octets second := by
  rw [octets, String.toList_append, List.flatMap_append]
  rfl

/-- Cuts the slots among nodes out of the octets that they stand in. `cursor` is the place
behind the last slot, `position` the place behind the last node. -/
def cutSlots (raw : List UInt8) (cursor position : Nat) : List Node → List UInt8
  | [] => (raw.take (raw.length - 1)).drop cursor
  | child :: rest =>
    let first := position + (octets child.gap).length
    let last := first + (octets child.text).length
    if child.kind = .templateSubstitution then
      (raw.take first).drop cursor ++ cutSlots raw last last rest
    else cutSlots raw cursor last rest

/-- The octets of a template outside its slots and between its backquotes. -/
def octetsOutsideSlots (node : Node) : List UInt8 :=
  cutSlots (octets node.text) 1 (octets node.lexeme).length node.children

/-- From a place on, the cut gives what was kept since the last slot and what is outside the
slots that follow. -/
theorem cutSlots_eq {raw : List UInt8} {parts : List Node} (before kept : List UInt8)
    (h : raw = before ++ kept ++ octets (textAll (parts ++ [backquote]))) :
    cutSlots raw before.length (before ++ kept).length (parts ++ [backquote]) =
      kept ++ octets (textOutsideSlots parts) := by
  induction parts generalizing before kept with
  | nil =>
    have closing : octets (textAll [backquote]) = [0x60] := by decide
    rw [List.nil_append, closing] at h
    have cut : cutSlots raw before.length (before ++ kept).length [backquote] =
        (raw.take (raw.length - 1)).drop before.length := rfl
    rw [List.nil_append, cut, ← List.dropLast_eq_take, h, List.dropLast_concat, List.drop_left]
    exact (List.append_nil kept).symm
  | cons part rest ih =>
    rw [List.cons_append, textAll, octets_append, octets_append] at h
    rw [List.cons_append, cutSlots, textOutsideSlots]
    split
    -- A slot closes what was kept and begins again behind itself.
    · next isSlot =>
      have taken : raw.take ((before ++ kept).length + (octets part.gap).length) =
          before ++ (kept ++ octets part.gap) := by
        rw [h, ← List.length_append, ← List.append_assoc, ← List.append_assoc, ← List.append_assoc,
          List.append_assoc (before ++ kept ++ octets part.gap), List.take_left]
      have behind := ih (before ++ kept ++ octets part.gap ++ octets part.text) []
        (by rw [h]; simp only [List.append_assoc, List.nil_append])
      simp only [List.append_nil, List.length_append, List.nil_append] at behind taken ⊢
      rw [taken, List.drop_left, behind]
      simp only [octets_append, List.append_assoc]
      rfl
    -- Any other part goes on with what is kept.
    · next isText =>
      have behind := ih before (kept ++ octets part.gap ++ octets part.text)
        (by rw [h]; simp only [List.append_assoc])
      simp only [List.length_append, ← Nat.add_assoc] at behind ⊢
      rw [behind]
      simp only [octets_append, List.append_assoc]

/-- The octets of a template begin with a backquote. -/
theorem octets_text_template (role : Option Role) (gap : String) (parts : List Node) :
    octets (template role gap parts).text = 0x60 :: octets (textAll (parts ++ [backquote])) := by
  have opening : octets (text backquote) = [0x60] := by decide
  have shape : (template role gap parts).text =
      backquote.gap ++ text backquote ++ textAll (parts ++ [backquote]) :=
    String.empty_append
  rw [shape, octets_append, octets_append, opening]
  rfl

/-- **Every cut falls between two characters**: what is left of the octets of a template is the
encoding of its text outside the slots. -/
theorem decode_octetsOutsideSlots (role : Option Role) (gap : String) (parts : List Node) :
    Text.decode (octetsOutsideSlots (template role gap parts)) =
      .ok ((templateItems parts).filterMap id) := by
  rw [Text.decode_eq_ok_iff, ← toList_textOutsideSlots]
  exact cutSlots_eq [0x60] [] (octets_text_template role gap parts)

end Accord.Script.Node
