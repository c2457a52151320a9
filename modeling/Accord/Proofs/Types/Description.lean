import Accord.Types.Definition

/-!
# `Accord.Proofs.Types.Description`: what a declared text is classified as

`describeText` tries an object type first, then an array mark at the end, then the primitive
types and last the form of a name. The lemmas say what each shape tells of the text, and that
the text can be read back from its description (`declared_describeText`).
-/

set_option autoImplicit false

namespace Accord.Types

variable {text element : String}

/-! ### Array marks -/

/-- A text with a mark behind it has the text as its element. -/
theorem element?_append (element : String) : element? (element ++ arrayMark) = some element := by
  unfold element?
  rw [String.toList_append, if_pos (by simp), ← String.length_toList (s := arrayMark),
    List.length_append, Nat.add_sub_cancel, List.take_left, String.ofList_toList]

/-- A text has an element exactly when it is the element with the mark behind it. -/
theorem element?_eq_some_iff : element? text = some element ↔ text = element ++ arrayMark := by
  constructor
  · intro h
    have suffixed : arrayMark.toList.isSuffixOf text.toList = true := by
      simp only [element?] at h
      split at h
      · next suffixed => exact suffixed
      · cases h
    obtain ⟨front, same⟩ := List.isSuffixOf_iff_suffix.1 suffixed
    obtain rfl : String.ofList front ++ arrayMark = text := by
      apply String.toList_inj.1
      rw [String.toList_append, String.toList_ofList, same]
    rw [element?_append] at h
    rw [Option.some.inj h]
  · rintro rfl
    exact element?_append element

/-! ### Shapes -/

/-- A text with the mark of an array is described as one. -/
theorem describeText_array (element : String) :
    describeText (element ++ arrayMark) = ⟨.array, element⟩ := by
  unfold describeText
  have other : element ++ arrayMark ≠ objectText := by
    intro same
    have none : element? objectText = none := by decide
    rw [← same, element?_append] at none
    cases none
  rw [if_neg other, element?_append]

/-- An open text is described as a primitive type. -/
theorem describeText_of_open (h : text ∈ openNames) : describeText text = ⟨.primitive, text⟩ := by
  simp only [openNames, List.mem_cons, List.not_mem_nil, or_false] at h
  rcases h with rfl | rfl
  · decide
  · decide

/-- A description says of which text it is: the text without its mark for an array, the text itself
for every other shape. -/
theorem describeText_cases (text : String) :
    (∃ element, text = element ++ arrayMark ∧ describeText text = ⟨.array, element⟩) ∨
      ∃ shape, shape ≠ .array ∧ (shape = .object → text = objectText) ∧
        describeText text = ⟨shape, text⟩ := by
  unfold describeText
  split
  · next same => exact .inr ⟨.object, by decide, fun _ => same, rfl⟩
  · split
    · next element marked => exact .inl ⟨element, element?_eq_some_iff.1 marked, rfl⟩
    · split
      · exact .inr ⟨.primitive, by decide, nofun, rfl⟩
      · exact .inr ⟨.reference, by decide, nofun, rfl⟩

/-- A shape other than that of an array describes the text itself. -/
theorem describeText_eq_of_shape {shape : Shape} (h : (describeText text).shape = shape)
    (other : shape ≠ .array) : describeText text = ⟨shape, text⟩ := by
  rcases describeText_cases text with ⟨_, _, described⟩ | ⟨_, _, _, described⟩
  · rw [described] at h
    exact absurd h.symm other
  · rw [described] at h ⊢
    rw [← h]

/-- Only a text with the mark is described as an array. -/
theorem exists_of_shape_array (h : (describeText text).shape = .array) :
    ∃ element, text = element ++ arrayMark := by
  rcases describeText_cases text with ⟨element, marked, _⟩ | ⟨_, other, _, described⟩
  · exact ⟨element, marked⟩
  · rw [described] at h
    exact absurd h other

/-- Only the text of object types is described as an object. -/
theorem eq_objectText_of_shape (h : (describeText text).shape = .object) : text = objectText := by
  rcases describeText_cases text with ⟨_, _, described⟩ | ⟨_, _, inPlace, described⟩
  · rw [described] at h
    cases h
  · rw [described] at h
    exact inPlace h

/-- The declared text can be read back from its description. -/
theorem declared_describeText (text : String) : (describeText text).declared = text := by
  rcases describeText_cases text with ⟨_, marked, described⟩ | ⟨_, other, _, described⟩
  · rw [described, marked]
    rfl
  · rw [described, Descriptor.declared, if_neg other]

end Accord.Types
