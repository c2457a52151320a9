import Accord.Lint.Value
import Accord.Proofs.Types.Description

/-!
# `Accord.Proofs.Lint.Value`: the values that a declared text accepts

`Accepts` lists what a declared text accepts, rule by rule and without the order in which
`checkValue` tries things: the values of an enumeration, anything under an open type, objects
under an object type or a declared name, arrays under an array type, and all other values under
the name of their type.

`checkValue_eq_none_iff` says that the check finds nothing exactly when the text accepts the
value. It asks that a text which names an enumeration is given a text or a number, since the
check leaves all other values of such a property alone.
-/

set_option autoImplicit false

namespace Accord

/-- A value that is no array and no object. -/
def Json.IsScalar : Json → Prop
  | .array _ | .object _ => False
  | _ => True

/-- A text or a number, and how it is spelled among the values of an enumeration. -/
inductive Json.Spells : Json → String → Prop where
  | text {written : String} : Spells (.string written) written
  | number {value : Json} {written : String} : value.numberText? = some written →
      Spells value written

/-- The name of the type of a value is among the names of types. -/
theorem Json.typeName_mem_typeNames (value : Json) : value.typeName ∈ Json.typeNames := by
  cases value <;> simp [typeName, typeNames]

/-- Two registries give the same answers to what is asked about the type of a value. -/
structure Types.Registry.AnswersAlike (registry other : Types.Registry) : Prop where
  contains : ∀ name, registry.contains name = other.contains name
  enumValues? : ∀ name, registry.enumValues? name = other.enumValues? name
  resolves : ∀ name, (registry.resolve name).isNone = (other.resolve name).isNone

namespace Lint

open Accord.Types

variable {registry : Registry} {text : String}

/-- A declared text is the name of an enumeration with these values. -/
def NamesEnum (registry : Registry) (text : String) (values : List String) : Prop :=
  describeText text = ⟨.reference, text⟩ ∧ ∃ definition, registry.get? text = some definition ∧
    definition.kind = .enumeration ∧ definition.properties.values = values

/-- The items that an array with this element type may have. -/
def AcceptsItems (registry : Registry) (element : String) (items : List Json) : Prop :=
  element ∈ primitiveNames ∧ (element ∈ openNames ∨ ∀ item ∈ items, item.typeName = element) ∨
    element ∉ primitiveNames ∧ (registry.resolve element).isSome = true

/-- The values that a declared text accepts. -/
inductive Accepts (registry : Registry) (text : String) : Json → Prop where
  /-- The name of an enumeration accepts the texts and numbers that spell one of its values. -/
  | enumeration {value : Json} {values : List String} {written : String} :
      NamesEnum registry text values → value.Spells written → written ∈ values →
      Accepts registry text value
  /-- An open type accepts everything. -/
  | anything {value : Json} : text ∈ openNames → Accepts registry text value
  /-- An object type written in place accepts objects. -/
  | inPlace {members : List (String × Json)} : text = objectText →
      Accepts registry text (.object members)
  /-- The name of a declared type that is no enumeration accepts objects. -/
  | named {members : List (String × Json)} : describeText text = ⟨.reference, text⟩ →
      (∀ values, ¬NamesEnum registry text values) → registry.contains text = true →
      Accepts registry text (.object members)
  /-- An array of a primitive type accepts arrays with items of that type, and all arrays if the
  type is open; an array of another type accepts all arrays, if the type is declared. -/
  | items {element : String} {items : List Json} : text = element ++ arrayMark →
      AcceptsItems registry element items → Accepts registry text (.array items)
  /-- The name of the type of a value accepts it, if it is no array and no object. -/
  | scalar {value : Json} : value.IsScalar → (∀ values, ¬NamesEnum registry text values) →
      value.typeName = text → Accepts registry text value

/-! ### The checks one by one -/

/-- The values that a property is compared with are those of the enumeration that it names. -/
theorem enumValues?_iff {values : List String} :
    (if (describeText text).shape = .reference then
        registry.enumValues? (describeText text).typeName else none) = some values ↔
      NamesEnum registry text values := by
  unfold NamesEnum Registry.enumValues?
  constructor
  · intro h
    split at h
    · next reference =>
      have described := describeText_eq_of_shape reference (by decide)
      obtain ⟨definition, held, found⟩ := Option.bind_eq_some_iff.1 h
      rw [described] at held
      split at found
      · next kind => exact ⟨described, definition, held, kind, Option.some.inj found⟩
      · cases found
    · cases h
  · rintro ⟨described, definition, held, kind, rfl⟩
    simp [described, held, kind]

/-- If the lookup of an enumeration fails, the text names none. -/
theorem not_namesEnum_of_eq_none
    (none : (if (describeText text).shape = .reference then
        registry.enumValues? (describeText text).typeName else none) = none)
    (values : List String) : ¬NamesEnum registry text values := by
  intro names
  rw [enumValues?_iff.2 names] at none
  cases none

/-- A text names one enumeration. -/
theorem NamesEnum.unique {values others : List String} (names : NamesEnum registry text values)
    (namesOthers : NamesEnum registry text others) : values = others :=
  Option.some.inj ((enumValues?_iff.2 names).symm.trans (enumValues?_iff.2 namesOthers))

/-- A text or number is compared with the values of an enumeration as it is spelled. -/
theorem checkEnum_of_spells {values : List String} {value : Json} {written : String}
    (spells : value.Spells written) :
    checkEnum values value =
      if written ∈ values then none else some (.notInEnum values value.display) := by
  cases spells with
  | text => simp [checkEnum]
  | number h =>
    cases value with
    | int | double =>
      simp only [checkEnum, h]
      simp
    | _ => cases h

/-- A text or number under the name of an enumeration has to spell one of its values. -/
theorem checkEnum_eq_none_iff {values : List String} {value : Json}
    (spelled : ∃ written, value.Spells written) :
    checkEnum values value = none ↔ ∃ written, value.Spells written ∧ written ∈ values := by
  have single : ∀ written, value.Spells written →
      (checkEnum values value = none ↔ written ∈ values) := by
    intro written spells
    rw [checkEnum_of_spells spells]
    split <;> simp [*]
  obtain ⟨written, spells⟩ := spelled
  rw [single written spells]
  constructor
  · exact fun member => ⟨written, spells, member⟩
  · rintro ⟨other, spellsOther, member⟩
    exact (single written spells).1 ((single other spellsOther).2 member)

/-- A value under the name of an enumeration is compared with its values and with nothing else. -/
theorem checkValue_of_namesEnum {values : List String} (names : NamesEnum registry text values)
    (value : Json) : checkValue registry (describeText text) value = checkEnum values value := by
  simp only [checkValue, enumValues?_iff.2 names]

/-- The items of an array have one type when each of them has it. -/
theorem itemTypes_eq_singleton_iff {items : List Json} {element : String}
    (nonempty : items ≠ []) (single : Json.typeNames.filter (· = element) = [element]) :
    itemTypes items = [element] ↔ ∀ item ∈ items, item.typeName = element := by
  unfold itemTypes
  constructor
  · intro h item member
    have shown : item.typeName ∈ [element] := by
      rw [← h, List.mem_filter]
      refine ⟨item.typeName_mem_typeNames, ?_⟩
      rw [List.any_eq_true]
      exact ⟨item, member, by simp⟩
    exact List.mem_singleton.1 shown
  · intro h
    rw [← single]
    apply List.filter_congr
    intro name _
    rw [Bool.eq_iff_iff, List.any_eq_true, decide_eq_true_iff]
    constructor
    · rintro ⟨item, member, named⟩
      rw [h item member] at named
      exact (of_decide_eq_true named).symm
    · rintro rfl
      obtain ⟨item, member⟩ := List.exists_mem_of_ne_nil items nonempty
      exact ⟨item, member, by simp [h item member]⟩

/-- The primitive types that are not open are types of values. -/
theorem filter_typeNames_eq {element : String} (primitive : element ∈ primitiveNames)
    (closed : element ∉ openNames) : Json.typeNames.filter (· = element) = [element] := by
  simp only [primitiveNames, List.mem_cons, List.not_mem_nil, or_false] at primitive
  rcases primitive with rfl | rfl | rfl | rfl | rfl
  · decide
  · decide
  · decide
  · exact absurd (by decide) closed
  · exact absurd (by decide) closed

/-- An array under an array type is checked by its items. -/
theorem checkArray_array_eq_none_iff {element : String} {items : List Json} :
    checkArray registry (describeText (element ++ arrayMark)) items = none ↔
      AcceptsItems registry element items := by
  unfold checkArray AcceptsItems
  rw [describeText_array, if_neg (by simp)]
  by_cases primitive : element ∈ primitiveNames
  · simp only [List.contains_iff_mem, primitive, if_true, true_and, not_true_eq_false,
      false_and, or_false]
    by_cases isOpen : element ∈ openNames
    · simp [isOpen]
    · by_cases empty : items = []
      · simp [empty]
      · simp [isOpen, empty,
          itemTypes_eq_singleton_iff empty (filter_typeNames_eq primitive isOpen)]
  · simp [primitive, Option.isSome_iff_ne_none]

/-- The items of an array can be checked against an element type: it is primitive or declared. -/
def KnownElement (registry : Registry) (element : String) : Prop :=
  element ∈ primitiveNames ∨ (registry.resolve element).isSome = true

/-- An array whose element is not known is reported for the element. -/
theorem checkArray_of_unknown {element : String} (unknown : ¬KnownElement registry element)
    (items : List Json) :
    checkArray registry ⟨.array, element⟩ items = some (.unknownElement element) := by
  rw [KnownElement, not_or] at unknown
  have unresolved : (registry.resolve element).isNone = true := by simpa using unknown.2
  simp [checkArray, unknown.1, unresolved]

/-- Nothing is found about an array exactly when the text is that of an array of accepted items. -/
theorem checkArray_eq_none_iff {items : List Json} :
    checkArray registry (describeText text) items = none ↔
      ∃ element, text = element ++ arrayMark ∧ AcceptsItems registry element items := by
  constructor
  · intro h
    by_cases array : (describeText text).shape = .array
    · obtain ⟨element, rfl⟩ := exists_of_shape_array array
      exact ⟨element, rfl, checkArray_array_eq_none_iff.1 h⟩
    · simp [checkArray, array] at h
  · rintro ⟨element, rfl, accepted⟩
    exact checkArray_array_eq_none_iff.2 accepted

/-- Nothing is found about an object exactly when its type is written in place or is a known name.
-/
theorem checkObject_eq_none_iff :
    checkObject registry (describeText text) = none ↔
      text = objectText ∨
        describeText text = ⟨.reference, text⟩ ∧ registry.contains text = true := by
  unfold checkObject
  split
  · next inPlace => exact iff_of_true rfl (.inl (eq_objectText_of_shape inPlace))
  · next notInPlace =>
    have other : text ≠ objectText := by
      rintro rfl
      exact notInPlace rfl
    split
    · next named =>
      rw [Bool.and_eq_true, decide_eq_true_iff] at named
      -- A reference is described by its own text, so it is the name that is looked up.
      have described := describeText_eq_of_shape named.1 (by decide)
      rw [described] at named
      exact iff_of_true rfl (.inr ⟨described, named.2⟩)
    · next unnamed =>
      refine iff_of_false (by simp) ?_
      rintro (inPlace | ⟨described, held⟩)
      · exact other inPlace
      · exact unnamed (by simp [described, held])

/-- Nothing is found about a scalar exactly when the text names its type. -/
theorem checkScalar_eq_none_iff {value : Json} :
    checkScalar (describeText text) value = none ↔ value.typeName = text := by
  unfold checkScalar
  rw [declared_describeText]
  split <;> simp [*]

/-! ### The check of a value -/

/-- A text that names an enumeration accepts what spells one of its values and nothing else. -/
theorem accepts_iff_of_namesEnum {values : List String} {value : Json}
    (names : NamesEnum registry text values) :
    Accepts registry text value ↔ ∃ written, value.Spells written ∧ written ∈ values := by
  constructor
  · intro accepts
    have described := names.1
    cases accepts with
    | enumeration other spells member =>
      obtain rfl := names.unique other
      exact ⟨_, spells, member⟩
    | anything isOpen =>
      rw [describeText_of_open isOpen] at described
      cases described
    | inPlace same =>
      subst same
      cases described
    | named _ none => exact absurd names (none _)
    | items same =>
      subst same
      rw [describeText_array] at described
      cases described
    | scalar _ none => exact absurd names (none _)
  · rintro ⟨written, spells, member⟩
    exact .enumeration names spells member

/-- What a text accepts that names no enumeration and no open type, by the kind of the value. -/
theorem accepts_array_iff {items : List Json} (none : ∀ values, ¬NamesEnum registry text values)
    (closed : text ∉ openNames) :
    Accepts registry text (.array items) ↔
      ∃ element, text = element ++ arrayMark ∧ AcceptsItems registry element items := by
  constructor
  · intro accepts
    cases accepts with
    | enumeration names => exact absurd names (none _)
    | anything isOpen => exact absurd isOpen closed
    | items same accepted => exact ⟨_, same, accepted⟩
    | scalar isScalar => exact isScalar.elim
  · rintro ⟨element, same, accepted⟩
    exact .items same accepted

/-- A text that is neither an enumeration nor open accepts objects in place and under known names.
-/
theorem accepts_object_iff {members : List (String × Json)}
    (none : ∀ values, ¬NamesEnum registry text values) (closed : text ∉ openNames) :
    Accepts registry text (.object members) ↔
      text = objectText ∨
        describeText text = ⟨.reference, text⟩ ∧ registry.contains text = true := by
  constructor
  · intro accepts
    cases accepts with
    | enumeration names => exact absurd names (none _)
    | anything isOpen => exact absurd isOpen closed
    | inPlace same => exact .inl same
    | named described _ held => exact .inr ⟨described, held⟩
    | scalar isScalar => exact isScalar.elim
  · rintro (same | ⟨described, held⟩)
    · exact .inPlace same
    · exact .named described none held

/-- Such a text accepts a scalar when it names its type. -/
theorem accepts_scalar_iff {value : Json} (isScalar : value.IsScalar)
    (none : ∀ values, ¬NamesEnum registry text values) (closed : text ∉ openNames) :
    Accepts registry text value ↔ value.typeName = text := by
  constructor
  · intro accepts
    cases accepts with
    | enumeration names => exact absurd names (none _)
    | anything isOpen => exact absurd isOpen closed
    | inPlace | named | items => exact isScalar.elim
    | scalar _ _ same => exact same
  · exact .scalar isScalar none

/-- The check of a value finds nothing exactly when the declared text accepts the value. -/
theorem checkValue_eq_none_iff {value : Json}
    (spelled : ∀ values, NamesEnum registry text values → ∃ written, value.Spells written) :
    checkValue registry (describeText text) value = none ↔ Accepts registry text value := by
  simp only [checkValue]
  split
  -- The rules are tried in the order of the check: enumerations, open names, arrays, objects,
  -- scalars.
  · next values found =>
    have names := enumValues?_iff.1 found
    rw [checkEnum_eq_none_iff (spelled values names), accepts_iff_of_namesEnum names]
  · next notFound =>
    have none := not_namesEnum_of_eq_none notFound
    split
    · next isOpen =>
      rw [Bool.and_eq_true, decide_eq_true_iff, List.contains_iff_mem] at isOpen
      rw [describeText_eq_of_shape isOpen.1 (by decide)] at isOpen
      exact iff_of_true rfl (.anything isOpen.2)
    · next other =>
      have closed : text ∉ openNames := by
        intro isOpen
        exact other (by simp [describeText_of_open isOpen, isOpen])
      split
      · rw [checkArray_eq_none_iff, accepts_array_iff none closed]
      · rw [checkObject_eq_none_iff, accepts_object_iff none closed]
      · next notArray notObject =>
        have isScalar : value.IsScalar := by
          cases value with
          | array items => exact notArray items rfl
          | object members => exact notObject members rfl
          | _ => trivial
        rw [checkScalar_eq_none_iff, accepts_scalar_iff isScalar none closed]

/-! ### What a check asks a registry -/

/-- Registries that give the same answers lead to the same result. -/
theorem checkValue_congr {other : Registry} (alike : registry.AnswersAlike other)
    (declared : Descriptor) (value : Json) :
    checkValue registry declared value = checkValue other declared value := by
  simp only [checkValue, checkArray, checkObject, alike.contains, alike.enumValues?,
    alike.resolves]

end Lint

end Accord
