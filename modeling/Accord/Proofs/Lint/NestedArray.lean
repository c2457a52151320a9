import Accord.Proofs.Lint.Accounting
import Accord.Proofs.Types.Registry

/-!
# `Accord.Proofs.Lint.NestedArray`: arrays of arrays

The text of an array type loses one mark when it is classified and one more when its element
type is looked up, and the primitive names are compared in between. So the elements of
`string[]` are known because `string` is primitive, and those of `Cell[][]` because `Cell` is
what is looked up for `Cell[]`. Nothing is known about the elements of `string[][]` and
`Cell[][][]`: what is left after two marks is no declared name, and a text with a mark is no
primitive name (`knownElement_marked_iff`).

`nested_verdict` says what that means for values that are arrays of arrays as declared. It does
not matter what they have inside; only the number of marks and whether the innermost name is
declared decide.
-/

set_option autoImplicit false

namespace Accord

/-- A value that consists of arrays down to a depth, with values of some form innermost. -/
inductive Json.Nested (innermost : Json → Prop) : Nat → Json → Prop where
  | leaf {value : Json} : innermost value → Nested innermost 0 value
  | array {depth : Nat} {items : List Json} : (∀ item ∈ items, Nested innermost depth item) →
      Nested innermost (depth + 1) (.array items)

/-- One nested item in an array is nested one deeper. -/
theorem Json.Nested.singleton {innermost : Json → Prop} {depth : Nat} {item : Json}
    (nested : item.Nested innermost depth) : (Json.array [item]).Nested innermost (depth + 1) :=
  .array (List.forall_mem_singleton.2 nested)

namespace Types

/-- The text of an element type with array marks behind it. -/
def marked (element : String) : Nat → String
  | 0 => element
  | depth + 1 => marked element depth ++ arrayMark

/-- No text with a mark is the name of a primitive type. -/
theorem marked_succ_not_mem_primitiveNames (element : String) (depth : Nat) :
    marked element (depth + 1) ∉ primitiveNames := by
  have unmarked : ∀ name ∈ primitiveNames, element? name = none := by decide
  intro primitive
  have none := unmarked _ primitive
  rw [marked, element?_append] at none
  cases none

/-- What is looked up for a text with a mark is the text before the mark. -/
theorem Registry.resolve_marked (registry : Registry) (element : String) (depth : Nat) :
    registry.resolve (marked element (depth + 1)) = registry.get? (marked element depth) := by
  rw [marked, resolve, element?_append, Option.getD_some]

end Types

namespace Lint

open Accord.Types

variable {registry : Registry} {code : List CodeEndpoint} {endpoint : ContractEndpoint}
  {side : Side} {property element : String} {value : Json} {depth : Nat}

/-- A value conforms to an element type: it has the primitive type, and it is an object where
the name is that of an interface. -/
structure ConformsTo (registry : Registry) (element : String) (value : Json) : Prop where
  typed : element ∈ primitiveNames → element ∉ openNames → value.typeName = element
  object : element ∉ primitiveNames → ∀ definition, registry.get? element = some definition →
    definition.kind = .interface → ∃ members, value = .object members

/-- The wording of a finding about an element type that is not known. -/
def unknownWording (endpoint : String) (side : Side) (property element : String) : String :=
  let place := s!"'{property}' in {side.text} body for endpoint {endpoint}"
  s!"Referenced type '{element}' not found for property {place}."

/-! ### Known element types -/

/-- Elements whose type has a mark are known when what is before the mark is declared. -/
theorem knownElement_marked_iff :
    KnownElement registry (marked element (depth + 1)) ↔
      registry.contains (marked element depth) = true := by
  rw [KnownElement, Registry.resolve_marked, Registry.contains_iff, Option.isSome_iff_exists]
  exact or_iff_right (marked_succ_not_mem_primitiveNames element depth)

/-- Where no declared name has a mark, one mark is read behind every name and two are read behind a
declared one. -/
theorem knownElement_iff_of_unmarked
    (unmarked : ∀ name, registry.contains name = true → element? name = none)
    (known : element ∈ primitiveNames ∨ registry.contains element = true) :
    KnownElement registry (marked element depth) ↔
      depth = 0 ∨ depth = 1 ∧ registry.contains element = true := by
  match depth with
  | 0 =>
    refine iff_of_true ?_ (.inl rfl)
    rcases known with primitive | declared
    · exact .inl primitive
    · refine .inr ?_
      rw [marked, Registry.resolve, unmarked element declared, Option.getD_none,
        Option.isSome_iff_exists, ← Registry.contains_iff]
      exact declared
  | 1 =>
    rw [knownElement_marked_iff, marked]
    simp
  | depth + 2 =>
    rw [knownElement_marked_iff]
    refine iff_of_false (fun declared => ?_) (by omega)
    have none := unmarked _ declared
    rw [marked, element?_append] at none
    cases none

/-! ### Nested values -/

/-- The items of an array that is nested as declared are accepted if their type is known. -/
theorem acceptsItems_of_nested {items : List Json}
    (known : KnownElement registry (marked element depth))
    (nested : ∀ item ∈ items, item.Nested (ConformsTo registry element) depth) :
    AcceptsItems registry (marked element depth) items := by
  by_cases primitive : marked element depth ∈ primitiveNames
  · refine .inl ⟨primitive, ?_⟩
    -- With a mark the text would be no primitive name, so the items are the innermost values.
    cases depth with
    | succ depth => exact absurd primitive (marked_succ_not_mem_primitiveNames element depth)
    | zero =>
      by_cases isOpen : element ∈ openNames
      · exact .inl isOpen
      · refine .inr fun item member => ?_
        cases nested item member with
        | leaf conforms => exact conforms.typed primitive isOpen
  · exact .inr ⟨primitive, known.resolve_left primitive⟩

/-- The check of a value that is nested as declared looks at the element type and at nothing
else. -/
theorem checkValue_nested (nested : value.Nested (ConformsTo registry element) (depth + 1)) :
    (KnownElement registry (marked element depth) →
      checkValue registry (describeText (marked element (depth + 1))) value = none) ∧
    (¬KnownElement registry (marked element depth) →
      checkValue registry (describeText (marked element (depth + 1))) value =
        some (.unknownElement (marked element depth))) := by
  cases nested with
  | @array _ items inner =>
    have reached : checkValue registry (describeText (marked element (depth + 1))) (.array items) =
        checkArray registry (describeText (marked element depth ++ arrayMark)) items := by
      simp [checkValue, marked, describeText_array]
    rw [reached]
    constructor
    · intro known
      exact checkArray_array_eq_none_iff.2 (acceptsItems_of_nested known inner)
    · intro unknown
      rw [describeText_array]
      exact checkArray_of_unknown unknown items

/-- **What is found about arrays of arrays.** A value that is nested as declared passes exactly
when the type of its items is known, and else that type is reported. Without marks in declared
names this is the case behind one mark, and behind two if the innermost name is declared. -/
theorem nested_verdict
    (shows : Shows registry code endpoint side property (marked element (depth + 1)) value)
    (known : element ∈ primitiveNames ∨ registry.contains element = true)
    (nested : value.Nested (ConformsTo registry element) (depth + 1)) :
    (valueFindings registry code endpoint side property = [] ↔
      KnownElement registry (marked element depth)) ∧
    (¬KnownElement registry (marked element depth) →
      ∃ finding, valueFindings registry code endpoint side property = [finding] ∧
        finding.endpoint = endpoint.name ∧ finding.kind = .referencedTypeNotFound ∧
        finding.message = unknownWording endpoint.name side property (marked element depth)) ∧
    ((∀ name, registry.contains name = true → element? name = none) →
      (valueFindings registry code endpoint side property = [] ↔
        depth = 0 ∨ depth = 1 ∧ registry.contains element = true)) := by
  obtain ⟨passes, fails⟩ := checkValue_nested nested
  have verdict : valueFindings registry code endpoint side property = [] ↔
      KnownElement registry (marked element depth) := by
    rw [valueFindings_eq_nil_iff shows]
    refine ⟨fun clean => ?_, passes⟩
    by_contra unknown
    rw [fails unknown] at clean
    cases clean
  refine ⟨verdict, ?_, ?_⟩
  · intro unknown
    rw [valueFindings_eq shows, fails unknown]
    exact ⟨_, rfl, rfl, rfl, rfl⟩
  · intro unmarked
    -- What is left is a question about names: which text behind the last mark is known.
    rw [verdict, knownElement_iff_of_unmarked unmarked known]

/-- A type of cells, and a type with arrays of arrays of cells and of texts. -/
def grids : Registry :=
  .ofDefinitions
    [⟨"Cell", .interface, .ofList [("text", "string")], []⟩,
      ⟨"Grid", .interface,
        .ofList [("cells", "Cell[][]"), ("rows", "string[][]"), ("layers", "Cell[][][]")], []⟩]

/-- A cell. -/
def cell : Json :=
  .object [("text", .string "a")]

/-- The members of an example that is nested as the type of grids declares. -/
def gridMembers : List (String × Json) :=
  [("cells", .array [.array [cell], .array []]), ("rows", .array [.array [.string "a"]]),
    ("layers", .array [.array [.array [cell]]])]

/-- An endpoint that shows the example. -/
def saveGrid : ContractEndpoint :=
  ⟨"Save grid", "POST", "grids", .object gridMembers, .null⟩

/-- The call that the endpoint meets. -/
def saveGridCall : CodeEndpoint :=
  ⟨"POST", "grids", some ⟨"Grid", .local, false⟩, none, "api.ts"⟩

/-- Each property of the grid is shown under its declared text. -/
theorem shows_saveGrid {property text : String} {value : Json}
    (declared : (Table.ofList [("cells", "Cell[][]"), ("rows", "string[][]"),
      ("layers", "Cell[][][]")]).get? property = some text)
    (held : Entries.get? gridMembers property = some value) :
    Shows grids [saveGridCall] saveGrid .request property text value := by
  have first : IsFirstMatch [saveGridCall] saveGrid saveGridCall :=
    isFirstMatch_singleton ⟨rfl, rfl⟩
  exact ⟨_, _, _, _, first, rfl, rfl, .itself, declared, held⟩

/-- The cell is an object of the type of that name. -/
theorem conformsTo_cell : ConformsTo grids "Cell" cell where
  typed := fun primitive => absurd primitive (by decide)
  object := fun _ _ _ _ => ⟨_, rfl⟩

/-- The text is of the primitive type of texts. -/
theorem conformsTo_text : ConformsTo grids "string" (.string "a") where
  typed := fun _ _ => rfl
  object := fun other => absurd (by decide) other

/-- The rows are texts behind two marks. -/
theorem nested_rows :
    (Json.array [.array [.string "a"]]).Nested (ConformsTo grids "string") 2 :=
  .singleton (.singleton (.leaf conformsTo_text))

/-- Rows of cells pass, and rows of texts do not. -/
theorem valueFindings_saveGrid :
    valueFindings grids [saveGridCall] saveGrid .request "cells" = [] ∧
    ∃ finding, valueFindings grids [saveGridCall] saveGrid .request "rows" = [finding] ∧
      finding.kind = .referencedTypeNotFound := by
  have unmarked : ∀ name, grids.contains name = true → element? name = none := by
    intro name declared
    have names : ∀ name ∈ grids.names, element? name = none := by decide
    exact names name ((Table.contains_iff _ _).1 declared)
  constructor
  · have shows : Shows grids [saveGridCall] saveGrid .request "cells" (marked "Cell" 2)
        (.array [.array [cell], .array []]) := shows_saveGrid rfl rfl
    have nested : (Json.array [.array [cell], .array []]).Nested (ConformsTo grids "Cell") 2 :=
      .array (by simpa using ⟨.array (by simpa using .leaf conformsTo_cell), .array (by simp)⟩)
    exact ((nested_verdict shows (.inr rfl) nested).2.2 unmarked).2 (.inr ⟨rfl, rfl⟩)
  · have shows : Shows grids [saveGridCall] saveGrid .request "rows" (marked "string" 2)
        (.array [.array [.string "a"]]) := shows_saveGrid rfl rfl
    have unknown : ¬KnownElement grids (marked "string" 1) := by
      rw [knownElement_marked_iff]
      decide
    obtain ⟨finding, found, -, kind, -⟩ :=
      (nested_verdict shows (.inl (by decide)) nested_rows).2.1 unknown
    exact ⟨finding, found, kind⟩

/-- Arrays of arrays that are nested as declared, and two of them are reported. -/
theorem lint_saveGrid :
    Shows grids [saveGridCall] saveGrid .request "rows" (marked "string" 2)
      (.array [.array [.string "a"]]) ∧
    (Json.array [.array [.string "a"]]).Nested (ConformsTo grids "string") 2 ∧
    Shows grids [saveGridCall] saveGrid .request "layers" (marked "Cell" 3)
      (.array [.array [.array [cell]]]) ∧
    (Json.array [.array [.array [cell]]]).Nested (ConformsTo grids "Cell") 3 ∧
    (lint [saveGrid] [saveGridCall] grids).map Finding.message =
      ["Referenced type 'string[]' not found for property 'rows' in request body for " ++
          "endpoint Save grid.",
        "Referenced type 'Cell[][]' not found for property 'layers' in request body for " ++
          "endpoint Save grid."] := by
  refine ⟨shows_saveGrid rfl rfl, nested_rows, shows_saveGrid rfl rfl, ?_, by decide⟩
  exact .singleton (.singleton (.singleton (.leaf conformsTo_cell)))

end Lint

end Accord
