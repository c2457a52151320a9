import Accord.Proofs.Script.QualifiedName
import Accord.Proofs.Script.TypeContext

/-!
# `Accord.Proofs.Script.Nameless`: types that name nothing

Behind its wrappers a type expression may have an object, a function, a tuple, a text or
anything else that is no name. Such a node has no name of its own, but its text is searched for
the member of an imported module all the same. `typeReference_of_nameless` says what comes of
it: nothing exactly when the text mentions no such member, and else the one that it mentions
first, wherever in the node that is.
-/

set_option autoImplicit false

namespace Accord.Script

namespace Node

/-- The kinds of nodes that are names of types. Members of imported modules are expressions and
have none of these kinds. -/
def nameKinds : List Kind :=
  [.typeIdentifier, .predefinedType, .nestedTypeIdentifier]

variable {type : Node}

/-- What is no name is searched for an imported one. -/
theorem ownReference_of_nameless (nameless : type.kind ∉ nameKinds) (isArray : Bool) :
    type.ownReference isArray = (importedName? type.text.toList).map fun name =>
      ⟨String.ofList name, .imported, isArray⟩ := by
  rw [ownReference]
  split
  · next kind => exact absurd (by rw [kind]; decide) nameless
  · next kind => exact absurd (by rw [kind]; decide) nameless
  · next kind => exact absurd (by rw [kind]; decide) nameless
  · rfl

end Node

open Node (nameKinds)

variable {type core : Node}

/-- **A type that names nothing** comes down to nothing exactly when the text behind its
wrappers mentions no member of an imported module. Else it comes down to the member that the
text mentions first. -/
theorem typeReference_of_nameless (reached : type.core? = some core)
    (nameless : core.kind ∉ nameKinds) :
    (type.typeReference = none ↔ ¬MentionsImport core.text.toList) ∧
    ∀ found, type.typeReference = some found ↔
      MentionsFirst core.text.toList found.name.toList ∧ found.origin = .imported ∧
        found.isArray = type.passesArray := by
  have reference : type.typeReference = (importedName? core.text.toList).map fun name =>
      ⟨String.ofList name, .imported, type.passesArray⟩ := by
    rw [Node.typeReference_eq_core, reached, Option.bind_some,
      Node.ownReference_of_nameless nameless]
  rw [reference]
  constructor
  · rw [Option.map_eq_none_iff, importedName?_eq_none_iff]
  · intro found
    rw [Option.map_eq_some_iff, ← importedName?_eq_some_iff]
    constructor
    · rintro ⟨name, first, rfl⟩
      exact ⟨by simpa using first, rfl, rfl⟩
    · rintro ⟨first, origin, isArray⟩
      refine ⟨_, first, ?_⟩
      rw [String.ofList_toList, ← origin, ← isArray]

/-! ### Objects with a property of a named type -/

/-- The type of objects with a user. -/
def userObject (gap : String) (user : Node) : Node :=
  .braced .objectType none gap [.property "user" user]

/-- Objects with a user of a type name with a dot. -/
def profile : Node :=
  userObject "" (typeName none " " "api" [] (plainMember "User" (by decide)))

/-- Objects with a user of an imported type. -/
def importedProfile : Node :=
  userObject " " (importedMember none " " apiModule [] (plainMember "User" (by decide)))

/-- A promise of objects names nothing, though the objects have a property of a type with a name. -/
theorem typeReference_promised :
    parse .casts "let x: Promise<\x7b user: api.User \x7d>;" =
      some (.declaring (.ascribed ((generic " " "Promise").around profile))) ∧
    ((generic " " "Promise").around profile).core? = some profile ∧ profile.kind ∉ nameKinds ∧
    ((generic " " "Promise").around profile).typeReference = none := by
  have reached : ((generic " " "Promise").around profile).core? = some profile := by
    rw [Node.core?_of_inner? ((generic " " "Promise").inner?_around rfl), Node.core?_eq]
    rfl
  have silent : ¬MentionsImport profile.text.toList :=
    importedName?_eq_none_iff.1 (by decide +kernel)
  exact ⟨by decide +kernel, reached, by decide,
    (typeReference_of_nameless reached (by decide)).1.2 silent⟩

/-- Objects pass for the type of one of their properties when that is imported in place. -/
theorem typeReference_importedProfile :
    parse .casts "let x: \x7b user: import('./api').User \x7d;" =
      some (.declaring (.ascribed importedProfile)) ∧
    importedProfile.core? = some importedProfile ∧ importedProfile.kind = .objectType ∧
    (Node.ascribed importedProfile).typeReference = some ⟨"User", .imported, false⟩ := by
  have noWrapper : importedProfile.kind ∉ Node.wrapperKinds := by decide
  refine ⟨by decide +kernel, by rw [Node.core?_eq, if_neg noWrapper], rfl, ?_⟩
  rw [Node.typeReference_ascribed rfl, Node.typeReference_of_not_wrapper noWrapper]
  decide +kernel

end Accord.Script
