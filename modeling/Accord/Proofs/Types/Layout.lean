import Accord.Proofs.Script.Spacing
import Accord.Proofs.Types.Alike
import Accord.Proofs.Types.Description
import Accord.Proofs.Types.Signature

/-!
# `Accord.Proofs.Types.Layout`: declarations with property types in another layout

`Respaced` relates the declarations of two trees that are written alike but for the types of
their properties. A relation of texts says what may become of such a type, for example that it
is written with the same tokens (`Script.SameTokens`).

A definition keeps the squashed text of a type. `Interchangeable` is about two such texts: they
are equal, or none of them is a single word and they have the same array marks (`AgreeOnMarks`).
-/

set_option autoImplicit false

namespace Accord.Types

open Script (Node IsWord SameTokens)
open Text (squash)

/-! ### Declarations in another layout -/

section Trees

variable (respaces : String → String → Prop)

/-- The type that a property signature is annotated with. -/
def annotation? (signature : Node) : Option Node :=
  (signature.child? .type).bind fun ascription => ascription.namedChildren.head?

/-- A type in another layout: the same kind of type, and a text that the relation allows. The
text of an object type is not looked at. -/
structure RespacedType (type other : Node) : Prop where
  kind : other.kind = type.kind
  text : type.kind ≠ .objectType → respaces type.text other.text

/-- A property signature with its type in another layout. -/
structure RespacedSignature (signature other : Node) : Prop where
  name : nameOf other = nameOf signature
  type : Option.Rel (RespacedType respaces) (annotation? signature) (annotation? other)

/-- A declaration with the types of its properties in another layout. The type that an alias stands
for counts as one when it is no object type, since signatures may be inside it. -/
structure RespacedDeclaration (declaration other : Node) : Prop where
  kind : other.kind = declaration.kind
  name : textIn .name other = textIn .name declaration
  bases : basesOf other = basesOf declaration
  signatures : Option.Rel (List.Forall₂ (RespacedSignature respaces))
    ((signatureBody? declaration).map propertySignatures)
    ((signatureBody? other).map propertySignatures)
  target : declaration.kind = .typeAliasDeclaration →
    Option.Rel (RespacedType respaces) (declaration.child? .value) (other.child? .value)
  members : declaration.kind = .enumDeclaration → memberNodes other = memberNodes declaration

end Trees

/-! ### Definitions of declarations in another layout -/

section Definitions

variable {respaces holds : String → String → Prop}
  (covers : ∀ text other, respaces text other → holds (squash text) (squash other))
  (same : ∀ text, holds text text)

/-- The declared text of a signature is that of its annotation, or of an object type, or of
anything. -/
theorem declaredText_eq (signature : Node) :
    declaredText signature =
      match annotation? signature with
      | some type => if type.kind = .objectType then objectText else squash type.text
      | none => "any" :=
  rfl

include covers same

/-- Two layouts of a signature have declared texts that are related. -/
theorem holds_declaredText {signature other : Node}
    (respaced : RespacedSignature respaces signature other) :
    holds (declaredText signature) (declaredText other) := by
  have related := respaced.type
  rw [declaredText_eq, declaredText_eq]
  generalize annotation? signature = type at related
  generalize annotation? other = type' at related
  cases related with
  | none => exact same _
  | some both =>
    simp only [both.kind]
    split
    · -- The text of an object type is the same for all of them.
      exact same _
    · next inPlace => exact covers _ _ (both.text inPlace)

/-- Two layouts of a body have properties that are alike. -/
theorem alike_propertiesOf {body other : Node}
    (respaced : (propertySignatures body).Forall₂ (RespacedSignature respaces)
      (propertySignatures other)) :
    (propertiesOf body).Alike holds (propertiesOf other) := by
  rw [propertiesOf, propertiesOf]
  refine Table.alike_ofList ?_
  exact List.rel_map
    (fun _ _ both => ⟨both.name.symm, holds_declaredText covers same both⟩) respaced

/-- Bodies with signatures in another layout have properties that go with each other; so do two
missing ones. -/
theorem alike_getD_propertiesOf {body other : Option Node}
    (respaced : Option.Rel (List.Forall₂ (RespacedSignature respaces))
      (body.map propertySignatures) (other.map propertySignatures)) :
    ((body.map propertiesOf).getD .empty).Alike holds ((other.map propertiesOf).getD .empty) := by
  cases body with
  | none =>
    cases other with
    | none => exact Table.alike_empty
    | some => cases respaced
  | some =>
    cases other with
    | none => cases respaced
    | some =>
      cases respaced with
      | some signatures => exact alike_propertiesOf covers same signatures

/-- Aliases for types in another layout have entries that go with each other. -/
theorem alike_aliasProperties {value other : Option Node}
    (target : Option.Rel (RespacedType respaces) value other)
    (signatures : Option.Rel (List.Forall₂ (RespacedSignature respaces))
      ((value.filter fun type => type.kind = .objectType).map propertySignatures)
      ((other.filter fun type => type.kind = .objectType).map propertySignatures)) :
    (aliasProperties value).Alike holds (aliasProperties other) := by
  cases target with
  | none => exact Table.alike_refl same _
  | @some value other both =>
    rw [aliasProperties, aliasProperties, both.kind]
    split
    · next isObject =>
      -- Only an object type has signatures; the filter lets it through on both sides.
      simp only [Option.filter_some, both.kind, isObject, decide_true, if_true, Option.map_some]
        at signatures
      cases signatures with
      | some signatures => exact alike_propertiesOf covers same signatures
    · next inPlace =>
      exact Table.alike_ofList (.cons ⟨rfl, covers _ _ (both.text inPlace)⟩ .nil)

variable {declaration other : Node} (respaced : RespacedDeclaration respaces declaration other)

include respaced

/-- Two layouts of an interface give definitions that are alike. -/
theorem alike_ofInterface (kind : declaration.kind = .interfaceDeclaration) :
    (ofInterface declaration).Alike holds (ofInterface other) where
  name := respaced.name
  kind := rfl
  bases := respaced.bases
  properties := by
    have signatures := respaced.signatures
    simp only [signatureBody?, respaced.kind, kind] at signatures
    exact alike_getD_propertiesOf covers same signatures
  enumeration := nofun

/-- So do two layouts of an alias. -/
theorem alike_ofAlias (kind : declaration.kind = .typeAliasDeclaration) :
    (ofAlias declaration).Alike holds (ofAlias other) where
  name := respaced.name
  kind := rfl
  bases := rfl
  properties := by
    have signatures := respaced.signatures
    simp only [signatureBody?, respaced.kind, kind] at signatures
    exact alike_aliasProperties covers same (respaced.target kind) signatures
  enumeration := nofun

omit covers same in
/-- An enumeration has no property types, so the other layout leaves its definition as it is. -/
theorem ofEnumeration_eq (kind : declaration.kind = .enumDeclaration) :
    ofEnumeration other = ofEnumeration declaration := by
  rw [ofEnumeration, ofEnumeration, respaced.members kind, respaced.name]

omit covers respaced in
/-- What an enumeration is told as goes with itself. -/
theorem rel_told?_ofEnumeration (declaration : Node) :
    Option.Rel (Definition.Alike holds) (ofEnumeration declaration).toOption
      (ofEnumeration declaration).toOption := by
  cases told : ofEnumeration declaration with
  | error fault => exact .none
  | ok definition =>
    obtain ⟨entries, -, rfl⟩ := ofEnumeration_eq_ok_iff.1 told
    exact .some ⟨rfl, rfl, rfl, Table.alike_refl same _, fun _ => ⟨rfl, rfl⟩⟩

/-- Declarations in another layout have definitions that are alike, as far as they are told. -/
theorem rel_told? :
    Option.Rel (Definition.Alike holds) (told? declaration) (told? other) := by
  simp only [told?, definition?, respaced.kind]
  split
  · next kind => exact .some (alike_ofInterface covers same respaced kind)
  · next kind => exact .some (alike_ofAlias covers same respaced kind)
  · next kind =>
    rw [ofEnumeration_eq respaced kind]
    exact rel_told?_ofEnumeration same declaration
  · exact .none

omit covers same in
/-- A declaration in another layout is told when the declaration is. -/
theorem isTold_eq : isTold other = isTold declaration := by
  simp only [isTold, definition?, respaced.kind]
  split
  · rfl
  · rfl
  · next kind => rw [ofEnumeration_eq respaced kind]
  · rfl

omit covers same respaced in
/-- Units whose declarations are in another layout have a registry when the units have. -/
theorem built_iff_of_respaced {units others : List SourceUnit}
    (respaced : (declarations units).Forall₂ (RespacedDeclaration respaces)
      (declarations others)) : Built units ↔ Built others := by
  rw [built_iff_declarations, built_iff_declarations]
  generalize declarations units = nodes at respaced
  generalize declarations others = nodes' at respaced
  induction respaced with
  | nil => simp
  | cons both _ ih => rw [List.forall_mem_cons, List.forall_mem_cons, isTold_eq both, ih]

omit respaced in
/-- Units whose declarations are in another layout have registries that hold definitions that are
alike under the same names. -/
theorem rel_get?_of_respaced {units others : List SourceUnit}
    (respaced : (declarations units).Forall₂ (RespacedDeclaration respaces) (declarations others))
    (name : String) :
    Option.Rel (Definition.Alike holds) ((inheritedRegistry (declaredBy units)).get? name)
      ((inheritedRegistry (declaredBy others)).get? name) := by
  have related : (declaredBy units).Forall₂ (Definition.Alike holds) (declaredBy others) := by
    rw [declaredBy_eq_filterMap_declarations, declaredBy_eq_filterMap_declarations]
    exact List.rel_filterMap (fun _ _ both => rel_told? covers same both) respaced
  exact (DeclaredAlike.of_forall₂ related).rel_get?_inheritedRegistry name

end Definitions

/-! ### Texts that are judged alike -/

/-- Two declared texts have the same array marks: both or none of them ends with one, and the
marks behind a single name, if it is primitive or declared, are those behind the same name in
the other. -/
structure AgreeOnMarks (names : List String) (text other : String) : Prop where
  ends : (element? text).isSome = (element? other).isSome
  behind : ∀ name ∈ primitiveNames ++ names,
    text = name ++ arrayMark ↔ other = name ++ arrayMark
  doubled : ∀ name ∈ names,
    text = name ++ arrayMark ++ arrayMark ↔ other = name ++ arrayMark ++ arrayMark

/-- Agreeing on marks goes both ways. -/
theorem AgreeOnMarks.symm {names : List String} {text other : String}
    (agree : AgreeOnMarks names text other) : AgreeOnMarks names other text :=
  ⟨agree.ends.symm, fun name member => (agree.behind name member).symm,
    fun name member => (agree.doubled name member).symm⟩

/-- Two declared texts are equal, or they are no single words and have the same array marks. -/
def Interchangeable (names : List String) (text other : String) : Prop :=
  other = text ∨ ¬IsWord text.toList ∧ ¬IsWord other.toList ∧ AgreeOnMarks names text other

/-- Texts of the same tokens with the same array marks can stand for each other. -/
theorem interchangeable_squash {names : List String} {text other : String}
    (tokens : SameTokens text other) (agree : AgreeOnMarks names (squash text) (squash other)) :
    Interchangeable names (squash text) (squash other) :=
  (Script.squash_of_sameTokens tokens).imp_right fun ⟨compound, compound'⟩ =>
    ⟨compound, compound', agree⟩

/-- A type name is a single word. A dollar sign is a part of it as well. -/
theorem isWord_of_isTypeName {text : String} (h : isTypeName text = true) :
    IsWord text.toList := by
  intro c member
  have named := Script.isWord_of_isName h _ (List.mem_map_of_mem member)
  split at named
  · next dollar =>
    rw [dollar]
    decide +kernel
  · exact named

/-- A text that is no single word is an array or one of the types without properties. -/
theorem describeText_of_not_isWord {text : String} (compound : ¬IsWord text.toList) :
    (∃ element, text = element ++ arrayMark ∧ describeText text = ⟨.array, element⟩) ∨
      element? text = none ∧ describeText text = ⟨.primitive, text⟩ := by
  have noObject : text ≠ objectText := by
    rintro rfl
    exact compound (by decide +kernel)
  -- A name is a word, so the one branch that looks a name up is not reached.
  have noName : isTypeName text = false := by
    rw [← Bool.not_eq_true]
    exact fun named => compound (isWord_of_isTypeName named)
  rw [describeText, if_neg noObject]
  cases marked : element? text with
  | some element => exact .inl ⟨element, element?_eq_some_iff.1 marked, rfl⟩
  | none => exact .inr ⟨rfl, by simp [noName]⟩

end Accord.Types
