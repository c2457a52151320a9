import Accord.Proofs.Script.Walk
import Accord.Proofs.Types.Collect
import Mathlib.Data.List.Find

/-!
# `Accord.Proofs.Types.Signature`: where the properties of a type are written

The properties of a declaration are the names of its property signatures or of its members,
except that an alias for anything but an object type has the entry `type` instead
(`mem_keys_definition?`).

What interfaces take over is known by name (`mem_keys_registered`). `mem_keys_collected` goes on
from the names to the declarations in the trees: a property of a registered type is written in a
declaration that the type reaches, or it is the entry of an alias that the type reaches
(`Provides`).
-/

set_option autoImplicit false

namespace Accord.Types

open Script (Node Place)

/-! ### One declaration -/

/-- The object type that holds the signatures of a declaration: the body of an interface, or what an
alias stands for, if that is an object type. -/
def signatureBody? (declaration : Node) : Option Node :=
  match declaration.kind with
  | .interfaceDeclaration => declaration.child? .body
  | .typeAliasDeclaration =>
    (declaration.child? .value).filter fun value => value.kind = .objectType
  | _ => none

/-- A declaration has a property signature with this name. -/
def Signs (property : String) (declaration : Node) : Prop :=
  ∃ body ∈ signatureBody? declaration, ∃ signature ∈ propertySignatures body,
    nameOf signature = property

/-- Whether a declaration signs a property is decided signature by signature. -/
instance (property : String) (declaration : Node) : Decidable (Signs property declaration) :=
  inferInstanceAs (Decidable (∃ _ ∈ _, _))

/-- The name of a member of an enumeration. -/
def memberName? (member : Node) : Option String :=
  match member.kind with
  | .enumAssignment => some (nameOf member)
  | .propertyIdentifier | .string | .number => some (Text.unquote member.text)
  | _ => none

/-- The definition of an enumeration that is told has the entries that its members write. -/
theorem ofEnumeration_eq_ok_iff {declaration : Node} {definition : Definition} :
    ofEnumeration declaration = .ok definition ↔
      ∃ entries, enumEntries (some 0) (memberNodes declaration) = .ok entries ∧
        definition = ⟨textIn .name declaration, .enumeration, .ofList entries, []⟩ := by
  rw [ofEnumeration, Report.bind_eq_ok_iff]
  simp only [pure, Except.pure, Except.ok.injEq, eq_comm]

/-- A declaration is an enumeration that has a member with this name. -/
def Lists (member : String) (declaration : Node) : Prop :=
  declaration.kind = .enumDeclaration ∧
    ∃ node ∈ memberNodes declaration, memberName? node = some member

/-- Whether it lists a member is decided by its kind and its members. -/
instance (member : String) (declaration : Node) : Decidable (Lists member declaration) :=
  inferInstanceAs (Decidable (_ ∧ _))

/-- An alias for anything but an object type. -/
def IsTextAlias (declaration : Node) : Prop :=
  declaration.kind = .typeAliasDeclaration ∧ signatureBody? declaration = none

/-- A member with a value in its declaration has its own name. -/
theorem name_assignedMember (member : Node) : (assignedMember member).1.1 = nameOf member := by
  unfold assignedMember
  split
  · split <;> rfl
  · rfl

/-- The name of a member does not depend on the sequence of values. -/
theorem name_enumMember {sequence : Sequence} {member : Node}
    {found : Option ((String × String) × Sequence)} (h : enumMember sequence member = .ok found) :
    found.map (fun entry => entry.1.1) = memberName? member := by
  unfold enumMember at h
  split at h
  case h_1 kind =>
    obtain rfl := Except.ok.inj h
    simp [memberName?, kind, name_assignedMember]
  case h_5 =>
    obtain rfl := Except.ok.inj h
    rw [memberName?]
    split <;> simp_all
  -- The three kinds of names are read alike.
  all_goals
    rename_i kind
    obtain ⟨text, -, same⟩ := Report.bind_eq_ok_iff.1 h
    obtain rfl := Except.ok.inj same
    simp [memberName?, kind]

/-- The entries of an enumeration have the names of its members. -/
theorem keys_enumEntries {sequence : Sequence} {members : List Node}
    {entries : List (String × String)} (h : enumEntries sequence members = .ok entries) :
    Entries.keys entries = members.filterMap memberName? := by
  induction members generalizing sequence entries with
  | nil =>
    obtain rfl := Except.ok.inj h
    rfl
  | cons member rest ih =>
    -- Every member changes the sequence for the others, but names do not depend on it.
    obtain ⟨found, read, others⟩ := Report.bind_eq_ok_iff.1 h
    have named := name_enumMember read
    cases found with
    | some entry =>
      obtain ⟨more, written, same⟩ := Report.bind_eq_ok_iff.1 others
      obtain rfl := Except.ok.inj same
      rw [List.filterMap_cons_some named.symm, ← ih written]
      rfl
    | none =>
      rw [List.filterMap_cons_none named.symm]
      exact ih others

/-- The properties of an object type or the body of an interface are its signatures. -/
theorem mem_keys_propertiesOf (body : Node) (property : String) :
    property ∈ (propertiesOf body).keys ↔
      ∃ signature ∈ propertySignatures body, nameOf signature = property := by
  rw [propertiesOf, Table.mem_keys_ofList]
  simp [Entries.keys]

/-- The properties of an interface are its signatures. -/
theorem mem_keys_ofInterface {declaration : Node} (h : declaration.kind = .interfaceDeclaration)
    (property : String) :
    property ∈ (ofInterface declaration).properties.keys ↔ Signs property declaration := by
  simp only [ofInterface, Signs, signatureBody?, h]
  cases declaration.child? .body with
  | some body => simpa using mem_keys_propertiesOf body property
  | none => simp

/-- The properties of an alias are the signatures of its object type, or the entry of its text. -/
theorem mem_keys_ofAlias {declaration : Node} (h : declaration.kind = .typeAliasDeclaration)
    (property : String) :
    property ∈ (ofAlias declaration).properties.keys ↔
      Signs property declaration ∨ property = aliasEntry ∧ IsTextAlias declaration := by
  simp only [ofAlias, Signs, IsTextAlias, signatureBody?, h, true_and]
  cases declaration.child? .value with
  | some value =>
    by_cases isObject : value.kind = .objectType
    · simpa [aliasProperties, isObject] using mem_keys_propertiesOf value property
    · simp [aliasProperties, isObject, Table.mem_keys_ofList, Entries.keys]
  | none => simp [aliasProperties, Table.mem_keys_ofList, Entries.keys]

/-- The properties of an enumeration that is told are its members. -/
theorem mem_keys_ofEnumeration {declaration : Node} {definition : Definition}
    (h : declaration.kind = .enumDeclaration) (told : ofEnumeration declaration = .ok definition)
    (property : String) :
    property ∈ definition.properties.keys ↔ Lists property declaration := by
  obtain ⟨entries, written, rfl⟩ := ofEnumeration_eq_ok_iff.1 told
  simp [Lists, h, Table.mem_keys_ofList, keys_enumEntries written]

/-- The properties of a declaration are its signatures and members, and the entry of an alias
without them. -/
theorem mem_keys_definition? {declaration : Node} {definition : Definition}
    (h : definition? declaration = some (.ok definition)) (property : String) :
    property ∈ definition.properties.keys ↔
      Signs property declaration ∨ Lists property declaration ∨
        property = aliasEntry ∧ IsTextAlias declaration := by
  unfold definition? at h
  split at h
  · next kind =>
    obtain rfl := Except.ok.inj (Option.some.inj h)
    simp [mem_keys_ofInterface kind, Lists, IsTextAlias, kind]
  · next kind =>
    obtain rfl := Except.ok.inj (Option.some.inj h)
    simp [mem_keys_ofAlias kind, Lists, kind]
  · next kind =>
    have told := Option.some.inj h
    simp [mem_keys_ofEnumeration kind told, Signs, IsTextAlias, signatureBody?, kind]
  · cases h

/-! ### The declarations of units -/

/-- The nodes in the tree of one unit, by recursion on the tree. -/
theorem nodesOf_singleton {unit : SourceUnit} {tree : Node} (parsed : unit.tree? = some tree) :
    nodesOf [unit] = (tree.places []).map Place.node := by
  rw [nodesOf, SourceUnit.found_cons parsed, SourceUnit.found_nil, List.append_nil,
    Node.walk_eq_places]

/-- Whether a node declares a type with this name. -/
def declares (name : String) (node : Node) : Bool :=
  [.interfaceDeclaration, .typeAliasDeclaration, .enumDeclaration].contains node.kind &&
    textIn .name node == name

/-- The first declaration of a name in units. -/
def declaration? (units : List SourceUnit) (name : String) : Option Node :=
  (nodesOf units).find? (declares name)

/-- A declaration has a definition under its name, or none because it is not told. -/
theorem name_of_told? {node : Node} {definition : Definition}
    (h : told? node = some definition) : definition.name = textIn .name node := by
  rw [told?_eq_some_iff] at h
  unfold definition? at h
  split at h
  · rw [← Except.ok.inj (Option.some.inj h), ofInterface]
  · rw [← Except.ok.inj (Option.some.inj h), ofAlias]
  · obtain ⟨entries, -, rfl⟩ := ofEnumeration_eq_ok_iff.1 (Option.some.inj h)
    rfl
  · cases h

/-- A node declares a name when it is a declaration and has the name. -/
theorem declares_eq (name : String) (node : Node) :
    declares name node = ((definition? node).isSome && textIn .name node == name) := by
  cases kind : node.kind <;> simp [definition?, declares, kind]

/-- A node that is told declares the name of its definition. -/
theorem any_told? {node : Node} (told : isTold node = true) (name : String) :
    (told? node).any (fun definition => definition.name = name) = declares name node := by
  rw [declares_eq]
  cases defined : (definition? node).isSome with
  | false =>
    have noDefinition : definition? node = none := by simpa using defined
    simp [told?, noDefinition]
  | true =>
    obtain ⟨definition, found⟩ := exists_told?_of_isTold told defined
    simp [found, name_of_told? found, beq_eq_decide]

/-- Under one name the first definition of units is that of their first declaration. -/
theorem declarationOf?_declaredBy {units : List SourceUnit} (built : Built units) (name : String) :
    declarationOf? (declaredBy units) name = (declaration? units name).bind told? := by
  rw [declarationOf?, declaredBy, List.find?_filterMap, declaration?]
  congr 1
  exact List.find?_congr fun node member => any_told? (built node member) name

/-- A declaration extends what it names in its clause, if it is an interface. -/
theorem mem_bases_definition? {declaration : Node} {definition : Definition}
    (h : definition? declaration = some (.ok definition)) (base : String) :
    base ∈ definition.bases ↔
      declaration.kind = .interfaceDeclaration ∧ base ∈ basesOf declaration := by
  unfold definition? at h
  split at h
  · next kind =>
    obtain rfl := Except.ok.inj (Option.some.inj h)
    simp [ofInterface, kind]
  · next kind =>
    obtain rfl := Except.ok.inj (Option.some.inj h)
    simp [ofAlias, kind]
  · next kind =>
    obtain ⟨entries, -, rfl⟩ := ofEnumeration_eq_ok_iff.1 (Option.some.inj h)
    simp [kind]
  · cases h

/-- Some declaration that a name reaches is of this kind. -/
def ReachesSome (units : List SourceUnit) (name : String) (ofKind : Node → Prop) : Prop :=
  ∃ other declaration, Reaches (declaredBy units) name other ∧
    declaration? units other = some declaration ∧ ofKind declaration

/-- The properties that a name provides: the signatures and the members in the declarations that it
reaches, and the entry of every alias among them that is no object type. -/
def Provides (units : List SourceUnit) (name property : String) : Prop :=
  ReachesSome units name (Signs property) ∨ ReachesSome units name (Lists property) ∨
    property = aliasEntry ∧ ReachesSome units name IsTextAlias

section Declarations

variable {units : List SourceUnit} (built : Built units)

include built

/-- The definitions of units have the names of their declarations. -/
theorem names_declaredBy : (declaredBy units).map Definition.name = declaredNames units := by
  rw [declaredBy_eq_filterMap_declarations, declaredNames]
  have told := (built_iff_declarations units).1 built
  have declares : ∀ node ∈ declarations units, (definition? node).isSome = true :=
    fun node member => (List.mem_filter.1 member).2
  generalize declarations units = nodes at told declares
  induction nodes with
  | nil => rfl
  | cons node rest ih =>
    obtain ⟨definition, found⟩ := exists_told?_of_isTold (told node List.mem_cons_self)
      (declares node List.mem_cons_self)
    rw [List.filterMap_cons_some found, List.map_cons, List.map_cons, name_of_told? found,
      ih (fun later member => told later (List.mem_cons_of_mem _ member))
        fun later member => declares later (List.mem_cons_of_mem _ member)]

/-- The first declaration of a name has a definition. -/
theorem exists_definition_of_declaration? {name : String} {declaration : Node}
    (h : declaration? units name = some declaration) :
    ∃ definition, definition? declaration = some (.ok definition) ∧
      declarationOf? (declaredBy units) name = some definition := by
  have declares := List.find?_some h
  rw [declares_eq, Bool.and_eq_true] at declares
  obtain ⟨definition, found⟩ := exists_told?_of_isTold
    (built declaration (List.mem_of_find?_eq_some h)) declares.1
  refine ⟨definition, told?_eq_some_iff.1 found, ?_⟩
  rw [declarationOf?_declaredBy built, h]
  exact found

/-- An interface extends the names in the clause of its first declaration. -/
theorem extends_declaredBy {name base : String} {declaration : Node}
    (h : declaration? units name = some declaration)
    (isInterface : declaration.kind = .interfaceDeclaration)
    (member : base ∈ basesOf declaration) : Extends (declaredBy units) name base := by
  obtain ⟨definition, defined, declared⟩ := exists_definition_of_declaration? built h
  exact ⟨definition, declared, (mem_bases_definition? defined base).2 ⟨isInterface, member⟩⟩

/-- What a name supplies by its definitions is what it provides by its declarations. -/
theorem supplies_declaredBy_iff (name property : String) :
    Supplies (declaredBy units) name property ↔ Provides units name property := by
  -- What is reached is the same on both sides; a definition and its declaration have the same
  -- names.
  have written : Supplies (declaredBy units) name property ↔
      ReachesSome units name fun declaration =>
        Signs property declaration ∨ Lists property declaration ∨
          property = aliasEntry ∧ IsTextAlias declaration := by
    constructor
    · rintro ⟨other, definition, path, declared, own⟩
      rw [declarationOf?_declaredBy built] at declared
      obtain ⟨declaration, found, defined⟩ := Option.bind_eq_some_iff.1 declared
      exact ⟨other, declaration, path, found,
        (mem_keys_definition? (told?_eq_some_iff.1 defined) property).1 own⟩
    · rintro ⟨other, declaration, path, found, own⟩
      obtain ⟨definition, defined, declared⟩ := exists_definition_of_declaration? built found
      exact ⟨other, definition, path, declared, (mem_keys_definition? defined property).2 own⟩
  rw [written]
  constructor
  · rintro ⟨other, declaration, path, found, signs | lists | ⟨entry, isAlias⟩⟩
    · exact .inl ⟨other, declaration, path, found, signs⟩
    · exact .inr (.inl ⟨other, declaration, path, found, lists⟩)
    · exact .inr (.inr ⟨entry, other, declaration, path, found, isAlias⟩)
  · rintro (⟨other, declaration, path, found, signs⟩ | ⟨other, declaration, path, found, lists⟩ |
      ⟨entry, other, declaration, path, found, isAlias⟩)
    · exact ⟨other, declaration, path, found, .inl signs⟩
    · exact ⟨other, declaration, path, found, .inr (.inl lists)⟩
    · exact ⟨other, declaration, path, found, .inr (.inr ⟨entry, isAlias⟩)⟩

/-- The properties of what the registry of units holds under a name are what the name provides. -/
theorem mem_keys_collected {name : String} {definition : Definition}
    (h : (inheritedRegistry (declaredBy units)).get? name = some definition) (property : String) :
    property ∈ definition.properties.keys ↔ Provides units name property := by
  rw [mem_keys_registered h, supplies_declaredBy_iff built]

/-- A declaration without bases is registered as it is. -/
theorem registered_of_no_bases {name : String} {declaration : Node} {definition : Definition}
    (h : declaration? units name = some declaration)
    (defined : definition? declaration = some (.ok definition)) (noBases : definition.bases = []) :
    (inheritedRegistry (declaredBy units)).get? name = some definition := by
  refine registered_iff.2 ⟨definition, ?_, ?_⟩
  · rw [declarationOf?_declaredBy built, h]
    exact told?_eq_some_iff.2 defined
  · rw [withInherited, noBases]
    rfl

/-- A name that provides something is registered. -/
theorem exists_registered_of_provides {name property : String}
    (h : Provides units name property) :
    ∃ definition, (inheritedRegistry (declaredBy units)).get? name = some definition := by
  rw [← supplies_declaredBy_iff built] at h
  cases declared : declarationOf? (declaredBy units) name with
  | some own => exact ⟨_, registered_iff.2 ⟨own, declared, rfl⟩⟩
  | none => exact absurd h (not_supplies_of_none declared property)

end Declarations

end Accord.Types
