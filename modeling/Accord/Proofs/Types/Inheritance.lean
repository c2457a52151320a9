import Accord.Proofs.Types.Registry
import Mathlib.Logic.Relation

/-!
# `Accord.Proofs.Types.Inheritance`: inheritance closes a registry

An interface may extend any names: undeclared ones, itself, each other in circles of any length.
The module proves what `inherit` makes of such a graph.

* `Gathers` is the recursion by rules, with the names gone through on the way from an interface
  to its bases. `gathers_iff` says that there is a derivation for every graph, that it is the
  only one, and that its result is that of `inheritFrom`.
* `mem_keys_allProperties`: an interface ends up with exactly the properties of everything that
  it reaches. The recursion looks at paths that repeat no name and `Reaches` at all paths. The
  bridge between the two is `supplies_iff`: what is reached through a name is declared there, or
  is reached through a base without a return to the name.
* `get?_ofDefinitions_inherit`: the registry of the result holds the first declaration of every
  name with what it takes over.
-/

set_option autoImplicit false

namespace Accord.Types

/-! ### The graph of declarations -/

/-- The first declaration of a name extends another name. -/
def Extends (definitions : List Definition) (name base : String) : Prop :=
  ∃ declaration, declarationOf? definitions name = some declaration ∧ base ∈ declaration.bases

/-- A name is reached from another one in any number of steps from an interface to a base. -/
def Reaches (definitions : List Definition) : String → String → Prop :=
  Relation.ReflTransGen (Extends definitions)

/-- A property is declared by the first declaration of a name that is reached. -/
def Supplies (definitions : List Definition) (name property : String) : Prop :=
  ∃ other declaration, Reaches definitions name other ∧
    declarationOf? definitions other = some declaration ∧ property ∈ declaration.properties.keys

/-- Without a name nothing declares it, and everything else is declared as before. -/
theorem declarationOf?_without (definitions : List Definition) (gone name : String) :
    declarationOf? (without gone definitions) name =
      if name = gone then none else declarationOf? definitions name := by
  unfold declarationOf? without
  rw [List.find?_filter]
  by_cases same : name = gone
  · subst same
    rw [if_pos rfl, List.find?_eq_none]
    intro definition _
    simp
  · rw [if_neg same]
    congr 1
    funext definition
    by_cases named : definition.name = name
    · simp [named, same]
    · simp [named]

/-- Without a name the other declarations extend what they extended. -/
theorem extends_without (definitions : List Definition) (gone name base : String) :
    Extends (without gone definitions) name base ↔
      name ≠ gone ∧ Extends definitions name base := by
  unfold Extends
  rw [declarationOf?_without]
  by_cases same : name = gone <;> simp [same]

/-- A path need not come back to where it starts: what is reached from a name is the name itself, or
is reached from a base without it. The induction is on the path; each further step either leaves
the name once more, and then the path up to there is dropped, or leaves another name. -/
theorem reaches_cut {definitions : List Definition} {name other : String}
    (h : Reaches definitions name other) :
    other = name ∨ ∃ base, Extends definitions name base ∧
      Reaches (without name definitions) base other := by
  induction h with
  | refl => exact .inl rfl
  | @tail last next _ step ih =>
    right
    rcases ih with rfl | ⟨base, first, path⟩
    · exact ⟨next, step, .refl⟩
    · by_cases back : last = name
      · subst back
        exact ⟨next, step, .refl⟩
      · exact ⟨base, first, path.tail ((extends_without _ _ _ _).2 ⟨back, step⟩)⟩

/-- A path that leaves a name out is a path. -/
theorem reaches_of_without {definitions : List Definition} {gone name other : String}
    (h : Reaches (without gone definitions) name other) : Reaches definitions name other := by
  induction h with
  | refl => exact .refl
  | tail _ step ih => exact ih.tail ((extends_without _ _ _ _).1 step).2

/-- What is supplied without a name is supplied. -/
theorem supplies_of_without {definitions : List Definition} {gone name property : String}
    (h : Supplies (without gone definitions) name property) :
    Supplies definitions name property := by
  obtain ⟨other, declaration, path, declared, own⟩ := h
  rw [declarationOf?_without] at declared
  split at declared
  · cases declared
  · exact ⟨other, declaration, reaches_of_without path, declared, own⟩

/-- A base supplies what extends it. -/
theorem supplies_of_extends {definitions : List Definition} {name base property : String}
    (step : Extends definitions name base) (h : Supplies definitions base property) :
    Supplies definitions name property := by
  obtain ⟨other, declaration, path, declared, own⟩ := h
  exact ⟨other, declaration, .head step path, declared, own⟩

/-- What a declared name supplies: its own properties, and what its bases supply without it. -/
theorem supplies_iff {definitions : List Definition} {name : String} {declaration : Definition}
    (h : declarationOf? definitions name = some declaration) (property : String) :
    Supplies definitions name property ↔
      property ∈ declaration.properties.keys ∨
        ∃ base ∈ declaration.bases, Supplies (without name definitions) base property := by
  constructor
  · rintro ⟨other, found, path, declared, own⟩
    by_cases same : other = name
    · subst same
      obtain rfl : declaration = found := Option.some.inj (h.symm.trans declared)
      exact .inl own
    · right
      -- A way that comes back to the name is cut short, so the rest of it does without the name.
      rcases reaches_cut path with rfl | ⟨base, ⟨extending, named, member⟩, rest⟩
      · exact absurd rfl same
      · obtain rfl : declaration = extending := Option.some.inj (h.symm.trans named)
        refine ⟨base, member, other, found, rest, ?_, own⟩
        rw [declarationOf?_without, if_neg same]
        exact declared
  · rintro (own | ⟨base, member, supplied⟩)
    · exact ⟨name, declaration, .refl, h, own⟩
    · exact supplies_of_extends ⟨declaration, h, member⟩ (supplies_of_without supplied)

/-- A name that nothing declares supplies nothing. -/
theorem not_supplies_of_none {definitions : List Definition} {name : String}
    (h : declarationOf? definitions name = none) (property : String) :
    ¬Supplies definitions name property := by
  rintro ⟨other, declaration, path, declared, _⟩
  rcases path.cases_head with rfl | ⟨base, ⟨extending, named, _⟩, _⟩
  · rw [h] at declared
    cases declared
  · rw [h] at named
    cases named

/-! ### What bases hand over -/

/-- An undeclared base hands nothing over. -/
theorem inheritFrom_undeclared {available : List Definition} {base : String}
    (h : declarationOf? available base = none) (start : Table String) (rest : List String) :
    inheritFrom available start (base :: rest) = inheritFrom available start rest := by
  rw [inheritFrom]
  split
  · rfl
  · next found =>
    rw [h] at found
    cases found

/-- A declared base hands over what its own bases do without it, with its own properties written
last. -/
theorem inheritFrom_declared {available : List Definition} {base : String}
    {declaration : Definition} (h : declarationOf? available base = some declaration)
    (start : Table String) (rest : List String) :
    inheritFrom available start (base :: rest) =
      inheritFrom available
        (start.update ((inheritFrom (without base available) .empty declaration.bases).update
          declaration.properties)) rest := by
  rw [inheritFrom]
  split
  · next missing =>
    rw [h] at missing
    cases missing
  · next found =>
    obtain rfl := Option.some.inj (h.symm.trans found)
    rfl

/-- The names of what bases hand over: those written before, and what each base supplies. -/
theorem mem_keys_inheritFrom (available : List Definition) (start : Table String)
    (bases : List String) (property : String) :
    property ∈ (inheritFrom available start bases).keys ↔
      property ∈ start.keys ∨ ∃ base ∈ bases, Supplies available base property := by
  fun_induction inheritFrom available start bases with
  | case1 available start => simp
  | case2 available start base rest undeclared ih =>
    rw [ih]
    simp [not_supplies_of_none undeclared]
  | case3 available start base rest definition declared _ _ ihBase ihRest =>
    rw [ihRest, Table.mem_keys_update, Table.mem_keys_update, ihBase]
    simp only [Table.keys_empty, List.not_mem_nil, false_or, List.mem_cons, exists_eq_or_imp,
      supplies_iff declared]
    -- The own properties are written last, but among the names no order is left to see.
    rw [or_comm (a := ∃ base ∈ definition.bases, _), or_assoc]

/-- The names of all properties of a first declaration are what its name supplies. -/
theorem mem_keys_allProperties {definitions : List Definition} {definition : Definition}
    (h : declarationOf? definitions definition.name = some definition) (property : String) :
    property ∈ (allProperties definitions definition).keys ↔
      Supplies definitions definition.name property := by
  rw [allProperties, Table.mem_keys_update, mem_keys_inheritFrom, supplies_iff h]
  simp only [Table.keys_empty, List.not_mem_nil, false_or]
  exact or_comm

/-! ### The recursion by rules -/

/-- What bases hand over, by rules. `seen` holds the names gone through on the way from an interface
to these bases; a base that is undeclared or seen hands nothing over, and every other one what its
own bases hand over on the longer way, with its own properties written last. -/
inductive Gathers (definitions : List Definition) :
    List String → Table String → List String → Table String → Prop where
  | done {seen : List String} {start : Table String} : Gathers definitions seen start [] start
  | skip {seen rest : List String} {start result : Table String} {base : String} :
      declarationOf? definitions base = none ∨ base ∈ seen →
      Gathers definitions seen start rest result →
      Gathers definitions seen start (base :: rest) result
  | take {seen rest : List String} {start inherited result : Table String} {base : String}
      {declaration : Definition} :
      declarationOf? definitions base = some declaration → base ∉ seen →
      Gathers definitions (base :: seen) .empty declaration.bases inherited →
      Gathers definitions seen (start.update (inherited.update declaration.properties)) rest
        result →
      Gathers definitions seen start (base :: rest) result

/-- The declarations of names that are not gone through yet. -/
def unseen (seen : List String) (definitions : List Definition) : List Definition :=
  definitions.filter fun definition => definition.name ∉ seen

/-- A name that was seen has no declaration left. -/
theorem declarationOf?_unseen (definitions : List Definition) (seen : List String)
    (name : String) :
    declarationOf? (unseen seen definitions) name =
      if name ∈ seen then none else declarationOf? definitions name := by
  unfold declarationOf? unseen
  rw [List.find?_filter]
  split
  · next gone =>
    rw [List.find?_eq_none]
    intro definition _
    by_cases named : definition.name = name
    · simp [named, gone]
    · simp [named]
  · next left =>
    congr 1
    funext definition
    by_cases named : definition.name = name
    · simp [named, left]
    · simp [named]

/-- Leaving out one more name is having seen it. -/
theorem without_unseen (definitions : List Definition) (seen : List String) (base : String) :
    without base (unseen seen definitions) = unseen (base :: seen) definitions := by
  unfold without unseen
  rw [List.filter_filter]
  congr 1
  funext definition
  simp [not_or]

/-- Leaving out a name is having seen only it. -/
theorem without_eq_unseen (definitions : List Definition) (name : String) :
    without name definitions = unseen [name] definitions := by
  have none : unseen [] definitions = definitions := by simp [unseen]
  rw [← without_unseen, none]

/-- The rules give what the recursion computes. -/
theorem eq_inheritFrom_of_gathers {definitions : List Definition} {seen bases : List String}
    {start result : Table String} (h : Gathers definitions seen start bases result) :
    result = inheritFrom (unseen seen definitions) start bases := by
  induction h with
  | done => rw [inheritFrom]
  | @skip seen rest start result base excluded _ ih =>
    have hidden : declarationOf? (unseen seen definitions) base = none := by
      rw [declarationOf?_unseen]
      rcases excluded with undeclared | gone
      · simp [undeclared]
      · simp [gone]
    rw [inheritFrom_undeclared hidden]
    exact ih
  | @take seen rest start inherited result base declaration declared fresh _ _ ihBase ihRest =>
    have shown : declarationOf? (unseen seen definitions) base = some declaration := by
      rw [declarationOf?_unseen, if_neg fresh, declared]
    -- To leave out the base as well is to leave out one more seen name, which is the longer way.
    rw [inheritFrom_declared shown, without_unseen, ← ihBase]
    exact ihRest

/-- Every graph has a derivation: the recursion ends, and its result follows by the rules. -/
theorem gathers_inheritFrom (definitions available : List Definition) (start : Table String)
    (bases : List String) :
    ∀ seen, available = unseen seen definitions →
      Gathers definitions seen start bases (inheritFrom available start bases) := by
  fun_induction inheritFrom available start bases with
  | case1 available start =>
    intro seen _
    exact .done
  | case2 available start base rest undeclared ih =>
    intro seen same
    refine .skip ?_ (ih seen same)
    rw [same, declarationOf?_unseen] at undeclared
    by_cases gone : base ∈ seen
    · exact .inr gone
    · exact .inl (by simpa [gone] using undeclared)
  | case3 available start base rest definition declared _ _ ihBase ihRest =>
    intro seen same
    subst same
    rw [declarationOf?_unseen] at declared
    by_cases gone : base ∈ seen
    -- A seen name has no declaration among those left, against the case.
    · simp [gone] at declared
    · rw [if_neg gone] at declared
      exact .take declared gone (ihBase (base :: seen) (without_unseen _ _ _)) (ihRest seen rfl)

/-- The rules have exactly one result, which is that of the recursion. -/
theorem gathers_iff (definitions : List Definition) (seen bases : List String)
    (start result : Table String) :
    Gathers definitions seen start bases result ↔
      result = inheritFrom (unseen seen definitions) start bases := by
  constructor
  · exact eq_inheritFrom_of_gathers
  · rintro rfl
    exact gathers_inheritFrom _ _ _ _ seen rfl

/-! ### The registry of the result -/

/-- A definition with all that it takes over, as `inherit` gives it. -/
def withInherited (definitions : List Definition) (definition : Definition) : Definition :=
  if definition.bases.isEmpty then definition
  else { definition with properties := allProperties definitions definition }

/-- Inheriting is done for each definition by itself. -/
theorem inherit_eq_map (definitions : List Definition) :
    inherit definitions = definitions.map (withInherited definitions) :=
  rfl

/-- Inheriting keeps the name. -/
@[simp]
theorem name_withInherited (definitions : List Definition) (definition : Definition) :
    (withInherited definitions definition).name = definition.name := by
  unfold withInherited
  split <;> rfl

/-- Inheriting keeps the kind. -/
@[simp]
theorem kind_withInherited (definitions : List Definition) (definition : Definition) :
    (withInherited definitions definition).kind = definition.kind := by
  unfold withInherited
  split <;> rfl

/-- Inheriting keeps the bases. -/
@[simp]
theorem bases_withInherited (definitions : List Definition) (definition : Definition) :
    (withInherited definitions definition).bases = definition.bases := by
  unfold withInherited
  split <;> rfl

/-- A definition without bases has all its properties already. -/
theorem properties_withInherited (definitions : List Definition) (definition : Definition) :
    (withInherited definitions definition).properties = allProperties definitions definition := by
  unfold withInherited
  split
  · next h =>
    rw [allProperties, List.isEmpty_iff.1 h, inheritFrom, Table.empty_update]
  · rfl

/-- What a definition hands over itself is kept, and the rest is what its bases hand over. -/
theorem get?_withInherited (definitions : List Definition) (definition : Definition)
    (property : String) :
    (withInherited definitions definition).properties.get? property =
      (definition.properties.get? property).or
        ((inheritFrom (without definition.name definitions) .empty definition.bases).get?
          property) := by
  rw [properties_withInherited, allProperties, Table.get?_update]

/-- Inheriting changes no name, so it keeps what the first declaration of a name is. -/
theorem declarationOf?_inherit (definitions : List Definition) (name : String) :
    declarationOf? (inherit definitions) name =
      (declarationOf? definitions name).map (withInherited definitions) := by
  rw [inherit_eq_map, declarationOf?, List.find?_map]
  congr 2
  funext definition
  simp

/-- What the registry of the result holds under a name. -/
theorem get?_ofDefinitions_inherit (definitions : List Definition) (name : String) :
    (Registry.ofDefinitions (inherit definitions)).get? name =
      (declarationOf? definitions name).map (withInherited definitions) := by
  rw [Registry.get?_ofDefinitions, declarationOf?_inherit]

end Accord.Types
