import Accord.Proofs.Types.Closure

/-!
# `Accord.Proofs.Types.Acyclic`: inheritance without circles

For every interface `inherit` goes through all that it reaches anew, and on each way it leaves
out the names gone through. `registered_of_acyclic` says that without circles there is a shorter
account: what is registered under a name is what is registered under its bases, one written over
the other, with the own properties of the name written last.

* `inheritFrom_eq_handedOver` holds of every graph: with all declarations available, bases hand
  over what is registered under their names. So circles matter only through the name that is
  left out.
* `inheritFrom_congr_of_reaches`: the recursion reads the declarations that the bases reach and
  no others. A name that is left out and not reached plays no part (`inheritFrom_unseen`), and
  without circles none of the names gone through is reached.
-/

set_option autoImplicit false

namespace Accord.Types

/-- No name extends itself, not even through others. -/
def Acyclic (definitions : List Definition) : Prop :=
  ∀ name, ¬Relation.TransGen (Extends definitions) name name

/-- What the registered ones among some bases hand over: the properties of each, written over
those of the bases before it. -/
def handedOver (registry : Registry) (start : Table String) (bases : List String) : Table String :=
  ((bases.filterMap registry.get?).map Definition.properties).foldl Table.update start

/-- A base that is registered hands over its properties. -/
theorem handedOver_cons_of_held {registry : Registry} {base : String} {definition : Definition}
    (held : registry.get? base = some definition) (start : Table String) (rest : List String) :
    handedOver registry start (base :: rest) =
      handedOver registry (start.update definition.properties) rest := by
  rw [handedOver, List.filterMap_cons, held]
  rfl

/-- A base that is not registered hands over nothing. -/
theorem handedOver_cons_of_missing {registry : Registry} {base : String}
    (missing : registry.get? base = none) (start : Table String) (rest : List String) :
    handedOver registry start (base :: rest) = handedOver registry start rest := by
  rw [handedOver, List.filterMap_cons, missing]
  rfl

variable {definitions : List Definition} {name : String}

/-! ### What the recursion reads -/

/-- Lists of declarations that agree on what the bases reach hand over the same. -/
theorem inheritFrom_congr_of_reaches {others : List Definition} (start : Table String)
    (bases : List String)
    (agree : ∀ base ∈ bases, ∀ name, Reaches definitions base name →
      declarationOf? definitions name = declarationOf? others name) :
    inheritFrom definitions start bases = inheritFrom others start bases := by
  -- The recursion goes into a base without its name, so the other list has to be general.
  fun_induction inheritFrom definitions start bases generalizing others with
  | case1 definitions start => rw [inheritFrom]
  | case2 definitions start base rest missing ih =>
    have missing' : declarationOf? others base = none := by
      rw [← agree base List.mem_cons_self base .refl]
      exact missing
    rw [inheritFrom_undeclared missing']
    exact ih fun other member => agree other (List.mem_cons_of_mem _ member)
  | case3 definitions start base rest declaration found _ _ ihBase =>
    rename_i ihRest
    have found' : declarationOf? others base = some declaration := by
      rw [← agree base List.mem_cons_self base .refl]
      exact found
    have inner : inheritFrom (without base definitions) .empty declaration.bases =
        inheritFrom (without base others) .empty declaration.bases := by
      apply ihBase
      intro next member name path
      have step : Extends definitions base next := ⟨declaration, found, member⟩
      have reached : Reaches definitions base name := .head step (reaches_of_without path)
      rw [declarationOf?_without, declarationOf?_without,
        agree base List.mem_cons_self name reached]
    rw [inheritFrom_declared found', ← inner]
    exact ihRest fun other member => agree other (List.mem_cons_of_mem _ member)

/-- Seen names make no difference to bases from which none of them is reached. -/
theorem inheritFrom_unseen {seen bases : List String} (start : Table String)
    (unreached : ∀ base ∈ bases, ∀ name ∈ seen, ¬Reaches definitions base name) :
    inheritFrom (unseen seen definitions) start bases = inheritFrom definitions start bases := by
  symm
  apply inheritFrom_congr_of_reaches
  intro base member name path
  rw [declarationOf?_unseen, if_neg fun gone => unreached base member name gone path]

/-- With all declarations available, bases hand over what is registered under their names. A
registered definition leaves out its own name on the way to its bases, and so does the recursion
when it goes into a base. -/
theorem inheritFrom_eq_handedOver (start : Table String) (bases : List String) :
    inheritFrom definitions start bases =
      handedOver (inheritedRegistry definitions) start bases := by
  induction bases generalizing start with
  | nil =>
    rw [inheritFrom]
    rfl
  | cons base rest ih =>
    have registered : (inheritedRegistry definitions).get? base =
        (declarationOf? definitions base).map (withInherited definitions) :=
      get?_ofDefinitions_inherit definitions base
    cases found : declarationOf? definitions base with
    | none =>
      rw [found, Option.map_none] at registered
      rw [inheritFrom_undeclared found, ih, handedOver_cons_of_missing registered]
    | some declaration =>
      rw [found, Option.map_some] at registered
      have properties : (withInherited definitions declaration).properties =
          (inheritFrom (without base definitions) .empty declaration.bases).update
            declaration.properties := by
        rw [properties_withInherited, allProperties, name_of_declarationOf? found]
      rw [inheritFrom_declared found, ih, handedOver_cons_of_held registered, properties]

/-! ### Without circles -/

/-- Ranks that go down from every declaration to its bases leave no room for circles. -/
theorem acyclic_of_rank (rank : String → Nat)
    (descends : ∀ definition ∈ definitions, ∀ base ∈ definition.bases,
      rank base < rank definition.name) : Acyclic definitions := by
  have below : ∀ name base, Extends definitions name base → rank base < rank name := by
    intro name base step
    obtain ⟨declaration, found, member⟩ := step
    rw [← name_of_declarationOf? found]
    exact descends declaration (mem_of_declarationOf? found) base member
  have along : ∀ first last, Relation.TransGen (Extends definitions) first last →
      rank last < rank first := by
    intro first last path
    induction path with
    | single step => exact below _ _ step
    | tail _ step ih => exact Nat.lt_trans (below _ _ step) ih
  intro name circle
  exact Nat.lt_irrefl _ (along name name circle)

/-- On any way to a name its bases hand over what is registered under them, since they reach neither
the name nor the names gone through before it. -/
theorem inheritFrom_of_acyclic (acyclic : Acyclic definitions) {own : Definition}
    (declared : declarationOf? definitions name = some own) {seen : List String}
    (above : ∀ other ∈ seen, Relation.TransGen (Extends definitions) other name) :
    inheritFrom (unseen (name :: seen) definitions) .empty own.bases =
      handedOver (inheritedRegistry definitions) .empty own.bases := by
  rw [← inheritFrom_eq_handedOver]
  apply inheritFrom_unseen
  intro base member other gone path
  have step : Extends definitions name base := ⟨own, declared, member⟩
  have down : Relation.TransGen (Extends definitions) name other := .head' step path
  rcases List.mem_cons.1 gone with rfl | earlier
  · exact acyclic other down
  · exact acyclic name (down.trans (above other earlier))

/-- **Without circles inheritance is compositional**: what is registered under a name is what is
registered under its bases, one written over the other in their order, and the own properties
written over that. -/
theorem registered_of_acyclic (acyclic : Acyclic definitions) {definition : Definition}
    (held : (inheritedRegistry definitions).get? name = some definition) :
    ∃ own inherited, declarationOf? definitions name = some own ∧ definition.bases = own.bases ∧
      inherited = handedOver (inheritedRegistry definitions) .empty definition.bases ∧
      definition.properties = inherited.update own.properties ∧
      -- Inherited names stand first, the other own names behind them.
      definition.properties.keys =
        inherited.keys ++ own.properties.keys.filter (fun key => key ∉ inherited.keys) ∧
      -- An own text goes before all others, and that of a later base before that of an earlier one.
      (∀ property, definition.properties.get? property =
        (own.properties.get? property).or
          ((definition.bases.filterMap (inheritedRegistry definitions).get?).reverse.findSome?
            fun base => base.properties.get? property)) ∧
      -- On every way on which the name is reached, its bases hand over the same.
      ∀ seen, (∀ other ∈ seen, Relation.TransGen (Extends definitions) other name) →
        ∀ result, Gathers definitions (name :: seen) .empty own.bases result ↔
          result = inherited := by
  obtain ⟨own, declared, rfl⟩ := registered_iff.1 held
  have named : own.name = name := name_of_declarationOf? declared
  have bases : (withInherited definitions own).bases = own.bases := bases_withInherited _ _
  -- Leaving the name out of the declarations changes nothing, since without circles it is not
  -- reached again.
  have composed : (withInherited definitions own).properties =
      (handedOver (inheritedRegistry definitions) .empty own.bases).update own.properties := by
    rw [properties_withInherited, allProperties, named, without_eq_unseen,
      inheritFrom_of_acyclic acyclic declared (List.forall_mem_nil _)]
  refine ⟨own, _, declared, bases, rfl, ?_, ?_, ?_, ?_⟩
  · rw [bases]
    exact composed
  · rw [bases, composed, Table.keys_update]
  · intro property
    rw [bases, composed, Table.get?_update, handedOver, Table.get?_foldl_update, Table.get?_empty,
      Option.or_none, ← List.map_reverse, List.findSome?_map]
    rfl
  · intro seen above result
    rw [gathers_iff, inheritFrom_of_acyclic acyclic declared above, bases]

/-! ### A diamond -/

/-- An interface without bases. -/
def entity : Definition :=
  ⟨"Entity", .interface, .ofList [("id", "string"), ("kind", "string")], []⟩

/-- An interface that extends it and declares one of its properties anew. -/
def dated : Definition :=
  ⟨"Dated", .interface, .ofList [("kind", "Dated"), ("created", "string")], ["Entity"]⟩

/-- Another one that extends it. -/
def owned : Definition :=
  ⟨"Owned", .interface, .ofList [("owner", "string")], ["Entity"]⟩

/-- An interface that extends both, and a name that nothing declares. -/
def order : Definition :=
  ⟨"Order", .interface, .ofList [("total", "number"), ("id", "number")],
    ["Dated", "Missing", "Owned"]⟩

/-- The four interfaces. -/
def diamond : List Definition :=
  [order, dated, owned, entity]

/-- The entries of the shared interface come first. Under `kind` stands the text that the later
base has from there, and under `id` the own one. -/
theorem entries_of_diamond :
    ∃ definition, (inheritedRegistry diamond).get? "Order" = some definition ∧
      definition.properties.entries =
        [("id", "number"), ("kind", "string"), ("created", "string"), ("owner", "string"),
          ("total", "number")] := by
  have acyclic : Acyclic diamond :=
    acyclic_of_rank
      (fun name => if name = "Order" then 2 else if name = "Dated" ∨ name = "Owned" then 1 else 0)
      (by decide)
  have held : ∀ {name own}, declarationOf? diamond name = some own →
      (inheritedRegistry diamond).get? name = some (withInherited diamond own) :=
    fun declared => registered_iff.2 ⟨_, declared, rfl⟩
  have missing : (inheritedRegistry diamond).get? "Missing" = none :=
    get?_ofDefinitions_inherit diamond "Missing"
  have composed : ∀ {name own}, declarationOf? diamond name = some own →
      (withInherited diamond own).properties =
        (handedOver (inheritedRegistry diamond) .empty own.bases).update own.properties := by
    intro name own declared
    obtain ⟨_, _, found, _, rfl, properties, _⟩ := registered_of_acyclic acyclic (held declared)
    obtain rfl := Option.some.inj (declared.symm.trans found)
    rw [properties, bases_withInherited]
  have isEntity : declarationOf? diamond "Entity" = some entity := rfl
  have isDated : declarationOf? diamond "Dated" = some dated := rfl
  have isOwned : declarationOf? diamond "Owned" = some owned := rfl
  have isOrder : declarationOf? diamond "Order" = some order := rfl
  -- The way up from the shared interface: each one is composed of what is registered below it.
  have bottom : (withInherited diamond entity).properties = entity.properties := by
    rw [composed isEntity]
    rfl
  have middle : ∀ {name own}, declarationOf? diamond name = some own → own.bases = ["Entity"] →
      (withInherited diamond own).properties = entity.properties.update own.properties := by
    intro name own declared bases
    rw [composed declared, bases, handedOver_cons_of_held (held isEntity), bottom,
      Table.empty_update]
    rfl
  refine ⟨_, held isOrder, ?_⟩
  rw [composed isOrder, show order.bases = ["Dated", "Missing", "Owned"] from rfl,
    handedOver_cons_of_held (held isDated), handedOver_cons_of_missing missing,
    handedOver_cons_of_held (held isOwned), middle isDated rfl, middle isOwned rfl]
  decide

end Accord.Types
