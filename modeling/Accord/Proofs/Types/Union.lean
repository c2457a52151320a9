import Accord.Proofs.Types.Description
import Accord.Proofs.Types.Registry
import Mathlib.Data.Finset.Card
import Mathlib.Data.List.Induction

/-!
# `Accord.Proofs.Types.Union`: a registry is the union of its declarations

A registry is built by one addition after the other. `HoldsFirst` says what it is after a list
of definitions: their names without repetition, each at the place of its first definition, and
under each name that first definition. `ofDefinitions_append_singleton` is the step, for one
more definition at the end of the list, and `holdsFirst_ofDefinitions` puts together what the
inductions over it give.

A definition whose name is declared before it changes nothing and is noted: `repeats` lists
these definitions. From the registry of one list to that of a longer one, what is new comes
behind (`names_ofDefinitions_append`) and what is held stays (`get?_ofDefinitions_append`).
-/

set_option autoImplicit false

namespace Accord.Types

/-- The names of definitions, as often as they are declared. -/
def spokenNames (definitions : List Definition) : List String :=
  definitions.map Definition.name

/-- The definitions whose name is that of a definition before them. -/
def repeats (definitions : List Definition) : List Definition :=
  (definitions.zipIdx.filter fun entry =>
    decide (entry.1.name ∈ spokenNames (definitions.take entry.2))).map Prod.fst

/-- The names of two lists of definitions are those of the first and then those of the second. -/
theorem spokenNames_append (first second : List Definition) :
    spokenNames (first ++ second) = spokenNames first ++ spokenNames second :=
  List.map_append

/-- One more definition at the end is a repetition if its name is declared before. -/
theorem repeats_append_singleton (before : List Definition) (definition : Definition) :
    repeats (before ++ [definition]) =
      repeats before ++ if definition.name ∈ spokenNames before then [definition] else [] := by
  have earlier : ∀ entry ∈ before.zipIdx,
      spokenNames ((before ++ [definition]).take entry.2) = spokenNames (before.take entry.2) := by
    intro entry member
    have bound : entry.2 < before.length := by
      simpa using List.snd_lt_of_mem_zipIdx member
    rw [List.take_append_of_le_length bound.le]
  have own : (before ++ [definition]).take before.length = before := List.take_left
  rw [repeats, List.zipIdx_append, List.filter_append, List.map_append]
  congr 1
  · rw [repeats, List.filter_congr fun entry member => by rw [earlier entry member]]
  · by_cases taken : definition.name ∈ spokenNames before <;> simp [own, taken]

namespace Registry

variable {ε : Type}

/-! ### One more definition -/

/-- One more definition adds its name at the end, unless it is there. -/
theorem names_add (registry : Registry) (definition : Definition) :
    (registry.add definition).names =
      if definition.name ∈ registry.names then registry.names
      else registry.names ++ [definition.name] := by
  unfold add names
  simp only [Table.contains_iff]
  split
  · rfl
  · next fresh => rw [Table.keys_insert, if_neg fresh]

/-- One more definition is added to the registry of those before it. -/
theorem ofDefinitions_append_singleton (before : List Definition) (definition : Definition) :
    ofDefinitions (before ++ [definition]) = (ofDefinitions before).add definition :=
  List.foldl_append

/-- One more definition is a repetition when its name was spoken before. -/
theorem repeatedNames_append_singleton (before : List Definition) (definition : Definition)
    (seen : List String) :
    repeatedNames seen (before ++ [definition]) =
      repeatedNames seen before ++
        if definition.name ∈ seen ∨ definition.name ∈ spokenNames before
        then [definition.name] else [] := by
  induction before generalizing seen with
  | nil => simp [repeatedNames, spokenNames]
  | cons first rest ih =>
    rw [List.cons_append, repeatedNames, repeatedNames, ih, ih]
    -- The name of the first definition is already in `seen`, or it is put there.
    by_cases known : first.name ∈ seen
    · have same : definition.name = first.name → definition.name ∈ seen := fun e => e ▸ known
      have names : (definition.name ∈ seen ∨ definition.name ∈ spokenNames (first :: rest)) ↔
          definition.name ∈ seen ∨ definition.name ∈ spokenNames rest := by
        simp only [spokenNames, List.map_cons, List.mem_cons]
        tauto
      simp only [List.contains_iff_mem, known, if_true, names, List.cons_append]
    · have names : (definition.name ∈ first.name :: seen ∨ definition.name ∈ spokenNames rest) ↔
          definition.name ∈ seen ∨ definition.name ∈ spokenNames (first :: rest) := by
        simp only [spokenNames, List.map_cons, List.mem_cons]
        tauto
      simp only [List.contains_iff_mem, known, if_false, names]

/-- What is noted on the way is the name of every definition whose name is declared before it. -/
theorem repeatedNames_eq (definitions : List Definition) :
    repeatedNames [] definitions = spokenNames (repeats definitions) := by
  induction definitions using List.reverseRecOn with
  | nil => rfl
  | append_singleton before definition ih =>
    rw [repeatedNames_append_singleton, repeats_append_singleton, spokenNames_append, ih]
    congr 1
    by_cases taken : definition.name ∈ spokenNames before
    · rw [if_pos (.inr taken), if_pos taken]
      rfl
    · rw [if_neg (by simpa using taken), if_neg taken]
      rfl

/-! ### What a registry holds -/

/-- A registry holds the first definition of every name of a list, and has the names in the order
of these definitions. -/
structure HoldsFirst (definitions : List Definition) (registry : Registry) : Prop where
  nodup : registry.names.Nodup
  mem_names : ∀ name, name ∈ registry.names ↔ name ∈ spokenNames definitions
  ordered : registry.names.Pairwise fun first second =>
    (spokenNames definitions).idxOf first < (spokenNames definitions).idxOf second
  held : ∀ name definition, registry.get? name = some definition ↔ definition.name = name ∧
    ∃ before after, definitions = before ++ definition :: after ∧ name ∉ spokenNames before
  missing : ∀ name, registry.get? name = none ↔ name ∉ spokenNames definitions
  size_eq : registry.size = (spokenNames definitions).toFinset.card

/-- A name that no definition has is not registered. -/
theorem get?_ofDefinitions_eq_none_iff (definitions : List Definition) (name : String) :
    (ofDefinitions definitions).get? name = none ↔ name ∉ spokenNames definitions := by
  rw [get?_ofDefinitions, declarationOf?, List.find?_eq_none]
  simp [spokenNames]

/-- A name is registered with its first definition. -/
theorem get?_ofDefinitions_eq_some_iff (definitions : List Definition) (name : String)
    (definition : Definition) :
    (ofDefinitions definitions).get? name = some definition ↔ definition.name = name ∧
      ∃ before after, definitions = before ++ definition :: after ∧
        name ∉ spokenNames before := by
  rw [get?_ofDefinitions, declarationOf?, List.find?_eq_some_iff_append]
  simp [spokenNames]

/-- The registered names are those of the definitions. -/
theorem mem_names_ofDefinitions (definitions : List Definition) (name : String) :
    name ∈ (ofDefinitions definitions).names ↔ name ∈ spokenNames definitions := by
  rw [← not_iff_not, ← get?_ofDefinitions_eq_none_iff]
  exact (Table.get?_eq_none_iff _ _).symm

/-- The names stand in the order of their first definitions. -/
theorem pairwise_names_ofDefinitions (definitions : List Definition) :
    (ofDefinitions definitions).names.Pairwise fun first second =>
      (spokenNames definitions).idxOf first < (spokenNames definitions).idxOf second := by
  induction definitions using List.reverseRecOn with
  | nil => exact .nil
  | append_singleton before definition ih =>
    -- One more definition leaves the first ones where they are.
    have kept : ∀ name ∈ (ofDefinitions before).names,
        (spokenNames (before ++ [definition])).idxOf name = (spokenNames before).idxOf name := by
      intro name member
      rw [spokenNames_append]
      exact List.idxOf_append_of_mem ((mem_names_ofDefinitions before name).1 member)
    have old : (ofDefinitions before).names.Pairwise fun first second =>
        (spokenNames (before ++ [definition])).idxOf first <
          (spokenNames (before ++ [definition])).idxOf second := by
      refine ih.imp_of_mem fun {first second} one two before => ?_
      rwa [kept first one, kept second two]
    rw [ofDefinitions_append_singleton, names_add]
    split
    · exact old
    · next fresh =>
      refine List.pairwise_append.2 ⟨old, List.pairwise_singleton _ _, ?_⟩
      intro name member last own
      obtain rfl := List.mem_singleton.1 own
      have known := (mem_names_ofDefinitions before name).1 member
      rw [kept name member, spokenNames_append,
        List.idxOf_append_of_notMem fun known => fresh ((mem_names_ofDefinitions _ _).2 known)]
      exact Nat.lt_add_right _ (List.idxOf_lt_length_iff.2 known)

/-- A registry holds the first definitions of the list that it is made of. -/
theorem holdsFirst_ofDefinitions (definitions : List Definition) :
    HoldsFirst definitions (ofDefinitions definitions) where
  nodup := (ofDefinitions definitions).types.nodup
  mem_names := mem_names_ofDefinitions definitions
  ordered := pairwise_names_ofDefinitions definitions
  held := get?_ofDefinitions_eq_some_iff definitions
  missing := get?_ofDefinitions_eq_none_iff definitions
  size_eq := by
    have distinct : (ofDefinitions definitions).names.Nodup :=
      (ofDefinitions definitions).types.nodup
    have same :
        (ofDefinitions definitions).names.toFinset = (spokenNames definitions).toFinset := by
      ext name
      rw [List.mem_toFinset, List.mem_toFinset, mem_names_ofDefinitions]
    rw [← same, List.toFinset_card_of_nodup distinct]
    exact (List.length_map Prod.fst).symm

/-! ### One list behind another -/

/-- What two lists define under a name is what the first one defines, or else the second one. -/
theorem get?_ofDefinitions_append (first second : List Definition) (name : String) :
    (ofDefinitions (first ++ second)).get? name =
      ((ofDefinitions first).get? name).or ((ofDefinitions second).get? name) := by
  simp only [get?_ofDefinitions, declarationOf?, List.find?_append]

/-- The names of two lists are those of the first one and behind them what the second one adds. -/
theorem names_ofDefinitions_append (first second : List Definition) :
    (ofDefinitions (first ++ second)).names = (ofDefinitions first).names ++
      (ofDefinitions second).names.filter fun name => name ∉ (ofDefinitions first).names := by
  induction second using List.reverseRecOn with
  | nil => simp [ofDefinitions, names, empty]
  | append_singleton before definition ih =>
    rw [← List.append_assoc, ofDefinitions_append_singleton, ofDefinitions_append_singleton,
      names_add, names_add, ih]
    -- The name is there already from one of the lists, or it comes last in both registries.
    by_cases known : definition.name ∈ (ofDefinitions first).names <;>
      by_cases taken : definition.name ∈ (ofDefinitions before).names <;>
      simp [known, taken]

/-- Each repetition is warned about by its name. -/
theorem warnings_build (definitions : List Definition) :
    (build definitions : Report ε Registry).warnings =
      (repeats definitions).map fun definition =>
        s!"Duplicate type declaration {definition.name} ignored" := by
  have shown : ((spokenNames (repeats definitions)).map Event.duplicateType).filter
      (fun event => event.level = .warning) =
      (spokenNames (repeats definitions)).map Event.duplicateType := by
    refine List.filter_eq_self.2 fun event noted => ?_
    obtain ⟨name, -, rfl⟩ := List.mem_map.1 noted
    rfl
  simp only [Report.warnings, build, repeatedNames_eq, shown]
  rw [spokenNames, List.map_map, List.map_map]
  rfl

/-- What a name means does not change with an array mark behind it, if it has none already. -/
theorem resolve_of_unmarked (registry : Registry) {name : String}
    (unmarked : ∀ element, name ≠ element ++ arrayMark) :
    registry.resolve name = registry.get? name ∧
      registry.resolve (name ++ arrayMark) = registry.get? name := by
  have none : element? name = none :=
    Option.eq_none_iff_forall_ne_some.2 fun element marks =>
      unmarked element (element?_eq_some_iff.1 marks)
  rw [resolve, resolve, none, element?_append]
  exact ⟨rfl, rfl⟩

/-- **A registry is the union of its definitions**, of which the first one of a name counts.
Each later one is noted, a list put behind adds what is new in it, and one array mark behind a
name has no say in what the name means. -/
theorem build_unites_definitions (definitions : List Definition) :
    (build definitions : Report ε Registry).outcome = .ok (ofDefinitions definitions) ∧
    HoldsFirst definitions (ofDefinitions definitions) ∧
    (build definitions : Report ε Registry).warnings =
      ((repeats definitions).map fun definition =>
        s!"Duplicate type declaration {definition.name} ignored") ∧
    (∀ further name, (ofDefinitions (definitions ++ further)).get? name =
      ((ofDefinitions definitions).get? name).or ((ofDefinitions further).get? name)) ∧
    (∀ further, (ofDefinitions (definitions ++ further)).names =
      (ofDefinitions definitions).names ++ (ofDefinitions further).names.filter fun name =>
        name ∉ (ofDefinitions definitions).names) ∧
    ∀ name, (∀ element, name ≠ element ++ arrayMark) →
      (ofDefinitions definitions).resolve name = (ofDefinitions definitions).get? name ∧
      (ofDefinitions definitions).resolve (name ++ arrayMark) =
        (ofDefinitions definitions).get? name :=
  ⟨rfl, holdsFirst_ofDefinitions definitions, warnings_build definitions,
    get?_ofDefinitions_append definitions, names_ofDefinitions_append definitions,
    fun _ unmarked => resolve_of_unmarked _ unmarked⟩

/-- A type that is declared three times, with other types in between. -/
def users : List Definition :=
  [⟨"User", .interface, .ofList [("id", "string")], []⟩, ⟨"Role", .enumeration, .empty, []⟩,
    ⟨"User", .alias, .ofList [("type", "string")], []⟩, ⟨"Team", .interface, .empty, ["User"]⟩,
    ⟨"User", .interface, .empty, []⟩]

/-- The first of the three definitions of the user is kept and found behind a mark as well. -/
theorem build_users :
    (∀ element, "User" ≠ element ++ arrayMark) ∧
    (ofDefinitions users).names = ["User", "Role", "Team"] ∧
    (build users : Report Empty Registry).warnings =
      ["Duplicate type declaration User ignored", "Duplicate type declaration User ignored"] ∧
    (ofDefinitions users).resolve "User[]" = some users[0] := by
  have unmarked : ∀ element, "User" ≠ element ++ arrayMark := by
    intro element same
    have none : element? "User" = none := by decide
    rw [same, element?_append] at none
    cases none
  obtain ⟨-, holds, warnings, -, -, resolves⟩ := build_unites_definitions (ε := Empty) users
  refine ⟨unmarked, rfl, warnings, ?_⟩
  calc (ofDefinitions users).resolve "User[]"
      = (ofDefinitions users).get? "User" := (resolves "User" unmarked).2
    _ = some users[0] := (holds.held _ _).2 ⟨rfl, [], users.tail, rfl, by decide⟩

end Registry

end Accord.Types
