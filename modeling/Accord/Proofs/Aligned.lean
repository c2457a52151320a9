import Mathlib.Data.List.Forall2

/-!
# `Accord.Proofs.Aligned`: lists that go with each other place by place

Two runs of one computation on inputs that differ a little go through lists whose elements are
related place by place (`List.Forall₂`). The lemmas say that searches, conditions on elements
and maps come out alike on such lists.
-/

set_option autoImplicit false

namespace Accord

variable {α β γ : Type} {R : α → β → Prop} {list : List α} {others : List β}

/-- Results that are related are both there or both missing. -/
theorem isSome_eq_of_rel {a : Option α} {b : Option β} (related : Option.Rel R a b) :
    a.isSome = b.isSome := by
  cases related <;> rfl

/-- Related results are both missing, or there and related. -/
theorem rel_iff {a : Option α} {b : Option β} :
    Option.Rel R a b ↔ (a = none ∧ b = none) ∨ ∃ x y, a = some x ∧ b = some y ∧ R x y := by
  constructor
  · intro related
    cases related with
    | none => exact .inl ⟨rfl, rfl⟩
    | some both => exact .inr ⟨_, _, rfl, rfl, both⟩
  · rintro (⟨rfl, rfl⟩ | ⟨x, y, rfl, rfl, both⟩)
    · exact .none
    · exact .some both

/-- A condition that agrees on related results holds of both or of none. -/
theorem any_eq_of_rel {p : α → Bool} {q : β → Bool} (agree : ∀ a b, R a b → p a = q b)
    {a : Option α} {b : Option β} (related : Option.Rel R a b) : a.any p = b.any q := by
  cases related with
  | none => rfl
  | some both => exact agree _ _ both

/-- What goes on alike from related results has related results. -/
theorem rel_bind {δ : Type} {S : γ → δ → Prop} {f : α → Option γ} {g : β → Option δ}
    {a : Option α} {b : Option β}
    (agree : ∀ x, a = some x → ∀ y, R x y → Option.Rel S (f x) (g y))
    (related : Option.Rel R a b) : Option.Rel S (a.bind f) (b.bind g) := by
  cases related with
  | none => exact .none
  | some both => exact agree _ rfl _ both

/-- The first of two results that is there is related to the first of two related ones. -/
theorem rel_or {a c : Option α} {b d : Option β} (first : Option.Rel R a b)
    (second : Option.Rel R c d) : Option.Rel R (a.or c) (b.or d) := by
  cases first with
  | none => exact second
  | some both => exact .some both

/-- Conditions that agree on related results keep both or none. -/
theorem rel_filter {p : α → Bool} {q : β → Bool} (agree : ∀ a b, R a b → p a = q b)
    {a : Option α} {b : Option β} (related : Option.Rel R a b) :
    Option.Rel R (a.filter p) (b.filter q) := by
  cases related with
  | none => exact .none
  | some both =>
    rw [Option.filter_some, Option.filter_some, ← agree _ _ both]
    split
    · exact .some both
    · exact .none

/-- The first elements are related. -/
theorem rel_head? (related : list.Forall₂ R others) : Option.Rel R list.head? others.head? := by
  cases related with
  | nil => exact .none
  | cons first _ => exact .some first

/-- The last elements are related. -/
theorem rel_getLast? (related : list.Forall₂ R others) :
    Option.Rel R list.getLast? others.getLast? := by
  rw [← List.head?_reverse, ← List.head?_reverse]
  exact rel_head? (List.forall₂_reverse_iff.2 related)

/-- Filters with conditions that agree on related elements leave related lists. -/
theorem forall₂_filter {p : α → Bool} {q : β → Bool} (agree : ∀ a b, R a b → p a = q b)
    (related : list.Forall₂ R others) : List.Forall₂ R (list.filter p) (others.filter q) :=
  List.rel_filter (fun {a b} both => Bool.eq_iff_iff.1 (agree a b both)) related

/-- What is made alike of related elements of the lists, with elements left out, is related. -/
theorem forall₂_filterMap_of_mem {δ : Type} {S : γ → δ → Prop} {f : α → Option γ} {g : β → Option δ}
    (agree : ∀ a ∈ list, ∀ b, R a b → Option.Rel S (f a) (g b)) (related : list.Forall₂ R others) :
    List.Forall₂ S (list.filterMap f) (others.filterMap g) := by
  induction related with
  | nil => exact .nil
  | @cons a b _ _ first _ ih =>
    have later := ih fun c member => agree c (List.mem_cons_of_mem _ member)
    rw [List.filterMap_cons, List.filterMap_cons]
    rcases rel_iff.1 (agree a List.mem_cons_self b first) with
      ⟨none, none'⟩ | ⟨x, y, found, found', both⟩
    · simp only [none, none', later]
    · simp only [found, found']
      exact .cons both later

/-- Searches with conditions that agree on related elements of the lists find related ones. -/
theorem rel_find?_of_mem {p : α → Bool} {q : β → Bool}
    (agree : ∀ a ∈ list, ∀ b, R a b → p a = q b) (related : list.Forall₂ R others) :
    Option.Rel R (list.find? p) (others.find? q) := by
  induction related with
  | nil => exact .none
  | @cons a b _ _ first _ ih =>
    rw [List.find?_cons, List.find?_cons, ← agree a List.mem_cons_self b first]
    split
    · exact .some first
    · exact ih fun c later => agree c (List.mem_cons_of_mem _ later)

/-- Searches with conditions that agree on related elements find related ones. -/
theorem rel_find? {p : α → Bool} {q : β → Bool} (agree : ∀ a b, R a b → (p a ↔ q b))
    (related : list.Forall₂ R others) : Option.Rel R (list.find? p) (others.find? q) :=
  rel_find?_of_mem (fun a _ b both => Bool.eq_iff_iff.2 (agree a b both)) related

/-- Conditions that agree on related elements hold of all of one list or of all of the other. -/
theorem forall_mem_iff_of_forall₂ {P : α → Prop} {Q : β → Prop}
    (agree : ∀ a b, R a b → (P a ↔ Q b)) (related : list.Forall₂ R others) :
    (∀ a ∈ list, P a) ↔ ∀ b ∈ others, Q b := by
  induction related with
  | nil => simp
  | cons first _ ih => rw [List.forall_mem_cons, List.forall_mem_cons, agree _ _ first, ih]

/-- Conditions that agree on related elements hold of some of one list or of some of the other. -/
theorem exists_mem_iff_of_forall₂ {P : α → Prop} {Q : β → Prop}
    (agree : ∀ a b, R a b → (P a ↔ Q b)) (related : list.Forall₂ R others) :
    (∃ a ∈ list, P a) ↔ ∃ b ∈ others, Q b := by
  induction related with
  | nil => simp
  | cons first _ ih => simp [ih, agree _ _ first]

/-- Related elements, each with its place in both lists. -/
theorem forall₂_and_mem_zip (related : list.Forall₂ R others) :
    list.Forall₂ (fun a b => R a b ∧ (a, b) ∈ list.zip others) others :=
  List.forall₂_iff_zip.2
    ⟨related.length_eq, fun paired => ⟨List.forall₂_zip related paired, paired⟩⟩

/-- Functions with one value on related elements have the same values on the two lists. -/
theorem map_eq_map_of_forall₂ {f : α → γ} {g : β → γ} (agree : ∀ a b, R a b → f a = g b)
    (related : list.Forall₂ R others) : list.map f = others.map g := by
  rw [← List.forall₂_eq_eq_eq, List.forall₂_map_left_iff, List.forall₂_map_right_iff]
  exact related.imp agree

/-- Likewise for functions that leave elements out. -/
theorem filterMap_eq_filterMap_of_forall₂ {f : α → Option γ} {g : β → Option γ}
    (agree : ∀ a b, R a b → f a = g b) (related : list.Forall₂ R others) :
    list.filterMap f = others.filterMap g := by
  induction related with
  | nil => rfl
  | cons first _ ih => rw [List.filterMap_cons, List.filterMap_cons, agree _ _ first, ih]

end Accord
