import Accord.Table
import Mathlib.Data.List.Forall2

/-!
# `Accord.Proofs.Table`: what a table holds after many writings

`Table.update` writes all entries of one table over another. The two views of a table, the value
under a name (`get?`) and the names in order (`keys`), answer for the result:

* `get?_update`: the value of the second table, or else that of the first one;
* `mem_keys_update`: the names of both;
* `empty_update`: writing over the empty table gives the table that is written, with its order.

A table has distinct names, so the last writing of a name by `update` is also the only one. This
is why the lemmas on lists of entries below ask for distinct names.
-/

set_option autoImplicit false

namespace Accord

namespace Entries

variable {κ α : Type} [DecidableEq κ]

/-- A name is among the names exactly when it has a value. -/
theorem mem_keys_iff (entries : List (κ × α)) (name : κ) :
    name ∈ keys entries ↔ ∃ value, get? entries name = some value := by
  induction entries with
  | nil => simp [keys, get?]
  | cons entry rest ih =>
    simp only [keys, List.map_cons, List.mem_cons, get?] at ih ⊢
    by_cases h : entry.1 = name
    · simp [h]
    · have h' : ¬name = entry.1 := fun e => h e.symm
      simp [h, h', ih]

/-- A name without an entry has no value. -/
theorem get?_eq_none_iff (entries : List (κ × α)) (name : κ) :
    get? entries name = none ↔ name ∉ keys entries := by
  rw [mem_keys_iff]
  cases get? entries name <;> simp

/-- Under distinct names every entry is the one that is found under its name. -/
theorem get?_eq_some_of_mem {entries : List (κ × α)} (distinct : (keys entries).Nodup)
    {entry : κ × α} (h : entry ∈ entries) : get? entries entry.1 = some entry.2 := by
  induction entries with
  | nil => cases h
  | cons first rest ih =>
    have parts : first.1 ∉ keys rest ∧ (keys rest).Nodup := by simpa [keys] using distinct
    rcases List.mem_cons.1 h with rfl | h
    · simp [get?]
    · have other : ¬first.1 = entry.1 := fun e =>
        parts.1 (by rw [e]; exact List.mem_map_of_mem h)
      simp only [get?, other, if_false]
      exact ih parts.2 h

/-- What is found under a name is an entry. -/
theorem mem_of_get?_eq_some {entries : List (κ × α)} {name : κ} {value : α}
    (h : get? entries name = some value) : (name, value) ∈ entries := by
  induction entries with
  | nil => cases h
  | cons entry rest ih =>
    rw [get?] at h
    split at h
    · next same =>
      obtain rfl : entry.2 = value := Option.some.inj h
      obtain rfl := same
      exact List.mem_cons_self
    · exact List.mem_cons_of_mem _ (ih h)

/-- Under distinct names what is found under a name is what an entry has for it. -/
theorem get?_eq_some_iff {entries : List (κ × α)} (distinct : (keys entries).Nodup) {name : κ}
    {value : α} : get? entries name = some value ↔ (name, value) ∈ entries :=
  ⟨mem_of_get?_eq_some, get?_eq_some_of_mem distinct⟩

/-- Entries under distinct names may stand in any order. -/
theorem get?_of_perm {entries others : List (κ × α)} (perm : entries.Perm others)
    (distinct : (keys entries).Nodup) (name : κ) : get? entries name = get? others name := by
  have distinct' : (keys others).Nodup := (perm.map Prod.fst).nodup_iff.1 distinct
  ext value
  rw [get?_eq_some_iff distinct, get?_eq_some_iff distinct', perm.mem_iff]

/-- What was written under a name is read back. -/
theorem get?_insert_self (entries : List (κ × α)) (name : κ) (value : α) :
    get? (insert entries name value) name = some value := by
  rw [get?_insert, if_pos rfl]

/-- A new name is written at the end. -/
theorem insert_of_not_mem {entries : List (κ × α)} {name : κ} (value : α)
    (h : name ∉ keys entries) : insert entries name value = entries ++ [(name, value)] := by
  induction entries with
  | nil => rfl
  | cons entry rest ih =>
    have parts : name ≠ entry.1 ∧ name ∉ keys rest := by simpa [keys] using h
    simp only [insert, Ne.symm parts.1, if_false, ih parts.2, List.cons_append]

/-! ### Last entries -/

/-- The entries that no later entry of their name follows. -/
def lasts : List (κ × α) → List (κ × α)
  | [] => []
  | entry :: rest => if entry.1 ∈ keys rest then lasts rest else entry :: lasts rest

/-- A last entry is an entry. -/
theorem mem_of_mem_lasts {entries : List (κ × α)} {entry : κ × α} (h : entry ∈ lasts entries) :
    entry ∈ entries := by
  induction entries with
  | nil => cases h
  | cons first rest ih =>
    rw [lasts] at h
    split at h
    · exact List.mem_cons_of_mem _ (ih h)
    · rcases List.mem_cons.1 h with rfl | later
      · exact List.mem_cons_self
      · exact List.mem_cons_of_mem _ (ih later)

/-- Under distinct names every entry is a last one. -/
theorem lasts_of_nodup {entries : List (κ × α)} (distinct : (keys entries).Nodup) :
    lasts entries = entries := by
  induction entries with
  | nil => rfl
  | cons first rest ih =>
    have parts : first.1 ∉ keys rest ∧ (keys rest).Nodup := by simpa [keys] using distinct
    rw [lasts, if_neg parts.1, ih parts.2]

/-! ### Entries that go with each other -/

/-- Entries under the same names, with values that go with each other. -/
def Alike {β : Type} (holds : α → β → Prop) : List (κ × α) → List (κ × β) → Prop :=
  List.Forall₂ fun entry other => entry.1 = other.1 ∧ holds entry.2 other.2

variable {β : Type} {holds : α → β → Prop} {entries : List (κ × α)} {others : List (κ × β)}

omit [DecidableEq κ] in
/-- Entries that are alike have the same names in the same order. -/
theorem Alike.keys_eq (h : Alike holds entries others) : keys entries = keys others := by
  induction h with
  | nil => rfl
  | cons same _ ih => exact congrArg₂ _ same.1 ih

/-- Entries that go with each other have values under a name that do. -/
theorem Alike.rel_get? (h : Alike holds entries others) (name : κ) :
    Option.Rel holds (get? entries name) (get? others name) := by
  induction h with
  | nil => exact .none
  | cons same _ ih =>
    rw [get?, get?, same.1]
    split
    · exact .some same.2
    · exact ih

/-- A writing of values that go with each other keeps the entries alike. -/
theorem Alike.insert (h : Alike holds entries others) (name : κ) {value : α} {other : β}
    (goes : holds value other) :
    Alike holds (Entries.insert entries name value) (Entries.insert others name other) := by
  induction h with
  | nil => exact .cons ⟨rfl, goes⟩ .nil
  | cons same rest ih =>
    rw [Entries.insert, Entries.insert, same.1]
    split
    · exact .cons ⟨rfl, goes⟩ rest
    · exact .cons same ih

/-- Lists of entries that go with each other entry by entry have last entries that do. -/
theorem Alike.lasts (h : Alike holds entries others) :
    Alike holds (Entries.lasts entries) (Entries.lasts others) := by
  induction h with
  | nil => exact .nil
  | cons same rest ih =>
    rw [Entries.lasts, Entries.lasts, same.1, Alike.keys_eq rest]
    split
    · exact ih
    · exact .cons same ih

end Entries

namespace Table

variable {α : Type}

/-- Two tables with the same entries are the same table. -/
theorem ext_entries {first second : Table α} (h : first.entries = second.entries) :
    first = second := by
  cases first
  cases second
  cases h
  rfl

/-- A name is among the names exactly when it has a value. -/
theorem mem_keys_iff (table : Table α) (name : String) :
    name ∈ table.keys ↔ ∃ value, table.get? name = some value :=
  Entries.mem_keys_iff _ _

/-- A name that is not among the names has no value. -/
theorem get?_eq_none_iff (table : Table α) (name : String) :
    table.get? name = none ↔ name ∉ table.keys :=
  Entries.get?_eq_none_iff _ _

/-- `contains` asks whether a name is among the names. -/
theorem contains_iff (table : Table α) (name : String) :
    table.contains name = true ↔ name ∈ table.keys := by
  simp [contains]

/-! ### Many writings -/

/-- The value under a name after the writing of entries with distinct names. The induction is on
the entries: the first one is read back unless a later one has its name, and none has. -/
theorem get?_insertAll (entries : List (String × α)) (distinct : (Entries.keys entries).Nodup)
    (table : Table α) (name : String) :
    (table.insertAll entries).get? name =
      (Entries.get? entries name).or (table.get? name) := by
  induction entries generalizing table with
  | nil => simp [insertAll, Entries.get?]
  | cons entry rest ih =>
    have parts : entry.1 ∉ Entries.keys rest ∧ (Entries.keys rest).Nodup := by
      simpa [Entries.keys] using distinct
    have step := ih parts.2 (table.insert entry.1 entry.2)
    -- Writing the whole list is writing the first entry and then the rest, so the induction
    -- hypothesis is taken at the table that has the first entry.
    simp only [insertAll, List.foldl_cons] at step ⊢
    rw [step, get?_insert, Entries.get?]
    by_cases same : entry.1 = name
    · have absent : Entries.get? rest name = none :=
        (Entries.get?_eq_none_iff _ _).2 (same ▸ parts.1)
      simp [same, absent]
    · simp [same]

/-- The names after the writing of entries: the old ones and those that are written. -/
theorem mem_keys_insertAll (entries : List (String × α)) (table : Table α) (name : String) :
    name ∈ (table.insertAll entries).keys ↔ name ∈ table.keys ∨ name ∈ Entries.keys entries := by
  induction entries generalizing table with
  | nil => simp [insertAll, Entries.keys]
  | cons entry rest ih =>
    have step := ih (table.insert entry.1 entry.2)
    simp only [insertAll, List.foldl_cons] at step ⊢
    rw [step, keys_insert]
    -- If the name of the first entry is there already, `insert` adds no name.
    by_cases held : entry.1 ∈ table.keys
    · simp only [held, if_true, Entries.keys, List.map_cons, List.mem_cons]
      constructor
      · rintro (h | h)
        · exact .inl h
        · exact .inr (.inr h)
      · rintro (h | rfl | h)
        · exact .inl h
        · exact .inl held
        · exact .inr h
    · simp only [held, if_false, Entries.keys, List.map_cons, List.mem_cons, List.mem_append,
        List.not_mem_nil, or_false, or_assoc]

/-- The names in order after the writing of entries with distinct names: the old ones, and
behind them the new ones among the entries. -/
theorem keys_insertAll (entries : List (String × α)) (distinct : (Entries.keys entries).Nodup)
    (table : Table α) :
    (table.insertAll entries).keys =
      table.keys ++ (Entries.keys entries).filter (fun name => name ∉ table.keys) := by
  induction entries generalizing table with
  | nil => simp [insertAll, Entries.keys]
  | cons entry rest ih =>
    have parts : entry.1 ∉ Entries.keys rest ∧ (Entries.keys rest).Nodup := by
      simpa [Entries.keys] using distinct
    have step := ih parts.2 (table.insert entry.1 entry.2)
    have names : Entries.keys (entry :: rest) = entry.1 :: Entries.keys rest := rfl
    simp only [insertAll, List.foldl_cons] at step ⊢
    rw [step, keys_insert, names]
    by_cases held : entry.1 ∈ table.keys
    · simp [held]
    · -- The name just written is not among the later ones, so it hides none of them.
      have others : ∀ name ∈ Entries.keys rest, (name ∉ table.keys ++ [entry.1]) ↔
          name ∉ table.keys := by
        intro name member
        have other : name ≠ entry.1 := fun same => parts.1 (same ▸ member)
        simp [other]
      have kept : (Entries.keys rest).filter (fun name => name ∉ table.keys ++ [entry.1]) =
          (Entries.keys rest).filter (fun name => name ∉ table.keys) :=
        List.filter_congr fun name member => decide_eq_decide.2 (others name member)
      rw [if_neg held, List.filter_cons_of_pos (by simpa using held), kept, List.append_assoc,
        List.singleton_append]

/-- The names in the table that a list of entries writes are those of the entries. -/
theorem mem_keys_ofList (entries : List (String × α)) (name : String) :
    name ∈ (ofList entries).keys ↔ name ∈ Entries.keys entries := by
  rw [ofList, mem_keys_insertAll, keys_empty]
  simp

/-- What is written under a name is its last entry. -/
theorem get?_insertAll_eq_some_iff (entries : List (String × α)) (table : Table α) (name : String)
    (value : α) :
    (table.insertAll entries).get? name = some value ↔
      (name, value) ∈ Entries.lasts entries ∨
        name ∉ Entries.keys entries ∧ table.get? name = some value := by
  induction entries generalizing table with
  | nil => simp [insertAll, Entries.lasts, Entries.keys]
  | cons entry rest ih =>
    have step := ih (table.insert entry.1 entry.2)
    have names : name ∉ Entries.keys (entry :: rest) ↔
        entry.1 ≠ name ∧ name ∉ Entries.keys rest := by
      simp [Entries.keys, eq_comm]
    simp only [insertAll, List.foldl_cons] at step ⊢
    rw [step, get?_insert, names, Entries.lasts]
    by_cases same : entry.1 = name
    -- The first entry has the name: it counts exactly if no later one has it.
    · by_cases later : name ∈ Entries.keys rest
      · simp [same, later]
      · have fresh : (name, value) ∉ Entries.lasts rest := fun member =>
          later (List.mem_map_of_mem (Entries.mem_of_mem_lasts member))
        obtain ⟨first, held⟩ := entry
        simp only at same
        subst same
        simp [later, fresh, eq_comm]
    -- The first entry has another name, so the last entry of `name` is in the rest.
    · have other : (name, value) ≠ entry := fun written => same (written ▸ rfl)
      by_cases later : entry.1 ∈ Entries.keys rest
      · simp [same, later]
      · simp [same, later, other]

/-- The values in a table are what it holds under its names. -/
theorem mem_values_iff (table : Table α) (value : α) :
    value ∈ table.values ↔ ∃ name, table.get? name = some value := by
  constructor
  · intro h
    obtain ⟨entry, member, rfl⟩ := List.mem_map.1 h
    exact ⟨entry.1, Entries.get?_eq_some_of_mem table.nodup member⟩
  · rintro ⟨name, held⟩
    exact List.mem_map.2 ⟨_, Entries.mem_of_get?_eq_some held, rfl⟩

/-- The values in the table that a list of entries writes are those of the last entries. -/
theorem mem_values_ofList (entries : List (String × α)) (value : α) :
    value ∈ (ofList entries).values ↔ ∃ entry ∈ Entries.lasts entries, entry.2 = value := by
  simp only [mem_values_iff, ofList, get?_insertAll_eq_some_iff, get?_empty, reduceCtorEq,
    and_false, or_false]
  constructor
  · rintro ⟨name, member⟩
    exact ⟨_, member, rfl⟩
  · rintro ⟨⟨name, held⟩, member, rfl⟩
    exact ⟨name, member⟩

/-- The value under a name after one table is written over another. -/
@[simp]
theorem get?_update (table other : Table α) (name : String) :
    (table.update other).get? name = (other.get? name).or (table.get? name) :=
  get?_insertAll _ other.nodup _ _

/-- The names after one table is written over another. -/
@[simp]
theorem mem_keys_update (table other : Table α) (name : String) :
    name ∈ (table.update other).keys ↔ name ∈ table.keys ∨ name ∈ other.keys :=
  mem_keys_insertAll _ _ _

/-- The names in order after one table is written over another. -/
theorem keys_update (table other : Table α) :
    (table.update other).keys = table.keys ++ other.keys.filter (fun name => name ∉ table.keys) :=
  keys_insertAll _ other.nodup _

/-- The value under a name after several tables are written over one: that of the last table
with the name, or else the one that was there. -/
theorem get?_foldl_update (tables : List (Table α)) (table : Table α) (name : String) :
    (tables.foldl update table).get? name =
      (tables.reverse.findSome? fun written => written.get? name).or (table.get? name) := by
  induction tables generalizing table with
  | nil => rfl
  | cons first rest ih =>
    rw [List.foldl_cons, ih, get?_update, List.reverse_cons, List.findSome?_append]
    simp [Option.or_assoc]

/-- Entries under new and distinct names are appended. -/
theorem entries_insertAll (entries : List (String × α)) (table : Table α)
    (distinct : (table.keys ++ Entries.keys entries).Nodup) :
    (table.insertAll entries).entries = table.entries ++ entries := by
  induction entries generalizing table with
  | nil => simp [insertAll]
  | cons entry rest ih =>
    have fresh : entry.1 ∉ table.keys := fun h =>
      (List.nodup_append.1 distinct).2.2 _ h _ (by simp [Entries.keys]) rfl
    have written : (table.insert entry.1 entry.2).entries = table.entries ++ [entry] :=
      Entries.insert_of_not_mem _ fresh
    -- The table with the first entry has distinct names again, in front of those of the rest.
    have step := ih (table.insert entry.1 entry.2) (by
      rw [keys_insert, if_neg fresh]
      simpa [Entries.keys] using distinct)
    simp only [insertAll, List.foldl_cons] at step ⊢
    rw [step, written, List.append_assoc, List.singleton_append]

/-- Writing a table over the empty one gives that table. -/
theorem empty_update (table : Table α) : (empty : Table α).update table = table := by
  apply ext_entries
  have h := entries_insertAll table.entries empty (by simpa using table.nodup)
  simpa [update, empty] using h

/-! ### Tables that go with each other -/

section Alike

variable {β : Type} {holds : α → β → Prop} {table : Table α} {other : Table β}

/-- Tables with the same names in the same order, and with values that go with each other. -/
def Alike (holds : α → β → Prop) (table : Table α) (other : Table β) : Prop :=
  Entries.Alike holds table.entries other.entries

/-- The empty tables are alike. -/
theorem alike_empty : Alike holds empty empty :=
  .nil

/-- Tables that are alike have the same names in the same order. -/
theorem Alike.keys_eq (h : Alike holds table other) : table.keys = other.keys :=
  Entries.Alike.keys_eq h

/-- Tables stay alike when entries that go with each other are written. -/
theorem Alike.insertAll {entries : List (String × α)} {others : List (String × β)}
    (h : Alike holds table other) (written : Entries.Alike holds entries others) :
    Alike holds (table.insertAll entries) (other.insertAll others) := by
  induction written generalizing table other with
  | nil => exact h
  | @cons entry entry' rest rest' same _ ih =>
    have step : Alike holds (table.insert entry.1 entry.2) (other.insert entry'.1 entry'.2) := by
      rw [same.1]
      exact Entries.Alike.insert h entry'.1 same.2
    exact ih step

/-- Updates that are alike keep tables alike. -/
theorem Alike.update {written : Table α} {written' : Table β} (h : Alike holds table other)
    (goes : Alike holds written written') :
    Alike holds (table.update written) (other.update written') :=
  h.insertAll goes

/-- Tables that are built from entries that are alike are alike. -/
theorem alike_ofList {entries : List (String × α)} {others : List (String × β)}
    (written : Entries.Alike holds entries others) : Alike holds (ofList entries) (ofList others) :=
  alike_empty.insertAll written

/-- Tables whose values are equal one by one are equal. -/
theorem eq_of_alike_eq {table other : Table α} (h : Alike Eq table other) : table = other := by
  apply ext_entries
  rw [← List.forall₂_eq_eq_eq]
  exact List.Forall₂.imp (fun _ _ same => Prod.ext same.1 same.2) h

/-- Tables are alike with themselves under a relation that holds of every value with itself. -/
theorem alike_refl {holds : α → α → Prop} (same : ∀ value, holds value value) (table : Table α) :
    Alike holds table table :=
  List.forall₂_same.2 fun entry _ => ⟨rfl, same entry.2⟩

end Alike

end Table

end Accord
