/-!
# `Accord.Table`: tables that keep the order of their entries

A `Table α` holds entries under distinct names in the order in which the names were first
written. Writing to a name that is there already replaces the value and leaves the entry where
it is, so the order shows the first writing and the value the last one. `Entries.insert` is the
operation on the bare list of entries, and `keys_insert` says which names a table holds after
it.
-/

set_option autoImplicit false

namespace Accord

namespace Entries

variable {κ α : Type} [DecidableEq κ]

/-- Writes a value under a name: in place when the name is there, else at the end. -/
def insert : List (κ × α) → κ → α → List (κ × α)
  | [], name, value => [(name, value)]
  | entry :: rest, name, value =>
    if entry.1 = name then (name, value) :: rest else entry :: insert rest name value

/-- The value under a name. -/
def get? : List (κ × α) → κ → Option α
  | [], _ => none
  | entry :: rest, name => if entry.1 = name then some entry.2 else get? rest name

/-- The names in order. -/
def keys (entries : List (κ × α)) : List κ :=
  entries.map Prod.fst

/-- The names after a writing: the same ones, or one more at the end. -/
theorem keys_insert (entries : List (κ × α)) (name : κ) (value : α) :
    keys (insert entries name value) =
      if name ∈ keys entries then keys entries else keys entries ++ [name] := by
  induction entries with
  | nil => simp [insert, keys]
  | cons entry rest ih =>
    by_cases h : entry.1 = name
    · simp [insert, keys, h]
    · have h' : ¬name = entry.1 := fun e => h e.symm
      simp only [keys, List.map_cons] at ih ⊢
      simp only [insert, h, if_false, List.map_cons, ih, List.mem_cons, h', false_or]
      by_cases hm : name ∈ rest.map Prod.fst <;> simp [hm]

/-- A writing leaves the names distinct. -/
theorem nodup_keys_insert (entries : List (κ × α)) (name : κ) (value : α)
    (h : (keys entries).Nodup) : (keys (insert entries name value)).Nodup := by
  rw [keys_insert]
  split
  · exact h
  · next hn =>
    exact List.nodup_append.2
      ⟨h, by simp, fun a ha b hb => by
        have : b = name := by simpa using hb
        subst this
        intro e
        exact hn (e ▸ ha)⟩

/-- Reading after a writing gives the new value under its name and the old ones elsewhere. -/
theorem get?_insert (entries : List (κ × α)) (name other : κ) (value : α) :
    get? (insert entries name value) other =
      if name = other then some value else get? entries other := by
  induction entries with
  | nil => simp [insert, get?]
  | cons entry rest ih =>
    by_cases h : entry.1 = name
    · by_cases ho : name = other <;> simp_all [insert, get?]
    · by_cases ho : name = other
      · subst ho
        simp_all [insert, get?]
      · simp only [insert, h, if_false, get?, ih, ho]

end Entries

/-- Entries under distinct names, in the order of their first writing. -/
structure Table (α : Type) where
  /-- The entries in order. -/
  entries : List (String × α)
  /-- No name occurs twice. -/
  nodup : (Entries.keys entries).Nodup

namespace Table

variable {α : Type}

/-- The table without entries. -/
def empty : Table α :=
  ⟨[], by simp [Entries.keys]⟩

/-- The empty table, as `∅`. -/
instance : EmptyCollection (Table α) :=
  ⟨empty⟩

/-- The default table is empty. -/
instance : Inhabited (Table α) :=
  ⟨empty⟩

/-- Writes a value under a name; a name that is there keeps its place. -/
def insert (table : Table α) (name : String) (value : α) : Table α :=
  ⟨Entries.insert table.entries name value, Entries.nodup_keys_insert _ _ _ table.nodup⟩

/-- The value under a name. -/
def get? (table : Table α) (name : String) : Option α :=
  Entries.get? table.entries name

/-- The names in order. -/
def keys (table : Table α) : List String :=
  Entries.keys table.entries

/-- The values in the order of their names. -/
def values (table : Table α) : List α :=
  table.entries.map Prod.snd

/-- Whether a name has an entry. -/
def contains (table : Table α) (name : String) : Bool :=
  table.keys.contains name

/-- The number of entries. -/
def size (table : Table α) : Nat :=
  table.entries.length

/-- Writes all entries of a list, one after the other. -/
def insertAll (table : Table α) (entries : List (String × α)) : Table α :=
  entries.foldl (fun written entry => written.insert entry.1 entry.2) table

/-- Writes all entries of a second table over a first one. -/
def update (table other : Table α) : Table α :=
  table.insertAll other.entries

/-- The table that a list of entries writes. -/
def ofList (entries : List (String × α)) : Table α :=
  empty.insertAll entries

/-- After `insert` a name has the new value, and every other name what it had. -/
@[simp]
theorem get?_insert (table : Table α) (name other : String) (value : α) :
    (table.insert name value).get? other =
      if name = other then some value else table.get? other :=
  Entries.get?_insert _ _ _ _

/-- `insert` leaves the names as they are, or adds a new one at the end. -/
@[simp]
theorem keys_insert (table : Table α) (name : String) (value : α) :
    (table.insert name value).keys =
      if name ∈ table.keys then table.keys else table.keys ++ [name] :=
  Entries.keys_insert _ _ _

/-- The empty table has no names. -/
@[simp]
theorem keys_empty : (empty : Table α).keys = [] :=
  rfl

/-- The empty table has no values. -/
@[simp]
theorem get?_empty (name : String) : (empty : Table α).get? name = none :=
  rfl

end Table

end Accord
