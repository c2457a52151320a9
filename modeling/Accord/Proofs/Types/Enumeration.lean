import Accord.Proofs.Aligned
import Accord.Proofs.Number.Literal
import Accord.Proofs.Types.Signature

/-!
# `Accord.Proofs.Types.Enumeration`: enumerations of whole numbers

The members of such an enumeration have literals for whole numbers or nothing behind their
names. In the language a member without a literal has the number after that of the member before
it (`values`).

The registry keeps texts. `readings` says for every member which number it has and whether its
text is that number as it is shown. A literal is shown when it is plain; a member without one is
shown as long as the numbers before it are counted, and once a literal is not, none behind it
is, up to the next literal. `enumEntries_reads` follows the list of members with this, and
`toString_mem_values_iff` says which numbers the values of an enumeration spell.
-/

set_option autoImplicit false

namespace Accord.Types

open Script (Node)
open Number (IntegerLiteral)

/-- A member of an enumeration of whole numbers. -/
inductive IntegerMember where
  /-- A member without a value. -/
  | next (name : String)
  /-- A member with a literal. -/
  | literal (name : String) (written : IntegerLiteral)

namespace IntegerMember

/-- The name of a member. -/
def name : IntegerMember → String
  | .next name | .literal name _ => name

/-- The numbers of members; `start` is the number of a first member without a literal. -/
def values (start : Int) : List IntegerMember → List Int
  | [] => []
  | .next _ :: rest => start :: values (start + 1) rest
  | .literal _ written :: rest => written.value :: values (written.value + 1) rest

/-- A node writes a member. -/
inductive WrittenBy : Node → IntegerMember → Prop where
  | next {node : Node} : node.kind ∈ [.propertyIdentifier, .string, .number] →
      WrittenBy node (.next (Text.unquote node.text))
  | literal {node value : Node} {written : IntegerLiteral} : node.kind = .enumAssignment →
      node.child? .value = some value → value.kind ≠ .string →
      value.text = String.ofList written.chars → WrittenBy node (.literal (nameOf node) written)

/-- What a member counts for: its number, and whether its text is that of the number. -/
structure Reading where
  value : Int
  shown : Bool
  deriving DecidableEq, Repr

/-- The members as they are read. `counted` says whether the number before them is known. -/
def readings (start : Int) (counted : Bool) : List IntegerMember → List (String × Reading)
  | [] => []
  | .next name :: rest => (name, ⟨start, counted⟩) :: readings (start + 1) counted rest
  | .literal name written :: rest =>
    (name, ⟨written.value, written.IsPlain⟩) ::
      readings (written.value + 1) written.IsCounted rest

/-- The members are read with their numbers. -/
theorem map_readings (start : Int) (counted : Bool) (members : List IntegerMember) :
    (readings start counted members).map (fun reading => reading.2.value) =
      values start members := by
  induction members generalizing start counted with
  | nil => rfl
  | cons member rest ih =>
    cases member with
    | next => exact congrArg _ (ih _ _)
    | literal => exact congrArg _ (ih _ _)

/-- The readings have the names of the members, in their order. -/
theorem keys_readings (start : Int) (counted : Bool) (members : List IntegerMember) :
    Entries.keys (readings start counted members) = members.map name := by
  induction members generalizing start counted with
  | nil => rfl
  | cons member rest ih =>
    cases member with
    | next => exact congrArg _ (ih _ _)
    | literal => exact congrArg _ (ih _ _)

/-- A text spells the number of a reading that is shown, and no other number. -/
def Spells (reading : Reading) (text : String) : Prop :=
  ∀ number : Int, text = toString number ↔ reading.shown = true ∧ reading.value = number

/-- An entry of an enumeration goes with a reading. -/
def Reads (reading : String × Reading) (entry : String × String) : Prop :=
  reading.1 = entry.1 ∧ Spells reading.2 entry.2

/-- The sequence behind a number that is known or not. -/
def sequenceOf (start : Int) (counted : Bool) : Sequence :=
  if counted then some start else none

/-- A number that is written is written as it is shown. -/
theorem decimal?_eq_some {number : Int} {text : String} (h : Number.decimal? number = some text) :
    text = toString number := by
  rw [Number.decimal?] at h
  split at h
  · cases h
  · exact (Option.some.inj h).symm

/-- A member without a value is shown when the number before it is known. -/
theorem reads_next {start : Int} {counted : Bool} {text : String}
    (written : (sequenceOf start counted).text = .ok text) (name : String) :
    Reads (name, ⟨start, counted⟩) (name, text) := by
  refine ⟨rfl, fun number => ?_⟩
  cases counted with
  | true =>
    simp only [sequenceOf, if_true, Sequence.text] at written
    split at written
    · next shown =>
      obtain rfl := Except.ok.inj written
      simp [decimal?_eq_some shown, Int.repr_inj]
    · cases written
  | false =>
    obtain rfl := Except.ok.inj written
    simpa using (Number.IntegerLiteral.toString_ne_empty number).symm

/-- A literal is shown when it is plain. -/
theorem reads_literal (name : String) (written : IntegerLiteral) :
    Reads (name, ⟨written.value, written.IsPlain⟩) (name, String.ofList written.chars) := by
  refine ⟨rfl, fun number => ?_⟩
  rw [written.ofList_chars_eq_toString_iff, decide_eq_true_iff]

/-- One member that is told: its entry and the sequence behind it. -/
theorem enumMember_of_writtenBy {node : Node} {member : IntegerMember}
    (h : WrittenBy node member) {start : Int} {counted : Bool}
    {found : Option ((String × String) × Sequence)}
    (told : enumMember (sequenceOf start counted) node = .ok found) (rest : List IntegerMember) :
    ∃ reading entry start' counted',
      found = some (entry, sequenceOf start' counted') ∧ Reads reading entry ∧
      readings start counted (member :: rest) = reading :: readings start' counted' rest := by
  cases h with
  | next kind =>
    -- The three kinds of names are read alike.
    have read : enumMember (sequenceOf start counted) node = do
        return some ((Text.unquote node.text, ← (sequenceOf start counted).text),
          (sequenceOf start counted).map (· + 1)) := by
      simp only [List.mem_cons, List.not_mem_nil, or_false] at kind
      rcases kind with kind | kind | kind
      all_goals simp only [enumMember, kind]
    rw [read] at told
    obtain ⟨text, written, same⟩ := Report.bind_eq_ok_iff.1 told
    obtain rfl := Except.ok.inj same
    have behind : (sequenceOf start counted).map (· + 1) = sequenceOf (start + 1) counted := by
      cases counted <;> rfl
    rw [behind]
    exact ⟨_, _, start + 1, counted, rfl, reads_next written _, rfl⟩
  | @literal value written kind assigned notString text =>
    have read : enumMember (sequenceOf start counted) node = .ok (some (assignedMember node)) := by
      simp only [enumMember, kind]
    obtain rfl := Except.ok.inj (read.symm.trans told)
    refine ⟨_, _, written.value + 1, written.IsCounted, ?_, reads_literal (nameOf node) written,
      rfl⟩
    simp only [assignedMember, assigned, if_neg notString, text, written.integer?_literal,
      sequenceOf]
    by_cases counts : written.IsCounted <;> simp [counts]

/-- The entries of an enumeration that is told go with the readings of its members. -/
theorem enumEntries_reads {nodes : List Node} {start : Int} {counted : Bool}
    {members : List IntegerMember} {entries : List (String × String)}
    (h : List.Forall₂ WrittenBy (nodes.filter fun node => node.kind ≠ .comment) members)
    (told : enumEntries (sequenceOf start counted) nodes = .ok entries) :
    List.Forall₂ Reads (readings start counted members) entries := by
  -- The number of the next member and whether it is known carry the induction.
  induction nodes generalizing start counted members entries with
  | nil =>
    cases h
    obtain rfl := Except.ok.inj told
    exact .nil
  | cons node rest ih =>
    obtain ⟨found, read, others⟩ := Report.bind_eq_ok_iff.1 told
    by_cases comment : node.kind = .comment
    · -- A comment is no member and leaves the sequence as it is.
      have skipped : enumMember (sequenceOf start counted) node = .ok none := by
        simp [enumMember, comment]
      obtain rfl := Except.ok.inj (skipped.symm.trans read)
      rw [List.filter_cons_of_neg (by simp [comment])] at h
      exact ih h others
    · rw [List.filter_cons_of_pos (by simpa using comment)] at h
      cases h with
      | @cons _ member _ later written more =>
        obtain ⟨reading, entry, start', counted', rfl, reads, readings⟩ :=
          enumMember_of_writtenBy written read later
        obtain ⟨tail, behind, same⟩ := Report.bind_eq_ok_iff.1 others
        obtain rfl := Except.ok.inj same
        rw [readings]
        exact .cons reads (ih more behind)

end IntegerMember

/-- A declaration of an enumeration of whole numbers with these members. Comments between them are
no members. -/
def IsIntegerEnum (declaration : Node) (members : List IntegerMember) : Prop :=
  declaration.kind = .enumDeclaration ∧
    List.Forall₂ IntegerMember.WrittenBy
      ((memberNodes declaration).filter fun node => node.kind ≠ .comment) members

/-- A number that a member is shown as, unless a later member has its name. -/
def IsShown (members : List IntegerMember) (number : Int) : Prop :=
  ∃ reading ∈ Entries.lasts (IntegerMember.readings 0 true members),
    reading.2.shown = true ∧ reading.2.value = number

/-- The values of an enumeration are the texts of the numbers that its members are shown as. -/
theorem toString_mem_values_iff {declaration : Node} {members : List IntegerMember}
    {definition : Definition} (h : IsIntegerEnum declaration members)
    (told : ofEnumeration declaration = .ok definition) (number : Int) :
    toString number ∈ definition.properties.values ↔ IsShown members number := by
  obtain ⟨entries, written, rfl⟩ := ofEnumeration_eq_ok_iff.1 told
  have reads := Entries.Alike.lasts
    (@IntegerMember.enumEntries_reads _ 0 true _ _ h.2 written)
  rw [Table.mem_values_ofList, IsShown]
  exact (exists_mem_iff_of_forall₂ (fun reading entry go => (go.2 number).symm) reads).symm

/-- When the names are distinct and every member is shown, the numbers are those of the members. -/
theorem isShown_iff_mem_values {members : List IntegerMember}
    (distinct : (members.map IntegerMember.name).Nodup)
    (shown : ∀ reading ∈ IntegerMember.readings 0 true members, reading.2.shown = true)
    (number : Int) : IsShown members number ↔ number ∈ IntegerMember.values 0 members := by
  rw [← IntegerMember.map_readings 0 true, IsShown,
    Entries.lasts_of_nodup (by rwa [IntegerMember.keys_readings]), List.mem_map]
  constructor
  · rintro ⟨reading, held, -, value⟩
    exact ⟨reading, held, value⟩
  · rintro ⟨reading, held, value⟩
    exact ⟨reading, held, shown reading held, value⟩

end Accord.Types
