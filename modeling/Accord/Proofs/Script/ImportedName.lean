import Accord.Proofs.Text
import Accord.Script.TypeName
import Mathlib.Data.List.TakeWhile

/-!
# `Accord.Proofs.Script.ImportedName`: where a text mentions an imported name

`MentionsHere` says of a text that it starts with the member of an imported module, as it is
spelled: the word `import`, a module between quotes and parentheses, a dot and the name.
`importedHere?` finds exactly this (`importedHere?_eq_some_iff`). `importedName?` looks for the
first place where it stands: `importedName?_eq_none_iff` says when there is none,
`importedName?_eq_some_iff` what is found else.

Two quotes are needed for a mention, so that nothing is found in a text with fewer
(`importedName?_eq_none_of_quotes`), and nothing but the import itself in a text that starts
with one and has no further quotes (`importedName?_import`).
-/

set_option autoImplicit false

namespace Accord.Script

/-- A text starts with the member of an imported module, and this is its name. -/
inductive MentionsHere (text name : List Char) : Prop where
  | intro (gap module gap' rest : List Char) (opening closing : Char)
      (spelled : text = "import(".toList ++
        (gap ++ opening :: (module ++ closing :: (gap' ++ ')' :: '.' :: (name ++ rest)))))
      (blanks : ∀ c ∈ gap, Text.isBlank c = true)
      (isOpening : isModuleQuote opening = true)
      (plain : ∀ c ∈ module, isModuleQuote c = false)
      (isClosing : isModuleQuote closing = true)
      (blanks' : ∀ c ∈ gap', Text.isBlank c = true)
      (nonempty : name ≠ [])
      (member : ∀ c ∈ name, isMemberChar c = true)
      (whole : ∀ c, rest.head? = some c → isMemberChar c = false)

/-- Somewhere a text mentions the member of an imported module. -/
def MentionsImport (text : List Char) : Prop :=
  ∃ before rest name, text = before ++ rest ∧ MentionsHere rest name

/-- The first member of an imported module that a text mentions has this name. -/
inductive MentionsFirst : List Char → List Char → Prop where
  | here {text name : List Char} : MentionsHere text name → MentionsFirst text name
  | later {c : Char} {rest name : List Char} : (∀ other, ¬MentionsHere (c :: rest) other) →
      MentionsFirst rest name → MentionsFirst (c :: rest) name

variable {text name : List Char}

/-- The quotes of a module are no blanks. -/
theorem not_isBlank_of_isModuleQuote {c : Char} (h : isModuleQuote c = true) :
    Text.isBlank c = false := by
  simp only [isModuleQuote, Bool.or_eq_true, beq_iff_eq] at h
  rcases h with rfl | rfl <;> decide

/-- The name of a member behind the module that it is taken from. -/
def memberBehind? : List Char → Option (List Char)
  | ')' :: '.' :: member =>
    if (member.takeWhile isMemberChar).isEmpty then none else some (member.takeWhile isMemberChar)
  | _ => none

/-- Dropping ends behind a run at the first character that is none of it. -/
theorem dropWhile_run {p : Char → Bool} {run : List Char} (inside : ∀ c ∈ run, p c = true)
    {c : Char} (boundary : p c = false) (rest : List Char) :
    (run ++ c :: rest).dropWhile p = c :: rest := by
  rw [List.dropWhile_append_of_pos inside, List.dropWhile_cons_of_neg (by simp [boundary])]

/-- Up to the module a text is read as it is spelled. -/
theorem importedHere?_spelled {gap module gap' rest : List Char} {opening closing c : Char}
    (blanks : ∀ c ∈ gap, Text.isBlank c = true) (isOpening : isModuleQuote opening = true)
    (plain : ∀ c ∈ module, isModuleQuote c = false) (isClosing : isModuleQuote closing = true)
    (blanks' : ∀ c ∈ gap', Text.isBlank c = true) (notBlank : Text.isBlank c = false) :
    importedHere? ("import(".toList ++
      (gap ++ opening :: (module ++ closing :: (gap' ++ c :: rest)))) =
        memberBehind? (c :: rest) := by
  have behindWord : ("import(".toList ++
      (gap ++ opening :: (module ++ closing :: (gap' ++ c :: rest)))).drop "import(".length =
        gap ++ opening :: (module ++ closing :: (gap' ++ c :: rest)) := rfl
  have quoted : (module ++ closing :: (gap' ++ c :: rest)).dropWhile (fun c => !isModuleQuote c) =
      closing :: (gap' ++ c :: rest) :=
    dropWhile_run (by simpa using plain) (by simp [isClosing]) _
  rw [importedHere?, if_pos (List.isPrefixOf_iff_prefix.2 (List.prefix_append _ _)), behindWord,
    dropWhile_run blanks (not_isBlank_of_isModuleQuote isOpening)]
  simp only [isOpening, if_true, quoted, dropWhile_run blanks' notBlank]
  rfl

/-- The name that is found at a place is that of the mention there. -/
theorem importedHere?_eq_some_iff : importedHere? text = some name ↔ MentionsHere text name := by
  constructor
  · intro found
    -- Each stop of the scan gives one stretch of the spelling.
    rw [importedHere?] at found
    split at found
    · next isWord =>
      obtain ⟨afterWord, rfl⟩ := List.isPrefixOf_iff_prefix.1 isWord
      split at found
      · next opening quoted atQuote =>
        obtain ⟨gap, rfl, blanks⟩ := Text.exists_run atQuote
        split at found
        · next isOpening =>
          split at found
          · next closing behind atClosing =>
            have isClosing := Text.not_of_head?_dropWhile (congrArg List.head? atClosing)
            obtain ⟨module, rfl, plain⟩ := Text.exists_run atClosing
            split at found
            · next member atMember =>
              obtain ⟨gap', rfl, blanks'⟩ := Text.exists_run atMember
              simp only [Option.ite_none_left_eq_some, Option.some.injEq] at found
              obtain ⟨nonempty, rfl⟩ := found
              exact ⟨gap, module, gap', member.dropWhile isMemberChar, opening, closing,
                by rw [List.takeWhile_append_dropWhile], blanks, isOpening, by simpa using plain,
                by simpa using isClosing, blanks', by simpa using nonempty,
                fun _ inside => List.mem_takeWhile_imp inside, fun _ => Text.not_of_head?_dropWhile⟩
            · cases found
          · cases found
        · cases found
      · cases found
    · cases found
  · rintro ⟨gap, module, gap', rest, opening, closing, rfl, blanks, isOpening, plain, isClosing,
      blanks', nonempty, member, whole⟩
    -- The member characters end with the name, since no further one follows.
    have taken : (name ++ rest).takeWhile isMemberChar = name := by
      have cut := Text.span_run member whole
      rw [List.span_eq_takeWhile_dropWhile] at cut
      exact (Prod.ext_iff.1 cut).1
    rw [importedHere?_spelled blanks isOpening plain isClosing blanks' (by decide),
      memberBehind?, taken,
      if_neg (by simpa using nonempty)]

/-- Nothing is found where no mention stands. -/
theorem importedHere?_eq_none_iff :
    importedHere? text = none ↔ ∀ name, ¬MentionsHere text name := by
  rw [Option.eq_none_iff_forall_ne_some]
  exact forall_congr' fun name => not_congr importedHere?_eq_some_iff

/-! ### The first mention -/

/-- The empty text mentions nothing. -/
theorem not_mentionsHere_nil : ¬MentionsHere [] name := by
  rintro ⟨gap, module, gap', rest, opening, closing, spelled⟩
  cases spelled

/-- A mention stands at the front or further on. -/
theorem mentionsImport_cons {c : Char} {rest : List Char} :
    MentionsImport (c :: rest) ↔ (∃ name, MentionsHere (c :: rest) name) ∨ MentionsImport rest := by
  constructor
  · rintro ⟨before, after, name, split, mentions⟩
    cases before with
    | nil => exact .inl ⟨name, split ▸ mentions⟩
    | cons d before =>
      obtain ⟨-, split⟩ := List.cons.inj split
      exact .inr ⟨before, after, name, split, mentions⟩
  · rintro (⟨name, mentions⟩ | ⟨before, after, name, split, mentions⟩)
    · exact ⟨[], _, name, rfl, mentions⟩
    · exact ⟨c :: before, after, name, by rw [split, List.cons_append], mentions⟩

/-- What is found is the name of the first mention. -/
theorem importedName?_eq_some_iff : importedName? text = some name ↔ MentionsFirst text name := by
  induction text with
  | nil =>
    refine iff_of_false (by simp [importedName?]) fun first => ?_
    cases first with
    | here mentions => exact not_mentionsHere_nil mentions
  | cons c rest ih =>
    rw [importedName?]
    split
    · next found here =>
      have mentions := importedHere?_eq_some_iff.1 here
      rw [Option.some.injEq]
      constructor
      · rintro rfl
        exact .here mentions
      · intro first
        cases first with
        | here other =>
          exact Option.some.inj (here.symm.trans (importedHere?_eq_some_iff.2 other))
        | later never => exact absurd mentions (never found)
    -- Nothing is mentioned here, so the first mention of the rest is the first of the whole.
    · next nowhere =>
      have never := importedHere?_eq_none_iff.1 nowhere
      rw [ih]
      constructor
      · exact .later never
      · intro first
        cases first with
        | here mentions => exact absurd mentions (never name)
        | later _ first => exact first

/-- Nothing is found exactly where nothing is mentioned. -/
theorem importedName?_eq_none_iff : importedName? text = none ↔ ¬MentionsImport text := by
  induction text with
  | nil =>
    refine iff_of_true rfl ?_
    rintro ⟨before, rest, name, split, mentions⟩
    obtain ⟨-, rfl⟩ := List.append_eq_nil_iff.1 split.symm
    exact not_mentionsHere_nil mentions
  | cons c rest ih =>
    rw [importedName?, mentionsImport_cons]
    split
    · next found here =>
      exact iff_of_false (by simp) fun never =>
        never (.inl ⟨found, importedHere?_eq_some_iff.1 here⟩)
    · next nowhere =>
      rw [ih, or_iff_right (not_exists.2 (importedHere?_eq_none_iff.1 nowhere))]

/-! ### The quotes of a mention -/

/-- A mention has the two quotes around the module. -/
theorem two_le_countP_of_mentionsHere (h : MentionsHere text name) :
    2 ≤ text.countP isModuleQuote := by
  obtain ⟨gap, module, gap', rest, opening, closing, rfl, -, isOpening, -, isClosing⟩ := h
  simp only [List.countP_append, List.countP_cons, isOpening, isClosing, if_true]
  omega

/-- Nothing is mentioned in a text with at most one quote. -/
theorem importedName?_eq_none_of_quotes (h : text.countP isModuleQuote < 2) :
    importedName? text = none := by
  rw [importedName?_eq_none_iff]
  rintro ⟨before, rest, name, rfl, mentions⟩
  have quotes := two_le_countP_of_mentionsHere mentions
  rw [List.countP_append] at h
  omega

/-- No mention starts where the word `import` cannot. -/
theorem importedName?_append {front rest : List Char} (noStart : 'i' ∉ front) :
    importedName? (front ++ rest) = importedName? rest := by
  induction front with
  | nil => rfl
  | cons c front ih =>
    rw [List.mem_cons, not_or] at noStart
    have nowhere : importedHere? (c :: (front ++ rest)) = none := by
      rw [importedHere?, if_neg]
      simp [noStart.1]
    rw [List.cons_append, importedName?, nowhere]
    exact ih noStart.2

/-- A text that starts with an import and has no more quotes than the import mentions at most
that. -/
theorem importedName?_import {quote : Char} {rest : List Char}
    (isQuote : isModuleQuote quote = true)
    (single : rest.countP isModuleQuote < 2) :
    importedName? ("import(".toList ++ quote :: rest) =
      importedHere? ("import(".toList ++ quote :: rest) := by
  have noStart : 'i' ∉ "mport(".toList ++ [quote] := by
    have noLetter : 'i' ≠ quote := by
      rintro rfl
      revert isQuote
      decide
    simpa using noLetter
  have later : importedName? ("mport(".toList ++ quote :: rest) = none := by
    rw [← List.singleton_append, ← List.append_assoc, importedName?_append noStart,
      importedName?_eq_none_of_quotes single]
  show importedName? ('i' :: ("mport(".toList ++ quote :: rest)) =
    importedHere? ('i' :: ("mport(".toList ++ quote :: rest))
  rw [importedName?, later]
  cases importedHere? ('i' :: ("mport(".toList ++ quote :: rest)) <;> rfl

end Accord.Script
