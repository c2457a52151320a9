import Accord.Script.Lexeme
import Accord.Text.Blank
import Accord.Text.Identifier
import Mathlib.Data.List.Basic

/-!
# `Accord.Proofs.Script.Spacing`: one row of tokens with other blanks between them

`SameTokens` holds of two texts that are written with the same tokens. Between two tokens there
may be any blanks, also none, unless both tokens are names that would then be read as one.

`Text.squash` writes the runs of blanks in a text as single spaces. What it cannot even out is a
place with blanks in one text and none in the other. `squash_of_sameTokens` says how far it
goes: either the texts come out equal, or neither of them is a single word.
-/

set_option autoImplicit false

namespace Accord

open Text (isBlank wordsFrom squash)

/-! ### Tables of ranges -/

namespace Text

/-- Whether no range of one table meets a range of the other. -/
def Ranges.apart (first second : Ranges) : Bool :=
  first.all fun range => second.all fun other => range.2 < other.1 || other.2 < range.1

/-- Of ranges that are apart only one covers a character. -/
theorem Ranges.not_covers_of_apart {first second : Ranges} (apart : first.apart second = true)
    {c : Char} (covered : first.covers c = true) : second.covers c = false := by
  rw [← Bool.not_eq_true, covers_iff]
  rintro ⟨other, member, low, high⟩
  obtain ⟨range, held, low', high'⟩ := covers_iff.1 covered
  have clear := List.all_eq_true.1 (List.all_eq_true.1 apart range held) other member
  simp only [Bool.or_eq_true, decide_eq_true_eq] at clear
  omega

end Text

namespace Script

/-! ### Decisions about the characters of a text

They look at the characters that are there, where a search for an instance may otherwise come upon
the one that tries every character. -/

section Decisions

variable (p : Char → Prop) [DecidablePred p]

/-- What holds of every character of a text is decided character by character. -/
instance decidableForallChar (text : List Char) : Decidable (∀ c ∈ text, p c) :=
  List.decidableBAll p text

/-- What holds of the character at an end is decided by looking at it. -/
instance decidableForallEnd (end? : Option Char) : Decidable (∀ c ∈ end?, p c) :=
  Option.decidableForallMem end?

/-- So is whether there is one that it holds of. -/
instance decidableExistsEnd (end? : Option Char) : Decidable (∃ c ∈ end?, p c) :=
  Option.decidableExistsMem end?

end Decisions

/-! ### Words -/

/-- A text without blanks and marks. -/
def IsWord (text : List Char) : Prop :=
  ∀ c ∈ text, isNamePart c = true

/-- Being a word is decided character by character. -/
instance (text : List Char) : Decidable (IsWord text) :=
  inferInstanceAs (Decidable (∀ c ∈ text, _))

/-- No part of a name is a space. -/
theorem not_isSpace_of_isNamePart {c : Char} (h : isNamePart c = true) : isSpace c = false := by
  simp only [isNamePart, Bool.and_eq_true, Bool.not_eq_true'] at h
  exact h.1.2

/-- A part of a name is none of the blanks that separate words. -/
theorem not_isBlank_of_isNamePart {c : Char} (h : isNamePart c = true) : isBlank c = false := by
  have space := not_isSpace_of_isNamePart h
  simp only [isNamePart, Bool.and_eq_true, decide_eq_true_eq] at h
  have printing := h.1.1
  -- A blank is a control character, which does not print, or a space in the sense of the tokens.
  rw [← Bool.not_eq_true]
  intro blank
  simp only [isBlank, Text.blankRanges, Text.Ranges.covers_iff, List.mem_cons, List.not_mem_nil,
    or_false, exists_eq_or_imp, exists_eq_left] at blank
  have notSpace : c.toNat ≠ 0x20 := by
    intro same
    obtain rfl : c = ' ' := Char.toNat_inj.1 same
    simp [isSpace] at space
  simp only [isSpace, spaceRanges, Text.Ranges.covers, List.any_cons, List.any_nil] at space
  split at space
  · simp at space
    omega
  · simp at space
    omega

/-- Letters, digits and the low line are parts of names. -/
theorem isNamePart_of_ascii :
    ∀ code < 128, ((Char.ofNat code).isAlphanum || Char.ofNat code == '_') = true →
      isNamePart (Char.ofNat code) = true := by
  decide +kernel

/-- The characters above U+007F of names by the identifier rule are no blanks. -/
theorem apart_spaceRanges :
    Text.nameStartRanges.apart spaceRanges = true ∧
      Text.nameRestRanges.apart spaceRanges = true := by
  decide +kernel

/-- All punctuation is among the first 128 characters. -/
theorem isPunctuation_of_not_ascii {c : Char} (other : ¬c.toNat < 128) :
    isPunctuation c = false := by
  have ascii : ∀ mark ∈ ":;`\"'@#.,|^&<=>+-*/\\%?!~()[]\x7b\x7d".toList, mark.toNat < 128 := by
    decide +kernel
  rw [← Bool.not_eq_true, isPunctuation, List.contains_iff_mem]
  exact fun mark => other (ascii c mark)

/-- The characters of names by the identifier rule are parts of names for the reader of tokens. -/
theorem isNamePart_of_isNameRest {c : Char} (h : Text.isNameRest c = true) :
    isNamePart c = true := by
  rw [Text.isNameRest] at h
  split at h
  · next ascii =>
    have named := isNamePart_of_ascii c.toNat ascii
    rw [Char.ofNat_toNat] at named
    exact named h
  · next other =>
    have noSpace : spaceRanges.covers c = false := by
      rcases Bool.or_eq_true_iff.1 h with start | rest
      · exact Text.Ranges.not_covers_of_apart apart_spaceRanges.1 start
      · exact Text.Ranges.not_covers_of_apart apart_spaceRanges.2 rest
    have printing : 0x20 ≤ c.toNat := by omega
    simp [isNamePart, isSpace, if_neg other, noSpace, printing, isPunctuation_of_not_ascii other]

/-- What starts a name may go on with one. -/
theorem isNameRest_of_isNameStart {c : Char} (h : Text.isNameStart c = true) :
    Text.isNameRest c = true := by
  rw [Text.isNameStart] at h
  rw [Text.isNameRest]
  split at h
  · next ascii =>
    rw [if_pos ascii]
    rcases Bool.or_eq_true_iff.1 h with letter | line
    · simp [Char.isAlphanum, letter]
    · simp [line]
  · next other => simp [if_neg other, h]

/-- A name is a word. -/
theorem isWord_of_isName {text : List Char} (h : Text.isName text = true) : IsWord text := by
  cases text with
  | nil => cases h
  | cons c rest =>
    obtain ⟨start, later⟩ := Bool.and_eq_true_iff.1 h
    intro d member
    rcases List.mem_cons.1 member with rfl | member
    · exact isNamePart_of_isNameRest (isNameRest_of_isNameStart start)
    · exact isNamePart_of_isNameRest (List.all_eq_true.1 later d member)

/-! ### Squashed texts -/

/-- A text without blanks is one word, or none if it is empty. -/
theorem wordsFrom_of_no_blank {text : List Char} (plain : ∀ c ∈ text, isBlank c = false)
    (word : List Char) :
    wordsFrom word text = if (word ++ text).isEmpty then [] else [word ++ text] := by
  induction text generalizing word with
  | nil => rw [wordsFrom, List.append_nil]
  | cons c rest ih =>
    rw [List.forall_mem_cons] at plain
    rw [wordsFrom, if_neg (by simp [plain.1]), ih plain.2, List.append_assoc,
      List.singleton_append]

/-- A run of characters that are no blanks ends at the first blank. -/
theorem wordsFrom_append_blank {run rest : List Char} {blank : Char}
    (plain : ∀ c ∈ run, isBlank c = false) (isBlank : isBlank blank = true) (word : List Char)
    (nonempty : word ++ run ≠ []) :
    wordsFrom word (run ++ blank :: rest) = (word ++ run) :: wordsFrom [] rest := by
  induction run generalizing word with
  | nil =>
    rw [List.append_nil] at nonempty ⊢
    rw [List.nil_append, wordsFrom, if_pos isBlank, if_neg (by simpa using nonempty)]
  | cons c run ih =>
    rw [List.forall_mem_cons] at plain
    rw [List.cons_append, wordsFrom, if_neg (by simp [plain.1]),
      ih plain.2 _ (by simp), List.append_assoc, List.singleton_append]

/-- There is a word where a word has begun or some character is no blank. -/
theorem wordsFrom_ne_nil {text word : List Char}
    (some : word ≠ [] ∨ ∃ c ∈ text, isBlank c = false) : wordsFrom word text ≠ [] := by
  induction text generalizing word with
  | nil =>
    have nonempty : word ≠ [] := some.resolve_right (by simp)
    rw [wordsFrom, if_neg (by simpa using nonempty)]
    exact List.cons_ne_nil _ _
  | cons d rest ih =>
    rw [wordsFrom]
    split
    · next blank =>
      split
      · next empty =>
        -- Nothing has begun, and the blank is not the character that is none.
        obtain ⟨c, member, plain⟩ := some.resolve_left (by simpa using empty)
        rcases List.mem_cons.1 member with rfl | later
        · rw [blank] at plain
          cases plain
        · exact ih (.inr ⟨c, later, plain⟩)
      · exact List.cons_ne_nil _ _
    · exact ih (.inl (by simp))

/-- A text that neither starts nor ends with a blank, and is no blank itself. -/
structure IsTrimmed (text : List Char) : Prop where
  nonempty : text ≠ []
  first : ∀ c ∈ text.head?, isBlank c = false
  last : ∀ c ∈ text.getLast?, isBlank c = false

/-- Such a text stays as it is. -/
theorem squash_of_no_blank {text : String} (plain : ∀ c ∈ text.toList, isBlank c = false) :
    squash text = text := by
  apply String.toList_inj.1
  rw [squash, Text.words, wordsFrom_of_no_blank plain, List.nil_append, String.toList_intercalate]
  cases text.toList <;> simp

/-- A blank inside a text leaves a space. -/
theorem space_mem_squash {text : String} (trimmed : IsTrimmed text.toList)
    (blank : ∃ c ∈ text.toList, isBlank c = true) : ' ' ∈ (squash text).toList := by
  obtain ⟨c, found⟩ : ∃ c, text.toList.find? isBlank = some c := by
    rw [← Option.isSome_iff_exists, List.find?_isSome]
    exact blank
  -- The first blank ends a word, as the text does not start with it, and there is another word
  -- behind it, as the text does not end with it.
  obtain ⟨isBlank, run, rest, split, others⟩ := List.find?_eq_some_iff_append.1 found
  have plain : ∀ d ∈ run, Text.isBlank d = false := fun d member => by simpa using others d member
  rw [split] at trimmed
  have before : run ≠ [] := by
    rintro rfl
    simpa [isBlank] using trimmed.first c
  have behind : ∃ d ∈ rest, Text.isBlank d = false := by
    cases last : rest.getLast? with
    | none =>
      obtain rfl := List.getLast?_eq_none_iff.1 last
      simpa [isBlank] using trimmed.last c
    | some d =>
      refine ⟨d, List.mem_of_getLast? last, trimmed.last d ?_⟩
      rw [List.getLast?_append, List.getLast?_cons, last]
      rfl
  obtain ⟨word, words, cut⟩ := List.exists_cons_of_ne_nil (wordsFrom_ne_nil (.inr behind))
  rw [squash, String.toList_intercalate, Text.words, split,
    wordsFrom_append_blank plain isBlank [] (by simpa using before), cut]
  simp [List.intercalate_cons_cons]

/-- A trimmed text and its squashed form are words together, and then they are equal. -/
theorem squash_eq_self_of_isWord {text : String}
    (word : IsWord text.toList ∨ IsTrimmed text.toList ∧ IsWord (squash text).toList) :
    squash text = text := by
  apply squash_of_no_blank
  rcases word with word | ⟨trimmed, word⟩
  · exact fun c member => not_isBlank_of_isNamePart (word c member)
  · -- A blank would be a space in the squashed text, and so in a word.
    by_contra blank
    push Not at blank
    have space := word _ (space_mem_squash trimmed (by simpa using blank))
    revert space
    decide +kernel

/-! ### Tokens -/

/-- The characters of a token: some, and no blanks at the ends. -/
structure IsToken (token : List Char) : Prop extends IsTrimmed token where
  firstSpace : ∀ c ∈ token.head?, isSpace c = false
  lastSpace : ∀ c ∈ token.getLast?, isSpace c = false

/-- Being a token is decided at the two ends. -/
instance (token : List Char) : Decidable (IsToken token) :=
  decidable_of_iff
    (token ≠ [] ∧ (∀ c ∈ token.head?, isBlank c = false) ∧
      (∀ c ∈ token.getLast?, isBlank c = false) ∧ (∀ c ∈ token.head?, isSpace c = false) ∧
      ∀ c ∈ token.getLast?, isSpace c = false)
    ⟨fun ⟨nonempty, first, last, firstSpace, lastSpace⟩ =>
      ⟨⟨nonempty, first, last⟩, firstSpace, lastSpace⟩,
      fun token => ⟨token.nonempty, token.first, token.last, token.firstSpace, token.lastSpace⟩⟩

/-- The end of a token and the start of the next one would be read as one name. -/
def Joins (token rest : List Char) : Prop :=
  ∃ c ∈ token.getLast?, ∃ d ∈ rest.head?, isNamePart c = true ∧ isNamePart d = true

/-- Whether two tokens join is decided where they meet. -/
instance (token rest : List Char) : Decidable (Joins token rest) :=
  inferInstanceAs (Decidable (∃ _ ∈ _, _))

/-- Two rows of the same tokens. The blanks between two tokens may differ, and may be missing where
the tokens stay apart without them. -/
inductive Respaced : List Char → List Char → Prop where
  | last {token : List Char} : IsToken token → Respaced token token
  | next {token gap gap' rest rest' : List Char} : IsToken token →
      (∀ c ∈ gap, isSpace c = true) → (∀ c ∈ gap', isSpace c = true) →
      (Joins token rest → gap ≠ [] ∧ gap' ≠ []) → Respaced rest rest' →
      Respaced (token ++ gap ++ rest) (token ++ gap' ++ rest')

/-- Two texts are written with the same tokens and differ at most in the blanks between them. -/
def SameTokens (text other : String) : Prop :=
  Respaced text.toList other.toList

namespace Respaced

variable {text other : List Char}

/-- A row of tokens is not empty. -/
theorem ne_nil (h : Respaced text other) : text ≠ [] := by
  cases h with
  | last token => exact token.nonempty
  | next token => simp [token.nonempty]

/-- Both texts start with the same token. -/
theorem head?_eq (h : Respaced text other) : other.head? = text.head? := by
  cases h with
  | last => rfl
  | @next token gap gap' rest rest' isToken =>
    obtain ⟨c, later, rfl⟩ := List.exists_cons_of_ne_nil isToken.nonempty
    rfl

/-- Having the same tokens goes both ways. -/
theorem symm (h : Respaced text other) : Respaced other text := by
  induction h with
  | last token => exact .last token
  | next token blanks blanks' apart rest ih =>
    -- Whether two tokens join is seen at the start of the second one, which both rows have.
    refine .next token blanks' blanks (fun joins => (apart ?_).symm) ih
    rwa [Joins, rest.head?_eq] at joins

/-- A row of tokens has no blanks at its ends. -/
theorem isTrimmed (h : Respaced text other) : IsTrimmed text := by
  induction h with
  | last token => exact token.toIsTrimmed
  | @next token gap gap' rest rest' isToken _ _ _ _ ih =>
    obtain ⟨c, later, rfl⟩ := List.exists_cons_of_ne_nil isToken.nonempty
    obtain ⟨d, last⟩ : ∃ d, rest.getLast? = some d := by
      rw [← Option.isSome_iff_exists, List.getLast?_isSome]
      exact ih.nonempty
    refine ⟨by simp, isToken.first, ?_⟩
    rw [List.getLast?_append, last]
    simpa [last] using ih.last

/-- A single word is a single token. -/
theorem eq_of_isWord (h : Respaced text other) (word : IsWord text) : other = text := by
  cases h with
  | last => rfl
  | @next token gap gap' rest rest' isToken blanks _ apart rest =>
    simp only [IsWord, List.forall_mem_append] at word
    obtain ⟨⟨inToken, inGap⟩, inRest⟩ := word
    -- No blank is a part of a name, so that the two tokens touch. They would be read as one.
    have touching : gap = [] := by
      refine List.eq_nil_iff_forall_not_mem.2 fun c member => ?_
      have blank := blanks c member
      rw [not_isSpace_of_isNamePart (inGap c member)] at blank
      cases blank
    obtain ⟨c, last⟩ := Option.isSome_iff_exists.1 (List.getLast?_isSome.2 isToken.nonempty)
    obtain ⟨d, first⟩ := Option.isSome_iff_exists.1 (List.isSome_head?.2 rest.ne_nil)
    have joins : Joins token _ := ⟨c, last, d, first, inToken c (List.mem_of_getLast? last),
      inRest d (List.mem_of_head? first)⟩
    exact absurd touching (apart joins).1

end Respaced

/-- **How far squashing evens out the blanks**: texts of the same tokens come out equal, or
neither of them comes out as a single word. -/
theorem squash_of_sameTokens {text other : String} (h : SameTokens text other) :
    squash other = squash text ∨
      ¬IsWord (squash text).toList ∧ ¬IsWord (squash other).toList := by
  -- A text that comes out as a word was that word before, and then it is a single token.
  by_cases word : IsWord (squash text).toList
  · have whole := squash_eq_self_of_isWord (.inr ⟨h.isTrimmed, word⟩)
    rw [whole] at word
    exact .inl (congrArg squash (String.toList_inj.1 (h.eq_of_isWord word)))
  · by_cases word' : IsWord (squash other).toList
    · have whole := squash_eq_self_of_isWord (.inr ⟨h.symm.isTrimmed, word'⟩)
      rw [whole] at word'
      exact .inl (congrArg squash (String.toList_inj.1 (h.symm.eq_of_isWord word').symm))
    · exact .inr ⟨word, word'⟩

end Script

end Accord
