import Accord.Text.Quoted
import Accord.Text.Upper
import Mathlib.Data.List.TakeDrop
import Mathlib.Data.List.TakeWhile

/-!
# `Accord.Proofs.Text`: quotes, capitals and runs of characters

`unquote_quoted` takes the quotes off a text that was put between them, whatever the text holds.
`upper_eq_empty_iff` says that capitals neither lose a text nor make one: every character has at
least one capital. `span_run` cuts a run of characters off where one of another class follows.
-/

set_option autoImplicit false

namespace Accord.Text

/-- A text between two quotes is unquoted to the text itself. -/
theorem unquote_quoted {quoted text : String} {quote : Char} (isQuote : isQuote quote = true)
    (h : quoted.toList = quote :: (text.toList ++ [quote])) : unquote quoted = text := by
  have closed : (text.toList ++ [quote]).getLast? = some quote := List.getLast?_concat
  rw [unquote, h, unquoteChars, closed, isQuote, List.dropLast_concat]
  simp

/-- No character has an empty row of capitals in the table. -/
theorem capitalSequences_nonempty : ∀ entry ∈ capitalSequences, entry.2 ≠ [] := by
  decide

/-- Every character has a capital. -/
theorem upperChar_ne_nil (c : Char) : upperChar c ≠ [] := by
  rw [upperChar]
  split
  · simp
  · split
    · next entry found =>
      have nonempty := capitalSequences_nonempty _ (List.mem_of_find?_eq_some found)
      simpa using nonempty
    · simp only
      split <;> simp

/-- A text in capitals is empty only when the text is. -/
theorem upper_eq_empty_iff {text : String} : upper text = "" ↔ text = "" := by
  rw [upper, String.ofList_eq_empty_iff, List.flatMap_eq_nil_iff]
  constructor
  · intro none
    cases chars : text.toList with
    | nil => exact String.toList_eq_nil_iff.1 chars
    | cons c rest => exact absurd (none c (chars ▸ List.mem_cons_self)) (upperChar_ne_nil c)
  · rintro rfl
    simp

/-! ### Runs of characters -/

/-- A run of characters ends where one that is not of its class follows. -/
theorem span_run {p : Char → Bool} {run rest : List Char} (inside : ∀ c ∈ run, p c = true)
    (boundary : ∀ c, rest.head? = some c → p c = false) : (run ++ rest).span p = (run, rest) := by
  rw [List.span_eq_takeWhile_dropWhile, List.takeWhile_append_of_pos inside,
    List.dropWhile_append_of_pos inside]
  cases rest with
  | nil => simp
  | cons c rest =>
    have other : ¬p c = true := by simp [boundary c rfl]
    rw [List.takeWhile_cons_of_neg other, List.dropWhile_cons_of_neg other, List.append_nil]

/-- A run ends where a character follows that is not of its class. -/
theorem not_of_head?_dropWhile {p : Char → Bool} {chars : List Char} {c : Char}
    (h : (chars.dropWhile p).head? = some c) : p c = false := by
  have other := List.head?_dropWhile_not p chars
  rw [h] at other
  simpa using other

/-- What is left behind a run comes behind characters of the run. -/
theorem exists_run {p : Char → Bool} {chars rest : List Char} (h : chars.dropWhile p = rest) :
    ∃ run, chars = run ++ rest ∧ ∀ c ∈ run, p c = true :=
  ⟨chars.takeWhile p, by rw [← h, List.takeWhile_append_dropWhile],
    fun _ member => List.mem_takeWhile_imp member⟩

/-- Every text is a run of characters of a class and a rest that starts with none. -/
theorem exists_run_and_rest (p : Char → Bool) (text : List Char) :
    ∃ run rest, text = run ++ rest ∧ (∀ c ∈ run, p c = true) ∧
      ∀ c, rest.head? = some c → p c = false := by
  obtain ⟨run, split, inside⟩ := exists_run (rfl : text.dropWhile p = text.dropWhile p)
  exact ⟨run, text.dropWhile p, split, inside, fun _ => not_of_head?_dropWhile⟩

/-- The code points of the letters. -/
theorem toNat_of_isAlpha {c : Char} (h : c.isAlpha = true) : 65 ≤ c.toNat ∧ c.toNat ≤ 122 := by
  have codes : (decide (65 ≤ c.val ∧ c.val ≤ 90) || (decide (97 ≤ c.val) && decide (c.val ≤ 122))) =
      true := h
  simp only [Bool.or_eq_true, Bool.and_eq_true, decide_eq_true_eq, UInt32.le_iff_toNat_le,
    UInt32.reduceToNat] at codes
  have code : c.toNat = c.val.toNat := rfl
  omega

/-- What is a letter in lower case is a letter. -/
theorem isAlpha_of_toLower {c : Char} (h : c.toLower.isAlpha = true) : c.isAlpha = true := by
  by_cases upper : c.isUpper = true
  · exact Bool.or_eq_true_iff.2 (.inl upper)
  · have same : c.toLower = c := dif_neg fun bounds => upper (decide_eq_true bounds)
    rwa [same] at h

end Accord.Text
