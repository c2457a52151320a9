import Accord.Number.Hex
import Accord.Number.Integer
import Mathlib

/-!
# `Accord.Proofs.Number.Literal`: integer literals and the numbers they stand for

An `IntegerLiteral` is what a script may write for a whole number: decimal digits, or digits in
base sixteen, eight or two behind a mark, with single low lines between digits and a minus sign
in front.

Two readings of its text are compared with its value. As a text it is the plain decimal of one
number at most, and that number is its value (`ofList_chars_eq_toString_iff`). As a number it is
read by `integer?` if it is decimal and the sign stands right before the digits, and then with
its value (`integer?_literal`).
-/

set_option autoImplicit false

namespace Accord.Number

/-- The bases that literals are written in. -/
inductive Radix where
  | decimal
  | hexadecimal
  | octal
  | binary
  deriving DecidableEq, Repr

/-- The number of digits of a base. -/
def Radix.base : Radix → Nat
  | .decimal => 10
  | .hexadecimal => 16
  | .octal => 8
  | .binary => 2

/-- What may stand before the digits to say in which base they are. -/
def Radix.marks : Radix → List (List Char)
  | .decimal => [[]]
  | .hexadecimal => [['0', 'x'], ['0', 'X']]
  | .octal => [['0', 'o'], ['0', 'O']]
  | .binary => [['0', 'b'], ['0', 'B']]

/-- The value of a digit. -/
def digitValue (c : Char) : Nat :=
  (hexDigit? c).getD 0

/-- A literal for a whole number. -/
structure IntegerLiteral where
  /-- What stands between the minus sign and the number, if there is a minus sign. -/
  minus : Option (List Char)
  radix : Radix
  mark : List Char
  /-- The first digit. -/
  first : Char
  /-- The other digits; the truth value says whether a low line stands before the digit. -/
  others : List (Bool × Char)
  gap : ∀ layout ∈ minus, ∀ c ∈ layout.head?, digit? c = none
  marked : mark ∈ radix.marks
  isDigit : ∀ c ∈ first :: others.map Prod.snd, ∃ d < radix.base, hexDigit? c = some d
  noZeros : radix = .decimal → first = '0' → others = []

namespace IntegerLiteral

/-- The characters of a digit with the low line before it. -/
def spelled : Bool × Char → List Char
  | (true, c) => ['_', c]
  | (false, c) => [c]

/-- The characters of the minus sign and what stands behind it. -/
def signChars (literal : IntegerLiteral) : List Char :=
  match literal.minus with
  | some layout => '-' :: layout
  | none => []

/-- The characters of the digits. -/
def digitChars (literal : IntegerLiteral) : List Char :=
  literal.first :: literal.others.flatMap spelled

/-- The characters of a literal. -/
def chars (literal : IntegerLiteral) : List Char :=
  literal.signChars ++ (literal.mark ++ literal.digitChars)

/-- The number that the digits stand for. -/
def magnitude (literal : IntegerLiteral) : Nat :=
  literal.others.foldl (fun value digit => value * literal.radix.base + digitValue digit.2)
    (digitValue literal.first)

/-- The number that a literal stands for. -/
def value (literal : IntegerLiteral) : Int :=
  if literal.minus.isSome then -literal.magnitude else literal.magnitude

/-- A literal that is written as its number is shown: decimal, without low lines, and without a
minus sign or with one right before a number other than zero. -/
structure IsPlain (literal : IntegerLiteral) : Prop where
  decimal : literal.radix = .decimal
  noLines : ∀ digit ∈ literal.others, digit.1 = false
  sign : ∀ layout ∈ literal.minus, layout = [] ∧ literal.magnitude ≠ 0

/-- A literal that `integer?` reads: decimal, a minus sign right before the digits, and no more of
these than are read. -/
structure IsCounted (literal : IntegerLiteral) : Prop where
  decimal : literal.radix = .decimal
  noGap : ∀ layout ∈ literal.minus, layout = []
  short : 1 + literal.others.length ≤ maxDigits

/-- Being plain is read off the radix, the low lines and the sign. -/
instance (literal : IntegerLiteral) : Decidable literal.IsPlain :=
  decidable_of_iff (literal.radix = .decimal ∧ (∀ digit ∈ literal.others, digit.1 = false) ∧
      ∀ layout ∈ literal.minus, layout = [] ∧ literal.magnitude ≠ 0)
    ⟨fun ⟨decimal, noLines, sign⟩ => ⟨decimal, noLines, sign⟩,
      fun plain => ⟨plain.decimal, plain.noLines, plain.sign⟩⟩

/-- Being counted is read off the radix, the sign and the number of digits. -/
instance (literal : IntegerLiteral) : Decidable literal.IsCounted :=
  decidable_of_iff (literal.radix = .decimal ∧ (∀ layout ∈ literal.minus, layout = []) ∧
      1 + literal.others.length ≤ maxDigits)
    ⟨fun ⟨decimal, noGap, short⟩ => ⟨decimal, noGap, short⟩,
      fun counted => ⟨counted.decimal, counted.noGap, counted.short⟩⟩

end IntegerLiteral

/-! ### Decimal digits -/

/-- A digit below ten is a decimal one. -/
theorem isDigit_of_hexDigit? {c : Char} {d : Nat} (small : d < 10) (h : hexDigit? c = some d) :
    c.isDigit = true ∧ d = c.toNat - '0'.toNat := by
  unfold hexDigit? at h
  split at h
  · next decimal => exact ⟨decimal, (Option.some.inj h).symm⟩
  · split at h
    · have := Option.some.inj h
      omega
    · split at h
      · have := Option.some.inj h
        omega
      · cases h

/-- A decimal digit is a digit. -/
theorem digit?_of_isDigit {c : Char} (h : c.isDigit = true) : digit? c = some (digitValue c) := by
  have bounds := Char.isDigit_iff_toNat.1 h
  have nine : '9'.toNat = 57 := rfl
  have small : c.toNat < 128 := by omega
  rw [digit?, if_pos small, if_pos h, digitValue, hexDigit?, if_pos h]
  rfl

/-- The digit that is shown for the value of a decimal digit is the digit itself. -/
theorem digitChar_digitValue {c : Char} (h : c.isDigit = true) :
    Nat.digitChar (digitValue c) = c := by
  have bounds := Char.isDigit_iff_toNat.1 h
  have value : digitValue c = c.toNat - '0'.toNat := by simp [digitValue, hexDigit?, h]
  have code : Char.ofNat c.toNat = c := Char.ofNat_toNat c
  rw [value]
  generalize c.toNat = n at bounds code
  obtain ⟨lower, upper⟩ : 48 ≤ n ∧ n ≤ 57 := bounds
  subst code
  interval_cases n <;> rfl

/-- The value of a decimal digit is less than ten. -/
theorem digitValue_lt {c : Char} (h : c.isDigit = true) : digitValue c < 10 := by
  have bounds := Char.isDigit_iff_toNat.1 h
  have zero : '0'.toNat = 48 := rfl
  have nine : '9'.toNat = 57 := rfl
  simp only [digitValue, hexDigit?, h, if_true, Option.getD_some]
  omega

/-- Only zero has the value zero. -/
theorem digitValue_eq_zero_iff {c : Char} (h : c.isDigit = true) : digitValue c = 0 ↔ c = '0' := by
  constructor
  · intro zero
    rw [← digitChar_digitValue h, zero]
    rfl
  · rintro rfl
    rfl

/-! ### The decimal of a number -/

/-- One more digit behind the decimal of a number. -/
theorem toDigits_push {value : Nat} (positive : 0 < value) {c : Char} (h : c.isDigit = true) :
    Nat.toDigits 10 (value * 10 + digitValue c) = Nat.toDigits 10 value ++ [c] := by
  rw [Nat.mul_comm, ← Nat.toDigits_append_toDigits (by decide) positive (digitValue_lt h),
    Nat.toDigits_of_lt_base (digitValue_lt h), digitChar_digitValue h]

/-- Digits behind the decimal of a number. -/
theorem toDigits_foldl {value : Nat} (positive : 0 < value) (others : List Char)
    (h : ∀ c ∈ others, c.isDigit = true) :
    Nat.toDigits 10 (others.foldl (fun value c => value * 10 + digitValue c) value) =
      Nat.toDigits 10 value ++ others := by
  induction others generalizing value with
  | nil => simp
  | cons c rest ih =>
    have isDigit := h c List.mem_cons_self
    rw [List.foldl_cons, ih (by omega) fun other member => h other (List.mem_cons_of_mem _ member),
      toDigits_push positive isDigit, List.append_assoc, List.singleton_append]

/-- A number is told by its decimal. -/
theorem toDigits_injective {m n : Nat} (h : Nat.toDigits 10 m = Nat.toDigits 10 n) : m = n := by
  rw [← Nat.ofDigitChars_ten_toDigits (n := m), h, Nat.ofDigitChars_ten_toDigits]

namespace IntegerLiteral

variable {literal : IntegerLiteral}

/-- The digits of a decimal literal are decimal digits. -/
theorem isDigit_of_decimal (decimal : literal.radix = .decimal) :
    ∀ c ∈ literal.first :: literal.others.map Prod.snd, c.isDigit = true := by
  intro c member
  obtain ⟨d, small, found⟩ := literal.isDigit c member
  rw [decimal] at small
  exact (isDigit_of_hexDigit? small found).1

/-- Decimal digits without low lines are the decimal of their number. -/
theorem toDigits_magnitude (decimal : literal.radix = .decimal)
    (noLines : ∀ digit ∈ literal.others, digit.1 = false) :
    Nat.toDigits 10 literal.magnitude = literal.digitChars := by
  have areDigits := isDigit_of_decimal decimal
  have first := areDigits _ List.mem_cons_self
  have plain : literal.others.flatMap spelled = literal.others.map Prod.snd := by
    have single : literal.others.map spelled = literal.others.map fun digit => [digit.2] := by
      refine List.map_congr_left fun digit member => ?_
      obtain ⟨line, c⟩ := digit
      obtain rfl : line = false := noLines _ member
      rfl
    rw [List.map_eq_flatMap, List.flatMap_def, List.flatMap_def, single]
  -- The magnitude puts the digits together from the left, ten times what was read and the next one.
  have folded : literal.magnitude =
      (literal.others.map Prod.snd).foldl (fun value c => value * 10 + digitValue c)
        (digitValue literal.first) := by
    rw [magnitude, decimal, List.foldl_map]
    rfl
  rw [digitChars, plain, folded]
  -- Zero stands alone. Any other number starts with a digit that is shown, and one more digit behind
  -- it is one more digit of its decimal.
  by_cases zero : literal.first = '0'
  · rw [literal.noZeros decimal zero, zero]
    rfl
  · have positive : 0 < digitValue literal.first := by
      have := mt (digitValue_eq_zero_iff first).1 zero
      omega
    rw [toDigits_foldl positive _ fun c member => areDigits c (List.mem_cons_of_mem _ member),
      Nat.toDigits_of_lt_base (digitValue_lt first), digitChar_digitValue first]
    rfl

/-! ### A literal as a text -/

/-- The text of a number: its decimal, with a minus sign before that of a negative number. -/
theorem toList_toString (number : Int) :
    (toString number).toList =
      if 0 ≤ number then Nat.toDigits 10 number.natAbs
      else '-' :: Nat.toDigits 10 number.natAbs := by
  cases number with
  | ofNat n => exact Nat.toList_repr
  | negSucc n =>
    have text : toString (Int.negSucc n) = "-" ++ (n + 1).repr := rfl
    rw [text, String.toList_append, Nat.toList_repr, if_neg (by omega)]
    rfl

/-- Every number has a text. -/
theorem toString_ne_empty (number : Int) : toString number ≠ "" := by
  intro empty
  have text := toList_toString number
  rw [empty] at text
  split at text
  · exact Nat.toDigits_ne_nil text.symm
  · cases text

/-- A mark or a low line is no digit, so characters that are digits throughout are decimal digits
without low lines. -/
theorem plain_of_digits (h : ∀ c ∈ literal.mark ++ literal.digitChars, c.isDigit = true) :
    literal.radix = .decimal ∧ ∀ digit ∈ literal.others, digit.1 = false := by
  have inMark : ∀ c ∈ literal.mark, c.isDigit = true :=
    fun c member => h c (List.mem_append_left _ member)
  constructor
  · have marked := literal.marked
    cases radix : literal.radix with
    | decimal => rfl
    | _ =>
      simp only [radix, Radix.marks, List.mem_cons, List.not_mem_nil, or_false] at marked
      rcases marked with mark | mark
      all_goals
        rw [mark] at inMark
        simp at inMark
  · intro digit member
    obtain ⟨line, c⟩ := digit
    cases line with
    | false => rfl
    | true =>
      have spelled : '_' ∈ literal.digitChars :=
        List.mem_cons_of_mem _ (List.mem_flatMap.2 ⟨_, member, List.mem_cons_self⟩)
      have low := h '_' (List.mem_append_right _ spelled)
      simp at low

/-- The number itself starts with a digit in base sixteen at most. -/
theorem exists_head (literal : IntegerLiteral) :
    ∃ c rest, literal.mark ++ literal.digitChars = c :: rest ∧ (hexDigit? c).isSome = true := by
  have marked := literal.marked
  cases mark : literal.mark with
  | nil =>
    obtain ⟨d, -, found⟩ := literal.isDigit _ List.mem_cons_self
    exact ⟨_, _, rfl, by simp [found]⟩
  | cons c rest =>
    have zero : c = '0' := by
      rw [mark] at marked
      cases radix : literal.radix with
      | decimal => simp [radix, Radix.marks] at marked
      | _ =>
        simp only [radix, Radix.marks, List.mem_cons, List.cons.injEq, List.not_mem_nil,
          or_false] at marked
        rcases marked with ⟨zero, -⟩ | ⟨zero, -⟩
        · exact zero
        · exact zero
    exact ⟨c, _, rfl, by simp [zero, hexDigit?]⟩

/-- Characters of the number that are the decimal of a number are plain and stand for it. -/
theorem magnitude_of_toDigits {n : Nat}
    (h : literal.mark ++ literal.digitChars = Nat.toDigits 10 n) :
    (literal.radix = .decimal ∧ ∀ digit ∈ literal.others, digit.1 = false) ∧
      literal.magnitude = n := by
  have plain : literal.radix = .decimal ∧ ∀ digit ∈ literal.others, digit.1 = false := by
    refine plain_of_digits fun c member => ?_
    rw [h] at member
    exact Nat.isDigit_of_mem_toDigits (by decide) (by decide) member
  have noMark : literal.mark = [] := by
    have marked := literal.marked
    rw [plain.1] at marked
    exact List.mem_singleton.1 marked
  rw [noMark, List.nil_append, ← toDigits_magnitude plain.1 plain.2] at h
  exact ⟨plain, toDigits_injective h⟩

/-- Without a sign a literal is its mark and its digits. -/
theorem chars_unsigned (h : literal.minus = none) :
    literal.chars = literal.mark ++ literal.digitChars := by
  simp [chars, signChars, h]

/-- With a sign the gap stands between it and the mark. -/
theorem chars_signed {layout : List Char} (h : literal.minus = some layout) :
    literal.chars = '-' :: (layout ++ (literal.mark ++ literal.digitChars)) := by
  simp [chars, signChars, h]

/-- Without a sign the value is the magnitude. -/
theorem value_unsigned (h : literal.minus = none) : literal.value = literal.magnitude := by
  simp [value, h]

/-- With a sign the value is the negative of the magnitude. -/
theorem value_signed {layout : List Char} (h : literal.minus = some layout) :
    literal.value = -literal.magnitude := by
  simp [value, h]

/-- Without a minus sign the text of a literal can only be that of a natural number. -/
theorem plain_of_unsigned {number : Int} (unsigned : literal.minus = none)
    (same : literal.chars = (toString number).toList) :
    literal.IsPlain ∧ literal.value = number := by
  rw [chars_unsigned unsigned, toList_toString] at same
  split at same
  · obtain ⟨⟨decimal, noLines⟩, magnitude⟩ := magnitude_of_toDigits same
    refine ⟨⟨decimal, noLines, by simp [unsigned]⟩, ?_⟩
    rw [value_unsigned unsigned, magnitude]
    omega
  · -- The text of a negative number starts with the sign, and the literal with a digit.
    obtain ⟨c, rest, head, isDigit⟩ := literal.exists_head
    rw [head] at same
    rw [(List.cons.inj same).1] at isDigit
    cases isDigit

/-- With a minus sign it can only be that of a negative number. -/
theorem plain_of_signed {number : Int} {layout : List Char} (signed : literal.minus = some layout)
    (same : literal.chars = (toString number).toList) :
    literal.IsPlain ∧ literal.value = number := by
  have areDigits : ∀ c ∈ Nat.toDigits 10 number.natAbs, c.isDigit = true :=
    fun c member => Nat.isDigit_of_mem_toDigits (by decide) (by decide) member
  rw [chars_signed signed, toList_toString] at same
  split at same
  -- A number that is not negative has no sign in its decimal.
  · have sign := areDigits '-' (same ▸ List.mem_cons_self)
    cases sign
  · have rest := (List.cons.inj same).2
    -- What follows the sign is a digit, and a gap does not start with one.
    have noGap : layout = [] := by
      cases layout with
      | nil => rfl
      | cons c more =>
        have isDigit := areDigits c (rest ▸ List.mem_cons_self)
        have none := literal.gap _ signed c rfl
        rw [digit?_of_isDigit isDigit] at none
        cases none
    rw [noGap, List.nil_append] at rest
    obtain ⟨⟨decimal, noLines⟩, magnitude⟩ := magnitude_of_toDigits rest
    refine ⟨⟨decimal, noLines, fun other held => ?_⟩, ?_⟩
    · obtain rfl := Option.some.inj (signed.symm.trans held)
      exact ⟨noGap, by omega⟩
    · rw [value_signed signed, magnitude]
      omega

/-- A decimal literal has no mark. -/
theorem mark_of_decimal (decimal : literal.radix = .decimal) : literal.mark = [] := by
  have marked := literal.marked
  rw [decimal] at marked
  exact List.mem_singleton.1 marked

/-- A plain literal is the text of its value. -/
theorem chars_of_plain (plain : literal.IsPlain) :
    literal.chars = (toString literal.value).toList := by
  have digits := toDigits_magnitude plain.decimal plain.noLines
  rw [toList_toString]
  cases minus : literal.minus with
  | none =>
    rw [chars_unsigned minus, value_unsigned minus, mark_of_decimal plain.decimal,
      if_pos (by omega), Int.natAbs_natCast, digits, List.nil_append]
  | some layout =>
    obtain ⟨rfl, nonzero⟩ := plain.sign layout minus
    rw [chars_signed minus, value_signed minus, mark_of_decimal plain.decimal, if_neg (by omega),
      Int.natAbs_neg, Int.natAbs_natCast, digits, List.nil_append, List.nil_append]

/-- The text of a literal is that of a number exactly when it is plain and stands for the number. -/
theorem ofList_chars_eq_toString_iff (literal : IntegerLiteral) (number : Int) :
    String.ofList literal.chars = toString number ↔ literal.IsPlain ∧ literal.value = number := by
  rw [← String.toList_inj, String.toList_ofList]
  constructor
  · intro same
    cases minus : literal.minus with
    | none => exact plain_of_unsigned minus same
    | some layout => exact plain_of_signed minus same
  · rintro ⟨plain, rfl⟩
    exact chars_of_plain plain

/-! ### A literal as a number -/

/-- Decimal digits with single low lines between them are read as they are counted and valued. -/
theorem digitsFrom_spelled (others : List (Bool × Char))
    (h : ∀ c ∈ others.map Prod.snd, c.isDigit = true) (count value : Nat) :
    digitsFrom count value (others.flatMap spelled) =
      some (count + others.length,
        others.foldl (fun value digit => value * 10 + digitValue digit.2) value) := by
  induction others generalizing count value with
  | nil => rfl
  | cons digit rest ih =>
    obtain ⟨line, c⟩ := digit
    have isDigit : c.isDigit = true := h c List.mem_cons_self
    have read := digit?_of_isDigit isDigit
    have more := ih fun other member => h other (List.mem_cons_of_mem _ member)
    have counted : count + 1 + rest.length = count + (rest.length + 1) := by omega
    rw [List.flatMap_cons, List.foldl_cons, List.length_cons, ← counted]
    -- A low line is read together with the digit behind it.
    cases line with
    | true =>
      rw [spelled, List.cons_append, List.singleton_append, digitsFrom, read]
      exact more _ _
    | false =>
      rw [spelled, List.singleton_append, digitsFrom, read]
      · exact more _ _
      · rintro _ _ rfl
        cases isDigit

/-- A character that is neither a digit nor a low line ends the reading without a number. -/
theorem digitsFrom_eq_none {c : Char} (noDigit : digit? c = none) (noLine : c ≠ '_')
    (count value : Nat) (rest : List Char) : digitsFrom count value (c :: rest) = none := by
  rw [digitsFrom, noDigit]
  · rfl
  · exact fun _ _ line => absurd line noLine

/-- The digits of a decimal literal are read as its number, if there are not too many of them. -/
theorem natural?_digitChars (decimal : literal.radix = .decimal) :
    natural? literal.digitChars =
      if 1 + literal.others.length ≤ maxDigits then some literal.magnitude else none := by
  have areDigits := isDigit_of_decimal decimal
  have first := areDigits _ List.mem_cons_self
  have read := digitsFrom_spelled literal.others
    (fun c member => areDigits c (List.mem_cons_of_mem _ member)) 1 (digitValue literal.first)
  rw [digitChars, natural?, digit?_of_isDigit first]
  simp only [Option.bind_eq_bind, Option.bind_some, read, magnitude, decimal, Radix.base]
  by_cases short : 1 + literal.others.length ≤ maxDigits
  · rw [if_pos short, if_neg (by omega)]
  · rw [if_neg short, if_pos (by omega)]

/-- A mark ends the reading of the zero before it. -/
theorem natural?_of_mark (based : literal.radix ≠ .decimal) :
    natural? (literal.mark ++ literal.digitChars) = none := by
  have marked := literal.marked
  have ends : ∀ m ∈ ['x', 'X', 'o', 'O', 'b', 'B'], ∀ rest,
      natural? ('0' :: m :: rest) = none := by
    intro m member rest
    have noDigit : digit? m = none ∧ m ≠ '_' := by
      simp only [List.mem_cons, List.not_mem_nil, or_false] at member
      rcases member with rfl | rfl | rfl | rfl | rfl | rfl <;> decide
    rw [natural?, digit?_of_isDigit (by decide), Option.bind_eq_bind, Option.bind_some,
      digitsFrom_eq_none noDigit.1 noDigit.2]
    rfl
  cases radix : literal.radix with
  | decimal => exact absurd radix based
  | _ =>
    simp only [radix, Radix.marks, List.mem_cons, List.not_mem_nil, or_false] at marked
    rcases marked with mark | mark
    all_goals
      rw [mark]
      exact ends _ (by decide) _

/-- The number of a literal is read if the literal is decimal and short enough. -/
theorem natural?_number (literal : IntegerLiteral) :
    natural? (literal.mark ++ literal.digitChars) =
      if literal.radix = .decimal ∧ 1 + literal.others.length ≤ maxDigits then
        some literal.magnitude
      else none := by
  by_cases decimal : literal.radix = .decimal
  · rw [mark_of_decimal decimal, List.nil_append, natural?_digitChars decimal]
    simp [decimal]
  · rw [natural?_of_mark decimal, if_neg fun both => decimal both.1]

/-- A text that does not start with a sign is read as a natural number. -/
theorem integer?_unsigned {c : Char} {rest : List Char} (minus : c ≠ '-') (plus : c ≠ '+') :
    integer? (String.ofList (c :: rest)) =
      (natural? (c :: rest)).map fun value => (value : Int) := by
  rw [integer?, String.toList_ofList]
  split
  · next same => exact absurd (List.cons.inj same).1 minus
  · next same => exact absurd (List.cons.inj same).1 plus
  · rfl

/-- A gap behind the sign ends the reading. -/
theorem natural?_of_gap {c : Char} {rest : List Char} (noDigit : digit? c = none) :
    natural? (c :: rest) = none := by
  rw [natural?, noDigit]
  rfl

/-- Without a gap only the radix and the length decide. -/
theorem isCounted_iff_of_noGap (noGap : ∀ layout ∈ literal.minus, layout = []) :
    literal.IsCounted ↔ literal.radix = .decimal ∧ 1 + literal.others.length ≤ maxDigits :=
  ⟨fun counted => ⟨counted.decimal, counted.short⟩, fun ⟨decimal, short⟩ => ⟨decimal, noGap, short⟩⟩

/-- A literal is read as a number exactly when it is counted, and then as its value. -/
theorem integer?_literal (literal : IntegerLiteral) :
    integer? (String.ofList literal.chars) =
      if literal.IsCounted then some literal.value else none := by
  cases minus : literal.minus with
  | none =>
    -- The text starts with a digit, so that the branches for signs are not taken.
    obtain ⟨c, rest, head, isDigit⟩ := literal.exists_head
    have noMinus : c ≠ '-' := by
      rintro rfl
      cases isDigit
    have noPlus : c ≠ '+' := by
      rintro rfl
      cases isDigit
    have noGap : ∀ layout ∈ literal.minus, layout = [] := by simp [minus]
    simp only [isCounted_iff_of_noGap noGap]
    rw [chars_unsigned minus, head, integer?_unsigned noMinus noPlus, ← head, natural?_number,
      value_unsigned minus]
    split <;> rfl
  | some layout =>
    rw [chars_signed minus, integer?, String.toList_ofList, value_signed minus]
    cases layout with
    | nil =>
      have noGap : ∀ layout ∈ literal.minus, layout = [] := by simp [minus]
      simp only [isCounted_iff_of_noGap noGap, List.nil_append, natural?_number]
      split <;> rfl
    | cons c more =>
      -- A gap behind the sign is refused, and such a literal is not counted.
      have gap : ¬literal.IsCounted := fun counted => nomatch counted.noGap _ minus
      rw [if_neg gap, List.cons_append]
      simp only [natural?_of_gap (literal.gap _ minus c rfl)]
      rfl

end IntegerLiteral

end Accord.Number
