import Accord.Json.Reader
import Mathlib.Data.List.TakeDrop

/-!
# `Accord.Proofs.Json.Limit`: what a text has to hold to exceed a limit of the reader

The reader has two faults that are no faults of the notation: a whole number with more digits
than are read, and arrays and objects too deep inside each other. Both come from the text.
`hasLongRun_of_read` finds a run of so many digits in it, and `limit_lt_openings_of_read` more
opening brackets than the limit of `Nesting`. So a text without the one and the other is read,
or it is no JSON.

The reader goes forward only. What each of its parts leaves is a suffix of what the part was
given, and so what is in the one is in the other. `Forward` is this invariant; `allForward`
carries it through the three parts that call each other, by induction on the fuel.
-/

set_option autoImplicit false

namespace Accord.Json

/-- Somewhere in a text there are more digits in a row than a whole number may have. -/
def HasLongRun (text : List Char) : Prop :=
  ∃ before digits after, text = before ++ digits ++ after ∧ (∀ c ∈ digits, c.isDigit = true) ∧
    maxIntegerDigits < digits.length

/-- A short text has no long run of anything. -/
theorem not_hasLongRun_of_length_le {text : List Char} (short : text.length ≤ maxIntegerDigits) :
    ¬HasLongRun text := by
  rintro ⟨before, digits, after, rfl, -, long⟩
  simp only [List.length_append] at short
  omega

/-- A run of digits at the end of a text is in the text. -/
theorem HasLongRun.of_suffix {rest text : List Char} (h : HasLongRun rest)
    (suffix : rest <:+ text) :
    HasLongRun text := by
  obtain ⟨before, digits, after, rfl, areDigits, long⟩ := h
  obtain ⟨earlier, rfl⟩ := suffix
  exact ⟨earlier ++ before, digits, after, by simp only [List.append_assoc], areDigits, long⟩

/-- Whether a character opens an array or an object. -/
def isOpening (c : Char) : Bool :=
  c == '[' || c == '{'

/-- How many arrays and objects a text opens, at most. -/
def openings (text : List Char) : Nat :=
  text.countP isOpening

/-- What is behind an opening bracket has one opening less. -/
theorem openings_cons {c : Char} (h : isOpening c = true) (text : List Char) :
    openings (c :: text) = openings text + 1 :=
  List.countP_cons_of_pos h

/-- The end of a text opens no more than the text. -/
theorem openings_le_of_suffix {rest text : List Char} (suffix : rest <:+ text) :
    openings rest ≤ openings text :=
  suffix.sublist.countP_le

/-- What a part of the reader leaves is a suffix of the text. It complains about a long whole
number only when there is one, and about the depth only when more is opened than there is room
for. -/
def Forward {α : Type} (room : Nat) (text : List Char) : Reading α → Prop
  | .ok (_, rest) => rest <:+ text
  | .error (cause, _) =>
    (∀ digits, cause = .integerTooLong digits → HasLongRun text) ∧
      (cause = .tooDeep → room < openings text)

variable {α β : Type} {room : Nat} {text rest : List Char}

/-- A part that starts behind the start of a text goes forward in it. -/
theorem Forward.of_suffix {reading : Reading α} (h : Forward room rest reading)
    (suffix : rest <:+ text) : Forward room text reading := by
  match reading with
  | .ok (_, after) => exact h.trans suffix
  | .error (cause, _) =>
    exact ⟨fun digits same => (h.1 digits same).of_suffix suffix,
      fun same => Nat.lt_of_lt_of_le (h.2 same) (openings_le_of_suffix suffix)⟩

/-- A part that starts behind an opening bracket has one room less and goes forward from the
bracket. -/
theorem Forward.of_opened {reading : Reading α} {c : Char} (h : Forward room rest reading)
    (opens : isOpening c = true) (suffix : rest <:+ text) :
    Forward (room + 1) (c :: text) reading := by
  match reading with
  | .ok (_, after) => exact (h.trans suffix).trans (List.suffix_cons c text)
  | .error (cause, _) =>
    refine ⟨fun digits same => (h.1 digits same).of_suffix (suffix.trans (List.suffix_cons c text)),
      fun same => ?_⟩
    have inside := h.2 same
    have fewer := openings_le_of_suffix suffix
    rw [openings_cons opens]
    omega

/-- A fault of the notation says nothing about the limits. -/
theorem forward_error {cause : ReadCause} (noNumber : ∀ digits, cause ≠ .integerTooLong digits)
    (noDepth : cause ≠ .tooDeep) : Forward room text (.error (cause, rest) : Reading α) :=
  ⟨fun digits same => absurd same (noNumber digits), fun same => absurd same noDepth⟩

/-- What is made of a result has no part in where the reader is. -/
theorem Forward.map {reading : Reading α} (h : Forward room text reading) (f : α → β) :
    Forward room text (reading.map fun (value, rest) => (f value, rest)) := by
  match reading with
  | .ok _ => exact h
  | .error _ => exact h

/-! ### Blanks and strings -/

/-- Behind the spacing the text goes on. -/
theorem skipSpacing_suffix (text : List Char) : skipSpacing text <:+ text :=
  List.dropWhile_suffix _

/-- Four digits are taken from the front of the text. -/
theorem hexFour?_suffix {value : Nat} (h : hexFour? text = some (value, rest)) : rest <:+ text := by
  unfold hexFour? at h
  split at h
  · next a b c d after =>
    simp only [Option.bind_eq_bind, Option.bind_eq_some_iff, Option.pure_def, Option.some.injEq,
      Prod.mk.injEq] at h
    obtain ⟨_, -, _, -, _, -, _, -, -, rfl⟩ := h
    exact ⟨[a, b, c, d], rfl⟩
  · cases h

/-- The second half of a pair is taken from the front of the text, or left where it is. -/
theorem forward_joinSurrogates (unit : Nat) (text : List Char) :
    Forward room text (joinSurrogates unit text) := by
  unfold joinSurrogates
  simp only
  split
  · split
    · next digits =>
      split
      · exact List.suffix_rfl
      · split
        · exact forward_error nofun nofun
        · next second after found =>
          split
          · exact (hexFour?_suffix found).trans
              ((List.suffix_cons _ _).trans (List.suffix_cons _ _))
          · exact List.suffix_rfl
    · exact List.suffix_rfl
  · exact List.suffix_rfl

/-- A string ends in the text, and it is never refused for its length or its depth. -/
theorem forward_readString (start : List Char) (fuel : Nat) (read text : List Char) :
    Forward room text (readString start fuel read text) := by
  fun_induction readString start fuel read text with
  | case1 | case2 | case4 | case5 | case6 => exact forward_error nofun nofun
  | case3 => exact List.suffix_cons _ _
  -- An escaped unit takes its digits and, if it is the first half of a pair, those of the second.
  | case7 _ _ _ _ unit after found fault joined =>
    have refused : Forward room after _ := forward_joinSurrogates unit after
    rw [joined] at refused
    exact refused.of_suffix
      ((hexFour?_suffix found).trans ((List.suffix_cons _ _).trans (List.suffix_cons _ _)))
  | case8 _ _ _ _ unit after found c rest joined ih =>
    have second : Forward room after _ := forward_joinSurrogates unit after
    rw [joined] at second
    exact ih.of_suffix (List.IsSuffix.trans second
      ((hexFour?_suffix found).trans ((List.suffix_cons _ _).trans (List.suffix_cons _ _))))
  | case9 _ _ letter rest _ _ _ ih =>
    exact ih.of_suffix ((List.suffix_cons _ _).trans (List.suffix_cons _ _))
  | case10 | case11 => exact forward_error nofun nofun
  | case12 _ _ _ _ _ _ _ _ _ ih => exact ih.of_suffix (List.suffix_cons _ _)

/-! ### Numbers -/

/-- The whole part is a run of digits at the start. -/
theorem wholeDigits_append (text : List Char) :
    (wholeDigits text).1 ++ (wholeDigits text).2 = text ∧
      ∀ c ∈ (wholeDigits text).1, c.isDigit = true := by
  unfold wholeDigits
  split
  · exact ⟨rfl, fun c member => List.mem_singleton.1 member ▸ rfl⟩
  · rw [List.span_eq_takeWhile_dropWhile]
    exact ⟨List.takeWhile_append_dropWhile, List.all_eq_true.1 List.all_takeWhile⟩

/-- A fraction is taken from the front of the text. -/
theorem fractionDigits_suffix (text : List Char) : (fractionDigits text).2 <:+ text := by
  unfold fractionDigits
  split
  · next rest =>
    rw [List.span_eq_takeWhile_dropWhile]
    simp only
    split
    · exact List.suffix_rfl
    · exact (List.dropWhile_suffix _).trans (List.suffix_cons _ _)
  · exact List.suffix_rfl

/-- An exponent is taken from the front of the text. -/
theorem exponentPart_suffix (text : List Char) : (exponentPart text).2 <:+ text := by
  unfold exponentPart
  split
  · next mark rest =>
    split
    · split
      next negative unsigned signed =>
      have inside : unsigned <:+ mark :: rest := by
        split at signed
        all_goals obtain ⟨-, rfl⟩ := Prod.mk.inj signed
        · exact (List.suffix_cons _ _).trans (List.suffix_cons _ _)
        · exact (List.suffix_cons _ _).trans (List.suffix_cons _ _)
        · exact List.suffix_cons _ _
      rw [List.span_eq_takeWhile_dropWhile]
      simp only
      split
      · exact List.suffix_rfl
      · exact (List.dropWhile_suffix _).trans inside
    · exact List.suffix_rfl
  · exact List.suffix_rfl

/-- A number ends in the text, and it is refused for its length only when its whole part is long. -/
theorem forward_readNumber (text : List Char) : Forward room text (readNumber text) := by
  unfold readNumber
  split
  next negative unsigned signed =>
  have inside : unsigned <:+ text := by
    split at signed
    all_goals obtain ⟨-, rfl⟩ := Prod.mk.inj signed
    · exact List.suffix_cons _ _
    · exact List.suffix_rfl
  obtain ⟨whole, areDigits⟩ := wholeDigits_append unsigned
  have behindWhole : (wholeDigits unsigned).2 <:+ text := List.IsSuffix.trans ⟨_, whole⟩ inside
  have behind : (exponentPart (fractionDigits (wholeDigits unsigned).2).2).2 <:+ text :=
    ((exponentPart_suffix _).trans (fractionDigits_suffix _)).trans behindWhole
  simp only
  split
  · exact forward_error nofun nofun
  · split
    · split
      · next long =>
        -- The digits that are too many stand together in the text.
        have run : HasLongRun unsigned :=
          ⟨[], (wholeDigits unsigned).1, (wholeDigits unsigned).2, whole.symm, areDigits, long⟩
        exact ⟨fun _ _ => run.of_suffix inside, nofun⟩
      · exact behind
    · exact behind

/-! ### Values -/

/-- A literal is taken from the front of the text. -/
theorem readLiteral?_suffix {value : Json} (h : readLiteral? text = some (value, rest)) :
    rest <:+ text := by
  obtain ⟨⟨word, held⟩, -, found⟩ := List.exists_of_findSome?_eq_some h
  simp only [Option.ite_none_right_eq_some, Option.some.injEq, Prod.mk.injEq] at found
  obtain ⟨-, -, rfl⟩ := found
  exact List.drop_suffix _ _

/-- What is behind the first character of a suffix is a suffix. -/
theorem tail_suffix {c : Char} {after : List Char} (h : rest <:+ text) (split : rest = c :: after) :
    after <:+ text :=
  (split ▸ List.suffix_cons c after : after <:+ rest).trans h

/-- With so much fuel the three parts that call each other go forward, whatever room there is. -/
structure AllForward (fuel : Nat) : Prop where
  value : ∀ room text, Forward room text (readValue fuel room text)
  items : ∀ room read text, Forward room text (readItems fuel room read text)
  members : ∀ room read text, Forward room text (readMembers fuel room read text)

namespace AllForward

variable {fuel : Nat}

/-- Without fuel nothing is read. -/
theorem zero : AllForward 0 where
  value room text := by
    rw [readValue]
    exact forward_error nofun nofun
  items room read text := by
    rw [readItems]
    exact forward_error nofun nofun
  members room read text := by
    rw [readMembers]
    exact forward_error nofun nofun

/-- A value goes forward when what is inside it does, with one room less. -/
theorem readValue_succ (h : AllForward fuel) (room : Nat) (text : List Char) :
    Forward room text (readValue (fuel + 1) room text) := by
  unfold readValue
  split
  · next rest =>
    exact ((forward_readString _ _ _ _).of_suffix (List.suffix_cons _ _)).map Json.string
  · next rest =>
    -- No room is left, and the bracket that wants some is one of the text.
    exact ⟨nofun, fun _ => by rw [openings_cons rfl]; omega⟩
  · next rest =>
    exact ⟨nofun, fun _ => by rw [openings_cons rfl]; omega⟩
  · next rest room =>
    split
    · next after closed =>
      exact (tail_suffix (skipSpacing_suffix rest) closed).trans (List.suffix_cons _ _)
    · exact ((h.members _ _ _).of_opened rfl (skipSpacing_suffix rest)).map Json.object
  · next rest room =>
    split
    · next after closed =>
      exact (tail_suffix (skipSpacing_suffix rest) closed).trans (List.suffix_cons _ _)
    · exact ((h.items _ _ _).of_opened rfl (skipSpacing_suffix rest)).map Json.array
  · split
    · next found word => exact readLiteral?_suffix word
    · exact forward_readNumber text

/-- A list of items goes forward when its first value and the rest of the list do. -/
theorem readItems_succ (h : AllForward fuel) (room : Nat) (read : List Json) (text : List Char) :
    Forward room text (readItems (fuel + 1) room read text) := by
  have first := h.value room text
  unfold readItems
  cases found : readValue fuel room text with
  | error fault =>
    rw [found] at first
    exact first
  | ok item =>
    obtain ⟨item, rest⟩ := item
    rw [found] at first
    have behind : skipSpacing rest <:+ text := (skipSpacing_suffix rest).trans first
    simp only
    split
    · next after closed => exact tail_suffix behind closed
    · next after separated =>
      exact (h.items _ _ _).of_suffix
        ((skipSpacing_suffix after).trans (tail_suffix behind separated))
    · exact forward_error nofun nofun

/-- A list of members goes forward when the name, the value and the rest of the list do. -/
theorem readMembers_succ (h : AllForward fuel) (room : Nat) (read : List (String × Json))
    (text : List Char) : Forward room text (readMembers (fuel + 1) room read text) := by
  unfold readMembers
  split
  · next inside =>
    have readName : Forward room _ (readString ('"' :: inside) (inside.length + 1) [] inside) :=
      (forward_readString ('"' :: inside) (inside.length + 1) [] inside).of_suffix
        (List.suffix_cons '"' inside)
    -- Name, colon, value and separator follow each other, and each leaves a rest of what it was
    -- given.
    cases named : readString ('"' :: inside) (inside.length + 1) [] inside with
    | error fault =>
      rw [named] at readName
      exact readName
    | ok found =>
      obtain ⟨name, rest⟩ := found
      rw [named] at readName
      have behindName := (skipSpacing_suffix rest).trans readName
      simp only
      split
      · next after colon =>
        have held := (h.value room (skipSpacing after)).of_suffix
          ((skipSpacing_suffix after).trans (tail_suffix behindName colon))
        cases found : readValue fuel room (skipSpacing after) with
        | error fault =>
          rw [found] at held
          exact held
        | ok found' =>
          obtain ⟨item, rest⟩ := found'
          rw [found] at held
          have behind := (skipSpacing_suffix rest).trans held
          simp only
          split
          · next after closed => exact tail_suffix behind closed
          · next after separated =>
            exact (h.members _ _ _).of_suffix
              ((skipSpacing_suffix after).trans (tail_suffix behind separated))
          · exact forward_error nofun nofun
      · exact forward_error nofun nofun
  · exact forward_error nofun nofun

end AllForward

/-- The reader goes forward with any fuel. -/
theorem allForward (fuel : Nat) : AllForward fuel := by
  induction fuel with
  | zero => exact .zero
  | succ fuel ih => exact ⟨ih.readValue_succ, ih.readItems_succ, ih.readMembers_succ⟩

section Texts

variable [Nesting] {text : String} {fault : ReadFault}

/-- What the reader complains about is in the text. -/
theorem forward_read (h : read text = .error fault) :
    (∀ digits, fault.cause = .integerTooLong digits → HasLongRun text.toList) ∧
      (fault.cause = .tooDeep → Nesting.limit < openings text.toList) := by
  have forward := ((allForward (2 * text.toList.length + 2)).value Nesting.limit
    (skipSpacing text.toList)).of_suffix (skipSpacing_suffix _)
  unfold read readChars at h
  simp only at h
  split at h
  · cases h
    exact ⟨nofun, nofun⟩
  · split at h
    · next cause rest refused =>
      cases h
      rw [refused] at forward
      exact forward
    · split at h
      · cases h
      · cases h
        exact ⟨nofun, nofun⟩

/-- **A number is refused for its length** only in a text with so many digits in a row. -/
theorem hasLongRun_of_read {digits : Nat} (h : read text = .error fault)
    (long : fault.cause = .integerTooLong digits) : HasLongRun text.toList :=
  (forward_read h).1 digits long

/-- **A value is refused for its depth** only in a text with more opening brackets than the
limit. -/
theorem limit_lt_openings_of_read (h : read text = .error fault) (deep : fault.cause = .tooDeep) :
    Nesting.limit < openings text.toList :=
  (forward_read h).2 deep

end Texts

end Accord.Json
