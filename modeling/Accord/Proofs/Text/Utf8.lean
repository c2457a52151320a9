import Accord.Text.Utf8
import Mathlib.Data.List.Basic
import Mathlib.Tactic.SplitIfs

/-!
# `Accord.Proofs.Text.Utf8`: the octets of a text

`decode_eq_ok_iff` says that octets are read as a text exactly when they are the octets of that
text, so that no two sequences of octets give one text.

The tables of `leadRule` bound the second octet. `readsLong_iff` says what the bounds come down
to: a character is spelled by as few octets as can be, and it is no surrogate and not above
U+10FFFF.
-/

set_option autoImplicit false

namespace Accord.Text

/-! ### The rules for leads -/

/-- The least octet that may follow a lead. -/
def secondLow (lead : UInt8) : UInt8 :=
  if lead.toNat = 0xE0 then 0xA0 else if lead.toNat = 0xF0 then 0x90 else 0x80

/-- The greatest octet that may follow a lead. -/
def secondHigh (lead : UInt8) : UInt8 :=
  if lead.toNat = 0xED then 0x9F else if lead.toNat = 0xF4 then 0x8F else 0xBF

/-- What a lead octet asks for, by its number. -/
theorem leadRule_eq (lead : UInt8) :
    leadRule lead =
      if 0xC2 ≤ lead.toNat ∧ lead.toNat ≤ 0xDF then some (secondLow lead, secondHigh lead, 1)
      else if 0xE0 ≤ lead.toNat ∧ lead.toNat ≤ 0xEF then some (secondLow lead, secondHigh lead, 2)
      else if 0xF0 ≤ lead.toNat ∧ lead.toNat ≤ 0xF4 then some (secondLow lead, secondHigh lead, 3)
      else none := by
  simp only [leadRule, secondLow, secondHigh, Bool.and_eq_true, decide_eq_true_eq, beq_iff_eq,
    UInt8.le_iff_toNat_le, ← UInt8.toNat_inj, UInt8.reduceToNat]
  split_ifs <;> first | rfl | omega

/-- The range of the octets behind a lead. -/
def IsTail (octet : UInt8) : Prop :=
  0x80 ≤ octet.toNat ∧ octet.toNat ≤ 0xBF

/-- Four leads narrow the range of the octet behind them. -/
theorem second_iff (lead octet : UInt8) :
    (secondLow lead).toNat ≤ octet.toNat ∧ octet.toNat ≤ (secondHigh lead).toNat ↔
      IsTail octet ∧ (lead.toNat = 0xE0 → 0xA0 ≤ octet.toNat) ∧
        (lead.toNat = 0xED → octet.toNat ≤ 0x9F) ∧ (lead.toNat = 0xF0 → 0x90 ≤ octet.toNat) ∧
        (lead.toNat = 0xF4 → octet.toNat ≤ 0x8F) := by
  rw [secondLow, secondHigh, IsTail]
  split_ifs <;> simp only [UInt8.reduceToNat] <;> omega

/-- With no octets to come `takeFollowing` gives the number read so far. -/
theorem takeFollowing_zero_eq_ok_iff {low high : UInt8} {code taken point : Nat}
    {octets rest : List UInt8} :
    takeFollowing 0 low high code taken octets = .ok (point, rest) ↔
      point = code ∧ octets = rest := by
  simp [takeFollowing, eq_comm]

/-- With octets to come `takeFollowing` takes the first one, which lies between the bounds, and goes
on with the general bounds. -/
theorem takeFollowing_succ_eq_ok_iff {following : Nat} {low high : UInt8} {code taken point : Nat}
    {octets rest : List UInt8} :
    takeFollowing (following + 1) low high code taken octets = .ok (point, rest) ↔
      ∃ octet others, octets = octet :: others ∧
        (low.toNat ≤ octet.toNat ∧ octet.toNat ≤ high.toNat) ∧
        takeFollowing following 0x80 0xBF (code * 0x40 + octet.toNat % 0x40) (taken + 1) others =
          .ok (point, rest) := by
  cases octets with
  | nil => simp [takeFollowing]
  | cons octet others =>
    simp only [takeFollowing, Bool.and_eq_true, decide_eq_true_eq, UInt8.le_iff_toNat_le]
    split
    · next inside => simp [inside]
    -- Outside the bounds the reading fails, and no decomposition fits either.
    · next outside =>
      refine iff_of_false (by simp) ?_
      rintro ⟨_, _, same, inside, -⟩
      obtain ⟨rfl, rfl⟩ := List.cons.inj same
      exact outside inside

/-- A lead octet and octets behind it are read as one character. -/
def ReadsLong (lead : UInt8) (rest : List UInt8) (code : Nat) (others : List UInt8) : Prop :=
  ∃ low high following, leadRule lead = some (low, high, following) ∧
    takeFollowing following low high (leadBits lead following) 1 rest = .ok (code, others)

/-- **The characters of several octets**: two, three or four octets, and never more than needed; no
surrogate, and nothing above U+10FFFF. -/
theorem readsLong_iff {lead : UInt8} {rest others : List UInt8} {code : Nat} :
    ReadsLong lead rest code others ↔
      (∃ second, rest = second :: others ∧ (0xC0 ≤ lead.toNat ∧ lead.toNat ≤ 0xDF) ∧ IsTail second ∧
        code = lead.toNat % 0x20 * 0x40 + second.toNat % 0x40 ∧ 0x80 ≤ code) ∨
      (∃ second third, rest = second :: third :: others ∧
        (0xE0 ≤ lead.toNat ∧ lead.toNat ≤ 0xEF) ∧ IsTail second ∧ IsTail third ∧
        code = (lead.toNat % 0x10 * 0x40 + second.toNat % 0x40) * 0x40 + third.toNat % 0x40 ∧
        0x800 ≤ code ∧ ¬(0xD800 ≤ code ∧ code ≤ 0xDFFF)) ∨
      ∃ second third fourth, rest = second :: third :: fourth :: others ∧
        (0xF0 ≤ lead.toNat ∧ lead.toNat ≤ 0xF7) ∧ IsTail second ∧ IsTail third ∧ IsTail fourth ∧
        code = ((lead.toNat % 0x08 * 0x40 + second.toNat % 0x40) * 0x40 +
          third.toNat % 0x40) * 0x40 +
          fourth.toNat % 0x40 ∧
        0x10000 ≤ code ∧ code < 0x110000 := by
  constructor
  · rintro ⟨low, high, following, rule, taken⟩
    -- `leadRule` tells how many octets follow; each number is a case of its own.
    rw [leadRule_eq] at rule
    split_ifs at rule with two three four
    all_goals
      obtain ⟨rfl, rfl, rfl⟩ : low = _ ∧ high = _ ∧ following = _ := by simpa [eq_comm] using rule
      simp only [takeFollowing_succ_eq_ok_iff, takeFollowing_zero_eq_ok_iff, second_iff] at taken
    · obtain ⟨second, _, rfl, ⟨tail, -⟩, rfl, rfl⟩ := taken
      simp only [leadBits, if_true]
      exact .inl ⟨second, rfl, by omega, tail, rfl, by omega⟩
    -- The narrowed bounds on the second octet are what keeps out surrogates and numbers that need
    -- fewer octets.
    · obtain ⟨second, _, rfl, ⟨tail, narrow⟩, third, _, rfl, tail', rfl, rfl⟩ := taken
      refine .inr (.inl ⟨second, third, rfl, three, tail, tail', rfl, ?_⟩)
      simp only [IsTail, leadBits, Nat.reduceEqDiff, if_true, if_false] at tail ⊢
      omega
    · obtain ⟨second, _, rfl, ⟨tail, narrow⟩, third, _, rfl, tail', fourth, _, rfl, tail'', rfl,
        rfl⟩ := taken
      refine .inr (.inr ⟨second, third, fourth, rfl, by omega, tail, tail', tail'', rfl, ?_⟩)
      simp only [IsTail, leadBits, Nat.reduceEqDiff, if_false] at tail ⊢
      omega
  -- Conversely the range of the lead picks the rule, and the bounds on `code` give those on the
  -- second octet.
  · simp only [ReadsLong, leadRule_eq]
    rintro (⟨second, rfl, lead', tail, same, short⟩ | ⟨second, third, rfl, lead', tail, tail', same,
      short, scalar⟩ |
      ⟨second, third, fourth, rfl, lead', tail, tail', tail'', same, short, scalar⟩)
    · have bounds := tail
      rw [IsTail] at bounds
      refine ⟨_, _, _, if_pos (by omega), ?_⟩
      simp only [takeFollowing_succ_eq_ok_iff, takeFollowing_zero_eq_ok_iff, second_iff]
      exact ⟨second, others, rfl, ⟨tail, by omega⟩, by simpa [leadBits] using same, rfl⟩
    · have bounds := tail
      rw [IsTail] at bounds
      refine ⟨_, _, _, (if_neg (by omega)).trans (if_pos (by omega)), ?_⟩
      simp only [takeFollowing_succ_eq_ok_iff, takeFollowing_zero_eq_ok_iff, second_iff]
      exact ⟨second, _, rfl, ⟨tail, by omega⟩, third, others, rfl, tail',
        by simpa [leadBits] using same,
        rfl⟩
    · have bounds := tail
      rw [IsTail] at bounds
      refine ⟨_, _, _,
        (if_neg (by omega)).trans ((if_neg (by omega)).trans (if_pos (by omega))), ?_⟩
      simp only [takeFollowing_succ_eq_ok_iff, takeFollowing_zero_eq_ok_iff, second_iff]
      exact ⟨second, _, rfl, ⟨tail, by omega⟩, third, _, rfl, tail', fourth, others, rfl, tail'',
        by simpa [leadBits] using same, rfl⟩

/-! ### Characters and texts -/

/-- The number of an octet that is made of the number. -/
theorem ofNat_eq (octet : UInt8) {n : Nat} (h : n = octet.toNat) : UInt8.ofNat n = octet := by
  rw [h, UInt8.ofNat_toNat]

/-- A number below 256 is the value of its octet. -/
theorem toNat_ofNat_of_lt {n : Nat} (h : n < 0x100) : (UInt8.ofNat n).toNat = n := by
  rw [UInt8.toNat_ofNat']
  exact Nat.mod_eq_of_lt h

/-- The octets of a character by the number of the character. -/
theorem utf8EncodeChar_eq (c : Char) :
    String.utf8EncodeChar c =
      if c.toNat ≤ 0x7F then [.ofNat c.toNat]
      else if c.toNat ≤ 0x7FF then
        [.ofNat (c.toNat / 0x40 % 0x20 + 0xC0), .ofNat (c.toNat % 0x40 + 0x80)]
      else if c.toNat ≤ 0xFFFF then
        [.ofNat (c.toNat / 0x1000 % 0x10 + 0xE0), .ofNat (c.toNat / 0x40 % 0x40 + 0x80),
          .ofNat (c.toNat % 0x40 + 0x80)]
      else
        [.ofNat (c.toNat / 0x40000 % 0x08 + 0xF0), .ofNat (c.toNat / 0x1000 % 0x40 + 0x80),
          .ofNat (c.toNat / 0x40 % 0x40 + 0x80), .ofNat (c.toNat % 0x40 + 0x80)] :=
  rfl

/-- The numbers of characters. -/
theorem isValidChar_toNat (c : Char) : Nat.isValidChar c.toNat :=
  c.valid

/-- A number that is a character is the value of that character. -/
theorem toNat_ofNat {n : Nat} (h : Nat.isValidChar n) : (Char.ofNat n).toNat = n := by
  rw [Char.ofNat, dif_pos h]
  rfl

/-- What is read as a character are the octets of the character. -/
theorem readsLong_iff_utf8EncodeChar {lead : UInt8} {rest others : List UInt8} {code : Nat} :
    ReadsLong lead rest code others ↔
      ∃ c : Char, c.toNat = code ∧ 0x80 ≤ code ∧
        lead :: rest = String.utf8EncodeChar c ++ others := by
  rw [readsLong_iff]
  constructor
  · rintro (⟨second, rfl, lead', tail, same, short⟩ | ⟨second, third, rfl, lead', tail, tail', same,
      short, scalar⟩ |
      ⟨second, third, fourth, rfl, lead', tail, tail', tail'', same, short, scalar⟩)
    · rw [IsTail] at tail
      -- The bounds say that `code` is the number of a character, so that `Char.ofNat` keeps it.
      have number : (Char.ofNat code).toNat = code := toNat_ofNat (.inl (by omega))
      refine ⟨.ofNat code, number, short, ?_⟩
      rw [utf8EncodeChar_eq, number, if_neg (by omega), if_pos (by omega),
        ofNat_eq lead (by omega), ofNat_eq second (by omega)]
      rfl
    · rw [IsTail] at tail tail'
      have number : (Char.ofNat code).toNat = code :=
        toNat_ofNat (show code < 0xD800 ∨ 0xDFFF < code ∧ code < 0x110000 by omega)
      refine ⟨.ofNat code, number, by omega, ?_⟩
      rw [utf8EncodeChar_eq, number, if_neg (by omega), if_neg (by omega), if_pos (by omega),
        ofNat_eq lead (by omega), ofNat_eq second (by omega),
        ofNat_eq third (by omega)]
      rfl
    · rw [IsTail] at tail tail' tail''
      have number : (Char.ofNat code).toNat = code := toNat_ofNat (.inr (by omega))
      refine ⟨.ofNat code, number, by omega, ?_⟩
      rw [utf8EncodeChar_eq, number, if_neg (by omega), if_neg (by omega), if_neg (by omega),
        ofNat_eq lead (by omega), ofNat_eq second (by omega),
        ofNat_eq third (by omega), ofNat_eq fourth (by omega)]
      rfl
  -- The encoder splits by the same three ranges, so `split_ifs` on it gives the three cases back.
  · rintro ⟨c, rfl, long, same⟩
    have valid : c.toNat < 0xD800 ∨ 0xDFFF < c.toNat ∧ c.toNat < 0x110000 := isValidChar_toNat c
    rw [utf8EncodeChar_eq] at same
    split_ifs at same
    · omega
    all_goals
      obtain ⟨rfl, rfl⟩ := List.cons.inj same
    · refine .inl ⟨_, rfl, ?_⟩
      simp (disch := omega) only [IsTail, toNat_ofNat_of_lt]
      omega
    · refine .inr (.inl ⟨_, _, rfl, ?_⟩)
      simp (disch := omega) only [IsTail, toNat_ofNat_of_lt]
      omega
    · refine .inr (.inr ⟨_, _, _, rfl, ?_⟩)
      simp (disch := omega) only [IsTail, toNat_ofNat_of_lt]
      omega

/-- One octet below the leads is a character by itself. -/
theorem utf8EncodeChar_ofNat {octet : UInt8} (short : octet < 0x80) :
    String.utf8EncodeChar (Char.ofNat octet.toNat) = [octet] := by
  have bound : octet.toNat < 0x80 := UInt8.lt_iff_toNat_lt.1 short
  rw [utf8EncodeChar_eq, toNat_ofNat (.inl (by omega)), if_pos (by omega), UInt8.ofNat_toNat]

/-- A character of several octets is read, and the reading goes on behind it. -/
theorem decodeFrom_of_takeFollowing {lead low high : UInt8} {following code : Nat}
    {rest others : List UInt8} (long : ¬lead < 0x80)
    (rule : leadRule lead = some (low, high, following))
    (taken : takeFollowing following low high (leadBits lead following) 1 rest = .ok (code, others))
    (position : Nat) (read : List Char) :
    decodeFrom position read (lead :: rest) =
      decodeFrom (position + 1 + following) (Char.ofNat code :: read) others := by
  rw [decodeFrom, if_neg long]
  -- `decodeFrom` matches on `takeFollowing` with a proof of it at hand, so the match is split
  -- instead of rewritten.
  simp only [rule]
  split
  · next failed =>
    rw [taken] at failed
    cases failed
  · next found =>
    rw [taken] at found
    obtain ⟨rfl, rfl⟩ := Prod.mk.inj (Except.ok.inj found)
    rfl

/-- The octets of a character are read as the character. -/
theorem decodeFrom_utf8EncodeChar (c : Char) (rest : List UInt8) (position : Nat)
    (read : List Char) :
    ∃ position', decodeFrom position read (String.utf8EncodeChar c ++ rest) =
      decodeFrom position' (c :: read) rest := by
  -- One octet is read by a branch of its own; all longer forms go through `ReadsLong`.
  by_cases short : c.toNat ≤ 0x7F
  · have number : (UInt8.ofNat c.toNat).toNat = c.toNat := toNat_ofNat_of_lt (by omega)
    have below : UInt8.ofNat c.toNat < 0x80 := UInt8.lt_iff_toNat_lt.2 (by
      rw [number]
      exact Nat.lt_succ_of_le short)
    refine ⟨position + 1, ?_⟩
    rw [utf8EncodeChar_eq, if_pos short, List.singleton_append, decodeFrom, if_pos below, number,
      Char.ofNat_toNat]
  · obtain ⟨lead, behind, octets⟩ : ∃ lead behind, String.utf8EncodeChar c = lead :: behind := by
      refine List.exists_cons_of_ne_nil ?_
      rw [utf8EncodeChar_eq]
      split_ifs <;> exact List.cons_ne_nil _ _
    have long : ReadsLong lead (behind ++ rest) c.toNat rest :=
      readsLong_iff_utf8EncodeChar.2 ⟨c, rfl, by omega, by rw [octets]; rfl⟩
    have above : ¬lead < 0x80 := by
      rw [UInt8.lt_iff_toNat_lt]
      show ¬lead.toNat < 0x80
      rcases readsLong_iff.1 long with ⟨_, _, bound, _⟩ | ⟨_, _, _, bound, _⟩ |
        ⟨_, _, _, _, bound, _⟩ <;>
        omega
    obtain ⟨low, high, following, rule, taken⟩ := long
    refine ⟨position + 1 + following, ?_⟩
    rw [octets, List.cons_append, decodeFrom_of_takeFollowing above rule taken, Char.ofNat_toNat]

/-- The octets of a text are read as the text. -/
theorem decodeFrom_flatMap (text : List Char) (position : Nat) (read : List Char) :
    decodeFrom position read (text.flatMap String.utf8EncodeChar) = .ok (read.reverse ++ text) := by
  induction text generalizing position read with
  | nil => simp [decodeFrom]
  | cons c rest ih =>
    obtain ⟨position', goesOn⟩ :=
      decodeFrom_utf8EncodeChar c (rest.flatMap String.utf8EncodeChar) position read
    rw [List.flatMap_cons, goesOn, ih, List.reverse_cons, List.append_assoc, List.singleton_append]

/-- What is read as a text are the octets of the text. -/
theorem exists_of_decodeFrom {position : Nat} {read text : List Char} {octets : List UInt8}
    (h : decodeFrom position read octets = .ok text) :
    ∃ later, text = read.reverse ++ later ∧ octets = later.flatMap String.utf8EncodeChar := by
  -- The induction follows `decodeFrom`; `read` is the part of the text behind, in reverse.
  induction position, read, octets using decodeFrom.induct with
  | case1 position read =>
    rw [decodeFrom] at h
    exact ⟨[], by rw [← Except.ok.inj h, List.append_nil], rfl⟩
  | case2 position read octet rest short ih =>
    rw [decodeFrom, if_pos short] at h
    obtain ⟨later, rfl, rfl⟩ := ih h
    refine ⟨Char.ofNat octet.toNat :: later, by simp, ?_⟩
    rw [List.flatMap_cons, utf8EncodeChar_ofNat short, List.singleton_append]
  | case3 position read octet rest long noRule =>
    rw [decodeFrom, if_neg long] at h
    simp only [noRule] at h
    cases h
  | case4 position read octet rest long low high following rule count cause failed =>
    rw [decodeFrom, if_neg long] at h
    simp only [rule] at h
    split at h
    · cases h
    · next found =>
      rw [failed] at found
      cases found
  | case5 position read octet rest long low high following rule code others taken _ ih =>
    have character : ReadsLong octet rest code others := ⟨low, high, following, rule, taken⟩
    rw [decodeFrom_of_takeFollowing long rule taken] at h
    obtain ⟨later, rfl, rfl⟩ := ih h
    obtain ⟨c, rfl, -, same⟩ := readsLong_iff_utf8EncodeChar.1 character
    refine ⟨c :: later, by simp [Char.ofNat_toNat], ?_⟩
    rw [List.flatMap_cons, same]

/-- **Octets are read as a text** exactly when they are the octets of the text. -/
theorem decode_eq_ok_iff {octets : List UInt8} {text : List Char} :
    decode octets = .ok text ↔ octets = text.flatMap String.utf8EncodeChar := by
  constructor
  · intro h
    obtain ⟨later, rfl, same⟩ := exists_of_decodeFrom h
    exact same
  · rintro rfl
    exact decodeFrom_flatMap text 0 []

end Accord.Text
