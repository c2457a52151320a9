/-!
# `Accord.Text.Utf8`: reading octets as text

`decode` reads octets by the syntax of UTF-8 and either gives the characters or the first fault:
how many octets at which position belong to it, and why they cannot be read. A lead octet fixes
the range of the octet after it (so no character is spelled longer than it need be, and no
surrogate and nothing above U+10FFFF is spelled at all) and the number of octets that follow.

`unifyLines` makes one line end of the three that are in use.
-/

set_option autoImplicit false

namespace Accord.Text

/-- Why octets cannot be read as text. -/
inductive OctetCause where
  /-- An octet that no character starts with. -/
  | invalidStart
  /-- A started character that the next octet cannot go on with. -/
  | invalidContinuation
  /-- A started character at the end of the octets. -/
  | unexpectedEnd
  deriving DecidableEq, Repr

/-- A fault in a sequence of octets: `count` octets from `position` on cannot be read. -/
structure OctetFault where
  /-- The number of octets before the fault. -/
  position : Nat
  /-- The number of octets that belong to the fault. -/
  count : Nat
  /-- The first octet of the fault. -/
  octet : UInt8
  /-- Why they cannot be read. -/
  cause : OctetCause
  deriving DecidableEq, Repr

/-- What a lead octet asks for: the range of the octet after it and how many octets follow in all.
Only leads of characters of two to four octets have an entry. -/
def leadRule (lead : UInt8) : Option (UInt8 × UInt8 × Nat) :=
  if 0xC2 ≤ lead && lead ≤ 0xDF then some (0x80, 0xBF, 1)
  else if lead == 0xE0 then some (0xA0, 0xBF, 2)
  else if lead == 0xED then some (0x80, 0x9F, 2)
  else if 0xE1 ≤ lead && lead ≤ 0xEF then some (0x80, 0xBF, 2)
  else if lead == 0xF0 then some (0x90, 0xBF, 3)
  else if 0xF1 ≤ lead && lead ≤ 0xF3 then some (0x80, 0xBF, 3)
  else if lead == 0xF4 then some (0x80, 0x8F, 3)
  else none

/-- The bits that a lead octet gives to the code point, by the number of octets that follow. -/
def leadBits (lead : UInt8) (following : Nat) : Nat :=
  lead.toNat % (if following = 1 then 0x20 else if following = 2 then 0x10 else 0x08)

/-- Takes the octets that follow a lead, the first of them in `low` to `high`. The answer is the
code point and the octets after it, or the number of octets that belong to the fault. -/
def takeFollowing : Nat → UInt8 → UInt8 → Nat → Nat → List UInt8 →
    Except (Nat × OctetCause) (Nat × List UInt8)
  | 0, _, _, code, _, rest => .ok (code, rest)
  | _ + 1, _, _, _, taken, [] => .error (taken, .unexpectedEnd)
  | following + 1, low, high, code, taken, octet :: rest =>
    if low ≤ octet && octet ≤ high then
      takeFollowing following 0x80 0xBF (code * 0x40 + octet.toNat % 0x40) (taken + 1) rest
    else .error (taken, .invalidContinuation)

/-- `takeFollowing` leaves no more octets than it is given; `decodeFrom` ends by this. -/
theorem length_takeFollowing (following : Nat) (low high : UInt8) (code taken : Nat)
    (octets : List UInt8) (point : Nat) (rest : List UInt8)
    (h : takeFollowing following low high code taken octets = .ok (point, rest)) :
    rest.length ≤ octets.length := by
  -- Each step takes one octet, so the induction is on how many are still to come; the bounds and
  -- the number read so far change on the way.
  induction following generalizing low high code taken octets with
  | zero =>
    simp only [takeFollowing, Except.ok.injEq, Prod.mk.injEq] at h
    exact Nat.le_of_eq (congrArg List.length h.2.symm)
  | succ following ih =>
    cases octets with
    | nil => simp [takeFollowing] at h
    | cons octet others =>
      simp only [takeFollowing] at h
      split at h
      · exact Nat.le_succ_of_le (ih _ _ _ _ _ h)
      · cases h

/-- Reads octets as characters. `position` counts the octets read before, `read` holds the
characters read before, last one first. -/
def decodeFrom (position : Nat) (read : List Char) (octets : List UInt8) :
    Except OctetFault (List Char) :=
  match octets with
  | [] => .ok read.reverse
  | octet :: rest =>
    if octet < 0x80 then decodeFrom (position + 1) (Char.ofNat octet.toNat :: read) rest
    else
      match leadRule octet with
      | none => .error ⟨position, 1, octet, .invalidStart⟩
      | some (low, high, following) =>
        match h : takeFollowing following low high (leadBits octet following) 1 rest with
        | .error (count, cause) => .error ⟨position, count, octet, cause⟩
        | .ok (code, others) =>
          have : others.length ≤ rest.length := length_takeFollowing _ _ _ _ _ _ _ _ h
          decodeFrom (position + 1 + following) (Char.ofNat code :: read) others
termination_by octets.length

/-- The text of a sequence of octets, or its first fault. -/
def decode (octets : List UInt8) : Except OctetFault (List Char) :=
  decodeFrom 0 [] octets

/-- One line end for all: a carriage return with or without a line feed becomes a line feed. -/
def unifyLines : List Char → List Char
  | [] => []
  | '\r' :: '\n' :: rest => '\n' :: unifyLines rest
  | '\r' :: rest => '\n' :: unifyLines rest
  | c :: rest => c :: unifyLines rest

/-- The two digits of an octet in base sixteen, in lower case. -/
def hexOctet (octet : UInt8) : String :=
  String.ofList [Nat.digitChar (octet.toNat / 16), Nat.digitChar (octet.toNat % 16)]

/-- The wording of a fault. -/
def OctetFault.message (fault : OctetFault) : String :=
  let reason := match fault.cause with
    | .invalidStart => "invalid start byte"
    | .invalidContinuation => "invalid continuation byte"
    | .unexpectedEnd => "unexpected end of data"
  let place :=
    if fault.count = 1 then
      s!"byte 0x{hexOctet fault.octet} in position {fault.position}"
    else s!"bytes in position {fault.position}-{fault.position + fault.count - 1}"
  s!"'utf-8' codec can't decode {place}: {reason}"

end Accord.Text
