import Accord.Number.Hex
import Accord.Number.Integer
import Accord.Text.Pieces
import Accord.Text.Ranges

/-!
# `Accord.Url.Host`: the host parts of URLs that are taken

The host part of a URL may hold a network address between square brackets. `isBracketable` says
which texts may stand there: an IPv6 address (`isIpv6`) or an address of a later version
(`isFutureAddress`). `acceptsAuthority` is the test of a whole host part: its brackets belong
together, what they hold may stand there, and no character of it is one of the
`disguisedRanges`.
-/

set_option autoImplicit false

namespace Accord.Url

/-! ### Network addresses -/

/-- Whether a character is a digit in base sixteen. -/
def isHexDigit (c : Char) : Bool :=
  (Number.hexDigit? c).isSome

/-- Whether a text is a number from 0 to 255 in ASCII digits, without a zero in front. -/
def isOctet (text : List Char) : Bool :=
  text.all Char.isDigit && text.length ≤ 3 && (text == ['0'] || text.head? != some '0') &&
    (Number.natural? text).any (· ≤ 255)

/-- Whether a text is an IPv4 address. -/
def isDottedQuad (text : List Char) : Bool :=
  let octets := Text.cut '.' text
  octets.length == 4 && octets.all isOctet

/-- Whether a text is a group of an IPv6 address: one to four digits in base sixteen. -/
def isHextet (text : List Char) : Bool :=
  !text.isEmpty && text.length ≤ 4 && text.all isHexDigit

/-- The groups of an IPv6 address between its colons. An IPv4 address may stand at the end; it
counts for two groups, and since only their number matters they are given as zeros. -/
def addressGroups? (address : List Char) : Option (List (List Char)) :=
  let groups := Text.cut ':' address
  match groups.getLast? with
  | none => none
  | some last =>
    if !last.contains '.' then some groups
    else if isDottedQuad last then some (groups.dropLast ++ [['0'], ['0']])
    else none

/-- Whether the groups on one side of a double colon are complete. There may be none, which reads as
one empty group. -/
def isSide (groups : List (List Char)) : Bool :=
  groups == [[]] || groups.all isHextet

/-- Whether groups make an IPv6 address: eight of them, or at most seven around a double colon. A
double colon is an empty group with groups on both sides. -/
def isGroupRow (groups : List (List Char)) : Bool :=
  -- The first and the last group are left out: an empty one there is half of a double colon.
  match groups.tail.dropLast.idxOf? [] with
  | none => groups.length == 8 && groups.all isHextet
  | some index =>
    isSide (groups.take (index + 1)) && isSide (groups.drop (index + 2)) &&
      (groups.filter fun group => !group.isEmpty).length ≤ 7

/-- Whether a text is an IPv6 address, with the name of a zone behind a percent sign or without. -/
def isIpv6 (text : List Char) : Bool :=
  let (address, zone) := text.span (· != '%')
  let hasZoneName :=
    -- A percent sign has to be followed by a name without another one.
    match zone with
    | [] => true
    | _ :: name => !name.isEmpty && !name.contains '%'
  !text.contains '/' && hasZoneName && (addressGroups? address).any isGroupRow

/-- Whether a text is an address of a later version: the letter `v`, the version in base sixteen, a
dot and at least one more character on the same line. -/
def isFutureAddress : List Char → Bool
  | 'v' :: rest =>
    match rest.span isHexDigit with
    -- At least one digit for the version and one character behind the dot.
    | (_ :: _, '.' :: c :: more) => !(c :: more).contains '\n'
    | _ => false
  | _ => false

/-- Whether a text may stand between the square brackets of a host part. -/
def isBracketable (text : List Char) : Bool :=
  if text.head? = some 'v' then isFutureAddress text else isIpv6 text

/-! ### Host parts -/

/-- What a host part holds from its first opening bracket on up to the next closing one. -/
def bracketed (authority : List Char) : List Char :=
  ((authority.dropWhile (· != '[')).drop 1).takeWhile (· != ']')

/-- The characters whose compatibility form holds a slash, a question mark, a number sign, an at
sign or a colon. -/
def disguisedRanges : Text.Ranges :=
  [(0x2047, 0x2049), (0x2100, 0x2101), (0x2105, 0x2106), (0x2a74, 0x2a74), (0xfe13, 0xfe13),
    (0xfe16, 0xfe16), (0xfe55, 0xfe56), (0xfe5f, 0xfe5f), (0xfe6b, 0xfe6b), (0xff03, 0xff03),
    (0xff0f, 0xff0f), (0xff1a, 0xff1a), (0xff1f, 0xff20)]

/-- Whether a host part can be taken for what it seems to be. -/
def acceptsAuthority (authority : List Char) : Bool :=
  authority.contains '[' == authority.contains ']' &&
    (!authority.contains '[' || isBracketable (bracketed authority)) &&
    !authority.any fun c => disguisedRanges.covers c

example : acceptsAuthority "user@[fe80::1%eth0]:80".toList = true := by decide

example : acceptsAuthority "[x]".toList = false := by decide

end Accord.Url
