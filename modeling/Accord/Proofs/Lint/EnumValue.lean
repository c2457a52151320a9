import Accord.Proofs.Lint.Sample
import Accord.Proofs.Script.Node
import Accord.Proofs.Types.Enumeration

/-!
# `Accord.Proofs.Lint.EnumValue`: whole numbers under enumerations

A whole number in an example is compared with the texts that the registry keeps for the members
of an enumeration. `enumValue_verdict` says which numbers are reported: those that no member is
shown as. The members have numbers of their own by the language, and these decide as long as
every member is shown. A literal with a mark or a low line is not, and neither are the members
without a literal behind one that is not counted, so a number that a member has may be reported
(`reports_number_of_member`).
-/

set_option autoImplicit false

namespace Accord.Lint

open Script (Node)
open Number (IntegerLiteral)
open Accord.Types (Definition Registry describeText IsIntegerEnum IsShown IntegerMember)

variable {registry : Registry} {code : List CodeEndpoint} {endpoint : ContractEndpoint}
  {side : Side} {property name : String}

/-- A finding about an endpoint says that the value of a property is none of an enumeration. -/
def ReportsEnumValue (registry : Registry) (code : List CodeEndpoint)
    (endpoint : ContractEndpoint) (side : Side) (property : String) : Prop :=
  ∃ finding ∈ checkEndpoint registry code endpoint, finding.kind = .invalidEnumValue ∧
    ∃ problem, finding.problem = .value side property problem

/-- A whole number is no value of an enumeration when its text is none of the texts. -/
theorem exists_enumProblem_iff (number : Int) :
    (∃ problem, checkValue registry (describeText name) (.int number) = some problem ∧
        problem.kind = .invalidEnumValue) ↔
      ∃ values, NamesEnum registry name values ∧ toString number ∉ values := by
  simp only [checkValue]
  split
  · -- An enumeration: its texts decide.
    next values found =>
    have names := enumValues?_iff.1 found
    have checked : checkEnum values (.int number) =
        if toString number ∈ values then none
        else some (.notInEnum values (Json.int number).display) :=
      checkEnum_of_spells (.number rfl)
    have only : (∃ others, NamesEnum registry name others ∧ toString number ∉ others) ↔
        toString number ∉ values := by
      constructor
      · rintro ⟨others, namesOthers, absent⟩
        obtain rfl := names.unique namesOthers
        exact absent
      · exact fun absent => ⟨values, names, absent⟩
    rw [checked, only]
    constructor
    · rintro ⟨problem, wrong, -⟩ member
      rw [if_pos member] at wrong
      cases wrong
    · intro absent
      rw [if_neg absent]
      exact ⟨_, rfl, rfl⟩
  · -- Any other type: a number is right for it or of the wrong type, and that is another finding.
    next notFound =>
    refine iff_of_false ?_ ?_
    · rintro ⟨problem, found, kind⟩
      split at found
      · cases found
      · simp only [checkScalar] at found
        split at found
        · cases found
        · obtain rfl := Option.some.inj found
          cases kind
    · rintro ⟨values, names, -⟩
      exact not_namesEnum_of_eq_none notFound values names

/-- The findings about a whole number report it when the property names an enumeration without it.
-/
theorem reportsEnumValue_iff {number : Int}
    (shows : Shows registry code endpoint side property name (.int number)) :
    ReportsEnumValue registry code endpoint side property ↔
      ∃ values, NamesEnum registry name values ∧ toString number ∉ values := by
  rw [← exists_enumProblem_iff]
  constructor
  · rintro ⟨finding, member, kind, problem, shown⟩
    refine ⟨problem, (exists_value_iff shows).1 ⟨finding, member, shown⟩, ?_⟩
    rw [Finding.kind, shown] at kind
    exact kind
  · rintro ⟨problem, found, kind⟩
    obtain ⟨finding, member, shown⟩ := (exists_value_iff shows).2 found
    refine ⟨finding, member, ?_, problem, shown⟩
    rw [Finding.kind, shown]
    exact kind

section Units

variable {units : List SourceUnit} {declaration : Node} {members : List IntegerMember}

/-- What the registry of units holds under the name of an enumeration. -/
theorem namesEnum_iff (built : Types.Built units)
    (declared : Types.declaration? units name = some declaration)
    (isEnum : declaration.kind = .enumDeclaration) :
    ∃ definition, Types.ofEnumeration declaration = .ok definition ∧
      ∀ values, NamesEnum (Types.inheritedRegistry (Types.declaredBy units)) name values ↔
        describeText name = ⟨.reference, name⟩ ∧ definition.properties.values = values := by
  obtain ⟨definition, defined, -⟩ := Types.exists_definition_of_declaration? built declared
  have told : Types.ofEnumeration declaration = .ok definition := by
    rw [Types.definition?, isEnum] at defined
    exact Option.some.inj defined
  obtain ⟨entries, -, rfl⟩ := Types.ofEnumeration_eq_ok_iff.1 told
  have held := Types.registered_of_no_bases built declared defined rfl
  refine ⟨_, told, fun values => ⟨?_, ?_⟩⟩
  · rintro ⟨described, definition, found, -, same⟩
    obtain rfl := Option.some.inj (held.symm.trans found)
    exact ⟨described, same⟩
  · rintro ⟨described, same⟩
    exact ⟨described, _, held, rfl, same⟩

/-- A whole number is reported when no member is shown as it. -/
theorem reportsEnumValue_iff_not_isShown (built : Types.Built units)
    (declared : Types.declaration? units name = some declaration)
    (isEnum : IsIntegerEnum declaration members) {number : Int}
    (shows : Shows (Types.inheritedRegistry (Types.declaredBy units)) code endpoint side property
      name (.int number)) :
    ReportsEnumValue (Types.inheritedRegistry (Types.declaredBy units)) code endpoint side
        property ↔
      describeText name = ⟨.reference, name⟩ ∧ ¬IsShown members number := by
  obtain ⟨definition, told, names⟩ := namesEnum_iff built declared isEnum.1
  rw [reportsEnumValue_iff shows, ← Types.toString_mem_values_iff isEnum told]
  constructor
  · rintro ⟨values, namesEnum, absent⟩
    obtain ⟨described, rfl⟩ := (names values).1 namesEnum
    exact ⟨described, absent⟩
  · rintro ⟨described, absent⟩
    exact ⟨_, (names _).2 ⟨described, rfl⟩, absent⟩

/-- **Whole numbers under an enumeration of whole numbers**, in units whose registry is built: a
number is reported exactly when no member is shown as it. If every member is shown and no name
comes twice, that is when no member has it. -/
theorem enumValue_verdict (collected : (Types.collect units).outcome = .ok registry)
    (declared : Types.declaration? units name = some declaration)
    (isEnum : IsIntegerEnum declaration members) {number : Int}
    (shows : Shows registry code endpoint side property name (.int number)) :
    (ReportsEnumValue registry code endpoint side property ↔
      describeText name = ⟨.reference, name⟩ ∧ ¬IsShown members number) ∧
    (describeText name = ⟨.reference, name⟩ → (members.map IntegerMember.name).Nodup →
      (∀ reading ∈ IntegerMember.readings 0 true members, reading.2.shown = true) →
      (ReportsEnumValue registry code endpoint side property ↔
        number ∉ IntegerMember.values 0 members)) := by
  obtain ⟨built, rfl⟩ := Types.built_of_outcome_collect collected
  have verdict := reportsEnumValue_iff_not_isShown built declared isEnum shows
  refine ⟨verdict, fun described distinct shown => ?_⟩
  rw [verdict, Types.isShown_iff_mem_values distinct shown, and_iff_right described]

end Units

/-! ### Two enumerations -/

/-- An endpoint whose body shows a number. -/
def setLevel (number : Int) : ContractEndpoint :=
  ⟨"Set level", "POST", "users", .object [("level", .int number)], .null⟩

/-- The call that the endpoint meets. -/
def setLevelCall : CodeEndpoint :=
  ⟨"POST", "users", some ⟨"User", .local, false⟩, none, "api.ts"⟩

/-- A member with a literal. -/
def assigned (name value : String) : Node :=
  .mk .enumAssignment none " " ""
    [.mk .propertyIdentifier (some .name) "" name [], .leaf .token " " "=",
      .mk .number (some .value) " " value []]

/-- A member without one. -/
def unassigned (name : String) : Node :=
  .mk .propertyIdentifier (some .name) " " name []

/-- The declaration of the enumeration. -/
def levelEnum (members : List Node) : Node :=
  .mk .enumDeclaration none "" ""
    [.leaf .token "" "enum", .mk .identifier (some .name) " " "Level" [],
      .braced .enumBody (some .body) " " members]

/-- A member without a value stands for the next number. -/
theorem writtenBy_unassigned {name : String} (h : Text.unquote (unassigned name).text = name) :
    IntegerMember.WrittenBy (unassigned name) (.next name) := by
  have isName : (unassigned name).kind ∈ [.propertyIdentifier, .string, .number] :=
    List.mem_cons_self
  have written := IntegerMember.WrittenBy.next isName
  rwa [h] at written

/-- A member with a literal stands for the number of the literal. -/
theorem writtenBy_assigned {name value : String} {literal : IntegerLiteral}
    (h : Types.nameOf (assigned name value) = name)
    (text : (Node.mk .number (some .value) " " value []).text = String.ofList literal.chars) :
    IntegerMember.WrittenBy (assigned name value) (.literal name literal) := by
  -- The name of the node is that of its member, and the equation puts the given one in its place.
  have written : IntegerMember.WrittenBy (assigned name value)
      (.literal (Types.nameOf (assigned name value)) literal) :=
    .literal rfl rfl nofun text
  rwa [h] at written

/-- An interface with a property that names the enumeration. -/
def levelUser : Node :=
  .interface "\n" "User" [] [.property "level" (.leaf .typeIdentifier " " "Level")]

/-- The tree of a unit with the enumeration and the interface. -/
def levelTree (members : List Node) : Node :=
  .mk .program none "" "" [levelEnum members, levelUser]

/-- The endpoint shows its number under the property that names the enumeration. -/
theorem shows_setLevel {unit : SourceUnit} (built : Types.Built [unit])
    (user : Types.declaration? [unit] "User" = some levelUser) (number : Int) :
    Shows (Types.inheritedRegistry (Types.declaredBy [unit])) [setLevelCall] (setLevel number)
      .request "level" "Level" (.int number) := by
  have first : IsFirstMatch [setLevelCall] (setLevel number) setLevelCall :=
    isFirstMatch_singleton ⟨rfl, rfl⟩
  have held := Types.registered_of_no_bases built user rfl rfl
  have declared : (Types.ofInterface levelUser).properties.get? "level" = some "Level" := by
    decide +kernel
  exact ⟨_, _, _, _, first, rfl, held, .itself, declared, rfl⟩

/-- A unit with an enumeration in decimal numbers. -/
def decimalUnit : SourceUnit :=
  ⟨"types.ts",
    "enum Level \x7b Low, Mid = 5, High \x7d\ninterface User \x7b level: Level \x7d\n"⟩

/-- The members of its enumeration. -/
def decimalNodes : List Node :=
  [unassigned "Low", .leaf .token "" ",", assigned "Mid" "5", .leaf .token "" ",",
    unassigned "High"]

/-- The literal in it. -/
def five : IntegerLiteral where
  minus := none
  radix := .decimal
  mark := []
  first := '5'
  others := []
  gap := nofun
  marked := by decide
  isDigit := List.forall_mem_cons.2 ⟨⟨5, by decide, rfl⟩, nofun⟩
  noZeros := by decide

/-- Its members. -/
def decimalMembers : List IntegerMember :=
  [.next "Low", .literal "Mid" five, .next "High"]

/-- The number behind the literal is that of a member, and the one behind it is not. -/
theorem reports_decimal :
    ∃ registry, (Types.collect [decimalUnit]).outcome = .ok registry ∧
      ¬ReportsEnumValue registry [setLevelCall] (setLevel 6) .request "level" ∧
      ReportsEnumValue registry [setLevelCall] (setLevel 7) .request "level" := by
  have parsed : decimalUnit.tree? = some (levelTree decimalNodes) := by decide +kernel
  have built : Types.Built [decimalUnit] := by
    rw [Types.Built, Types.nodesOf_singleton parsed]
    decide +kernel
  have user : Types.declaration? [decimalUnit] "User" = some levelUser := by
    rw [Types.declaration?, Types.nodesOf_singleton parsed]
    decide +kernel
  have level : Types.declaration? [decimalUnit] "Level" = some (levelEnum decimalNodes) := by
    rw [Types.declaration?, Types.nodesOf_singleton parsed]
    decide +kernel
  have isEnum : IsIntegerEnum (levelEnum decimalNodes) decimalMembers :=
    ⟨rfl, .cons (writtenBy_unassigned (by decide +kernel))
      (.cons (writtenBy_assigned (by decide +kernel) (by decide +kernel))
        (.cons (writtenBy_unassigned (by decide +kernel)) .nil))⟩
  have collected := Types.outcome_collect_of_built built
  have reported (number : Int) :=
    (enumValue_verdict collected level isEnum (shows_setLevel built user number)).2 rfl (by decide)
      (by decide +kernel)
  exact ⟨_, collected, by rw [reported 6]; decide +kernel, (reported 7).2 (by decide +kernel)⟩

/-- A unit with an enumeration that starts with a number in base sixteen. -/
def hexadecimalUnit : SourceUnit :=
  ⟨"types.ts", "enum Level \x7b Low = 0x10, High \x7d\ninterface User \x7b level: Level \x7d\n"⟩

/-- The members of its enumeration. -/
def hexadecimalNodes : List Node :=
  [assigned "Low" "0x10", .leaf .token "" ",", unassigned "High"]

/-- The literal in it. -/
def sixteen : IntegerLiteral where
  minus := none
  radix := .hexadecimal
  mark := ['0', 'x']
  first := '1'
  others := [(false, '0')]
  gap := nofun
  marked := by decide
  isDigit := List.forall_mem_cons.2
    ⟨⟨1, by decide, rfl⟩, List.forall_mem_cons.2 ⟨⟨0, by decide, rfl⟩, nofun⟩⟩
  noZeros := nofun

/-- Its members. -/
def hexadecimalMembers : List IntegerMember :=
  [.literal "Low" sixteen, .next "High"]

/-- The number of the member behind the literal is reported. -/
theorem reports_number_of_member :
    ∃ declaration registry,
      Types.declaration? [hexadecimalUnit] "Level" = some declaration ∧
      IsIntegerEnum declaration hexadecimalMembers ∧
      IntegerMember.values 0 hexadecimalMembers = [16, 17] ∧
      (Types.collect [hexadecimalUnit]).outcome = .ok registry ∧
      Shows registry [setLevelCall] (setLevel 17) .request "level" "Level" (.int 17) ∧
      ReportsEnumValue registry [setLevelCall] (setLevel 17) .request "level" := by
  have parsed : hexadecimalUnit.tree? = some (levelTree hexadecimalNodes) := by decide +kernel
  have built : Types.Built [hexadecimalUnit] := by
    rw [Types.Built, Types.nodesOf_singleton parsed]
    decide +kernel
  have user : Types.declaration? [hexadecimalUnit] "User" = some levelUser := by
    rw [Types.declaration?, Types.nodesOf_singleton parsed]
    decide +kernel
  have level : Types.declaration? [hexadecimalUnit] "Level" =
      some (levelEnum hexadecimalNodes) := by
    rw [Types.declaration?, Types.nodesOf_singleton parsed]
    decide +kernel
  have isEnum : IsIntegerEnum (levelEnum hexadecimalNodes) hexadecimalMembers :=
    ⟨rfl, .cons (writtenBy_assigned (by decide +kernel) (by decide +kernel))
      (.cons (writtenBy_unassigned (by decide +kernel)) .nil)⟩
  have shows := shows_setLevel built user 17
  refine ⟨_, _, level, isEnum, by decide +kernel, Types.outcome_collect_of_built built, shows, ?_⟩
  rw [reportsEnumValue_iff_not_isShown built level isEnum shows]
  refine ⟨rfl, ?_⟩
  -- The literal is not plain, and the member behind it has lost the count.
  rintro ⟨reading, member, shown, value⟩
  revert reading
  decide +kernel

end Accord.Lint
