import Accord.Proofs.Script.ImportedName
import Accord.Proofs.Script.Node
import Accord.Proofs.Script.Spacing
import Accord.Proofs.Script.TypeName
import Accord.Script.Parse

/-!
# `Accord.Proofs.Script.QualifiedName`: names with dots and members of imported modules

A `Member` is one further part of a qualified name: a dot with the blanks around it and a name.
Type names with dots (`typeName`) and members of imported modules (`importedMember`) are built
of any number of them.

The two are read from their texts, and each in its own way. Of a type name the part behind the
last dot is taken, blanks and all (`typeReference_typeName`). Of an imported member the first
name behind the module is taken, as far as its characters go, and nothing when blanks stand
around its dot (`typeReference_importedMember`). So the last name of a qualified name is not
always what is kept; `qualified_verdict` says when it is.
-/

set_option autoImplicit false

namespace Accord.Script

/-! ### Parts of a qualified name -/

/-- A dot with the blanks before and behind it, and the name that follows. -/
structure Member where
  before : String
  behind : String
  name : String
  blankBefore : ∀ c ∈ before.toList, isSpace c = true
  blankBehind : ∀ c ∈ behind.toList, isSpace c = true
  isName : name? name.toList = some (name.toList, [])

/-- The address of a module between quotes, with no quote in it. -/
structure ImportedModule where
  quote : Char
  address : String
  isQuote : isModuleQuote quote = true
  plain : ∀ c ∈ address.toList, isModuleQuote c = false

/-- The characters of a part. -/
def Member.chars (member : Member) : List Char :=
  member.before.toList ++ '.' :: (member.behind.toList ++ member.name.toList)

/-- The characters of the name up to the first that the name of an imported member cannot have. -/
def Member.start (member : Member) : String :=
  String.ofList (member.name.toList.takeWhile isMemberChar)

/-- Whether a character is neither a dot nor a quote. -/
def isInside (c : Char) : Bool :=
  c != '.' && !isModuleQuote c

/-- A character of a class without the dot and the quotes. -/
theorem isInside_of {p : Char → Bool} (noDot : p '.' = false) (noQuote : p '"' = false)
    (noQuote' : p '\'' = false) {c : Char} (h : p c = true) : isInside c = true := by
  have other {d : Char} (none : p d = false) : c ≠ d := by
    rintro rfl
    rw [h] at none
    cases none
  simp [isInside, isModuleQuote, other noDot, other noQuote, other noQuote']

/-- What may be part of a name is neither a dot nor a quote. -/
theorem isInside_of_isNamePart {c : Char} (h : isNamePart c = true) : isInside c = true :=
  isInside_of (p := isNamePart) (by decide +kernel) (by decide +kernel) (by decide +kernel) h

/-- No hexadecimal digit is a dot or a quote. -/
theorem isInside_of_isHexDigit {c : Char} (h : isHexDigit c = true) : isInside c = true :=
  isInside_of (p := isHexDigit) (by decide) (by decide) (by decide) h

/-- A name has neither dots nor quotes in it, however its characters are written. -/
theorem isInside_of_mem_nameFrom {read text : List Char} {c : Char}
    (h : c ∈ (nameFrom read text).1) : c ∈ read ∨ isInside c = true := by
  fun_induction nameFrom read text with
  | case1 read u v w x rest hex ih =>
    simp only [List.all_cons, List.all_nil, Bool.and_true, Bool.and_eq_true] at hex
    obtain ⟨hexU, hexV, hexW, hexX⟩ := hex
    -- The six characters of an escape are all in the name.
    rcases ih h with member | inside
    · simp only [List.mem_cons] at member
      rcases member with rfl | rfl | rfl | rfl | rfl | rfl | member
      · exact .inr (isInside_of_isHexDigit hexX)
      · exact .inr (isInside_of_isHexDigit hexW)
      · exact .inr (isInside_of_isHexDigit hexV)
      · exact .inr (isInside_of_isHexDigit hexU)
      · exact .inr (by decide)
      · exact .inr (by decide)
      · exact .inl member
    · exact .inr inside
  | case2 read u v w x rest other => exact .inl (List.mem_reverse.1 h)
  | case3 read d rest _ part ih =>
    rcases ih h with member | inside
    · rcases List.mem_cons.1 member with rfl | member
      · exact .inr (isInside_of_isNamePart part)
      · exact .inl member
    · exact .inr inside
  | case4 read d rest _ other => exact .inl (List.mem_reverse.1 h)
  | case5 read => exact .inl (List.mem_reverse.1 h)

/-- A text that is a name has neither dots nor quotes. -/
theorem isInside_of_name? {text : List Char} (isName : name? text = some (text, [])) :
    ∀ c ∈ text, isInside c = true := by
  intro c member
  cases text with
  | nil => cases member
  | cons d rest =>
    rw [name?] at isName
    split at isName
    -- A plain name, or one behind a number sign.
    · next start =>
      have same : (nameFrom [d] rest).1 = d :: rest := congrArg Prod.fst (Option.some.inj isName)
      have part : isNamePart d = true := by
        rw [isNameStart, Bool.and_eq_true] at start
        exact start.1
      rcases isInside_of_mem_nameFrom (same ▸ member) with first | inside
      · rw [List.mem_singleton.1 first]
        exact isInside_of_isNamePart part
      · exact inside
    · split at isName
      · split at isName
        · cases isName
        · have same : (nameFrom [] (d :: rest)).1 = d :: rest :=
            congrArg Prod.fst (Option.some.inj isName)
          exact (isInside_of_mem_nameFrom (same ▸ member)).resolve_left List.not_mem_nil
      · cases isName

/-- No space is a dot or a quote. -/
theorem isInside_of_isSpace {c : Char} (h : isSpace c = true) : isInside c = true :=
  isInside_of (p := isSpace) (by decide) (by decide) (by decide) h

/-- No space among the first 128 characters is a member character. -/
theorem not_isMemberChar_of_ascii :
    ∀ code < 128, isSpace (Char.ofNat code) = true → isMemberChar (Char.ofNat code) = false := by
  decide +kernel

/-- The spaces beyond them are no word characters. -/
theorem apart_spaceRanges_wordRanges : spaceRanges.apart Text.wordRanges = true := by
  decide +kernel

/-- A blank is no part of the name of an imported member. -/
theorem not_isMemberChar_of_isSpace {c : Char} (h : isSpace c = true) : isMemberChar c = false := by
  by_cases ascii : c.toNat < 128
  · have all := not_isMemberChar_of_ascii c.toNat ascii
    rw [Char.ofNat_toNat] at all
    exact all h
  · have covered : spaceRanges.covers c = true := by
      rw [isSpace, if_neg ascii] at h
      exact h
    have noWord := Text.Ranges.not_covers_of_apart apart_spaceRanges_wordRanges covered
    have noDollar : c ≠ '$' := by
      rintro rfl
      exact ascii (by decide)
    rw [isMemberChar, Text.isWordChar, if_neg ascii, noWord]
    simpa using noDollar

/-! ### The text of a part -/

namespace Member

variable (member : Member)

/-- There is neither a dot nor a quote between the dot of a member and the end of its name. -/
theorem isInside_of_mem_behind {c : Char}
    (h : c ∈ member.behind.toList ++ member.name.toList) : isInside c = true := by
  rcases List.mem_append.1 h with blank | part
  · exact isInside_of_isSpace (member.blankBehind c blank)
  · exact isInside_of_name? member.isName c part

/-- A part has no quotes. -/
theorem not_isModuleQuote_of_mem_chars {c : Char} (h : c ∈ member.chars) :
    isModuleQuote c = false := by
  have quoteless {d : Char} (inside : isInside d = true) : isModuleQuote d = false := by
    simpa [isInside] using (Bool.and_eq_true_iff.1 inside).2
  rcases List.mem_append.1 h with blank | rest
  · exact quoteless (isInside_of_isSpace (member.blankBefore c blank))
  · rcases List.mem_cons.1 rest with rfl | behind
    · decide
    · exact quoteless (member.isInside_of_mem_behind behind)

/-- A part starts with a blank or a dot, and so with nothing that continues a name. -/
theorem not_isMemberChar_of_head? {c : Char} (h : member.chars.head? = some c) :
    isMemberChar c = false := by
  rw [chars] at h
  cases blanks : member.before.toList with
  | nil =>
    rw [blanks] at h
    obtain rfl := Option.some.inj h
    decide
  | cons d rest =>
    rw [blanks] at h
    obtain rfl := Option.some.inj h
    exact not_isMemberChar_of_isSpace (member.blankBefore d (blanks ▸ List.mem_cons_self))

/-- The name that is taken behind a module: that of the first part, as far as it goes, when no
blanks stand around the dot. -/
def taken? (member : Member) : Option String :=
  if member.before = "" ∧ member.behind = "" ∧ member.start ≠ "" then some member.start else none

end Member

/-- The characters of several parts. -/
def partChars (members : List Member) : List Char :=
  members.flatMap Member.chars

/-- No quote stands in a row of members. -/
theorem not_isModuleQuote_of_mem_partChars {members : List Member} {c : Char}
    (h : c ∈ partChars members) : isModuleQuote c = false := by
  obtain ⟨member, -, inside⟩ := List.mem_flatMap.1 h
  exact member.not_isModuleQuote_of_mem_chars inside

/-- A row of members starts with a blank or a dot. -/
theorem not_isMemberChar_of_head?_partChars {members : List Member} {c : Char}
    (h : (partChars members).head? = some c) : isMemberChar c = false := by
  cases members with
  | nil => cases h
  | cons member members =>
    have nonempty : member.chars ≠ [] := by simp [Member.chars]
    rw [partChars, List.flatMap_cons, List.head?_append_of_ne_nil _ nonempty] at h
    exact member.not_isMemberChar_of_head? h

/-! ### How the parts are read -/

/-- Behind its last dot a type name has what stands there, the blanks too. -/
theorem lastPart_append_member {text : String} {front : List Char} (member : Member)
    (spelled : text.toList = front ++ member.chars) :
    lastPart text = member.behind ++ member.name := by
  have noDot : ∀ c ∈ (member.behind.toList ++ member.name.toList).reverse, (c != '.') = true := by
    intro c inside
    have other := member.isInside_of_mem_behind (List.mem_reverse.1 inside)
    exact (Bool.and_eq_true_iff.1 other).1
  have cut : text.toList.reverse = (member.behind.toList ++ member.name.toList).reverse ++
      '.' :: (front ++ member.before.toList).reverse := by
    rw [spelled, Member.chars]
    simp
  rw [lastPart, cut, List.takeWhile_append_of_pos noDot, List.takeWhile_cons_of_neg (by decide),
    List.append_nil, List.reverse_reverse, ← String.toList_append, String.ofList_toList]

/-- Behind a module the first name is taken, as far as it goes, when no blanks stand around its
dot. -/
theorem memberBehind?_partChars (member : Member) (members : List Member) :
    (memberBehind? (')' :: partChars (member :: members))).map String.ofList = member.taken? := by
  rw [partChars, List.flatMap_cons, Member.chars, ← partChars, List.append_assoc, List.cons_append,
    List.append_assoc, Member.taken?]
  cases before : member.before.toList with
  -- Blanks before the dot: the text behind the module does not start with it.
  | cons c blanks =>
    have noDot : c ≠ '.' := by
      rintro rfl
      have blank := member.blankBefore '.' (before ▸ List.mem_cons_self)
      revert blank
      decide
    have filled : member.before ≠ "" := fun empty => by simp [empty] at before
    rw [if_neg fun clear => filled clear.1, memberBehind?.eq_def]
    split
    · next same => exact absurd (List.cons.inj (List.cons.inj same).2).1 noDot
    · rfl
  | nil =>
    rw [List.nil_append, memberBehind?]
    cases behind : member.behind.toList with
    | cons c blanks =>
      have other : ¬isMemberChar c = true := by
        simp [not_isMemberChar_of_isSpace (member.blankBehind c (behind ▸ List.mem_cons_self))]
      have filled : member.behind ≠ "" := fun empty => by simp [empty] at behind
      rw [List.cons_append, List.takeWhile_cons_of_neg other, List.isEmpty_nil, if_pos rfl,
        if_neg fun clear => filled clear.2.1]
      rfl
    | nil =>
      -- The next member, if there is one, starts with a blank or a dot, so the name ends here.
      have stop : (partChars members).takeWhile isMemberChar = [] := by
        cases rest : partChars members with
        | nil => rfl
        | cons c more =>
          have first : (partChars members).head? = some c := by rw [rest, List.head?_cons]
          exact List.takeWhile_cons_of_neg (by simp [not_isMemberChar_of_head?_partChars first])
      have run : (member.name.toList ++ partChars members).takeWhile isMemberChar =
          member.name.toList.takeWhile isMemberChar := by
        rw [List.takeWhile_append, stop, List.append_nil, ite_eq_right_iff]
        exact fun whole => ((List.takeWhile_prefix _).eq_of_length whole).symm
      rw [List.nil_append, run, String.toList_eq_nil_iff.1 before,
        String.toList_eq_nil_iff.1 behind]
      by_cases empty : member.name.toList.takeWhile isMemberChar = [] <;> simp [Member.start, empty]

/-! ### The trees -/

/-- A node with one more part behind it. -/
def dotted (kind last : Kind) (role : Option Role) (gap : String) (qualifier : Node)
    (member : Member) : Node :=
  .mk kind role gap ""
    [qualifier, .leaf .token member.before ".", .leaf last member.behind member.name]

/-- A node with several parts behind it. -/
def chained (kind last : Kind) (start : Node) (members : List Member) : Node :=
  members.foldl (dotted kind last none "") start

/-- A type name with dots: a name, and one part or more behind it. -/
def typeName (role : Option Role) (gap first : String) (init : List Member) (last : Member) :
    Node :=
  dotted .nestedTypeIdentifier .typeIdentifier role gap
    (chained .nestedIdentifier .identifier (.leaf .identifier "" first) init) last

/-- The call that imports a module. -/
def ImportedModule.call (module : ImportedModule) : Node :=
  .mk .callExpression none "" ""
    [.mk .importWord (some .function) "" "import" [],
      .mk .arguments (some .arguments) "" ""
        [.leaf .token "" "(",
          .leaf .string ""
            (String.ofList (module.quote :: (module.address.toList ++ [module.quote]))),
          .leaf .token "" ")"]]

/-- A member of an imported module: the module, and one part or more behind it. -/
def importedMember (role : Option Role) (gap : String) (module : ImportedModule)
    (init : List Member) (last : Member) : Node :=
  dotted .memberExpression .propertyIdentifier role gap
    (chained .memberExpression .propertyIdentifier module.call init) last

variable {kind last : Kind} {role : Option Role} {gap : String}

/-- The text of a qualified name ends with its last member. -/
theorem text_dotted {qualifier : Node} (noGap : qualifier.gap = "") (member : Member) :
    (dotted kind last role gap qualifier member).text.toList =
      qualifier.text.toList ++ member.chars := by
  simp only [dotted, Node.text, Node.textAll, noGap, Node.gap_leaf, Node.text_leaf, Member.chars]
  simp

/-- A row of members stands behind the text it starts from. -/
theorem text_chained {start : Node} (noGap : start.gap = "") (members : List Member) :
    (chained kind last start members).gap = "" ∧
      (chained kind last start members).text.toList = start.text.toList ++ partChars members := by
  induction members generalizing start with
  | nil => exact ⟨noGap, (List.append_nil _).symm⟩
  | cons member members ih =>
    have step : (dotted kind last none "" start member).gap = "" := rfl
    obtain ⟨noGap', text⟩ := ih step
    refine ⟨noGap', text.trans ?_⟩
    rw [text_dotted noGap, partChars, partChars, List.flatMap_cons, List.append_assoc]

/-- The text of a type name ends in its last part. -/
theorem text_typeName (role : Option Role) (gap first : String) (init : List Member)
    (last : Member) :
    (typeName role gap first init last).text.toList =
      (first.toList ++ partChars init) ++ last.chars := by
  obtain ⟨noGap, text⟩ := text_chained (Node.gap_leaf .identifier "" first) init
  rw [typeName, text_dotted noGap, text, Node.text_leaf]

/-- The text of an import is its word and the quoted address in parentheses. -/
theorem text_call (module : ImportedModule) :
    module.call.text.toList = "import(".toList ++
      module.quote :: (module.address.toList ++ module.quote :: [')']) := by
  simp [ImportedModule.call, Node.leaf, Node.text, Node.textAll, Node.gap]

/-- The text of an imported member is the import of the module with the parts behind it. -/
theorem text_importedMember (role : Option Role) (gap : String) (module : ImportedModule)
    (init : List Member) (last : Member) :
    (importedMember role gap module init last).text.toList = "import(".toList ++
      module.quote :: (module.address.toList ++
        module.quote :: (')' :: partChars (init ++ [last]))) := by
  have start : module.call.gap = "" := rfl
  obtain ⟨noGap, text⟩ := text_chained start init
  rw [importedMember, text_dotted noGap, text, text_call, partChars, partChars]
  simp

/-! ### What the names come down to -/

/-- A type name comes down to what stands behind its last dot. -/
theorem typeReference_typeName (role : Option Role) (gap first : String) (init : List Member)
    (last : Member) :
    (typeName role gap first init last).typeReference =
      some ⟨last.behind ++ last.name, .imported, false⟩ := by
  have noWrapper : (typeName role gap first init last).kind ∉ Node.wrapperKinds :=
    (by decide : Kind.nestedTypeIdentifier ∉ Node.wrapperKinds)
  rw [Node.typeReference_of_not_wrapper noWrapper]
  show some _ = _
  rw [lastPart_append_member last (text_typeName role gap first init last)]

/-- An imported member comes down to the first name behind the module, as far as it goes, when
no blanks stand around its dot, and else to nothing. -/
theorem typeReference_importedMember (role : Option Role) (gap : String) (module : ImportedModule)
    (init : List Member) (last : Member) :
    (importedMember role gap module init last).typeReference =
      (init.headD last).taken?.map fun name => ⟨name, .imported, false⟩ := by
  have noWrapper : (importedMember role gap module init last).kind ∉ Node.wrapperKinds :=
    (by decide : Kind.memberExpression ∉ Node.wrapperKinds)
  obtain ⟨others, split⟩ : ∃ others, init ++ [last] = init.headD last :: others := by
    cases init with
    | nil => exact ⟨[], rfl⟩
    | cons member init => exact ⟨init ++ [last], rfl⟩
  -- Only two quotes are in the text, so the module is the only one that can be mentioned.
  have single : (module.address.toList ++
      module.quote :: (')' :: partChars (init ++ [last]))).countP isModuleQuote < 2 := by
    have noQuote : (partChars (init ++ [last])).countP isModuleQuote = 0 :=
      List.countP_eq_zero.2 fun c inside => by simp [not_isModuleQuote_of_mem_partChars inside]
    have noQuote' : module.address.toList.countP isModuleQuote = 0 :=
      List.countP_eq_zero.2 fun c inside => by simp [module.plain c inside]
    have parenthesis : isModuleQuote ')' = false := by decide
    simp [List.countP_append, noQuote, noQuote', module.isQuote, parenthesis]
  have read : importedHere? ("import(".toList ++ module.quote ::
      (module.address.toList ++ module.quote :: (')' :: partChars (init ++ [last])))) =
        memberBehind? (')' :: partChars (init ++ [last])) :=
    @importedHere?_spelled [] _ [] _ _ _ _ (by simp) module.isQuote module.plain module.isQuote
      (by simp) (by decide)
  rw [Node.typeReference_of_not_wrapper noWrapper]
  show (importedName? _).map _ = _
  rw [text_importedMember, importedName?_import module.isQuote single, read, split,
    ← memberBehind?_partChars _ others, Option.map_map]
  rfl

/-- The name of a member is not empty. -/
theorem Member.name_ne_empty (member : Member) : member.name ≠ "" := by
  intro empty
  have isName := member.isName
  rw [empty] at isName
  cases isName

/-- **What is kept of a qualified name.** Of a type name it is the last name with the blanks
before it, and so the last name when there are none. Of an imported member it is the first name
behind the module, as far as it goes and if no blanks stand around its dot; that is the last
name when the two are the same, as with a single name of plain characters. -/
theorem qualified_verdict (role : Option Role) (gap : String) (init : List Member) (last : Member) :
    (∀ first : String,
      (typeName role gap first init last).typeReference =
        some ⟨last.behind ++ last.name, .imported, false⟩ ∧
      ((typeName role gap first init last).typeReference = some ⟨last.name, .imported, false⟩ ↔
        last.behind = "")) ∧
    ∀ module : ImportedModule,
      ((importedMember role gap module init last).typeReference =
        (init.headD last).taken?.map fun name => ⟨name, .imported, false⟩) ∧
      ((importedMember role gap module init last).typeReference =
          some ⟨last.name, .imported, false⟩ ↔
        (init.headD last).before = "" ∧ (init.headD last).behind = "" ∧
          (init.headD last).start = last.name) := by
  refine ⟨fun first => ⟨typeReference_typeName role gap first init last, ?_⟩,
    fun module => ⟨typeReference_importedMember role gap module init last, ?_⟩⟩
  · have keeps : last.behind ++ last.name = last.name ↔ last.behind = "" := by
      rw [← String.toList_inj, String.toList_append, List.append_left_eq_self,
        String.toList_eq_nil_iff]
    rw [typeReference_typeName, Option.some.injEq, TypeReference.mk.injEq, keeps]
    simp
  · rw [typeReference_importedMember]
    generalize init.headD last = member
    rw [Member.taken?]
    split
    · next clear => simp [clear.1, clear.2.1]
    · next unclear =>
      refine iff_of_false (by simp) fun ⟨before, behind, same⟩ => unclear ⟨before, behind, ?_⟩
      rw [same]
      exact last.name_ne_empty

/-! ### A member of a member -/

/-- A part without blanks. -/
def plainMember (name : String) (isName : name? name.toList = some (name.toList, [])) : Member where
  before := ""
  behind := ""
  name := name
  blankBefore := by simp
  blankBehind := by simp
  isName := isName

/-- A module of models. -/
def apiModule : ImportedModule :=
  ⟨'\'', "./api", by decide, by decide⟩

/-- Of a member of a member the inner name is kept. -/
theorem typeReference_models :
    parse .casts "let x: import('./api').models.User;" =
      some (.declaring (.ascribed (importedMember none " " apiModule
        [plainMember "models" (by decide)] (plainMember "User" (by decide))))) ∧
    (Node.ascribed (importedMember none " " apiModule
      [plainMember "models" (by decide)] (plainMember "User" (by decide)))).typeReference =
        some ⟨"models", .imported, false⟩ := by
  refine ⟨by decide +kernel, ?_⟩
  rw [Node.typeReference_ascribed rfl, typeReference_importedMember]
  decide +kernel

end Accord.Script
