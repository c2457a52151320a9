import Accord.Proofs.Calls
import Accord.Proofs.Script.Node
import Accord.Proofs.Script.Template
import Accord.Proofs.Script.Walk
import Accord.Proofs.Url

/-!
# `Accord.Proofs.Calls.BasePath`: a URL written in one piece, and with its front in a constant

A unit may write the URL of a call in one template (`InlineUnit`), or keep the front of it in a
constant at top level and write a slot for the constant (`BasedUnit`). `paths_of_based` compares
the paths of the two calls. They are equal unless

* the whole URL is an absolute web address. The call that writes it in one piece reaches its
  path, the other one keeps scheme and host: what it writes behind the slot is no address, and
  the base path is put in front of it as it is;
* what stands behind the slot is refused on its own. Then the other call is left out.

`paths_of_absolute_base` are two units of the first kind.
-/

set_option autoImplicit false

namespace Accord.Calls

open Script (Node Role)

/-- The paths of the endpoints that a unit calls. -/
def paths {ε : Type} (names : Names) (unit : SourceUnit) : Except ε (List String) :=
  (extract names [unit]).outcome.map (List.map CodeEndpoint.path)

/-- A unit with one call, whose URL is a template that writes some characters and slots. -/
structure TemplateCall (names : Names) (unit : SourceUnit) (items : List (Option Char)) where
  root : Node
  parsed : unit.tree? = some root
  sole : SoleCall names root
  role : Option Role
  gap : String
  parts : List Node
  isTemplate : sole.url = .template role gap parts
  writes : Node.templateItems parts = items

/-- A unit that writes the URL of its call in one piece, and without a base path. -/
structure InlineUnit (names : Names) (unit : SourceUnit) (url : List Char)
    extends TemplateCall names unit (url.map some) where
  noBase : root.baseValues = []

/-- A unit that keeps the front of the URL of its call in a constant, which is a template, and
writes a slot in its place. -/
structure BasedUnit (names : Names) (unit : SourceUnit) (base rest : List Char)
    extends TemplateCall names unit (none :: rest.map some) where
  baseRole : Option Role
  baseGap : String
  baseParts : List Node
  isBase : root.baseValues = [.template baseRole baseGap baseParts]
  holds : Node.templateItems baseParts = base.map some

variable {names : Names} {unit : SourceUnit}

/-- The paths of a unit with one call: the one that its URL reaches, or none when it is refused. -/
theorem TemplateCall.paths_eq {ε : Type} {items : List (Option Char)}
    (call : TemplateCall names unit items) (nonempty : items.filterMap id ≠ []) :
    (paths names unit : Except ε (List String)) =
      .ok (Url.resolve (String.ofList (items.filterMap id)) call.root.basePath).toList := by
  have literal : call.sole.url.literalText = some (String.ofList (items.filterMap id)) := by
    rw [call.isTemplate, Node.literalText_template, call.writes]
  rw [paths, call.sole.outcome_extract literal (by simpa using nonempty) call.parsed]
  cases Url.resolve (String.ofList (items.filterMap id)) call.root.basePath <;> rfl

/-- A unit without a constant for it has no base path. -/
theorem InlineUnit.basePath_eq {url : List Char} (inline : InlineUnit names unit url) :
    inline.root.basePath = "" := by
  rw [Node.basePath, inline.noBase]
  rfl

/-- The base path is what the constant holds. -/
theorem BasedUnit.basePath_eq {base rest : List Char} (based : BasedUnit names unit base rest) :
    based.root.basePath = String.ofList base := by
  rw [Node.basePath, based.isBase, List.getLast?_singleton, Option.bind_some,
    Node.literalText_template, based.holds, Node.filterMap_map_some, Option.getD_some]

/-- What the call reaches that writes the URL in one piece. -/
theorem InlineUnit.paths_eq {ε : Type} {url : List Char} (inline : InlineUnit names unit url)
    (nonempty : url ≠ []) :
    (paths names unit : Except ε (List String)) =
      .ok (Url.resolve (String.ofList url) "").toList := by
  have written : (url.map some).filterMap id = url := Node.filterMap_map_some url
  rw [inline.toTemplateCall.paths_eq (by rwa [written]), written, inline.basePath_eq]

/-- When the call that writes the URL in one piece has a path, the URL is not refused, and the
path is that of an absolute address or else the URL itself. -/
theorem InlineUnit.exists_parts {ε : Type} {url : List Char} (inline : InlineUnit names unit url)
    (nonempty : url ≠ []) {path : String}
    (found : (paths names unit : Except ε (List String)) = .ok [path]) :
    ∃ parts, Url.split url = some parts ∧
      path = String.ofList (Url.dropSlash (if parts.isWebAddress then parts.path else url)) := by
  have bare : "".toList ++ url = url := rfl
  rw [inline.paths_eq nonempty, Url.resolve] at found
  simp only [String.toList_ofList, bare] at found
  cases isSplit : Url.split url with
  | none =>
    rw [isSplit] at found
    cases found
  | some parts =>
    rw [isSplit] at found
    exact ⟨parts, rfl, (List.singleton_inj.1 (Except.ok.inj found)).symm⟩

/-- What the call reaches that writes a slot: everything as it is written, behind the base path. -/
theorem BasedUnit.paths_eq {ε : Type} {base rest : List Char}
    (based : BasedUnit names unit base ('/' :: rest)) :
    (paths names unit : Except ε (List String)) =
      .ok (if (Url.split ('/' :: rest)).isSome then
        [String.ofList (Url.dropSlash (base ++ '/' :: rest))] else []) := by
  have written : (none :: ('/' :: rest).map some).filterMap id = '/' :: rest :=
    Node.filterMap_map_some ('/' :: rest)
  have slash : (String.ofList ('/' :: rest)).toList = '/' :: rest := String.toList_ofList
  rw [based.toTemplateCall.paths_eq (by simp), written, based.basePath_eq,
    Url.resolve_slash slash, slash, String.toList_ofList]
  split <;> rfl

/-- **The front of a URL in a constant**: when the call that writes the URL in one piece has a
path, the call that writes a slot for the constant has the same one exactly when what it writes
behind the slot is not refused, and the whole URL is no absolute web address. -/
theorem paths_of_based {ε : Type} {inlineUnit basedUnit : SourceUnit} {base rest : List Char}
    (inline : InlineUnit names inlineUnit (base ++ '/' :: rest))
    (based : BasedUnit names basedUnit base ('/' :: rest)) {path : String}
    (found : (paths names inlineUnit : Except ε (List String)) = .ok [path]) :
    (paths names basedUnit : Except ε (List String)) = .ok [path] ↔
      (Url.split ('/' :: rest)).isSome ∧ ¬Url.IsAbsolute (base ++ '/' :: rest) := by
  obtain ⟨parts, isSplit, reached⟩ := inline.exists_parts (by simp) found
  rw [based.paths_eq]
  -- The call with the slot is dropped when the rest alone is refused. Otherwise its path is the
  -- base with the rest behind it.
  by_cases accepted : (Url.split ('/' :: rest)).isSome = true
  · rw [if_pos accepted, and_iff_right accepted, Except.ok.injEq, List.singleton_inj,
      reached, String.ofList_inj]
    -- Only of an absolute address does the inline call keep less than the whole URL.
    by_cases isWeb : parts.isWebAddress = true
    · have absolute : Url.IsAbsolute (base ++ '/' :: rest) := ⟨parts, isSplit, isWeb⟩
      rw [if_pos isWeb]
      exact iff_of_false (Url.dropSlash_path_ne isSplit isWeb).symm fun relative =>
        relative absolute
    · rw [if_neg isWeb]
      refine iff_of_true rfl ?_
      rintro ⟨other, isSplit', isWeb'⟩
      obtain rfl := Option.some.inj (isSplit.symm.trans isSplit')
      exact isWeb isWeb'
  · rw [if_neg accepted]
    simp [accepted]

/-! ### Two units with a base path -/

/-- The arguments of a call with a template. -/
def templateArguments (parts : List Node) : Node :=
  .mk .arguments (some .arguments) "" ""
    [.leaf .token "" "(", .template none "" parts, .leaf .token "" ")"]

/-- The call. -/
def fetchCall (parts : List Node) : Node :=
  .mk .callExpression none "" ""
    [.mk .identifier (some .function) "" "fetch" [], templateArguments parts]

/-- The statement that consists of the call. -/
def fetchStatement (gap : String) (parts : List Node) : Node :=
  .mk .expressionStatement none gap "" [fetchCall parts]

/-- The text of a template. -/
def fragment (text : String) : Node :=
  .leaf .stringFragment "" text

/-- A slot for the constant. -/
def baseSlot : Node :=
  .mk .templateSubstitution none "" ""
    [.leaf .token "" "$\x7b", .leaf .identifier "" "BASE", .leaf .token "" "\x7d"]

/-- The constant. -/
def baseConstant (base : String) : Node :=
  .mk .lexicalDeclaration none "" ""
    [.leaf .token "" "const",
      .mk .variableDeclarator none " " ""
        [.mk .identifier (some .name) "" "BASE" [], .leaf .token " " "=",
          .template (some .value) " " [fragment base]]]

/-- The tree of a unit that writes a URL in one piece. -/
def inlineTree (url : String) : Node :=
  .mk .program none "" "" [fetchStatement "" [fragment url]]

/-- The tree of a unit that keeps the front of a URL in a constant. -/
def basedTree (base rest : String) : Node :=
  .mk .program none "" "" [baseConstant base, fetchStatement "\n" [baseSlot, fragment rest]]

/-- A unit that writes a URL in one piece. -/
def inlineUnit (url : String) : SourceUnit :=
  ⟨"api.ts", "fetch(`" ++ url ++ "`)"⟩

/-- A unit that keeps the front of a URL in a constant. -/
def basedUnit (base rest : String) : SourceUnit :=
  ⟨"api.ts", "const BASE = `" ++ base ++ "`\nfetch(`$\x7bBASE\x7d" ++ rest ++ "`)"⟩

/-- A template of one fragment consists of the characters of the fragment. -/
theorem templateItems_fragment (text : String) :
    Node.templateItems [fragment text] = text.toList.map some := by
  simp [Node.templateItems, fragment, Node.leaf, Node.kind, Node.gap, Node.text, Node.textAll]

/-- The unit writes its URL in one piece, when it is parsed as its tree. -/
def inlineUnitOf {url : String} (parsed : (inlineUnit url).tree? = some (inlineTree url)) :
    InlineUnit .standard (inlineUnit url) url.toList where
  root := inlineTree url
  parsed := parsed
  sole :=
    { call := ⟨fetchCall [fragment url], [fetchStatement "" [fragment url], inlineTree url]⟩
      arguments := templateArguments [fragment url]
      url := .template none "" [fragment url]
      others := []
      only := by
        rw [Node.walk_eq_places]
        rfl
      called := rfl
      given := rfl }
  role := none
  gap := ""
  parts := [fragment url]
  isTemplate := rfl
  writes := templateItems_fragment url
  noBase := rfl

/-- The unit keeps the front of its URL in a constant, when it is parsed as its tree. -/
def basedUnitOf {base rest : String}
    (parsed : (basedUnit base rest).tree? = some (basedTree base rest)) :
    BasedUnit .standard (basedUnit base rest) base.toList rest.toList where
  root := basedTree base rest
  parsed := parsed
  sole :=
    { call := ⟨fetchCall [baseSlot, fragment rest],
        [fetchStatement "\n" [baseSlot, fragment rest], basedTree base rest]⟩
      arguments := templateArguments [baseSlot, fragment rest]
      url := .template none "" [baseSlot, fragment rest]
      others := []
      only := by
        rw [Node.walk_eq_places]
        rfl
      called := rfl
      given := rfl }
  role := none
  gap := ""
  parts := [baseSlot, fragment rest]
  isTemplate := rfl
  writes := congrArg (none :: ·) (templateItems_fragment rest)
  baseRole := some .value
  baseGap := " "
  baseParts := [fragment base]
  isBase := rfl
  holds := templateItems_fragment base

/-- A relative front may stand in a constant. -/
theorem paths_of_relative_base :
    (paths .standard (inlineUnit "/api/users") : Except Empty (List String)) =
      .ok ["api/users"] ∧
    (paths .standard (basedUnit "/api" "/users") : Except Empty (List String)) =
      .ok ["api/users"] := by
  have inlineParsed : (inlineUnit "/api/users").tree? = some (inlineTree "/api/users") := by
    decide +kernel
  have basedParsed : (basedUnit "/api" "/users").tree? = some (basedTree "/api" "/users") := by
    decide +kernel
  have inline : InlineUnit .standard (inlineUnit "/api/users")
      ("/api".toList ++ '/' :: "users".toList) := inlineUnitOf inlineParsed
  have based : BasedUnit .standard (basedUnit "/api" "/users") "/api".toList
      ('/' :: "users".toList) := basedUnitOf basedParsed
  -- The premise of `paths_of_based` is the path of the inline unit, which is computed.
  have found : (paths .standard (inlineUnit "/api/users") : Except Empty (List String)) =
      .ok ["api/users"] := inline.paths_eq (by simp)
  have accepted : (Url.split ('/' :: "users".toList)).isSome = true := by decide
  exact ⟨found, (paths_of_based inline based found).2 ⟨accepted, Url.not_isAbsolute_slash _⟩⟩

/-- The front of an absolute address may not: the base path keeps scheme and host. -/
theorem paths_of_absolute_base :
    (paths .standard (inlineUnit "https://api.io/v1/users") : Except Empty (List String)) =
      .ok ["v1/users"] ∧
    (paths .standard (basedUnit "https://api.io/v1" "/users") : Except Empty (List String)) =
      .ok ["https://api.io/v1/users"] := by
  have inlineParsed : (inlineUnit "https://api.io/v1/users").tree? =
      some (inlineTree "https://api.io/v1/users") := by decide +kernel
  have basedParsed : (basedUnit "https://api.io/v1" "/users").tree? =
      some (basedTree "https://api.io/v1" "/users") := by decide +kernel
  have based : BasedUnit .standard (basedUnit "https://api.io/v1" "/users")
      "https://api.io/v1".toList ('/' :: "users".toList) := basedUnitOf basedParsed
  exact ⟨(inlineUnitOf inlineParsed).paths_eq (by decide), based.paths_eq⟩

end Accord.Calls
