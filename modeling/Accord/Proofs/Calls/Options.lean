import Accord.Proofs.Calls.Payload
import Accord.Proofs.Script.ExchangedText

/-!
# `Accord.Proofs.Calls.Options`: the object behind the URL as a record

A call has one object behind its URL, with at most one member `method` and one member `body`.
`MembersEdited` is what may be done to the other members: they are put in another order, left
out and added. `valuesOf_eq` says that this leaves the values of the two members as they are.

`siteOf?_of_edited` compares the call with the edited one, each in the tree of its unit. Method
and path are the same. So is the type of the body, unless the variable that is sent is declared
with a type that has the call itself in it, behind all wrappers of the type: such a type is
searched for the member of an imported module, and the object with it.
`requestBody_of_computed_name` is a unit where it finds one.
-/

set_option autoImplicit false

namespace Accord.Calls

open Script (AgreeUpTo DifferIn Exchangeable Frame Node Place importedName?
  importedName?_eq_none_iff MentionsImport)

/-! ### The members of an object -/

/-- Whether a member is a pair with this key, quoted or not. -/
def isPairOf (key : String) (member : Node) : Bool :=
  member.kind = .pair && hasKey key member

/-- Whether a member says how a call is made. -/
def isOption (member : Node) : Bool :=
  isPairOf "method" member || isPairOf "body" member

/-- The members of an object, without the blanks before them. -/
def members (object : Node) : List Node :=
  object.namedChildren.map (Node.withGap "")

/-- The members are put in another order, and members that do not say how the call is made are
added and left out. -/
inductive MembersEdited : List Node → List Node → Prop
  | permute {list list' : List Node} (perm : list.Perm list') : MembersEdited list list'
  | insert (before after : List Node) {member : Node} (other : isOption member = false) :
      MembersEdited (before ++ after) (before ++ member :: after)
  | remove (before after : List Node) {member : Node} (other : isOption member = false) :
      MembersEdited (before ++ member :: after) (before ++ after)
  | trans {list list' list'' : List Node} (first : MembersEdited list list')
      (second : MembersEdited list' list'') : MembersEdited list list''

/-- Several members are added at once. -/
theorem MembersEdited.insertAll (before after : List Node) {added : List Node}
    (others : ∀ member ∈ added, isOption member = false) :
    MembersEdited (before ++ after) (before ++ (added ++ after)) := by
  induction added with
  | nil => exact .permute (.refl _)
  | cons member added ih =>
    obtain ⟨other, others⟩ := List.forall_mem_cons.1 others
    exact (ih others).trans (.insert before (added ++ after) other)

/-- Edits leave the members that say how the call is made, in some order. -/
theorem MembersEdited.perm_filter {list list' : List Node} (edited : MembersEdited list list') :
    (list.filter isOption).Perm (list'.filter isOption) := by
  induction edited with
  | permute perm => exact perm.filter _
  | insert before after other =>
    rw [List.filter_append, List.filter_append, List.filter_cons_of_neg (by simp [other])]
  | remove before after other =>
    rw [List.filter_append, List.filter_append, List.filter_cons_of_neg (by simp [other])]
  | trans _ _ first second => exact first.trans second

/-- The pairs of `method` and `body` are among the options that are looked at. -/
theorem filter_isPairOf {key : String} (isKey : key = "method" ∨ key = "body") (list : List Node) :
    list.filter (isPairOf key) = (list.filter isOption).filter (isPairOf key) := by
  rw [List.filter_filter]
  refine List.filter_congr fun member _ => ?_
  -- Both keys are spelt out in `isOption`, so each is a case of its own.
  rcases isKey with rfl | rfl <;> simp +contextual [isOption]

/-- Lists with the same elements are the same when they have at most one. -/
theorem eq_of_perm_of_length_le_one {α : Type} {list list' : List α} (perm : list.Perm list')
    (single : list.length ≤ 1) : list = list' := by
  match list, single with
  | [], _ => exact (List.nil_perm.1 perm).symm
  | [element], _ => exact (List.singleton_perm.1 perm)

/-! ### The blanks before a node -/

/-- `isPairOf` does not look at the gap in front of a member. -/
theorem isPairOf_withGap (key gap : String) (member : Node) :
    isPairOf key (member.withGap gap) = isPairOf key member := by
  cases member
  rfl

/-- `child?` does not look at the gap in front of the node. -/
theorem child?_withGap (gap : String) (node : Node) (role : Script.Role) :
    (node.withGap gap).child? role = node.child? role := by
  cases node
  rfl

/-- `literalText` does not look at the gap in front of the node. -/
theorem literalText_withGap (gap : String) (node : Node) :
    (node.withGap gap).literalText = node.literalText := by
  rw [Node.literalText_eq, Node.literalText_eq]
  cases node
  rfl

/-! ### Calls with one object behind the URL -/

/-- The list of arguments of a call has one object behind the URL, which names the method and
the body at most once. -/
structure OptionsCall (given : Node) where
  url : Node
  others : List Node
  object : Node
  given_eq : given.namedChildren = url :: others
  single : others.filter (fun argument => argument.kind = .object) = [object]
  method : (object.namedChildren.filter (isPairOf "method")).length ≤ 1
  body : (object.namedChildren.filter (isPairOf "body")).length ≤ 1

namespace OptionsCall

variable {given given' : Node} (call : OptionsCall given) (call' : OptionsCall given')

/-- The pairs of the object with a key. -/
def pairsOf (key : String) : List Node :=
  (members call.object).filter (isPairOf key)

/-- The pairs of a key are the members that `isPairOf` picks, with their gaps taken away. -/
theorem pairsOf_eq_map (key : String) :
    call.pairsOf key =
      (call.object.namedChildren.filter (isPairOf key)).map (Node.withGap "") := by
  rw [pairsOf, members, List.filter_map]
  simp only [Function.comp_def, isPairOf_withGap]

/-- The values of a key are those of the pairs of the object. -/
theorem valuesOf_optionPairs (key : String) :
    valuesOf key (optionPairs call.others) =
      (call.pairsOf key).filterMap fun pair => pair.child? .value := by
  rw [valuesOf, optionPairs, call.single, List.flatMap_singleton, List.filter_filter,
    pairsOf_eq_map, List.filterMap_map]
  simp only [Function.comp_def, child?_withGap]
  congr 2
  funext member
  exact Bool.and_comm _ _

variable {call call'}

/-- Edits of the other members leave the values of the two keys as they are. -/
theorem valuesOf_eq (edited : MembersEdited (members call.object) (members call'.object))
    {key : String} (isKey : key = "method" ∨ key = "body") :
    valuesOf key (optionPairs call.others) = valuesOf key (optionPairs call'.others) := by
  have perm : (call.pairsOf key).Perm (call'.pairsOf key) := by
    rw [pairsOf, pairsOf, filter_isPairOf isKey, filter_isPairOf isKey (members call'.object)]
    exact edited.perm_filter.filter _
  have single : (call.pairsOf key).length ≤ 1 := by
    rw [pairsOf_eq_map, List.length_map]
    rcases isKey with rfl | rfl
    · exact call.method
    · exact call.body
  rw [valuesOf_optionPairs, valuesOf_optionPairs, eq_of_perm_of_length_le_one perm single]

/-- An edit of the other members leaves the method as it is. -/
theorem methodOf_eq (edited : MembersEdited (members call.object) (members call'.object)) :
    methodOf (optionPairs call.others) = methodOf (optionPairs call'.others) := by
  rw [methodOf, methodOf, valuesOf_eq edited (.inl rfl)]

/-- The body of a call is among its arguments, so its names have no parenthesis when theirs have
none. -/
theorem namesPlain_of_mem_valuesOf {key : String} {value : Node} (plain : given.NamesPlain)
    (member : value ∈ valuesOf key (optionPairs call.others)) : value.NamesPlain := by
  obtain ⟨pair, isPair, found⟩ := List.mem_filterMap.1 member
  have inObject : pair ∈ (call.others.filter fun argument => argument.kind = .object).flatMap
      Node.namedChildren := (List.mem_filter.1 (List.mem_filter.1 isPair).1).1
  rw [call.single, List.flatMap_singleton] at inObject
  have isOther : call.object ∈ call.others :=
    (List.mem_filter.1 (call.single ▸ List.mem_singleton_self call.object)).1
  have isArgument : call.object ∈ given.namedChildren := by
    rw [call.given_eq]
    exact List.mem_cons_of_mem _ isOther
  exact ((plain.of_mem_named isArgument).of_mem_named inObject).of_child? found

end OptionsCall

/-! ### The type of a body -/

/-- The type of a body has the place of the call in it only when the body is made of a name:
then it is the one that the name is declared with. -/
theorem bodyType_eq_or (serializer : String) (body : Node) :
    (∃ found, ∀ above, bodyType serializer body above = found) ∨
      ∃ name, (body.NamesPlain → '(' ∉ name.toList) ∧ ∀ above, bodyType serializer body above =
        (Script.declaredType? name above).bind Node.typeReference := by
  by_cases isCall : body.kind = .callExpression
  · cases called : body.child? .function with
    | none => exact .inl ⟨none, fun above => by simp [bodyType, called]⟩
    | some callee =>
      cases passed : body.child? .arguments with
      | none => exact .inl ⟨none, fun above => by simp [bodyType, called, passed]⟩
      | some arguments =>
        cases first : arguments.namedChildren.head? with
        | none => exact .inl ⟨none, fun above => by simp [bodyType, called, passed, first]⟩
        | some payload =>
          by_cases isSerializer : Text.unspaced callee.text = serializer
          · have typed : ∀ above, bodyType serializer body above = payloadType payload above := by
              intro above
              simp [bodyType, called, passed, first, isCall, isSerializer]
            by_cases isName : payload.kind = .identifier
            -- The name is looked up around the call, so this is the one case that depends on
            -- `above`.
            · refine .inr ⟨payload.text, fun plain => ?_, fun above => ?_⟩
              · have inBody := (plain.of_child? passed).of_mem_named (List.mem_of_mem_head? first)
                exact inBody.self isName
              · rw [typed, payloadType, isName]
            · refine .inl ⟨payloadType payload [], fun above => ?_⟩
              rw [typed, payloadType, payloadType]
              split
              · rfl
              · next name => exact absurd name isName
              · rfl
          · exact .inl ⟨none, fun above => by simp [bodyType, called, passed, first, isSerializer]⟩
  · exact .inl ⟨none, fun above => by rw [bodyType, if_neg isCall]⟩

/-! ### The call in its unit -/

/-- A unit with a place for the list of arguments of a call. -/
structure CallSite where
  /-- The call without its arguments. -/
  caller : Frame
  /-- What is around the call, innermost first. -/
  frames : List Frame
  isCall : caller.kind = .callExpression
  first : ∀ node ∈ caller.before, node.role ≠ some .arguments
  canHold : Frame.CanHoldAll frames .callExpression

namespace CallSite

variable (site : CallSite) {given given' : Node}

/-- The tree of the unit with the arguments. -/
def tree (given : Node) : Node :=
  Frame.plug site.frames (site.caller.fill given)

/-- The place of the call with the arguments. -/
def place (given : Node) : Place :=
  ⟨site.caller.fill given, Frame.above site.frames (site.caller.fill given)⟩

/-- The call is a place of the unit. -/
theorem place_mem_walk (given : Node) : site.place given ∈ (site.tree given).walk :=
  Frame.mem_walk_plug site.frames (site.caller.fill given)

/-- The arguments are those of the call. -/
theorem child?_arguments (role : given.role = some .arguments) :
    (site.place given).node.child? .arguments = some given := by
  have before : site.caller.before.find? (fun child => child.role = some .arguments) = none :=
    List.find?_eq_none.2 fun node member => by simpa using site.first node member
  show (site.caller.before ++ given :: site.caller.after).find? _ = _
  rw [List.find?_append, before, Option.none_or, List.find?_cons_of_pos (by simpa using role)]

/-- What is called does not depend on the arguments. -/
theorem child?_function (role : given.role = some .arguments)
    (role' : given'.role = some .arguments) :
    (site.place given).node.child? .function = (site.place given').node.child? .function := by
  show (site.caller.before ++ given :: site.caller.after).find? _ =
    (site.caller.before ++ given' :: site.caller.after).find? _
  rw [List.find?_append, List.find?_append, List.find?_cons_of_neg (by simp [role]),
    List.find?_cons_of_neg (by simp [role'])]

/-- The call counts as one of `name` whichever arguments it has. -/
theorem isCallOf_eq (role : given.role = some .arguments) (role' : given'.role = some .arguments)
    (name : String) :
    isCallOf name (site.place given).node = isCallOf name (site.place given').node := by
  rw [isCallOf, isCallOf, site.child?_function role role']
  rfl

/-- The calls differ in their arguments. -/
theorem differ_call (given given' : Node) :
    DifferIn given given' (site.caller.fill given) (site.caller.fill given') := by
  refine .inside site.caller ⟨?_, fun isTemplate => ?_⟩ .here
  · rw [site.isCall]
    decide
  · rw [site.isCall] at isTemplate
    cases isTemplate

/-- The frames of a site can hold the call with any arguments. -/
theorem canHoldAll_call (given : Node) :
    Frame.CanHoldAll site.frames (site.caller.fill given).kind := by
  show Frame.CanHoldAll site.frames site.caller.kind
  rw [site.isCall]
  exact site.canHold

/-- The trees with two rows of arguments differ in these arguments alone. -/
theorem differ_tree (given given' : Node) :
    DifferIn given given' (site.tree given) (site.tree given') :=
  (site.differ_call given given').plug (site.canHoldAll_call given)

/-- The call and the nodes around it agree up to the arguments. -/
theorem forall₂_around (given given' : Node) :
    ((site.place given).node :: (site.place given).above).Forall₂ (AgreeUpTo given given')
      ((site.place given').node :: (site.place given').above) :=
  .cons (.inr (site.differ_call given given'))
    ((site.differ_call given given').forall₂_above (site.canHoldAll_call given))

end CallSite

/-- Every call of a grammatical unit is one of a unit with a place for its arguments. -/
theorem CallSite.exists_of_mem_walk {root given : Node} {call : Place}
    (grammatical : root.Grammatical)
    (visited : call ∈ root.walk) (isCall : call.node.kind = .callExpression)
    (called : call.node.child? .arguments = some given) :
    ∃ site : CallSite, site.tree given = root ∧ site.place given = call := by
  obtain ⟨⟨kind, role, gap, lexeme, children⟩, above⟩ := call
  obtain ⟨frames, rfl, around⟩ := Frame.exists_frames_of_mem_walk visited
  obtain ⟨-, before, after, split, first⟩ := List.find?_eq_some_iff_append.1 called
  obtain rfl : children = before ++ given :: after := split
  exact ⟨{
    caller := ⟨kind, role, gap, lexeme, before, after⟩
    frames := frames
    isCall := isCall
    first := fun node member => by simpa using first node member
    canHold := isCall ▸ grammatical.canHoldAll (Node.mem_preorder_self _) isCall }, rfl,
    congrArg (Place.mk _) around.symm⟩

/-- The variable that is sent is declared with a type that has the call in it, behind all its
wrappers, and the text of that mentions the member of an imported module before or after the
edit. The type of the body is the member that is mentioned first. -/
inductive SearchedAround (given given' : Node) (call call' : Place)
    (body body' : Option TypeReference) : Prop
  | intro (name : String) (type type' core core' : Node)
      (declared : Script.declaredType? name (call.node :: call.above) = some type)
      (declared' : Script.declaredType? name (call'.node :: call'.above) = some type')
      (reached : type.core? = some core) (reached' : type'.core? = some core')
      (around : DifferIn given given' core core')
      (mentions : MentionsImport core.text.toList ∨ MentionsImport core'.text.toList)
      (body_eq : body = (importedName? core.text.toList).map fun found =>
        ⟨String.ofList found, .imported, type.passesArray⟩)
      (body_eq' : body' = (importedName? core'.text.toList).map fun found =>
        ⟨String.ofList found, .imported, type'.passesArray⟩)

/-- Two call sites have the same method and path and the same type of the body, except where
that is searched for in a type around the call. -/
inductive SameRequest (given given' : Node) (call call' : Place) : Site → Site → Prop
  | malformed (url : String) : SameRequest given given' call call' (.malformed url) (.malformed url)
  | endpoint {found found' : CodeEndpoint} (method : found.method = found'.method)
      (path : found.path = found'.path)
      (body : found.requestBody = found'.requestBody ∨
        SearchedAround given given' call call' found.requestBody found'.requestBody) :
      SameRequest given given' call call' (.endpoint found) (.endpoint found')

namespace CallSite

variable {site : CallSite} {given given' : Node}

/-- What a name is declared with comes down to the same reference, or is searched around the
call. -/
theorem declared_eq_or (lists : Exchangeable given given') (plain : (site.tree given).NamesPlain)
    {name : String} (noParenthesis : '(' ∉ name.toList) :
    let call := site.place given
    let call' := site.place given'
    let body := (Script.declaredType? name (call.node :: call.above)).bind Node.typeReference
    let body' := (Script.declaredType? name (call'.node :: call'.above)).bind Node.typeReference
    body = body' ∨ SearchedAround given given' call call' body body' := by
  intro call call' body body'
  obtain ⟨inCall, above⟩ := plain.of_plug
  have names : ∀ node ∈ call.node :: call.above, node.NamesPlain :=
    List.forall_mem_cons.2 ⟨inCall, above⟩
  -- The two lookups go in step through the two trees, which differ in the arguments alone.
  rcases rel_iff.1 (Script.rel_lookup lists Script.aliasLimit noParenthesis
    (site.forall₂_around given given') names) with
      ⟨none, none'⟩ | ⟨type, type', declared, declared', both⟩
  · exact .inl (by simp only [body, body', call, call', Script.declaredType?, none, none'])
  · have body_eq : body = type.typeReference := congrArg (Option.bind · Node.typeReference) declared
    have body_eq' : body' = type'.typeReference :=
      congrArg (Option.bind · Node.typeReference) declared'
    -- The types that are found agree, or lie around the call and hold its arguments.
    rcases both.typeReference_eq_or lists with same | ⟨core, core', reached, reached', around⟩
    · exact .inl (body_eq.trans (same.trans body_eq'.symm))
    · have searched := body_eq.trans (around.typeReference_eq lists reached)
      have searched' := body_eq'.trans ((around.symm lists).typeReference_eq lists.symm reached')
      by_cases mentions : MentionsImport core.text.toList ∨ MentionsImport core'.text.toList
      · exact .inr ⟨name, type, type', core, core', declared, declared', reached, reached', around,
          mentions, searched, searched'⟩
      · -- Without a mention nothing is found on either side.
        obtain ⟨silent, silent'⟩ := not_or.1 mentions
        rw [importedName?_eq_none_iff.2 silent] at searched
        rw [importedName?_eq_none_iff.2 silent'] at searched'
        exact .inl (searched.trans searched'.symm)

/-- The types of the bodies that the options give are the same, or searched around the call. -/
theorem requestType_eq_or (lists : Exchangeable given given') (plain : (site.tree given).NamesPlain)
    {options : OptionsCall given} {options' : OptionsCall given'}
    (edited : MembersEdited (members options.object) (members options'.object))
    (serializer : String) :
    let call := site.place given
    let call' := site.place given'
    let body := requestType serializer (optionPairs options.others) (call.node :: call.above)
    let body' := requestType serializer (optionPairs options'.others) (call'.node :: call'.above)
    body = body' ∨ SearchedAround given given' call call' body body' := by
  intro call call' body body'
  have inGiven : given.NamesPlain :=
    plain.of_plug.1.of_mem (site.caller.mem_children_fill given)
  simp only [body, body', requestType, ← OptionsCall.valuesOf_eq edited (.inr rfl)]
  cases last : (valuesOf "body" (optionPairs options.others)).getLast? with
  | none => exact .inl (by rw [Option.bind_none, Option.bind_none])
  | some value =>
    simp only [Option.bind_some]
    rcases bodyType_eq_or serializer value with ⟨found, always⟩ | ⟨name, noParenthesis, declared⟩
    · exact .inl (by rw [always, always])
    · have inValue := OptionsCall.namesPlain_of_mem_valuesOf inGiven (List.mem_of_getLast? last)
      rw [declared, declared]
      exact declared_eq_or lists plain (noParenthesis inValue)

/-- **The object behind the URL is a record**: a call in a grammatical unit stays a call of its
unit when the other members and the other arguments are edited, and its method and its path stay
the same. So does the type of its body, unless that is searched for in a type around the call.
-/
theorem siteOf?_of_edited (names : Names) (source : String) {root given given' : Node}
    {call : Place}
    (grammatical : root.Grammatical) (visited : call ∈ root.walk)
    (isCall : isCallOf names.call call.node = true)
    (called : call.node.child? .arguments = some given)
    (lists : Exchangeable given given') (options : OptionsCall given)
    (options' : OptionsCall given')
    (sameUrl : options.url.withGap "" = options'.url.withGap "")
    (edited : MembersEdited (members options.object) (members options'.object)) :
    ∃ site : CallSite, site.tree given = root ∧ site.place given = call ∧
      site.place given' ∈ (site.tree given').walk ∧
      isCallOf names.call (site.place given').node = true ∧
      Option.Rel (SameRequest given given' call (site.place given'))
        (siteOf? names root.basePath source call)
        (siteOf? names (site.tree given').basePath source (site.place given')) := by
  have isExpression : call.node.kind = .callExpression :=
    of_decide_eq_true (Bool.and_eq_true_iff.1 isCall).1
  obtain ⟨site, rfl, rfl⟩ := exists_of_mem_walk grammatical visited isExpression called
  have isCall' : isCallOf names.call (site.place given').node = true := by
    rw [← site.isCallOf_eq lists.first.role lists.second.role, isCall]
  have sameBase : (site.tree given).basePath = (site.tree given').basePath :=
    AgreeUpTo.basePath_eq lists (.inr (site.differ_tree given given')) grammatical.isProgram
  have sameText : options.url.literalText = options'.url.literalText := by
    rw [← literalText_withGap "" options.url, sameUrl, literalText_withGap]
  refine ⟨site, rfl, rfl, site.place_mem_walk given', isCall', ?_⟩
  simp only [siteOf?, site.child?_arguments lists.first.role,
    site.child?_arguments lists.second.role,
    options.given_eq, options'.given_eq, List.head?_cons, List.tail_cons, Option.bind_eq_bind,
    Option.bind_some, sameText, sameBase]
  cases options'.url.literalText with
  | none => exact .none
  | some url =>
    simp only [Option.bind_some]
    split
    · exact .none
    · split
      · exact .some (.malformed url)
      · exact .some (.endpoint (OptionsCall.methodOf_eq edited) rfl
          (requestType_eq_or lists grammatical.names edited names.serializer))

end CallSite

/-! ### A call that sends a draft -/

/-- A member of an object. -/
def pairOf (key : String) (value : Node) : Node :=
  .mk .pair none " " "" [.mk .propertyIdentifier (some .key) "" key [], .leaf .token "" ":", value]

/-- The members of an object, with commas between them. -/
def objectOf (members : List Node) : Node :=
  .braced .object none " " (members.intersperse (.leaf .token "" ","))

/-- A list of arguments that starts with the URL. -/
def argumentsOf (others : List Node) : Node :=
  .mk .arguments (some .arguments) "" ""
    (.leaf .token "" "(" :: sendingUrl ::
      others.flatMap (fun other => [.leaf .token "" ",", other]) ++
      [.leaf .token "" ")"])

/-- The method that the draft is sent with. -/
def postPair : Node :=
  pairOf "method" (.mk .string (some .value) " " "'post'" [])

/-- The body that the draft is sent in. -/
def draftPair : Node :=
  pairOf "body" (serialized "data")

/-- Members that do not say how the call is made, one with a method and a body of its own. -/
def otherMembers : List Node :=
  [.leaf .comment " " "/* draft */", pairOf "headers" (objectOf [postPair, draftPair]),
    .mk .spreadElement none " " "" [.leaf .token "" "...", .leaf .identifier "" "rest"]]

/-- The call with its method and body. -/
def shortArguments : Node :=
  argumentsOf [objectOf [postPair, draftPair]]

/-- The same with other members and other arguments. -/
def longArguments : Node :=
  argumentsOf [.leaf .number " " "1", objectOf (draftPair :: otherMembers ++ [postPair])]

/-- The unit with the call below the declaration of the draft. -/
def draftSite : CallSite where
  caller := ⟨.callExpression, none, "", "", [boundName .function "fetch"], []⟩
  frames := [⟨.expressionStatement, none, "\n", "", [], []⟩,
    ⟨.program, none, "", "", [draftStatement], []⟩]
  isCall := rfl
  first := by decide
  canHold := ⟨⟨by decide, by decide⟩, ⟨by decide, by decide⟩, trivial⟩

/-- The short call. -/
def shortCall : OptionsCall shortArguments where
  url := sendingUrl
  others := [objectOf [postPair, draftPair]]
  object := objectOf [postPair, draftPair]
  given_eq := rfl
  single := rfl
  method := by decide
  body := by decide

/-- The long call. -/
def longCall : OptionsCall longArguments where
  url := sendingUrl
  others := [.leaf .number " " "1", objectOf (draftPair :: otherMembers ++ [postPair])]
  object := objectOf (draftPair :: otherMembers ++ [postPair])
  given_eq := rfl
  single := rfl
  method := by decide
  body := by decide

/-- The list of arguments that is built here is one with an opening parenthesis. -/
theorem isArgumentList_argumentsOf (others : List Node) :
    Script.IsArgumentList (argumentsOf others) := by
  have opening : '(' ∈ (Node.leaf .token "" "(").text.toList := by decide
  refine ⟨rfl, rfl, ?_⟩
  rw [argumentsOf, Node.text, String.toList_append, List.mem_append]
  exact .inr (Node.mem_textAll_of_mem List.mem_cons_self opening)

/-- Lists of arguments with the same blanks before them may stand in the place of each other. -/
theorem exchangeable_argumentsOf (others others' : List Node) :
    Exchangeable (argumentsOf others) (argumentsOf others') :=
  ⟨isArgumentList_argumentsOf others, isArgumentList_argumentsOf others', rfl⟩

/-- The members change places, and the other ones are added between them. -/
theorem edited_long : MembersEdited (members shortCall.object) (members longCall.object) := by
  have swapped :
      MembersEdited (members shortCall.object) (members (objectOf [draftPair, postPair])) :=
    .permute (.swap _ _ _)
  have other : ∀ member ∈ otherMembers.map (Node.withGap ""), isOption member = false := by decide
  exact swapped.trans (.insertAll [draftPair.withGap ""] [postPair.withGap ""] other)

/-- A call in a long program keeps its URL, its method and its request under other arguments behind
the options and other members between them. -/
theorem siteOf?_draftSite :
    (draftSite.tree shortArguments).Grammatical ∧
    draftSite.place shortArguments ∈ (draftSite.tree shortArguments).walk ∧
    isCallOf "fetch" (draftSite.place shortArguments).node = true ∧
    (draftSite.place shortArguments).node.child? .arguments = some shortArguments ∧
    Exchangeable shortArguments longArguments ∧
    shortCall.url.withGap "" = longCall.url.withGap "" ∧
    MembersEdited (members shortCall.object) (members longCall.object) ∧
    ∃ site : CallSite, site.tree shortArguments = draftSite.tree shortArguments ∧
      site.place shortArguments = draftSite.place shortArguments ∧
      site.place longArguments ∈ (site.tree longArguments).walk ∧
      isCallOf "fetch" (site.place longArguments).node = true ∧
      Option.Rel (SameRequest shortArguments longArguments (draftSite.place shortArguments)
          (site.place longArguments))
        (siteOf? .standard (draftSite.tree shortArguments).basePath "api.ts"
          (draftSite.place shortArguments))
        (siteOf? .standard (site.tree longArguments).basePath "api.ts"
          (site.place longArguments)) := by
  have grammatical : (draftSite.tree shortArguments).Grammatical :=
    ⟨rfl, by rw [Node.NamesPlain]; decide, by decide, by decide⟩
  have visited := draftSite.place_mem_walk shortArguments
  exact ⟨grammatical, visited, rfl, rfl, exchangeable_argumentsOf _ _, rfl, edited_long,
    CallSite.siteOf?_of_edited .standard "api.ts" grammatical visited rfl rfl
      (exchangeable_argumentsOf _ _) shortCall longCall rfl edited_long⟩

/-! ### A call in the type of what it sends -/

/-- A member that imports a module for its type. -/
def importingPair : Node :=
  pairOf "x" (.mk .memberExpression (some .value) " " ""
    [.mk .callExpression none "" ""
        [.mk .importWord (some .function) "" "import" [],
          .mk .arguments (some .arguments) "" ""
            [.leaf .token "" "(", .leaf .string "" "'./m'", .leaf .token "" ")"]],
      .leaf .token "" ".", .leaf .propertyIdentifier "" "User"])

/-- The unit declares the variable with a type whose one property has the call for its name. -/
def computedSite : CallSite where
  caller := ⟨.callExpression, none, "", "", [boundName .function "fetch"], []⟩
  frames :=
    [⟨.computedPropertyName, some .name, "", "", [.leaf .token "" "["], [.leaf .token "" "]"]⟩,
      ⟨.propertySignature, none, " ", "", [],
        [.ascribed (.leaf .predefinedType " " "string")]⟩,
      ⟨.objectType, none, " ", "", [.leaf .token "" "\x7b"], [.leaf .token " " "\x7d"]⟩,
      ⟨.typeAscription, some .type, "", "", [.leaf .token "" ":"], []⟩,
      ⟨.variableDeclarator, none, " ", "", [boundName .name "data"], []⟩,
      ⟨.lexicalDeclaration, none, "", "", [.leaf .token "" "let"], [.leaf .token "" ";"]⟩,
      ⟨.program, none, "", "", [], []⟩]
  isCall := rfl
  first := by decide
  canHold := by
    refine ⟨⟨?_, ?_⟩, ⟨?_, ?_⟩, ⟨?_, ?_⟩, ⟨?_, ?_⟩, ⟨?_, ?_⟩, ⟨?_, ?_⟩, ⟨?_, ?_⟩, trivial⟩ <;>
      decide

/-- The type of the variable, around the call. -/
def computedType (given : Node) : Node :=
  Frame.plug (computedSite.frames.take 3) (computedSite.caller.fill given)

/-- The text of the unit with other members behind the body. -/
def computedUnit (others : String) : SourceUnit where
  path := "api.ts"
  text := "let data: \x7b [fetch('/a', \x7b body: JSON.stringify(data)" ++ others ++
    " \x7d)]: string \x7d;"

/-- The type of the variable is searched. -/
theorem typeReference_computedType (given : Node) :
    (Node.ascribed (computedType given)).typeReference =
      (importedName? (computedType given).text.toList).map fun found =>
        ⟨String.ofList found, .imported, false⟩ := by
  have isObject : (computedType given).kind = .objectType := rfl
  rw [Node.typeReference_ascribed rfl, Node.typeReference_of_not_wrapper (by rw [isObject]; decide)]
  rfl

/-- What is extracted from the unit: the body has the type that the search finds. -/
theorem outcome_extract_computed {pairs : List Node} {others : String} {found : Option (List Char)}
    (parsed : (computedUnit others).tree? = some (computedSite.tree (argumentsOf [objectOf pairs])))
    (only : (computedSite.tree (argumentsOf [objectOf pairs])).walk.filter
      (fun place => isCallOf "fetch" place.node) =
        [computedSite.place (argumentsOf [objectOf pairs])])
    (given : valuesOf "body" (optionPairs [objectOf pairs]) = [serialized "data"])
    (method : methodOf (optionPairs [objectOf pairs]) = "GET")
    (searched : importedName? (computedType (argumentsOf [objectOf pairs])).text.toList = found) :
    (extract .standard [computedUnit others] : Report Empty (List CodeEndpoint)).outcome =
      .ok [sentEndpoint (found.map fun name => ⟨String.ofList name, .imported, false⟩)] := by
  let sole : SoleCall .standard (computedSite.tree (argumentsOf [objectOf pairs])) :=
    { call := computedSite.place (argumentsOf [objectOf pairs])
      arguments := argumentsOf [objectOf pairs]
      url := sendingUrl
      others := [objectOf pairs]
      only := only
      called := rfl
      given := rfl }
  have noBase : (computedSite.tree (argumentsOf [objectOf pairs])).basePath = "" := rfl
  have path : Url.resolve "/a" "" = some "a" := by decide
  -- The name is a parameter whose annotation encloses the call, so the arguments are part of its
  -- text.
  have declared : Script.declaredType? "data" (sole.call.node :: sole.call.above) =
      some (.ascribed (computedType (argumentsOf [objectOf pairs]))) := rfl
  have body : requestType "JSON.stringify" (optionPairs [objectOf pairs])
      (sole.call.node :: sole.call.above) =
        found.map fun name => ⟨String.ofList name, .imported, false⟩ := by
    rw [requestType, given, List.getLast?_singleton, Option.bind_some]
    exact ((sendsName "data").bodyType_eq _).trans
      ((congrArg (Option.bind · Node.typeReference) declared).trans
        (by rw [Option.bind_some, typeReference_computedType, searched]))
  have endpoint : sole.endpoint "api.ts" "a" =
      sentEndpoint (found.map fun name => ⟨String.ofList name, .imported, false⟩) := by
    rw [← body, SoleCall.endpoint, SoleCall.pairs, method]
    rfl
  rw [sole.outcome_extract literalText_sendingUrl (by decide) parsed, noBase, path,
    Option.toList_some,
    List.map_singleton]
  exact congrArg (fun found => Except.ok [found]) endpoint

/-- A further member changes the type of the body: the name is declared with a type around the call
that is searched for an `import(...)`, and the new member holds one. -/
theorem requestBody_of_computed_name :
    MembersEdited (members (objectOf [draftPair])) (members (objectOf [draftPair, importingPair])) ∧
    (computedUnit "").tree? = some (computedSite.tree (argumentsOf [objectOf [draftPair]])) ∧
    (computedUnit ", x: import('./m').User").tree? =
      some (computedSite.tree (argumentsOf [objectOf [draftPair, importingPair]])) ∧
    (extract .standard [computedUnit ""] : Report Empty (List CodeEndpoint)).outcome =
      .ok [sentEndpoint none] ∧
    (extract .standard [computedUnit ", x: import('./m').User"] :
        Report Empty (List CodeEndpoint)).outcome =
      .ok [sentEndpoint (some ⟨"User", .imported, false⟩)] := by
  have parsed : (computedUnit "").tree? =
      some (computedSite.tree (argumentsOf [objectOf [draftPair]])) := by decide +kernel
  have parsed' : (computedUnit ", x: import('./m').User").tree? =
      some (computedSite.tree (argumentsOf [objectOf [draftPair, importingPair]])) := by
    decide +kernel
  refine ⟨.insert [_] [] rfl, parsed, parsed', ?_, ?_⟩
  · refine outcome_extract_computed parsed ?_ rfl rfl (by decide +kernel : _ = none)
    rw [Node.walk_eq_places]
    rfl
  · refine outcome_extract_computed parsed' ?_ rfl rfl (by decide +kernel : _ = some "User".toList)
    rw [Node.walk_eq_places]
    rfl

end Accord.Calls
