import Accord.Proofs.Script.Binding

/-!
# `Accord.Proofs.Script.Scope`: the innermost binding of a name

`scopedType` is the rule of the language for the type of a name: what the innermost binding of
the name says, and, when it says that the type is that of another name, what the same rule gives
for that name where the binding stands. `lookup` follows this rule as far as the bindings on the
way have a form that is read. `PassesOver` says of the tree that one of them has another form,
and that this matters: a node further out binds the same name in a form that is read
(`inFavour`), or the binding says something that is lost (`unread`).

`lookupWith_cons_of_answersFor` and `lookupWith_cons_of_not_answersFor` are the two steps of the
walk, `lookupWith_eq` the walk to the innermost binding, and `lookup_eq_scopedType` the whole
way through the names that are followed. `lookup_of_passed` is what happens otherwise: the walk
goes on as if the binding were not there.
-/

set_option autoImplicit false

namespace Accord.Script

/-- The type that a binding gives. `follow` gives the type of another name where the binding
stands. -/
def Binding.typeWith (follow : String → List Node → Option Node) (place : List Node) :
    Binding → Option Node
  | .known type => some type
  | .sameAs other => follow other place
  | .unknown => none

/-! ### The rule of the language -/

/-- The innermost binding of a name around a place, and the nodes from it outwards. -/
def innermost? (name : String) : List Node → Option (Binding × List Node)
  | [] => none
  | node :: outer =>
    match node.binding? name with
    | some binding => some (binding, node :: outer)
    | none => innermost? name outer

/-- The type that the innermost binding of a name gives. -/
def scopedTypeWith (follow : String → List Node → Option Node) (name : String)
    (above : List Node) : Option Node :=
  (innermost? name above).bind fun found => found.1.typeWith follow found.2

/-- The type of a name around a place by the rule of the language, when at most so many other names
are followed. -/
def scopedType : Nat → String → List Node → Option Node
  | 0 => scopedTypeWith fun _ _ => none
  | follows + 1 => scopedTypeWith (scopedType follows)

/-- The lookup skips a binding that the rule of the language takes, and the two results can differ
for it. The binding has one of the forms of BindsUnread. -/
inductive PassesOver : Nat → String → List Node → Prop where
  /-- A node further out binds the name too, in a form that is read. -/
  | inFavour {follows : Nat} {name : String} {above outer : List Node} {binding : Binding}
      {node scope : Node} (innermost : innermost? name above = some (binding, node :: outer))
      (form : node.BindsUnread name) (passed : ¬node.BindsRead name) (mem : scope ∈ outer)
      (reads : scope.BindsRead name) : PassesOver follows name above
  /-- The innermost binding says something about the type. -/
  | unread {follows : Nat} {name : String} {above outer : List Node} {binding : Binding}
      {node : Node} (innermost : innermost? name above = some (binding, node :: outer))
      (form : node.BindsUnread name) (passed : ¬node.BindsRead name) (speaks : binding ≠ .unknown) :
      PassesOver follows name above
  /-- The innermost binding leads to another name, on whose way there is such a binding. -/
  | further {follows : Nat} {name other : String} {above place : List Node}
      (innermost : innermost? name above = some (.sameAs other, place))
      (passes : PassesOver follows other place) : PassesOver (follows + 1) name above

variable {follow : String → List Node → Option Node} {name : String} {node : Node}
  {outer : List Node}

/-! ### One step of the walk -/

/-- The lookup goes on to the nodes further out when a node has neither an annotated parameter nor a
variable of the name. -/
theorem lookupWith_cons_of_not_answersFor (h : node.answersFor name = false) :
    lookupWith follow name (node :: outer) = lookupWith follow name outer := by
  rw [Node.answersFor, Bool.or_eq_false_iff] at h
  obtain ⟨noParameter, noVariable⟩ := h
  have unannotated : (if node.isFunction then node.parameterType? name else none) = none := by
    cases isFunction : node.isFunction with
    | false => rfl
    | true => simpa [isFunction] using noParameter
  have undeclared : (if node.isScope then node.declarator? name else none) = none := by
    cases isScope : node.isScope with
    | false => rfl
    | true => simpa [isScope] using noVariable
  rw [lookupWith, unannotated]
  simp only [undeclared]

/-- At a function with an annotated parameter of the name, the lookup ends with the annotation. -/
theorem lookupWith_of_parameterType? {type : Node} (isFunction : node.isFunction = true)
    (annotated : node.parameterType? name = some type) :
    lookupWith follow name (node :: outer) = some type := by
  rw [lookupWith, isFunction, if_pos rfl, annotated]

/-- At a scope with a variable of the name, the lookup ends with the annotation of the variable, or
follows its initial value. -/
theorem lookupWith_of_declarator? {declarator : Node} (isScope : node.isScope = true)
    (declared : node.declarator? name = some declarator) :
    lookupWith follow name (node :: outer) =
      (Binding.ofDeclarator declarator).typeWith follow (node :: outer) := by
  have noFunction : node.isFunction = false := Node.not_isFunction_of_isScope isScope
  rw [lookupWith, noFunction, isScope]
  simp only [Bool.false_eq_true, if_false, if_true, declared]
  cases Binding.ofDeclarator declarator <;> rfl

/-- Where the lookup ends at a node, its result is the one that the binding of that node gives. -/
theorem lookupWith_cons_of_answersFor (follow : String → List Node → Option Node)
    (outer : List Node) (h : node.answersFor name = true) :
    ∃ binding, node.binding? name = some binding ∧
      lookupWith follow name (node :: outer) = binding.typeWith follow (node :: outer) := by
  rw [Node.answersFor, Bool.or_eq_true, Bool.and_eq_true, Bool.and_eq_true,
    Option.isSome_iff_exists, Option.isSome_iff_exists] at h
  rcases h with ⟨isFunction, type, annotated⟩ | ⟨isScope, declarator, declared⟩
  · exact ⟨.known type, Node.binding?_of_parameterType? isFunction annotated,
      lookupWith_of_parameterType? isFunction annotated⟩
  · exact ⟨.ofDeclarator declarator, Node.binding?_of_declarator? isScope declared,
      lookupWith_of_declarator? isScope declared⟩

/-- The lookup returns nothing when no node has an annotated parameter or a variable of the name. -/
theorem lookupWith_eq_none {above : List Node} (h : ∀ node ∈ above, node.answersFor name = false) :
    lookupWith follow name above = none := by
  induction above with
  | nil => rfl
  | cons node outer ih =>
    rw [lookupWith_cons_of_not_answersFor (h node List.mem_cons_self)]
    exact ih fun other mem => h other (List.mem_cons_of_mem _ mem)

/-! ### The walk to the innermost binding -/

/-- The lookup never ends before the node of the innermost binding. -/
theorem lookupWith_of_innermost? {above place : List Node} {binding : Binding}
    (h : innermost? name above = some (binding, place)) :
    lookupWith follow name above = lookupWith follow name place := by
  induction above with
  | nil => cases h
  | cons node outer ih =>
    rw [innermost?] at h
    split at h
    · cases h
      rfl
    · next unbound =>
      rw [lookupWith_cons_of_not_answersFor (Node.answersFor_of_binding?_eq_none unbound)]
      exact ih h

/-- A name without a binding has no type. -/
theorem lookupWith_of_innermost?_eq_none {above : List Node} (h : innermost? name above = none) :
    lookupWith follow name above = none := by
  induction above with
  | nil => rfl
  | cons node outer ih =>
    rw [innermost?] at h
    split at h
    · cases h
    · next unbound =>
      rw [lookupWith_cons_of_not_answersFor (Node.answersFor_of_binding?_eq_none unbound)]
      exact ih h

/-- The innermost binding is the one that its node has for the name. -/
theorem exists_binding?_of_innermost? {above place : List Node} {binding : Binding}
    (h : innermost? name above = some (binding, place)) :
    ∃ node outer, place = node :: outer ∧ node.binding? name = some binding := by
  induction above with
  | nil => cases h
  | cons node outer ih =>
    rw [innermost?] at h
    split at h
    · next bound =>
      cases h
      exact ⟨node, outer, rfl, bound⟩
    · exact ih h

/-- When the innermost binding is not read, the walk goes on as if it were not there. -/
theorem lookup_of_passed {follows : Nat} {above : List Node} {binding : Binding}
    (innermost : innermost? name above = some (binding, node :: outer))
    (passed : node.answersFor name = false) :
    lookup follows name above = lookup follows name outer := by
  cases follows <;>
    rw [lookup, lookupWith_of_innermost? innermost, lookupWith_cons_of_not_answersFor passed]

/-- A name is read by its innermost binding, unless that is passed over. -/
theorem lookupWith_eq_scopedTypeWith {above : List Node}
    (heeded : ¬PassesOver 0 name above) :
    lookupWith follow name above = scopedTypeWith follow name above := by
  rw [scopedTypeWith]
  cases innermost : innermost? name above with
  | none => exact lookupWith_of_innermost?_eq_none innermost
  | some found =>
    obtain ⟨binding, place⟩ := found
    obtain ⟨node, outer, rfl, bound⟩ := exists_binding?_of_innermost? innermost
    rw [lookupWith_of_innermost? innermost, Option.bind_some]
    cases answers : node.answersFor name with
    | true =>
      obtain ⟨same, bound', reads⟩ := lookupWith_cons_of_answersFor follow outer answers
      obtain rfl := Option.some.inj (bound.symm.trans bound')
      exact reads
    | false =>
      have passed : ¬node.BindsRead name := fun reads =>
        Bool.eq_false_iff.1 answers (Node.answersFor_iff_bindsRead.2 reads)
      have form : node.BindsUnread name := Node.bindsUnread_of_binding? bound passed
      -- Nothing is lost: the binding is silent, and so is everything further out.
      have silent : binding = .unknown :=
        Classical.byContradiction fun speaks => heeded (.unread innermost form passed speaks)
      have nowhere : ∀ scope ∈ outer, scope.answersFor name = false := fun scope mem =>
        Bool.eq_false_iff.2 fun answers' =>
          heeded (.inFavour innermost form passed mem (Node.answersFor_iff_bindsRead.1 answers'))
      rw [lookupWith_cons_of_not_answersFor answers, lookupWith_eq_none nowhere, silent]
      rfl

/-! ### The names that are followed -/

/-- What is passed over without following names is passed over after following some. -/
theorem PassesOver.of_zero {follows : Nat} {above : List Node} (h : PassesOver 0 name above) :
    PassesOver follows name above := by
  cases h with
  | inFavour innermost form passed mem reads => exact .inFavour innermost form passed mem reads
  | unread innermost form passed speaks => exact .unread innermost form passed speaks

/-- A type that is written down in a form that is read is not passed over. -/
theorem not_passesOver_known {follows : Nat} {above : List Node} {type : Node}
    (innermost : innermost? name above = some (.known type, node :: outer))
    (reads : node.BindsRead name) : ¬PassesOver follows name above := by
  intro passes
  cases passes with
  | inFavour innermost' _ passed =>
    cases innermost.symm.trans innermost'
    exact passed reads
  | unread innermost' _ passed =>
    cases innermost.symm.trans innermost'
    exact passed reads
  | further innermost' => cases innermost.symm.trans innermost'

/-- Another name that is given in a form that is read is not passed over when its own type is
not. -/
theorem not_passesOver_sameAs {follows : Nat} {above : List Node} {other : String}
    (innermost : innermost? name above = some (.sameAs other, node :: outer))
    (reads : node.BindsRead name) (next : ¬PassesOver follows other (node :: outer)) :
    ¬PassesOver (follows + 1) name above := by
  intro passes
  cases passes with
  | inFavour innermost' _ passed =>
    cases innermost.symm.trans innermost'
    exact passed reads
  | unread innermost' _ passed =>
    cases innermost.symm.trans innermost'
    exact passed reads
  | further innermost' passes =>
    cases innermost.symm.trans innermost'
    exact next passes

/-- **A name is looked up by the rule of the language**, unless a binding on the way is passed
over. -/
theorem lookup_eq_scopedType {follows : Nat} {above : List Node}
    (heeded : ¬PassesOver follows name above) :
    lookup follows name above = scopedType follows name above := by
  induction follows generalizing name above with
  | zero => exact lookupWith_eq_scopedTypeWith heeded
  | succ follows ih =>
    rw [lookup, scopedType, lookupWith_eq_scopedTypeWith fun passes => heeded passes.of_zero,
      scopedTypeWith, scopedTypeWith]
    cases innermost : innermost? name above with
    | none => rfl
    | some found =>
      obtain ⟨binding, place⟩ := found
      cases binding with
      | known type => rfl
      | unknown => rfl
      | sameAs other => exact ih fun passes => heeded (.further innermost passes)

end Accord.Script
