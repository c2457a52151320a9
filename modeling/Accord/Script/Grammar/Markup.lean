import Accord.Script.Grammar.Expressions

/-!
# `Accord.Script.Grammar.Markup`: elements inside expressions

An element has an opening tag, children and a closing tag, or one tag that closes itself. Tags
without a name are allowed. Whether the names of the two tags agree is not asked.
-/

set_option autoImplicit false

namespace Accord.Script.Grammar

open Scan

/-- The name of a tag, with dots or one colon in it. -/
def tagName (g : Grammar) : Scan (List Node) := do
  let first ← token .identifier markupName?
  if ← nextIs ":" then
    let colon ← mark ":"
    return group .markupNamespaceName (first ++ colon ++ (← token .identifier markupName?))
  else
    extend g.limit (fun read => do
      if ← nextIs "." then
        let dot ← mark "."
        return some (group .memberExpression (read ++ dot ++ (← name .identifier)))
      else return none) first

/-- A slot for an expression. -/
def slot (g : Grammar) : Scan (List Node) := do
  return group .markupExpression <| ← between "\x7b" "\x7d" do
    if ← nextIs "\x7d" then return []
    else if ← nextIs "..." then g.spreadOrExpression
    else g.expressions .inside

/-- An attribute of a tag. -/
def tagAttribute (g : Grammar) : Scan (List Node) := do
  if ← nextIs "\x7b" then g.slot
  else
    let first ← token .propertyIdentifier markupName?
    let found ← (do
      if ← nextIs ":" then
        let colon ← mark ":"
        return group .markupNamespaceName
          (first ++ colon ++ (← token .identifier markupName?))
      else return first)
    let value ← optionalFrom "=" do
      let sign ← mark "="
      let given ← (do
        if ← nextIs "\x7b" then g.slot
        else if ← nextIs "<" then g.parse .element
        else token .string markupString?)
      return sign ++ given
    return group .markupAttribute (found ++ value)

/-- A child of an element, if the closing tag does not come next. -/
def child (g : Grammar) : Scan (Option (List Node)) := do
  -- Blanks between children are text, so nothing is passed over.
  match ← get with
  | '<' :: more =>
    if (ahead more).head? == some '/' then return none
    else return some (← g.parse .element)
  | '\x7b' :: _ => return some (← g.slot)
  | '&' :: _ => return some (← tokenHere .markupCharacter markupCharacter?)
  | _ => return some (← tokenHere .markupText markupText?)

/-- An element. -/
def element (g : Grammar) : Scan (List Node) := do
  let opening ← mark "<"
  -- A tag without a name has no attributes.
  if ← nextIs ">" then
    let tag := group .markupOpening (opening ++ (← mark ">"))
    closed tag
  else
    let found ← g.tagName
    let generic ← if ← nextIs "<" then g.typeArguments else pure []
    let attributes ← collect g.limit (do
      if (← nextIs ">") || (← nextIs "/") then return none
      else return some (← g.tagAttribute)) []
    let start := opening ++ inRole .name found ++ generic ++ attributes
    if ← nextIs "/" then
      let slash ← mark "/"
      return group .markupSelfClosing (start ++ slash ++ (← mark ">"))
    else
      let tag := group .markupOpening (start ++ (← mark ">"))
      closed tag
where
  /-- The children behind an opening tag and the closing tag. -/
  closed (tag : List Node) : Scan (List Node) := do
    let children ← collect g.limit g.child []
    let bracket ← mark "<"
    let slash ← mark "/"
    let found ← if ← nextIs ">" then pure [] else g.tagName
    let closing := group .markupClosing (bracket ++ slash ++ found ++ (← mark ">"))
    return group .markupElement (tag ++ children ++ closing)

end Accord.Script.Grammar
