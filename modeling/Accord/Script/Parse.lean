import Accord.Script.Grammar.Markup
import Accord.Script.Grammar.Statements

/-!
# `Accord.Script.Parse`: the syntax tree of a source text

`rule` says which rule answers which goal, and `grammar` ties the rules together: a rule that
asks for a goal is answered by the same rules with less fuel. Every goal that a rule asks for
without reading a token first is a tighter one, so fuel in proportion to the length of the text
is enough, and `parse` takes that much.
-/

set_option autoImplicit false

namespace Accord.Script

namespace Grammar

/-- The rule that answers a goal. -/
def rule (g : Grammar) : Goal → Scan (List Node)
  | .statement => g.statement
  | .declaration => g.declaration
  | .block => g.block
  | .expression tail => g.expression tail
  | .binary level tail => g.binary level tail
  | .operand tail => g.operand tail
  | .type tail => g.typeExpression tail
  | .primaryType tail => g.primaryType tail
  | .objectType => g.objectType
  | .pattern => g.pattern
  | .parameters => g.parameters
  | .element => g.element

end Grammar

/-- Reads what a goal asks for. The first number is the fuel. -/
def parseGoal (dialect : Dialect) : Nat → Goal → Scan (List Node)
  | 0, _ => failure
  -- The fuel is also the limit on repetitions, of which there are no more than characters.
  | fuel + 1, goal => Grammar.rule ⟨dialect, fuel, parseGoal dialect fuel⟩ goal

/-- The rules of a dialect with fuel. -/
def grammar (dialect : Dialect) (fuel : Nat) : Grammar :=
  ⟨dialect, fuel, parseGoal dialect fuel⟩

/-- The fuel for a text of some length. -/
def fuelFor (length : Nat) : Nat :=
  16 * length + 64

/-- The line that names the interpreter of a unit. -/
def interpreterLine? : Reader
  | '#' :: '!' :: rest =>
    let line := rest.takeWhile fun c => !isLineEnd c
    some ('#' :: '!' :: line, rest.drop line.length)
  | _ => none

/-- Reads a whole unit: its statements and the comments between and behind them. -/
def unit (g : Grammar) : Scan Node := do
  let isScript := (interpreterLine? (← get)).isSome
  let start ← if isScript then Scan.tokenHere .hashBangLine interpreterLine? else pure []
  let statements ← Scan.collect g.limit (do
    if (← Scan.look).isEmpty then return none else return some (← g.parse .statement)) []
  -- Comments behind the last statement belong to the unit itself.
  let some (comments, _, rest) := lead (← get) | failure
  Scan.guardThat rest.isEmpty
  set rest
  return .mk .program none "" "" (start ++ statements ++ comments)

/-- The syntax tree of a text, if it keeps to the grammar. -/
def parse (dialect : Dialect) (text : String) : Option Node :=
  let chars := text.toList
  ((unit (grammar dialect (fuelFor chars.length))).run chars).map Prod.fst

end Accord.Script
