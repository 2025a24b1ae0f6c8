import CurveBoard.Formula.NamedFunction
import CurveBoard.Text.Quoted

/-!
# Malformed formulas

What can be wrong with a formula, where it was noticed, and how the fault is worded. Positions count
the characters of the formula without its blanks.
-/
namespace CurveBoard

inductive Flaw
  | unexpectedCharacter (c : Char)
  | empty
  | unbalancedClosing
  | missingLeftOperand (operation : List Char)
  | missingRightOperand
  | unexpectedToken (text : List Char)
  | endsEarly
  | missingClosing
  | expectedClosing (found : List Char)
  | bareFunction (name : List Char)
  | notAFunction (name : List Char)
  | unknownName (name : List Char)
  | wrongCount (f : NamedFunction) (given : Nat)
  | mixedVariables (names : List String)
deriving DecidableEq, Repr

def quotedLetters (letters : List Char) : String := quoted (String.ofList letters)

namespace Flaw

def detail : Flaw → String
  | unexpectedCharacter c => s!"unexpected character {quotedLetters [c]}"
  | empty => "empty expression"
  | unbalancedClosing => "unbalanced ')'"
  | missingLeftOperand operation => s!"'{String.ofList operation}' is missing its left operand"
  | missingRightOperand => "'^' is missing its right operand"
  | unexpectedToken text => s!"unexpected {quotedLetters text}"
  | endsEarly => "expression ends where an operand was expected"
  | missingClosing => "missing ')'"
  | expectedClosing found => s!"expected ')' but found {quotedLetters found}"
  | bareFunction name => s!"function {quotedLetters name} must be followed by '('"
  | notAFunction name => s!"{quotedLetters name} is not a function"
  | unknownName name => s!"unknown identifier {quotedLetters name}"
  | wrongCount f given =>
    let (least, most) := f.arity
    let expected := if least = most then toString least else toString least ++ "-" ++ toString most
    s!"{f.name}() takes {expected} argument(s), got {given}"
  | mixedVariables names =>
    let listed := ", ".intercalate names
    s!"expression mixes variables {listed}; use a single variable"

end Flaw

/-- A flaw and where it was noticed, if that is at one place. -/
structure Mistake where
  flaw : Flaw
  position : Option Nat
deriving DecidableEq, Repr

/-- A mistake in a formula whose text without blanks is `source`. -/
structure FormulaError where
  mistake : Mistake
  source : String
deriving DecidableEq, Repr

namespace FormulaError

def detail (e : FormulaError) : String := e.mistake.flaw.detail

def position (e : FormulaError) : Option Nat := e.mistake.position

def message (e : FormulaError) : String :=
  match e.position with
  | some position => s!"{e.detail} (at position {position} in {quoted e.source})"
  | none => if e.source.isEmpty then e.detail else s!"{e.detail} (in {quoted e.source})"

end FormulaError

end CurveBoard
