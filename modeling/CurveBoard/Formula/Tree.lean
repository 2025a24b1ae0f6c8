import CurveBoard.Formula.NamedFunction

/-!
# Formula trees

What a formula means: numbers, constants and variables joined by signs, the five operations and
calls. Parentheses, blanks and spellings are gone.
-/
namespace CurveBoard

inductive Operation
  | add
  | subtract
  | multiply
  | divide
  | raise
deriving DecidableEq, Repr

namespace Operation

def char : Operation → Char
  | add => '+'
  | subtract => '-'
  | multiply => '*'
  | divide => '/'
  | raise => '^'

end Operation

inductive Tree
  | number (value : Float)
  | constant (c : Constant)
  | free (name : List Char)
  | signed (negative : Bool) (operand : Tree)
  | binary (operation : Operation) (left right : Tree)
  | call (f : NamedFunction) (arguments : List Tree)
deriving Repr

namespace Tree

mutual
/-- A tree and all trees inside it, each before its parts. -/
def nodes : Tree → List Tree
  | number value => [number value]
  | constant c => [constant c]
  | free name => [free name]
  | signed negative operand => signed negative operand :: operand.nodes
  | binary operation left right => binary operation left right :: (left.nodes ++ right.nodes)
  | call f arguments => call f arguments :: nodesOfAll arguments

def nodesOfAll : List Tree → List Tree
  | [] => []
  | t :: rest => t.nodes ++ nodesOfAll rest
end

mutual
/-- The names of variables, as often as they stand in the tree. -/
def names : Tree → List (List Char)
  | number _ => []
  | constant _ => []
  | free name => [name]
  | signed _ operand => operand.names
  | binary _ left right => left.names ++ right.names
  | call _ arguments => namesOfAll arguments

def namesOfAll : List Tree → List (List Char)
  | [] => []
  | t :: rest => t.names ++ namesOfAll rest
end

/-- Names, each once, in alphabetical order. -/
def alphabetical (names : List (List Char)) : List String :=
  (names.eraseDups.map String.ofList).mergeSort (· ≤ ·)

/-- The variables in alphabetical order. -/
def variableNames (t : Tree) : List String := alphabetical t.names

/-- Whether a tree names no variable. -/
def isConstant (t : Tree) : Bool := t.names.isEmpty

end Tree

end CurveBoard
