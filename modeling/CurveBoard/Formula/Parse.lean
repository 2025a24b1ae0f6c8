import CurveBoard.Decimal.Reading
import CurveBoard.Formula.Spelling
import CurveBoard.Formula.Tree

/-!
# Reading formulas

The grammar, from the loosest binding to the tightest:

    sum       = product (('+' | '-') product)*
    product   = signed (('*' | '/') signed)*
    signed    = ('+' | '-') signed | factorial
    factorial = power '!'*
    power     = operand ['^' exponent]
    exponent  = ('+' | '-') exponent | operand ['^' exponent]
    operand   = number | variable | constant | '(' sum ')' | function '(' [sum (',' sum)*] ')'

A function's name is never a variable, and a variable hides a constant of its name. Beside the tree,
the reader writes the formula in full: powers and factorials as calls.

Every procedure hands back the tokens it left, with a proof that it took at least one, so recursion
goes down in the number of tokens and, while that stays the same, in the level of the grammar.
-/
namespace CurveBoard

/-- What a reader knows beside the tokens: the variables, and the position where the text ends. -/
structure Scope where
  variableNames : List (List Char)
  ending : Nat

/-- A tree, its text in full, and the tokens left, fewer than `bound`. -/
structure Parsed (bound : Nat) where
  tree : Tree
  text : List Char
  rest : List Token
  shorter : rest.length < bound

/-- The arguments of a call up to its closing parenthesis, and the tokens left, fewer than
`bound`. -/
structure Arguments (bound : Nat) where
  trees : List Tree
  texts : List (List Char)
  rest : List Token
  shorter : rest.length < bound

namespace Parsed

def within {bound : Nat} (p : Parsed bound) (larger : Nat) (h : bound ≤ larger) : Parsed larger :=
  { p with shorter := Nat.lt_of_lt_of_le p.shorter h }

end Parsed

namespace Token

/-- The sign that a token is; the answer tells whether it is a minus. -/
def sign? (t : Token) : Option Bool :=
  match t.lexeme with
  | .symbol .plus => some false
  | .symbol .minus => some true
  | _ => none

def additive? (t : Token) : Option Operation :=
  match t.lexeme with
  | .symbol .plus => some .add
  | .symbol .minus => some .subtract
  | _ => none

def multiplicative? (t : Token) : Option Operation :=
  match t.lexeme with
  | .symbol .star => some .multiply
  | .symbol .slash => some .divide
  | _ => none

/-- Whether an exponent can start here. -/
def startsExponent (t : Token) : Bool :=
  match t.lexeme with
  | .symbol s => s == .opening || s == .plus || s == .minus
  | _ => true

end Token

/-- A call written in full. -/
def callText (f : NamedFunction) (arguments : List (List Char)) : List Char :=
  f.letters ++ '(' :: (List.intercalate [','] arguments ++ [')'])

/-- What a token is blamed for where an operand should start. -/
def strayToken (t : Token) : Mistake :=
  if t.isSymbol .caret || t.isSymbol .bang then ⟨.missingLeftOperand t.text, some t.position⟩
  else ⟨.unexpectedToken t.text, some t.position⟩

/-- The tokens after the parenthesis that closes the one opened by `opener`. -/
def closed (opener : Token) (tokens : List Token) :
    Except Mistake { rest : List Token // rest.length < tokens.length } :=
  match tokens with
  | [] => .error ⟨.missingClosing, some opener.position⟩
  | t :: rest =>
    if t.isSymbol .closing then .ok ⟨rest, Nat.lt_succ_self _⟩
    else .error ⟨.expectedClosing t.text, some t.position⟩

/-- A name that is not called. -/
def namedOperand (scope : Scope) (letters : List Char) (position : Nat) : Except Mistake Tree :=
  if scope.variableNames.contains letters then .ok (.free letters)
  else match Constant.ofLetters? letters with
    | some c => .ok (.constant c)
    | none => .error ⟨.unknownName letters, some position⟩

/-- The factorial signs after a power; each takes all before it. -/
def factorialSigns (tree : Tree) (text : List Char) (tokens : List Token) :
    Parsed (tokens.length + 1) :=
  match tokens with
  | [] => ⟨tree, text, [], by simp⟩
  | t :: rest =>
    if t.isSymbol .bang then
      (factorialSigns (.call .factorial [tree]) (callText .factorial [text]) rest).within _
        (by simp)
    else ⟨tree, text, t :: rest, Nat.lt_succ_self _⟩

mutual

def readSum (scope : Scope) (tokens : List Token) : Except Mistake (Parsed tokens.length) :=
  match readProduct scope tokens with
  | .error mistake => .error mistake
  | .ok first =>
    match readTerms scope first.tree first.text first.rest with
    | .error mistake => .error mistake
    | .ok whole => .ok (whole.within _ first.shorter)
termination_by (tokens.length, 5)
decreasing_by
  · exact Prod.Lex.right _ (by decide)
  · exact Prod.Lex.left _ _ first.shorter

/-- The further terms of a sum. -/
def readTerms (scope : Scope) (tree : Tree) (text : List Char) (tokens : List Token) :
    Except Mistake (Parsed (tokens.length + 1)) :=
  match tokens with
  | [] => .ok ⟨tree, text, [], by simp⟩
  | t :: after =>
    match t.additive? with
    | none => .ok ⟨tree, text, t :: after, Nat.lt_succ_self _⟩
    | some operation =>
      match readProduct scope after with
      | .error mistake => .error mistake
      | .ok right =>
        match readTerms scope (.binary operation tree right.tree) (text ++ t.text ++ right.text)
            right.rest with
        | .error mistake => .error mistake
        | .ok whole =>
          .ok (whole.within _ (by have := right.shorter; simp only [List.length_cons]; omega))
termination_by (tokens.length, 0)
decreasing_by
  · exact Prod.Lex.left _ _ (Nat.lt_succ_self _)
  · exact Prod.Lex.left _ _ (Nat.lt_succ_of_lt right.shorter)

def readProduct (scope : Scope) (tokens : List Token) : Except Mistake (Parsed tokens.length) :=
  match readSigned scope tokens with
  | .error mistake => .error mistake
  | .ok first =>
    match readFactors scope first.tree first.text first.rest with
    | .error mistake => .error mistake
    | .ok whole => .ok (whole.within _ first.shorter)
termination_by (tokens.length, 4)
decreasing_by
  · exact Prod.Lex.right _ (by decide)
  · exact Prod.Lex.left _ _ first.shorter

/-- The further factors of a product. -/
def readFactors (scope : Scope) (tree : Tree) (text : List Char) (tokens : List Token) :
    Except Mistake (Parsed (tokens.length + 1)) :=
  match tokens with
  | [] => .ok ⟨tree, text, [], by simp⟩
  | t :: after =>
    match t.multiplicative? with
    | none => .ok ⟨tree, text, t :: after, Nat.lt_succ_self _⟩
    | some operation =>
      match readSigned scope after with
      | .error mistake => .error mistake
      | .ok right =>
        match readFactors scope (.binary operation tree right.tree) (text ++ t.text ++ right.text)
            right.rest with
        | .error mistake => .error mistake
        | .ok whole =>
          .ok (whole.within _ (by have := right.shorter; simp only [List.length_cons]; omega))
termination_by (tokens.length, 0)
decreasing_by
  · exact Prod.Lex.left _ _ (Nat.lt_succ_self _)
  · exact Prod.Lex.left _ _ (Nat.lt_succ_of_lt right.shorter)

def readSigned (scope : Scope) (tokens : List Token) : Except Mistake (Parsed tokens.length) :=
  match tokens with
  | [] => .error ⟨.endsEarly, some scope.ending⟩
  | t :: after =>
    match t.sign? with
    | some negative =>
      match readSigned scope after with
      | .error mistake => .error mistake
      | .ok operand =>
        .ok ⟨.signed negative operand.tree, t.text ++ operand.text, operand.rest,
          Nat.lt_succ_of_lt operand.shorter⟩
    | none =>
      match readPower scope (t :: after) with
      | .error mistake => .error mistake
      | .ok power =>
        .ok ((factorialSigns power.tree power.text power.rest).within _ power.shorter)
termination_by (tokens.length, 3)
decreasing_by
  · exact Prod.Lex.left _ _ (Nat.lt_succ_self _)
  · exact Prod.Lex.right _ (by decide)

def readPower (scope : Scope) (tokens : List Token) : Except Mistake (Parsed tokens.length) :=
  match readOperand scope tokens with
  | .error mistake => .error mistake
  | .ok base =>
    match _h : base.rest with
    | [] => .ok base
    | t :: after =>
      if t.isSymbol .caret then
        match readExponent scope t after with
        | .error mistake => .error mistake
        | .ok exponent =>
          .ok ⟨.binary .raise base.tree exponent.tree, callText .power [base.text, exponent.text],
            exponent.rest, by
              have := base.shorter; have :=
                exponent.shorter; simp_all only [List.length_cons]; omega⟩
      else .ok base
termination_by (tokens.length, 2)
decreasing_by
  · exact Prod.Lex.right _ (by decide)
  · exact Prod.Lex.left _ _ (by have := base.shorter; simp_all only [List.length_cons]; omega)

/-- The exponent after a caret. -/
def readExponent (scope : Scope) (caret : Token) (tokens : List Token) :
    Except Mistake (Parsed tokens.length) :=
  match tokens with
  | [] => .error ⟨.missingRightOperand, some caret.position⟩
  | t :: after =>
    if !t.startsExponent then .error ⟨.missingRightOperand, some caret.position⟩
    else match t.sign? with
      | some negative =>
        match readExponent scope caret after with
        | .error mistake => .error mistake
        | .ok operand =>
          .ok ⟨.signed negative operand.tree, t.text ++ operand.text, operand.rest,
            Nat.lt_succ_of_lt operand.shorter⟩
      | none => readPower scope (t :: after)
termination_by (tokens.length, 3)
decreasing_by
  · exact Prod.Lex.left _ _ (Nat.lt_succ_self _)
  · exact Prod.Lex.right _ (by decide)

def readOperand (scope : Scope) (tokens : List Token) : Except Mistake (Parsed tokens.length) :=
  match tokens with
  | [] => .error ⟨.endsEarly, some scope.ending⟩
  | t :: after =>
    match t.lexeme with
    | .number digits => .ok ⟨.number (numeralValue digits), digits, after, Nat.lt_succ_self _⟩
    | .name letters =>
      match after, NamedFunction.ofLetters? letters with
      | next :: inside, some f =>
        if next.isSymbol .opening then
          match readArguments scope next inside with
          | .error mistake => .error mistake
          | .ok arguments =>
            if f.accepts arguments.trees.length then
              .ok ⟨.call f arguments.trees, callText f arguments.texts, arguments.rest, by
                have := arguments.shorter; simp only [List.length_cons]; omega⟩
            else .error ⟨.wrongCount f arguments.trees.length, some t.position⟩
        else .error ⟨.bareFunction letters, some t.position⟩
      | [], some _ => .error ⟨.bareFunction letters, some t.position⟩
      | after, none =>
        if (after.head?.any (Token.isSymbol · .opening)) then
          .error ⟨.notAFunction letters, some t.position⟩
        else match namedOperand scope letters t.position with
          | .error mistake => .error mistake
          | .ok tree => .ok ⟨tree, letters, after, Nat.lt_succ_self _⟩
    | .symbol .opening =>
      match readSum scope after with
      | .error mistake => .error mistake
      | .ok inner =>
        match closed t inner.rest with
        | .error mistake => .error mistake
        | .ok ⟨rest, shorter⟩ =>
          .ok ⟨inner.tree, '(' :: (inner.text ++ [')']), rest, by
            have := inner.shorter; simp only [List.length_cons]; omega⟩
    | .symbol _ => .error (strayToken t)
termination_by (tokens.length, 0)
decreasing_by
  all_goals exact Prod.Lex.left _ _ (by simp only [List.length_cons]; omega)

/-- The arguments of a call, after its opening parenthesis. -/
def readArguments (scope : Scope) (opener : Token) (tokens : List Token) :
    Except Mistake (Arguments tokens.length) :=
  match tokens with
  | [] => readFirstArgument scope opener []
  | t :: after =>
    if t.isSymbol .closing then .ok ⟨[], [], after, Nat.lt_succ_self _⟩
    else readFirstArgument scope opener (t :: after)
termination_by (tokens.length, 7)
decreasing_by
  all_goals exact Prod.Lex.right _ (by decide)

/-- One or more arguments up to the closing parenthesis. -/
def readFirstArgument (scope : Scope) (opener : Token) (tokens : List Token) :
    Except Mistake (Arguments tokens.length) :=
  match readSum scope tokens with
  | .error mistake => .error mistake
  | .ok first =>
    match _h : first.rest with
    | ⟨.symbol .comma, _⟩ :: after =>
      match readFirstArgument scope opener after with
      | .error mistake => .error mistake
      | .ok others =>
        .ok ⟨first.tree :: others.trees, first.text :: others.texts, others.rest, by
          have := first.shorter; have := others.shorter; simp_all only [List.length_cons]; omega⟩
    | rest =>
      match closed opener rest with
      | .error mistake => .error mistake
      | .ok ⟨after, shorter⟩ =>
        .ok ⟨[first.tree], [first.text], after, by
          have := first.shorter; simp_all only; omega⟩
termination_by (tokens.length, 6)
decreasing_by
  · exact Prod.Lex.right _ (by decide)
  · exact Prod.Lex.left _ _ (by have := first.shorter; simp_all only [List.length_cons]; omega)

end

/-- Reads all tokens as one formula. -/
def readTokens (scope : Scope) (tokens : List Token) : Except Mistake (Tree × List Char) :=
  if tokens.isEmpty then .error ⟨.empty, none⟩
  else match readSum scope tokens with
    | .error mistake => .error mistake
    | .ok whole =>
      match whole.rest with
      | [] => .ok (whole.tree, whole.text)
      | t :: _ =>
        if t.isSymbol .closing then .error ⟨.unbalancedClosing, some t.position⟩
        else .error (strayToken t)

/-- A formula: its tree, its text in full, and its source without blanks. -/
structure Formula where
  tree : Tree
  rewritten : String
  stripped : String

namespace Formula

/-- Reads a formula in the given variables. -/
def parse (variableNames : List String) (source : String) : Except FormulaError Formula :=
  let chars := withoutBlanks source.toList
  let stripped := String.ofList chars
  let scope : Scope := ⟨variableNames.map String.toList, chars.length⟩
  match (scan chars).bind fun tokens => readTokens scope (spelledOut tokens) with
  | .error mistake => .error ⟨mistake, stripped⟩
  | .ok (tree, text) => .ok ⟨tree, String.ofList text, stripped⟩

/-- The variables a curve may be written in. -/
def knownVariables : List String := ["x", "y", "t"]

/-- The one variable a formula is written in, if it has one. -/
def inferVariable? (source : String) : Except FormulaError (Option String) :=
  (parse knownVariables source).bind fun formula =>
    match formula.tree.variableNames with
    | [] => .ok none
    | [name] => .ok (some name)
    | names => .error ⟨⟨.mixedVariables names, none⟩, formula.stripped⟩

end Formula

end CurveBoard
