import CurveBoard.Formula.Token

/-!
# Full spelling

A formula may leave things out: `sin^-1` stands for `arcsin`, `2x` for `2*x`, and `log` for `log10`.
Three passes over the tokens write them in full, in this order, since the `-1` of an inverse in
front of a parenthesis would otherwise be read as a factor. A token that a pass adds has the
position of the token it stands before, or of the name it replaces.
-/
namespace CurveBoard

namespace Token

def isSymbol (t : Token) (s : Symbol) : Bool := t.lexeme == .symbol s

/-- The name of the inverse, for the name of an invertible function. -/
def inverse? (t : Token) : Option Token :=
  match t.lexeme with
  | .name letters =>
    if (NamedFunction.ofLetters? letters).any NamedFunction.invertible then
      some ⟨.name (inverseMark ++ letters), t.position⟩
    else none
  | _ => none

end Token

/-- How many tokens at the start mean the inverse: `^-1`, `^(-1)`, or none. -/
def inverseSuffixLength (tokens : List Token) : Nat :=
  let shape := tokens.map Token.lexeme
  if shape.take 3 = [.symbol .caret, .symbol .minus, .number ['1']] then 3
  else if shape.take 5 =
      [.symbol .caret, .symbol .opening, .symbol .minus, .number ['1'], .symbol .closing] then 5
  else 0

/-- Names an inverse by its own name. -/
def spellInverses : List Token → List Token
  | [] => []
  | t :: rest =>
    match t.inverse?, inverseSuffixLength rest with
    | some inverse, length + 1 => inverse :: spellInverses (rest.drop (length + 1))
    | _, _ => t :: spellInverses rest
termination_by tokens => tokens.length
decreasing_by all_goals simp only [List.length_drop, List.length_cons]; omega

/-- Whether two neighbours are factors of a product. After a numeral no other numeral can start
one. -/
def productDue (before after : Token) : Bool :=
  match before.lexeme, after.lexeme with
  | .number _, .number _ => false
  | .number _, .name _ => true
  | .number _, .symbol s => s == .opening
  | .name letters, .symbol s => letters == Constant.e.letters && s == .opening
  | .name letters, _ => letters == Constant.e.letters
  | .symbol s, .symbol s' => s == .closing && s' == .opening
  | .symbol s, _ => s == .closing

/-- Writes the product sign between factors. -/
def spellProducts : List Token → List Token
  | [] => []
  | [t] => [t]
  | t :: next :: rest =>
    if productDue t next then t :: ⟨.symbol .star, next.position⟩ ::
      spellProducts (next :: rest)
    else t :: spellProducts (next :: rest)

/-- The logarithm without a base has base ten. -/
def spellLogarithm (t : Token) : Token :=
  if t.lexeme = .name "log".toList then
    { t with lexeme := .name NamedFunction.decimalLogarithm.letters }
  else t

/-- All that a formula may leave out, written in full. -/
def spelledOut (tokens : List Token) : List Token :=
  (spellProducts (spellInverses tokens)).map spellLogarithm

end CurveBoard
