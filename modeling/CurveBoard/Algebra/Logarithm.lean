import CurveBoard.Algebra.Calculus
import CurveBoard.Algebra.Radical

/-!
# Exponentials and logarithms

They undo each other where the principal value allows it. The exponential of a multiple of a
logarithm is a power, that of a sum takes the terms with simpler exponentials out, and that of an
imaginary multiple of the half turn is known. The logarithm of a negative number has half a turn as
its imaginary part.
-/
namespace CurveBoard

namespace Calculus

variable (c : Calculus)

def exponential (x : Expression) : Expression := c.named .exponential x

def logarithm (x : Expression) : Expression := c.named .naturalLogarithm x

/-- The rational number that the half turn and the imaginary unit are multiplied with. -/
def imaginaryTurns? (e : Expression) : Option Rat :=
  match e with
  | .product [.constant .pi, .imaginaryUnit] => some 1
  | .product [.imaginaryUnit, .constant .pi] => some 1
  | .product [.number n, .constant .pi, .imaginaryUnit] => n.rational?
  | .product [.number n, .imaginaryUnit, .constant .pi] => n.rational?
  | _ => none

/-- The exponential of a rational number of half turns. -/
def exponentialOfTurns? (r : Rat) : Option Expression :=
  if r.den = 1 then some (if r.num % 2 = 0 then 1 else .minusOne)
  else if r.den = 2 then
    some (if (r + 1 / 2).num % 2 = 0 then c.negate .imaginaryUnit else .imaginaryUnit)
  else
    let rest := r - (2 * (r / 2).floor : Rat)
    let rest := if 1 < rest then rest - 2 else rest
    if rest = r then none else some (c.exponential (c.product [.ofRat rest, .pi, .imaginaryUnit]))

/-- A product of one logarithm and real numbers: the argument of the logarithm, and the other
factors. -/
def splitLogarithm? (factors : List Expression) : Option (Expression × List Expression) :=
  let logarithm? (e : Expression) : Option Expression :=
    match e with
    | .call (.named .naturalLogarithm) [y] => some y
    | _ => none
  let isOther (e : Expression) : Bool := (logarithm? e).isNone
  match factors.filterMap logarithm? with
  | [y] =>
    let others := factors.filter isOther
    if others.all fun e => e.isNumber || (e.realValue?).isSome then some (y, others) else none
  | _ => none

/-- The exponential of a sum: terms with simpler exponentials become factors. -/
def exponentialOfSum? (terms : List Expression) : Option Expression :=
  let simplified : Expression → Option Expression := fun t =>
    if t == 1 then none
    else
      match c.exponential t with
      | .call (.named .exponential) [y] => if y == t then none else some (c.exponential t)
      | e => some e
  let isExponential : Expression → Bool
    | .call (.named .exponential) _ => true
    | _ => false
  let results := terms.map fun t => (t, simplified t)
  if results.all fun (_, s) => s.isNone then none
  else
    let out := results.filterMap fun (_, s) => s.bind fun e =>
      if isExponential e then none else some e
    let kept := results.filterMap fun (t, s) => match s with
      | none => some t
      | some (.call (.named .exponential) [y]) => some y
      | some _ => none
    let rest := c.sum kept
    let last := if rest == 0 then [] else if rest == 1 then [.constant .e]
      else [.named .exponential rest]
    some (c.product (out ++ last))

def exponentialRule? (x : Expression) : Option Expression :=
  match x with
  | .number n =>
    if n.isZero then some 1
    else if n == 1 then some (.constant .e)
    else
      match n with
      | .infinite negative => some (if negative then 0 else .infinity)
      | _ => none
  | .unbounded => some .undefined
  | .call (.named .naturalLogarithm) [y] => some y
  | .product factors =>
    match (imaginaryTurns? x).bind c.exponentialOfTurns? with
    | some e => some e
    | none => (splitLogarithm? factors).map fun (y, others) => c.power y (c.product others)
  | .sum terms => c.exponentialOfSum? terms
  | _ => none

/-- The logarithm of a number that stands for itself. -/
def logarithmOfNumber? (n : Coefficient) : Option Expression :=
  if n.isZero then some .unbounded
  else if n == 1 then some 0
  else if n.isInfinite then some .infinity
  else
    match n with
    | .exact q => if q.num = 1 then some (c.negate (c.logarithm (.ofInt q.den))) else none
    | _ => none

def logarithmRule? (x : Expression) : Option Expression :=
  let direct : Option Expression := match x with
    | .number n => c.logarithmOfNumber? n
    | .unbounded => some .unbounded
    | .constant .e => some 1
    | .call (.named .exponential) [y] =>
      if y.nature.isReal then some y
      else
        -- the imaginary part is moved to the principal range
        match y.certainParts with
        | (some re, some _) =>
          if re.isZero && y.isConstant then
            (imaginaryTurns? y).map fun r =>
              let rest := r - (2 * (r / 2).floor : Rat)
              c.product [.ofRat (if 1 < rest then rest - 2 else rest), .pi, .imaginaryUnit]
          else none
        | _ => none
    | _ => none
  let quarter := c.times (c.turn (1 / 2)) .imaginaryUnit
  direct.orElse fun _ =>
    if x.isConstant && x.nature.isNegative then
      some (c.add (c.times .pi .imaginaryUnit) (c.logarithm (c.negate x)))
    else
      match x with
      | .imaginaryUnit => some quarter
      | .product [.number n, .imaginaryUnit] =>
        match n.rational? with
        | some q =>
          some (if 0 ≤ q then c.add quarter (c.logarithm (.ofRat q))
            else c.subtract (c.logarithm (.ofRat (-q))) quarter)
        | none => none
      | _ => none

/-- How often ten divides a whole number, or the denominator of one divided by a whole number. -/
def tensIn (q : Rat) : Int :=
  let tens (n : Nat) : Nat :=
    min (Radical.divideOut 2 (n.log2 + 1) n).1 (Radical.divideOut 5 (n.log2 + 1) n).1
  if q = 0 then 0
  else if q.den = 1 then tens q.num.natAbs
  else if q.num.natAbs = 1 then -(tens q.den : Int)
  else (tens q.num.natAbs : Int) - (tens q.den : Int)

/-- The logarithm to the base ten: powers of ten are taken out of a rational number. -/
def decimalLogarithm (x : Expression) : Expression :=
  let ten := c.logarithm (.ofInt 10)
  match x.rational? with
  | some q =>
    let n := tensIn q
    if n = 0 then c.divide (c.logarithm x) ten
    else
      let rest := if 0 ≤ n then q / (Nat.pow 10 n.toNat : Nat)
        else q * (Nat.pow 10 (-n).toNat : Nat)
      c.add (.ofInt n) (c.divide (c.logarithm (.ofRat rest)) ten)
  | none => c.divide (c.logarithm x) ten

end Calculus

end CurveBoard
