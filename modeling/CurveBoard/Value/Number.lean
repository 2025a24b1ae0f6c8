import CurveBoard.Scalar

/-!
# Numbers as given

A setting may be given as an integer of any size or as a double. Both mean the same number; messages
show it as it was given.
-/
namespace CurveBoard

inductive Number
  | whole (n : Int)
  | real (x : Float)
deriving Repr

/-- The double nearest to an integer, if it is not beyond the largest one. -/
def realOfInteger (n : Int) : Except ArithmeticFault Float :=
  let x := floatOfInt n
  if x.isFinite then .ok x else .error .integerTooLarge

namespace Number

def text : Number → String
  | whole n => toString n
  | real x => floatText x

def toReal : Number → Except ArithmeticFault Float
  | whole n => realOfInteger n
  | real x => .ok x

/-- The double nearest to a number, or NaN for an integer beyond all doubles. -/
def nearest (n : Number) : Float := n.toReal.toOption.getD Scalar.undefined

def isZero : Number → Bool
  | whole n => n == 0
  | real x => x == 0.0

/-- The integer part. -/
def toInteger : Number → Except ArithmeticFault Int
  | whole n => .ok n
  | real x => Scalar.toInteger Scalar.truncate x

/-- Whether a number is less than an integer. NaN is not. -/
def isBelow (n : Number) (bound : Int) : Bool :=
  match n with
  | whole m => m < bound
  | real x => x < floatOfInt bound

def isNaN : Number → Bool
  | whole _ => false
  | real x => x.isNaN

def isAbove (n : Number) (bound : Int) : Bool :=
  match n with
  | whole m => bound < m
  | real x => floatOfInt bound < x

/-- Whether one number is at most another, exactly. NaN compares with nothing. -/
def isAtMost : Number → Number → Bool
  | whole m, whole n => m ≤ n
  | real x, real y => x ≤ y
  | whole m, real y =>
    match Binary.ofFloat? y with
    | some b => (m : Rat) ≤ b.toRat
    | none => 0.0 < y
  | real x, whole n =>
    match Binary.ofFloat? x with
    | some b => b.toRat ≤ (n : Rat)
    | none => x < 0.0

/-- The largest double that is at most the number. A double exceeds the number just if it exceeds
this. -/
def floorReal : Number → Float
  | whole n =>
    let nearest := floatOfInt n
    if (whole n).isAtMost (real nearest) && !(real nearest).isAtMost (whole n) then
      if 0.0 < nearest then Float.ofBits (nearest.toBits - 1) else Float.ofBits (nearest.toBits + 1)
    else nearest
  | real x => x

/-- Combines integers exactly and other numbers as doubles. -/
def combine (onIntegers : Int → Int → Int) (onReals : Float → Float → Float)
    (m n : Number) :
    Except ArithmeticFault Number :=
  match m, n with
  | whole m, whole n => .ok (whole (onIntegers m n))
  | m, n => m.toReal.bind fun x => n.toReal.map fun y => real (onReals x y)

end Number

end CurveBoard
