import CurveBoard.Algebra.BigFloat

/-!
# Numbers of algebra

A number is exact, or an approximation with the precision of doubles but no limit of size, or
infinite in one of the two real directions, or undefined. What is computed from an approximation is
one, except that a result of zero is exact again.
-/
namespace CurveBoard

/-- How many binary digits an approximation keeps. -/
def precision : Nat := 53

inductive Coefficient
  | exact (q : Rat)
  | rounded (x : BigFloat)
  | infinite (negative : Bool)
  | undefined
deriving DecidableEq

namespace Coefficient

instance : BEq Coefficient := ⟨fun a b => decide (a = b)⟩

instance {n : Nat} : OfNat Coefficient n where
  ofNat := exact (n : Rat)

def ofInt (n : Int) : Coefficient := exact (n : Rat)

/-- The result of a computation with approximations. -/
def approximation (x : BigFloat) : Coefficient :=
  let x := x.round precision
  if x.isZero then exact 0 else rounded x

/-- A measured number: an approximation, even if it is whole. -/
def ofFloat (x : Float) : Coefficient :=
  match BigFloat.ofFloat? x with
  | some x => rounded x
  | none => if x.isNaN then undefined else infinite (x < 0.0)

/-- A finite number as an approximation. -/
def approximate? : Coefficient → Option BigFloat
  | exact q => some (BigFloat.ofRat precision q)
  | rounded x => some x
  | _ => none

def isZero : Coefficient → Bool
  | exact q => q == 0
  | rounded x => x.isZero
  | _ => false

def isOne (c : Coefficient) : Bool := c == exact 1

def isNegative : Coefficient → Bool
  | exact q => q < 0
  | rounded x => x.isNegative
  | infinite negative => negative
  | undefined => false

def isPositive : Coefficient → Bool
  | exact q => 0 < q
  | rounded x => x.isPositive
  | infinite negative => !negative
  | undefined => false

def isFinite : Coefficient → Bool
  | exact _ => true
  | rounded _ => true
  | _ => false

def isInfinite : Coefficient → Bool
  | infinite _ => true
  | _ => false

/-- The exact number, if it is one. -/
def rational? : Coefficient → Option Rat
  | exact q => some q
  | _ => none

/-- The exact integer, if it is one. -/
def integer? : Coefficient → Option Int
  | exact q => if q.den = 1 then some q.num else none
  | _ => none

instance : Neg Coefficient where
  neg
    | exact q => exact (-q)
    | rounded x => rounded (-x)
    | infinite negative => infinite (!negative)
    | undefined => undefined

instance : Add Coefficient where
  add
    | exact p, exact q => exact (p + q)
    | undefined, _ => undefined
    | _, undefined => undefined
    | infinite negative, infinite negative' => if negative == negative' then infinite negative
      else undefined
    | infinite negative, _ => infinite negative
    | _, infinite negative => infinite negative
    | a, b =>
      match a.approximate?, b.approximate? with
      | some x, some y => approximation (x + y)
      | _, _ => undefined

instance : Mul Coefficient where
  mul
    | exact p, exact q => exact (p * q)
    | undefined, _ => undefined
    | _, undefined => undefined
    | a, b =>
      if a.isInfinite || b.isInfinite then
        if a.isZero || b.isZero then undefined else infinite (a.isNegative != b.isNegative)
      else
        match a.approximate?, b.approximate? with
        | some x, some y => approximation (x * y)
        | _, _ => undefined

def magnitude (c : Coefficient) : Coefficient := if c.isNegative then -c else c

/-- The order of finite numbers. -/
def isLess (a b : Coefficient) : Bool := (a + -b).isNegative

/-- The rest on division by a positive natural number. -/
def modulo (c : Coefficient) (n : Nat) : Coefficient :=
  match c with
  | exact q => exact (q - ((n : Int) * (q / (n : Rat)).floor : Int))
  | rounded x => approximation (x - BigFloat.ofInt ((n : Int) * (x.floor / (n : Int))))
  | c => c

end Coefficient

end CurveBoard
