import CurveBoard.Algebra.Calculus

/-!
# Sums

The terms of a sum are numbers times expressions without a number in front; those with the same
expression are collected. Infinity swallows what is finite.
-/
namespace CurveBoard

/-- A sum under way: the number, unless it is infinity without direction, and how often each
expression without a number is to be added. -/
structure TermCollection where
  number : Option Coefficient
  multiples : List (Expression × Coefficient)

namespace TermCollection

def empty : TermCollection := ⟨some 0, []⟩

/-- Adds a number; infinity without direction takes in finite numbers only. -/
def addNumber (t : TermCollection) (c : Coefficient) : TermCollection :=
  match t.number with
  | none => if c.isFinite then t else { t with number := some .undefined }
  | some number => { t with number := some (number + c) }

def addUnbounded (t : TermCollection) : TermCollection :=
  match t.number with
  | none => { t with number := some .undefined }
  | some number => { t with number := if number.isFinite then none else some .undefined }

def addMultiple (e : Expression) (c : Coefficient) :
    List (Expression × Coefficient) → List (Expression × Coefficient)
  | [] => [(e, c)]
  | (other, d) :: rest => if other == e then (other, d + c) :: rest
    else (other, d) :: addMultiple e c rest

def add (t : TermCollection) (term : Expression) : TermCollection :=
  match term with
  | .number c => t.addNumber c
  | .unbounded => t.addUnbounded
  | term =>
    let (c, e) := term.splitNumber
    { t with multiples := addMultiple e c t.multiples }

end TermCollection

namespace Expression

/-- The terms of the given expressions: first of those that are no sums, then of the sums. -/
def allTerms (terms : List Expression) : List Expression :=
  terms.filter (fun e => !e.isSum) ++ (terms.filter isSum).flatMap Expression.terms

/-- A number times an expression without a number in front. -/
def multiple (c : Calculus) (e : Expression) (n : Coefficient) : Expression :=
  if n == 1 then e
  else
    match e with
    | product factors => product (number n :: factors)
    | sum terms => product [number n, sum terms]
    | e => c.product [number n, e]

/-- What remains beside an infinite number. -/
def besideInfinity (n : Option Coefficient) (terms : List Expression) : List Expression :=
  match n with
  | none => terms.filter fun e => !(e.nature.finite && (e.nature.isReal || e.nature.isNotReal))
  | some (.infinite negative) => terms.filter fun e =>
      let nature := e.nature
      !((nature.isReal && nature.finite) ||
        (if negative then nature.isNonpositive else nature.isNonnegative))
  | _ => terms

end Expression

namespace Calculus

open Expression in
/-- The sum of expressions. -/
def sumRule (c : Calculus) (given : List Expression) : Expression :=
  if given.any isPole then pole
  else
    match given.filter fun e => e.rational? != some 0 with
    | [] => 0
    | [term] => term
    | given =>
      let collected := (allTerms given).foldl TermCollection.add .empty
      if collected.number == some .undefined then undefined
      else
        let kept := collected.multiples.filter fun (_, n) => !n.isZero
        let terms :=
          sorted (besideInfinity collected.number (kept.map fun (e, n) => multiple c e n))
        match collected.number with
        | none => ofTerms (unbounded :: terms)
        | some n => ofTerms (if n == 0 then terms else number n :: terms)

end Calculus

end CurveBoard
