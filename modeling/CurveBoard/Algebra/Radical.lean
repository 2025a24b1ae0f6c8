import CurveBoard.Decimal.Binary

/-!
# Roots of natural numbers

Integer roots, numbers that are powers of smaller ones, and the small prime factors of a number.
Primes beyond a limit are not looked for, so a factor that is left may be composite.
-/
namespace CurveBoard

namespace Radical

/-- The bits of a root from the `count`-th down, after those that are found. -/
def rootBits (n degree : Nat) : (count found : Nat) → Nat
  | 0, found => found
  | count + 1, found =>
    let next := found + twoPower count
    rootBits n degree count (if Nat.pow next degree ≤ n then next else found)

/-- The largest number whose power with the given degree is at most `n`. -/
def root (degree n : Nat) : Nat :=
  if degree ≤ 1 then n
  else if degree = 2 then n.sqrt
  else rootBits n degree (n.log2 / degree + 1) 0

/-- The root, if it is a whole number. -/
def exactRoot? (degree n : Nat) : Option Nat :=
  let r := root degree n
  if Nat.pow r degree = n then some r else none

/-- How often a prime divides a number, and what is left. -/
def divideOut (p : Nat) : (fuel : Nat) → Nat → Nat × Nat
  | 0, n => (0, n)
  | fuel + 1, n =>
    if 0 < n && n % p == 0 then
      let (e, left) := divideOut p fuel (n / p)
      (e + 1, left)
    else (0, n)

/-- Looks for the divisors from `d` on, `count` of them, two apart. -/
def factorsFrom : (count d : Nat) → (n : Nat) → List (Nat × Nat)
  | 0, _, n => if n = 1 then [] else [(n, 1)]
  | count + 1, d, n =>
    if n < d * d then if n = 1 then [] else [(n, 1)]
    else if n % d = 0 then
      let (e, left) := divideOut d (n.log2 + 1) n
      (d, e) :: factorsFrom count (d + 2) left
    else factorsFrom count (d + 2) n

/-- The prime factors below a limit with their exponents; the rest counts as one factor. -/
def factors (limit n : Nat) : List (Nat × Nat) :=
  let (e, left) := divideOut 2 (n.log2 + 1) n
  let odd := factorsFrom (limit / 2) 3 left
  if e = 0 then odd else (2, e) :: odd

/-- A number as the power of a smaller one with the greatest exponent. -/
def perfectPower? (n : Nat) : Option (Nat × Nat) :=
  if n < 4 then none
  else
    -- an exponent divides the exponent of every prime
    let small := factors 1000 n
    let degrees := match small with
      | (p, e) :: _ => if p < 1000 then (List.range (e + 1)).filter fun q => e % q = 0
        else List.range (n.log2 / 9 + 2)
      | [] => []
    ((degrees.filter fun q => 2 ≤ q).reverse).findSome? fun q =>
      (exactRoot? q n).map fun r => (r, q)

end Radical

end CurveBoard
