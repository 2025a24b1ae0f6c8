import CurveBoard.Algebra.Calculus

/-!
# Products

The factors of a product are a number, powers of `-1`, roots of whole numbers, and powers of other
bases. Powers of one base are joined if their exponents differ by a number factor only, and so are
powers of numbers with one exponent. Roots are joined and freed of common factors, so that `√2 ·
√6` is `2 √3`.
-/
namespace CurveBoard

/-- A base with its exponent. -/
abbrev Powered := Expression × Expression

/-- The product of numbers, where nothing stands for infinity without direction. -/
def multiplied (n : Option Coefficient) (d : Coefficient) : Option Coefficient :=
  match n with
  | none => if d.isZero || d == .undefined then some .undefined else none
  | some n => some (n * d)

/-- A product under way. -/
structure FactorCollection where
  /-- The number in front, unless it is infinity without direction. -/
  number : Option Coefficient
  /-- The exponent of `-1`. -/
  signPower : Rat
  powers : List Powered
  /-- Powers of numbers whose exponents are no numbers. -/
  numberPowers : List Powered
  /-- Whole numbers with the exponents, from zero to one, of their roots. -/
  radicals : List (Nat × Rat)

namespace FactorCollection

def empty : FactorCollection := ⟨some 1, 0, [], [], []⟩

def multiplyNumber (f : FactorCollection) (d : Coefficient) : FactorCollection :=
  { f with number := multiplied f.number d }

def multiplyUnbounded (f : FactorCollection) : FactorCollection :=
  match f.number with
  | none => f
  | some n => { f with number := if n.isZero || n == .undefined then some .undefined else none }

def addRadical (n : Nat) (r : Rat) : List (Nat × Rat) → List (Nat × Rat)
  | [] => [(n, r)]
  | (m, s) :: rest => if m = n then (m, s + r) :: rest else (m, s) :: addRadical n r rest

/-- A power of a number. -/
def multiplyNumberPower (f : FactorCollection) (c : Calculus) (base : Coefficient)
    (exponent : Expression) :
    FactorCollection :=
  let e := Expression.power (.number base) exponent
  match base.rational?, exponent.rational? with
  | some q, some r =>
    if r.den = 1 then
      match (c.power (.number base) exponent).number? with
      | some d => f.multiplyNumber d
      | none => { f with powers := f.powers ++ [e.splitPower] }
    else if q.den = 1 && 0 < r then
      let f := if q < 0 then { f with signPower := f.signPower + r } else f
      if q.num.natAbs = 1 then f else { f with radicals := addRadical q.num.natAbs r f.radicals }
    else { f with powers := f.powers ++ [e.splitPower] }
  | _, _ =>
    if base.isPositive || exponent.nature.isInteger then
      { f with numberPowers := f.numberPowers ++ [e.splitPower] }
    else { f with powers := f.powers ++ [e.splitPower] }

def multiply (c : Calculus) (f : FactorCollection) (factor : Expression) : FactorCollection :=
  match factor with
  | .number d => f.multiplyNumber d
  | .unbounded => f.multiplyUnbounded
  | .imaginaryUnit => { f with signPower := f.signPower + 1 / 2 }
  | .power (.number base) exponent => f.multiplyNumberPower c base exponent
  | factor => { f with powers := f.powers ++ [factor.splitPower] }

end FactorCollection

/-- The exponents of one base: each tail without a number, with the sum of the numbers in front. -/
abbrev Exponents := List (Expression × Coefficient)

namespace Exponents

def add (tail : Expression) (n : Coefficient) : Exponents → Exponents
  | [] => [(tail, n)]
  | (other, m) :: rest => if other == tail then (other, m + n) :: rest
    else (other, m) :: add tail n rest

end Exponents

def addExponent (base tail : Expression) (n : Coefficient) :
    List (Expression × Exponents) → List (Expression × Exponents)
  | [] => [(base, [(tail, n)])]
  | (other, exponents) :: rest =>
    if other == base then (other, exponents.add tail n) :: rest
    else (other, exponents) :: addExponent base tail n rest

/-- Joins the powers of one base whose exponents have one tail. -/
def gather (c : Calculus) (powers : List Powered) : List Powered :=
  let grouped := powers.foldl (fun groups (base, exponent) =>
    let (n, tail) := exponent.splitNumber
    addExponent base tail n groups) []
  grouped.flatMap fun (base, exponents) =>
    exponents.map fun (tail, n) => (base, c.product [.number n, tail])

/-- Powers of numbers with one exponent become the power of their product. -/
def joinBases (c : Calculus) (powers : List Powered) : List Expression :=
  let grouped :=
    powers.foldl (fun (groups : List (Expression × List Expression)) (base, exponent) =>
    if groups.any fun (e, _) => e == exponent then
      groups.map fun (e, bases) => if e == exponent then (e, bases ++ [base]) else (e, bases)
    else groups ++ [(exponent, [base])]) []
  (grouped.filter fun (e, _) => e.rational? != some 0).map fun (e, bases) =>
    c.power (c.product bases) e

/-- What has been put together of a product: the number in front and the other factors. -/
structure Assembly where
  number : Option Coefficient
  parts : List Expression

namespace Assembly

def multiply (a : Assembly) (d : Coefficient) : Assembly :=
  { a with number := multiplied a.number d }

/-- Adds a factor, which may be a number. -/
def put (a : Assembly) (e : Expression) : Assembly :=
  match e with
  | .number d => a.multiply d
  | e => { a with parts := a.parts ++ [e] }

end Assembly

/-- Whether a base has an infinite part, so that its power zero has no value. -/
def hasInfinitePart (e : Expression) : Bool :=
  let infinite (e : Expression) : Bool :=
    match e with
    | .unbounded => true
    | .number c => c.isInfinite
    | _ => false
  match e with
  | .sum terms => terms.any infinite
  | .product factors => factors.any infinite
  | _ => false

/-- Puts powers together; the second component says which base and exponent came out of each. -/
def assemblePowers (c : Calculus) (a : Assembly) (powers : List Powered) :
    Assembly × List Powered :=
  powers.foldl (fun (a, pairs) (base, exponent) =>
    match exponent with
    | .number e =>
      if e.isZero then if hasInfinitePart base then (a.multiply .undefined, pairs) else (a, pairs)
      else if e == 1 then (a.put base, if base.isNumber then pairs else pairs ++ [(base, exponent)])
      else assembled c a pairs base exponent
    | _ => assembled c a pairs base exponent) (a, [])
where
  assembled (c : Calculus) (a : Assembly) (pairs : List Powered) (base exponent : Expression) :
      Assembly × List Powered :=
    let p := c.power base exponent
    let pair := match p, base with
      | .power _ _, .power _ _ => (base, exponent)
      | .power _ _, _ => p.splitPower
      | _, _ => (base, exponent)
    (a.put p, pairs ++ [pair])

/-- Puts powers together; if bases have changed and now coincide, their powers are joined once
more. -/
def assembleAll (c : Calculus) (a : Assembly) (powers : List Powered) : Assembly :=
  let (assembled, pairs) := assemblePowers c a powers
  let bases := pairs.map Prod.fst
  let repeated := bases.zipIdx.any fun (b, i) => (bases.take i).any (· == b)
  if repeated then (assemblePowers c a (gather c pairs)).1 else assembled

/-- A positive exponent as its whole part and the rest. -/
def splitExponent (r : Rat) : Nat × Rat := (r.floor.toNat, r - (r.floor : Rat))

/-- Roots with one exponent are joined; the whole part of an exponent gives a whole number. -/
def joinRadicals (radicals : List (Nat × Rat)) : Rat × List (Nat × Rat) :=
  let grouped := radicals.foldl (fun (groups : List (Nat × Rat)) (n, r) =>
    if groups.any fun (_, s) => s == r then groups.map fun (m, s) =>
      if s == r then (m * n, s) else (m, s)
    else groups ++ [(n, r)]) []
  grouped.foldl (fun (number, kept) (n, r) =>
    let (whole, rest) := splitExponent r
    (number * (Nat.pow n whole : Nat), if rest = 0 then kept
      else kept ++ [(n, rest)])) ((1 : Rat), [])

/-- Takes the common factors of a root out of the roots after it: what remains of the root, the
others, the roots of the common factors, and a whole number. -/
def takeCommon (n : Nat) (r : Rat) :
    List (Nat × Rat) → Nat × List (Nat × Rat) × List (Nat × Rat) × Nat
  | [] => (n, [], [], 1)
  | (m, s) :: rest =>
    let g := Nat.gcd n m
    if g ≤ 1 then
      let (left, others, common, whole) := takeCommon n r rest
      (left, (m, s) :: others, common, whole)
    else
      let (power, part) := splitExponent (r + s)
      let (left, others, common, whole) := takeCommon (n / g) r rest
      (left, (m / g, s) :: others, if part = 0 then common else (g, part) :: common,
        whole * Nat.pow g power)

/-- Frees roots from common factors. A common factor makes the numbers smaller, so their logarithms
bound how often that happens. -/
def separateRadicals : (fuel : Nat) → List (Nat × Rat) → Nat × List (Nat × Rat)
  | 0, radicals => (1, radicals)
  | _, [] => (1, [])
  | fuel + 1, (n, r) :: rest =>
    if n = 1 then separateRadicals fuel rest
    else
      let (left, others, common, whole) := takeCommon n r rest
      let (number, kept) := separateRadicals fuel (others ++ common)
      (whole * number, if left = 1 then kept else (left, r) :: kept)

/-- The roots of whole numbers by their exponents, the bases multiplied. -/
def addRoot (exponent base : Expression) :
    List (Expression × List Expression) → List (Expression × List Expression)
  | [] => [(exponent, [base])]
  | (e, bases) :: rest =>
    if e == exponent then (e, bases ++ [base]) :: rest else (e, bases) :: addRoot exponent base rest

/-- The roots of whole numbers in lowest terms. -/
def lowestRoots (c : Calculus) (a : Assembly) (radicals : List (Nat × Rat)) :
    Assembly × List (Expression × Expression) :=
  let (number, joined) := joinRadicals radicals
  let fuel := joined.foldl (fun total (n, _) => total + 2 * n.log2 + 4) 4
  let (whole, separate) := separateRadicals (fuel * fuel) joined
  let (a, roots) := separate.foldl (fun (a, roots) (n, r) =>
      (c.power (.ofInt n) (.ofRat r)).factors.foldl (fun (a, roots) factor =>
        match factor with
        | .number d => (Assembly.multiply a d, roots)
        | .power base exponent => (a, addRoot exponent base roots)
        | e => (Assembly.put a e, roots)) (a, roots))
    (a.multiply (.exact (number * (whole : Rat))), [])
  (a, roots.map fun (e, bases) => (e, c.product bases))

/-- Joins the power of `-1` to the roots: a half is the imaginary unit, and another fraction goes to
a root of a positive number with that exponent. -/
def assembleRoots (c : Calculus) (a : Assembly) (signPower : Rat)
    (roots : List (Expression × Expression)) :
    Assembly :=
  let whole := signPower.floor
  let rest := signPower - (whole : Rat)
  let a := if whole % 2 = 0 then a else a.multiply (.ofInt (-1))
  let joins (e base : Expression) : Bool := e.rational? == some rest && base.nature.isPositive
  let (a, roots) :=
    if rest = 0 then (a, roots)
    else if rest = 1 / 2 then (a.put .imaginaryUnit, roots)
    else if roots.any fun (e, base) => joins e base then
      (a, roots.map fun (e, base) => if joins e base then (e, c.negate base) else (e, base))
    else (a.put (.power .minusOne (.ofRat rest)), roots)
  roots.foldl (fun a (e, base) => a.put (c.power base e)) a

namespace Expression

def isProduct : Expression → Bool
  | product _ => true
  | _ => false

/-- A root of a number in lowest terms has a positive exponent; others are written so. -/
def properFactors (c : Calculus) (e : Expression) : List Expression :=
  match e with
  | power (number base) (number (.exact r)) =>
    if r < 0 && r.den != 1 then (c.power (number base) (ofRat r)).factors else [e]
  | e => [e]

/-- The factors of the given expressions: first of those that are no products, then of the
products. -/
def allFactors (c : Calculus) (given : List Expression) : List Expression :=
  (given.filter (fun e => !e.isProduct) ++ (given.filter isProduct).flatMap factors).flatMap
    (properFactors c)

/-- What remains of the other factors beside an infinite number, and whether the sign changes. -/
def besideInfiniteFactor (parts : List Expression) : Bool × List Expression :=
  parts.foldl (fun (negative, kept) e =>
    let nature := e.nature
    if nature.isPositive then (negative, kept)
    else if nature.isNegative then (!negative, kept)
    else (negative, kept ++ [e])) (false, [])

/-- A number and other factors as a product; a number times a sum is multiplied out. -/
def ofNumberAndFactors (c : Calculus) (n : Coefficient) (parts : List Expression) : Expression :=
  let parts := sorted parts
  if n == 1 then ofFactors parts
  else
    match parts with
    | [sum terms] =>
      if n.isFinite then c.sum (terms.map fun t => c.product [number n, t])
        else product [number n, sum terms]
    | parts => ofFactors (number n :: parts)

/-- The product of what was put together. -/
def ofAssembly (c : Calculus) (a : Assembly) : Expression :=
  let parts := a.parts.flatMap factors
  match a.number with
  | none =>
    let kept := parts.filter fun e =>
      let nature := e.nature
      !(nature.isNonzero && (nature.isReal || nature.isNotReal))
    ofFactors (unbounded :: sorted kept)
  | some .undefined => undefined
  | some (.infinite negative) =>
    let (turned, kept) := besideInfiniteFactor parts
    ofNumberAndFactors c (.infinite (negative != turned)) kept
  | some n =>
    if n.isZero then
      if parts.any fun e => e == unbounded then undefined else number n
    else ofNumberAndFactors c n parts

end Expression

namespace Calculus

open Expression in
/-- The product of expressions of any kind. -/
def generalProduct (c : Calculus) (given : List Expression) : Expression :=
  let collected := (allFactors c given).foldl (FactorCollection.multiply c) .empty
  if collected.number == some .undefined then undefined
  else
    let start := assembleAll c ⟨collected.number, []⟩ (gather c collected.powers)
    let joined := (joinBases c (gather c collected.numberPowers)).foldl Assembly.put start
    let (a, roots) := lowestRoots c joined collected.radicals
    ofAssembly c (assembleRoots c a collected.signPower roots)

/-- A rational number other than zero times an expression. -/
def scaledProduct (c : Calculus) (q : Rat) (e : Expression) : Expression :=
  let (r, rest) := e.splitNumber
  let n := .exact q * r
  match rest with
  | .product factors => if n == 1 then rest else .product (.number n :: factors)
  | .sum terms => if n == 1 then rest else c.sum (terms.map fun t => c.product [.number n, t])
  | _ => c.generalProduct [.number (.exact q), e]

/-- The product of expressions. -/
def productRule (c : Calculus) (given : List Expression) : Expression :=
  if given.any Expression.isPole then .pole
  else
    match given.filter fun e => e.rational? != some 1 with
    | [] => 1
    | [factor] => factor
    | [.number (.exact q), e] => if q = 0 then c.generalProduct [0, e] else c.scaledProduct q e
    | [e, .number (.exact q)] => if q = 0 then c.generalProduct [e, 0] else c.scaledProduct q e
    | given => c.generalProduct given

end Calculus

end CurveBoard
