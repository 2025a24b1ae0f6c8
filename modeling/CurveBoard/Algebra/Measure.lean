import CurveBoard.Algebra.Approximation

/-!
# Measured values

A measurement computes a real expression without symbols to so many binary digits and says how many
of them are right. A sum whose terms cancel is computed again with more digits, until enough of them
are right or there is no more room; terms that still cancel leave the size of their errors. Numbers,
constants, powers and exponentials are cut off, everything else is rounded.
-/
namespace CurveBoard

namespace BigFloat

/-- Cuts off all but so many binary digits. -/
def cut (bits : Nat) (x : BigFloat) : BigFloat :=
  let surplus := x.mantissa.natAbs.log2 + 1 - bits
  if surplus = 0 then x
  else
    let kept : Int := (x.mantissa.natAbs / twoPower surplus : Nat)
    scaled (if x.isNegative then -kept else kept) (x.exponent + surplus)

end BigFloat

/-- A number and how many of its binary digits are right. -/
structure Measured where
  value : BigFloat
  accuracy : Int

/-- What is measured with so many digits, where a sum may be given so many more; zero has no
measure. There is nothing at all where an expression is not real. -/
abbrev Measurement := (digits limit : Nat) → Option (Option Measured)

namespace Measured

/-- A number all of whose digits are right. -/
def full (digits : Nat) (x : BigFloat) : Option (Option Measured) :=
  some (if x.isZero then none else some ⟨x, digits⟩)

/-- A value that has been computed with some digits to spare, cut off. -/
def cutOff (digits : Nat) (z : Option ComplexFloat) : Option (Option Measured) :=
  z.bind fun z => if z.isReal then full digits (z.re.cut digits) else none

/-- A value that has been computed with some digits to spare, rounded. -/
def roundOff (digits : Nat) (z : Option ComplexFloat) : Option (Option Measured) :=
  z.bind fun z => if z.isReal then full digits (z.re.round digits) else none

/-- The sum of measured numbers, rounded. -/
def total (digits : Nat) (terms : List Measured) : Option Measured :=
  match terms with
  | [] => none
  | [term] => some term
  | first :: rest =>
    let error (m : Measured) : Int := m.value.size - m.accuracy
    let worst := rest.foldl (fun worst m => max worst (error m)) (error first)
    let sum := rest.foldl (fun sum m => sum + m.value) first.value
    some (if sum.isZero then ⟨⟨1, worst⟩, -1⟩ else ⟨sum.round digits, sum.size - worst⟩)

/-- Measures terms with more and more digits, until so many digits of the sum are right. -/
def sumFrom (terms : List Measurement) (wanted limit : Nat) :
    (fuel round digits : Nat) → Option (Option Measured)
  | 0, _, _ => none
  | fuel + 1, round, digits =>
    let room := min limit (2 * digits)
    match terms.mapM fun (term : Measurement) => term (digits + 10) room with
    | none => none
    | some parts =>
      match total wanted (parts.filterMap id) with
      | none => some none
      | some m =>
        if (wanted : Int) ≤ m.accuracy ∨ room < digits - wanted then some (some m)
        else
          sumFrom terms wanted limit fuel (round + 1)
            (digits + max (10 + twoPower round) ((wanted : Int) - m.accuracy).toNat)

def sum (terms : List Measurement) : Measurement := fun digits limit =>
  sumFrom terms digits limit 64 0 digits

def product (factors : List Measurement) : Measurement := fun digits limit =>
  (factors.mapM fun (factor : Measurement) =>
    factor (digits + factors.length + 5) limit).map fun parts =>
    if parts.any Option.isNone then none
    else
      let known : List Measured := parts.filterMap id
      some ⟨((known.map value).foldl (· * ·) 1).round digits,
        (known.map accuracy).foldl min digits⟩

/-- An exponent, with as many more digits as stand in front of its point, if those are many. -/
def exponent (x : Measurement) : Measurement := fun digits limit =>
  match x digits limit with
  | some (some m) =>
    if 5 < m.value.size then x (digits + m.value.size.toNat) limit else some (some m)
  | other => other

def exponential (x : Measurement) : Measurement := fun digits limit =>
  match exponent x (digits + 10) limit with
  | none => none
  | some none => full digits 1
  | some (some m) =>
    cutOff digits ((m.value.exp? (digits + BigFloat.spare)).map ComplexFloat.ofReal)

def integerPower (base : Measurement) (n : Int) : Measurement := fun digits limit =>
  match base (digits + n.natAbs.log2 + 5) limit with
  | some (some m) =>
    cutOff digits (ComplexFloat.intPower? (digits + 2 * BigFloat.spare) (.ofReal m.value) n)
  | some none => if 0 < n then some none else none
  | none => none

def power (base y : Measurement) : Measurement := fun digits limit =>
  match exponent y (digits + 10) limit with
  | some (some y) =>
    match base (digits + 15 + y.value.size.toNat) limit with
    | some (some x) =>
      if x.value.isNegative then none
      else
        cutOff digits
          (ComplexFloat.power? (digits + BigFloat.spare) (.ofReal x.value) (.ofReal y.value))
    | _ => none
  | some none => full digits 1
  | none => none

def squareRoot (x : Measurement) : Measurement := fun digits limit =>
  match x (digits + 5) limit with
  | some (some m) =>
    if m.value.isNegative then none
    else cutOff digits (some (.ofReal (m.value.root (digits + BigFloat.spare))))
  | other => other

def logarithm (x : Measurement) : Measurement := fun digits limit =>
  match x (digits + 10) limit with
  | some (some m) =>
    if m.value.isNegative then none
    else
      let rough := m.value.logMagnitude digits
      -- close to one the argument is needed with more digits
      if rough.isZero || -10 ≤ rough.size then full digits rough
      else
        match x (digits + 20 + (-rough.size).toNat) limit with
        | some (some m) => full digits (m.value.logMagnitude digits)
        | _ => none
  | _ => none

/-- A sine or cosine, with as many digits of the argument as it takes. -/
def circularFrom (isSine : Bool) (x : Measurement) (digits limit : Nat) :
    (fuel argumentDigits : Nat) → Option (Option Measured)
  | 0, _ => none
  | fuel + 1, argumentDigits =>
    match x argumentDigits limit with
    | none => none
    | some none => if isSine then some none else full digits 1
    | some (some m) =>
      let (s, c) := m.value.sineCosine digits
      let y := if isSine then s else c
      let accuracy := (argumentDigits : Int) - max m.value.size 0 + y.size
      if m.value.size < 1 || (digits : Int) ≤ accuracy then full digits y
      else if limit < argumentDigits then some (some ⟨y, accuracy⟩)
      else
        circularFrom isSine x digits limit fuel
          (argumentDigits + (if 10 ≤ m.value.size then m.value.size.toNat else 0) +
            (-y.size).toNat)

def circular (isSine : Bool) (x : Measurement) : Measurement := fun digits limit =>
  circularFrom isSine x digits limit 64 (digits + 20)

def arctangent (x : Measurement) : Measurement := fun digits limit =>
  match x (digits + 5) limit with
  | some (some m) => full digits (m.value.arctan digits)
  | other => other

def modulus (x : Measurement) : Measurement := fun digits limit =>
  (x (digits + 2) limit).map fun m => m.map fun m => ⟨m.value.magnitude, m.accuracy⟩

/-- How many more digits a sum may be given in an argument of a function. -/
def argumentSurplus : Nat := 333

/-- Any other function, of arguments with some digits more. -/
def function (f : AlgebraicFunction) (arguments : List Measurement) : Measurement := fun digits _ =>
  (arguments.mapM fun (x : Measurement) => x (digits + 5) argumentSurplus).bind fun parts =>
    roundOff digits (f.approximate? digits (parts.map fun m => .ofReal ((m.map value).getD 0)))

end Measured

namespace Expression

mutual
def measurement : Expression → Measurement
  | number (.exact q) => fun digits _ =>
    Measured.full digits ((BigFloat.ofRat (2 * digits) q).cut digits)
  | number (.rounded x) => fun digits _ => Measured.full digits x
  | constant .pi => fun digits _ =>
    Measured.full digits ((BigFloat.pi (digits + BigFloat.spare)).cut digits)
  | constant .e => fun digits _ =>
    Measured.cutOff digits (((1 : BigFloat).exp? (digits + BigFloat.spare)).map ComplexFloat.ofReal)
  | sum terms => Measured.sum (measurements terms)
  | product factors => Measured.product (measurements factors)
  | power base exponent =>
    match exponent.integer? with
    | some n => Measured.integerPower base.measurement n
    | none =>
      if exponent.rational? == some (1 / 2) then Measured.squareRoot base.measurement
      else if base.isEuler then Measured.exponential exponent.measurement
      else Measured.power base.measurement exponent.measurement
  | call f arguments =>
    match f, measurements arguments with
    | .named .exponential, [x] => Measured.exponential x
    | .named .naturalLogarithm, [x] => Measured.logarithm x
    | .named (.circular false false .sine), [x] => Measured.circular true x
    | .named (.circular false false .cosine), [x] => Measured.circular false x
    | .named (.circular true false .tangent), [x] => Measured.arctangent x
    | .named .absoluteValue, [x] => Measured.modulus x
    | f, xs => Measured.function f xs
  | _ => fun _ _ => none

def measurements : List Expression → List Measurement
  | [] => []
  | e :: rest => e.measurement :: measurements rest
end

/-- The digits that are wanted of a value, and how many more a sum may be given. -/
def wantedDigits : Nat := precision + 4

def greatestSurplus : Nat := 332

/-- The value of a real expression without symbols, with as many digits as are right. -/
def measured? (e : Expression) : Option BigFloat :=
  (e.measurement wantedDigits greatestSurplus).map fun m =>
    match m with
    | none => 0
    | some m => m.value.round (max (min precision m.accuracy.toNat) 1)

end Expression

end CurveBoard
