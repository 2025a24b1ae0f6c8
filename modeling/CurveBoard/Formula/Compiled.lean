import CurveBoard.Formula.Evaluation
import CurveBoard.Formula.Parse
import CurveBoard.Text.Letter

/-!
# Compiled formulas

A formula that has been read, together with its source and the name of its variable, is a function
of one number or of an array. Two of them in one parameter are a plane curve.

The cache keeps the most recently used formulas by source and variable. Each has a serial number, so
that a formula taken from the cache can be told from one compiled anew.
-/
namespace CurveBoard

/-- A formula of one variable, as it is read from its source. -/
structure CompiledFormula where
  source : String
  variableName : String
  formula : Formula
  read : Formula.parse [variableName] source = .ok formula

namespace CompiledFormula

def tree (c : CompiledFormula) : Tree := c.formula.tree

def isConstant (c : CompiledFormula) : Bool := c.tree.isConstant

def describe (c : CompiledFormula) : String :=
  s!"CompiledExpression({quoted c.source}, variable={quoted c.variableName})"

/-- The values on an array, in its shape; nothing if a product in the formula has no end there. -/
def onArray? (c : CompiledFormula) (dice : Dice) (input : Nested Float) : Option (Nested Float) :=
  (c.tree.evaluate? dice input).map input.filledLike

def onNumber? (c : CompiledFormula) (dice : Dice) (x : Float) : Option Float :=
  (c.onArray? dice (.single x)).map fun value => value.entries.headD Scalar.undefined

/-- The value at a number as one for further computation, which a product without an end is not
given to: it counts as undefined. -/
def onNumber (c : CompiledFormula) (dice : Dice) (x : Float) : Float :=
  (c.onNumber? dice x).getD Scalar.undefined

/-- The values at the points of a list, all of them undefined if a product has no end at one of the
points. -/
def onList (c : CompiledFormula) (dice : Dice) (xs : List Float) : List Float :=
  ((c.onArray? dice (.ofList xs)).map Nested.entries).getD (xs.map fun _ => Scalar.undefined)

end CompiledFormula

/-- A curve whose coordinates are two formulas in one parameter. -/
structure ParametricFormula where
  abscissa : CompiledFormula
  ordinate : CompiledFormula

namespace ParametricFormula

def describe (p : ParametricFormula) : String :=
  s!"ParametricExpression({quoted p.abscissa.source}, {quoted p.ordinate.source})"

end ParametricFormula

/-- A compiled formula and the number of the compilation that made it. -/
structure CachedFormula where
  serial : Nat
  compiled : CompiledFormula

namespace CachedFormula

def isFor (entry : CachedFormula) (source variableName : String) : Bool :=
  entry.compiled.source == source && entry.compiled.variableName == variableName

end CachedFormula

/-- Compiled formulas, the most recently used first. -/
structure FormulaCache where
  entries : List CachedFormula
  nextSerial : Nat

namespace FormulaCache

def capacity : Nat := 256

def empty : FormulaCache := ⟨[], 0⟩

/-- Forgets all formulas; serial numbers go on. -/
def clear (cache : FormulaCache) : FormulaCache := { cache with entries := [] }

def lookup? (cache : FormulaCache) (source variableName : String) : Option CachedFormula :=
  cache.entries.find? (·.isFor source variableName)

/-- Puts an entry first and drops the one least recently used if there are too many. -/
def promote (cache : FormulaCache) (entry : CachedFormula) : List CachedFormula :=
  let others := cache.entries.filter fun other =>
    !other.isFor entry.compiled.source entry.compiled.variableName
  (entry :: others).take capacity

/-- Compiles a formula unless the cache has it. A formula with a mistake leaves the cache as it
is. -/
def compile (cache : FormulaCache) (source variableName : String) :
    Except FormulaError CachedFormula × FormulaCache :=
  match cache.lookup? source variableName with
  | some entry => (.ok entry, { cache with entries := cache.promote entry })
  | none =>
    match read : Formula.parse [variableName] source with
    | .error e => (.error e, cache)
    | .ok formula =>
      let entry : CachedFormula := ⟨cache.nextSerial, ⟨source, variableName, formula, read⟩⟩
      (.ok entry, ⟨cache.promote entry, cache.nextSerial + 1⟩)

end FormulaCache

/-- Whether a name can be a variable's: letters only, of any script, and at least one. -/
def isVariableName (name : String) : Bool := !name.isEmpty && name.toList.all isLetter

end CurveBoard
