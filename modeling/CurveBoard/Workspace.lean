import CurveBoard.Formula.Compiled

/-!
# The workspace

What all boards share: the cache of compiled formulas, the dice, the clock, and what has been
reported so far, which is log records and warnings, the latest first. Every use of a function takes
fresh dice.
-/
namespace CurveBoard

inductive LogLevel
  | debug
  | info
  | warning
deriving DecidableEq, Repr

namespace LogLevel

def rank : LogLevel → Nat
  | debug => 0
  | info => 1
  | warning => 2

end LogLevel

/-- The part of the library that writes a log record. -/
inductive LogSource
  | compiler
  | sampler
  | drawings
  | plot
  | board
deriving DecidableEq, Repr

structure LogRecord where
  source : LogSource
  level : LogLevel
  message : String
deriving DecidableEq, Repr

inductive Warning
  /-- The ends of a range were in the wrong order. -/
  | corrected (text : String)
  /-- Nothing of a plot can be seen. -/
  | degenerate (text : String)
deriving DecidableEq, Repr

structure Workspace where
  cache : FormulaCache
  dice : Dice
  clock : Float
  records : List LogRecord
  warnings : List Warning

namespace Workspace

def initial : Workspace := ⟨FormulaCache.empty, ⟨0⟩, 0.0, [], []⟩

def log (w : Workspace) (source : LogSource) (level : LogLevel) (message : String) : Workspace :=
  { w with records := ⟨source, level, message⟩ :: w.records }

def warn (w : Workspace) (warnings : List Warning) : Workspace :=
  { w with warnings := warnings.reverse ++ w.warnings }

/-- Dice for one use, and the workspace with other dice for the next. -/
def takeDice (w : Workspace) : Dice × Workspace :=
  (w.dice.part 0, { w with dice := w.dice.part 1 })

/-- Compiles a formula, by way of the cache. A compilation is logged before it can fail. -/
def compile (w : Workspace) (source variableName : String) :
    Except FormulaError CachedFormula × Workspace :=
  let w :=
    if (w.cache.lookup? source variableName).isSome then w
    else w.log .compiler .debug
      s!"compile_expression: cache MISS (source={quoted source}, variable={variableName})"
  let (result, cache) := w.cache.compile source variableName
  (result, { w with cache := cache })

end Workspace

/-- Why there is no compiled formula. -/
inductive CompileFault
  | malformed (e : FormulaError)
  | variableName (name : String)
  | variableKind (kind : String)
  | sourceKind (kind : String)
deriving DecidableEq, Repr

namespace CompileFault

def message : CompileFault → String
  | malformed e => e.message
  | variableName name => s!"Variable name must be alphabetic, got {quoted name}"
  | variableKind kind => s!"'{kind}' object has no attribute 'isalpha'"
  | sourceKind kind => s!"Expression source must be str, got {kind}"

end CompileFault

namespace Workspace

/-- Compiles a formula in a variable whose name may have been misspelled. -/
def compileIn (w : Workspace) (source variableName : String) :
    Except CompileFault CachedFormula × Workspace :=
  if isVariableName variableName then
    let (result, w) := w.compile source variableName
    (result.mapError .malformed, w)
  else (.error (.variableName variableName), w)

end Workspace

end CurveBoard
