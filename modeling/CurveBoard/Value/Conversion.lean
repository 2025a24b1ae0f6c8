import CurveBoard.Value.Basic
import CurveBoard.Workspace

/-!
# Numbers from what a caller types

The end of a domain, a bound of a window or a count of points may be typed in as a number, as a text
that spells one, or as a formula without variables. A text is read as a number first; where that
gives no number of the wanted kind, it is compiled.
-/
namespace CurveBoard

/-- The kind of number that is wanted. -/
inductive NumberKind
  | real
  | whole
deriving DecidableEq, Repr

namespace NumberKind

def name : NumberKind → String
  | real => "float"
  | whole => "int"

def ofName? (name : String) : Option NumberKind := [real, whole].find? fun kind => kind.name == name

end NumberKind

/-- Why a value is not the number that is wanted. -/
inductive ConversionFault
  | emptyText (kind : NumberKind)
  | notReal (shown : String) (kind : NumberKind)
  | notFinite (shown : String)
  | notExact (shown : String)
  | malformed (shown : String) (kind : NumberKind) (detail : String)
  | notConstant (shown : String) (kind : NumberKind)
  | undefined (shown : String) (kind : NumberKind)
  | notANumber (shown : String) (kind : NumberKind)
  | unsupportedKind (name : String)
  | arithmetic (fault : ArithmeticFault)
deriving DecidableEq, Repr

namespace ConversionFault

def message : ConversionFault → String
  | emptyText kind => s!"Cannot convert empty string to {kind.name}."
  | notReal shown kind =>
    s!"Could not convert non-real {shown} to {kind.name}: imaginary part is non-zero."
  | notFinite shown => s!"Could not convert {shown} to int: value is not finite."
  | notExact shown => s!"Could not convert {shown} to int: value is not an exact integer."
  | malformed shown kind detail => s!"Could not convert {shown} to {kind.name}: {detail}."
  | notConstant shown kind =>
    s!"Could not convert {shown} to {kind.name}: expression is not a constant."
  | undefined shown kind => s!"Could not convert {shown} to {kind.name}: value is undefined."
  | notANumber shown kind => s!"Could not convert {shown} to {kind.name}."
  | unsupportedKind name =>
    s!"Unsupported destination type: <class '{name}'>. Only float and int are supported."
  | arithmetic fault => fault.message

end ConversionFault

/-- The kind of number with a name. -/
def NumberKind.ofName (name : String) : Except ConversionFault NumberKind :=
  (NumberKind.ofName? name).elim (.error (.unsupportedKind name)) .ok

/-- A complex number as a number of the wanted kind. If that may lose something, the imaginary part
is dropped and an integer is cut off after the point. -/
def settle (kind : NumberKind) (lossy : Bool) (re im : Float) : Except ConversionFault Number :=
  if !(im == 0.0) && !lossy then .error (.notReal (complexText re im) kind)
  else match kind with
    | .real => .ok (.real re)
    | .whole =>
      match Binary.ofFloat? re with
      | none => .error (.notFinite (complexText re im))
      | some b =>
        if !b.isInteger && !lossy then .error (.notExact (complexText re im))
        else .ok (.whole b.truncate)

/-- The value of a text as a formula without variables. -/
def settleFormula (kind : NumberKind) (lossy : Bool) (given source : String) (w : Workspace) :
    Except ConversionFault Number × Workspace :=
  match w.compile source "x" with
  | (.error e, w) => (.error (.malformed (quoted given) kind e.detail), w)
  | (.ok entry, w) =>
    if !entry.compiled.isConstant then (.error (.notConstant (quoted given) kind), w)
    else
      let (dice, w) := w.takeDice
      let value := entry.compiled.onNumber dice 0.0
      if value.isNaN then (.error (.undefined (quoted given) kind), w)
      else (settle kind lossy value 0.0, w)

/-- A typed-in value as a number of the wanted kind. -/
def convert (kind : NumberKind) (lossy : Bool) (given : Value) (w : Workspace) :
    Except ConversionFault Number × Workspace :=
  match given with
  | .text s =>
    let bare := trimBlanks s.toList
    if bare.isEmpty then (.error (.emptyText kind), w)
    else
      let read := (readFloat? bare).bind fun x => (settle kind lossy x 0.0).toOption
      match read with
      | some number => (.ok number, w)
      | none => settleFormula kind lossy s (String.ofList bare) w
  | .complex re im => (settle kind lossy re im, w)
  | given =>
    match given.number? with
    | some number =>
      match number.toReal with
      | .ok x => (settle kind lossy x 0.0, w)
      | .error fault => (.error (.arithmetic fault), w)
    | none => (.error (.notANumber given.shown kind), w)

/-- A typed-in value as a double. -/
def convertReal (given : Value) (w : Workspace) : Except ConversionFault Float × Workspace :=
  match convert .real true given w with
  | (.ok (.real x), w) => (.ok x, w)
  | (.ok (.whole n), w) => (.ok (floatOfInt n), w)
  | (.error fault, w) => (.error fault, w)

/-- A typed-in value as an integer. -/
def convertWhole (given : Value) (w : Workspace) : Except ConversionFault Int × Workspace :=
  match convert .whole true given w with
  | (.ok (.whole n), w) => (.ok n, w)
  | (.ok (.real x), w) => (.ok (Scalar.truncate x), w)
  | (.error fault, w) => (.error fault, w)

end CurveBoard
