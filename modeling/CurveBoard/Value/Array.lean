import CurveBoard.Nested
import CurveBoard.Value.Basic

/-!
# Arrays of doubles from values

Tuples of tuples are an array if all tuples at one depth have one length. What is absent from an
array counts as undefined.
-/
namespace CurveBoard

/-- Why a value is no array. -/
inductive ArrayFault
  | uneven (shape : List Nat)
  | entry (fault : ArgumentFault)
deriving DecidableEq, Repr

namespace ArrayFault

def shapeText : List Nat → String
  | [n] => s!"({n},)"
  | shape => "(" ++ ", ".intercalate (shape.map toString) ++ ")"

def message : ArrayFault → String
  | uneven shape =>
    "setting an array element with a sequence. The requested array has an inhomogeneous shape "
      ++ s!"after {shape.length} dimensions. "
      ++ s!"The detected shape was {shapeText shape} + inhomogeneous part."
  | entry fault => fault.message

end ArrayFault

namespace Nested

/-- The lengths that two shapes begin with alike. -/
def sharedLengths : List Nat → List Nat → List Nat
  | m :: shape, n :: shape' => if m = n then m :: sharedLengths shape shape' else []
  | _, _ => []

/-- The shape of rows of the given shapes as far as they are even, and whether they are. -/
def rowShape (shapes : List (List Nat × Bool)) : List Nat × Bool :=
  match shapes with
  | [] => ([0], true)
  | first :: rest =>
    let (shared, even) := rest.foldl (fun (shape, even) (shape', even') =>
      (sharedLengths shape shape', even && even' && shape == shape')) first
    (shapes.length :: shared, even)

/-- The shape of an array as far as it is even, and whether it is even throughout. -/
def evenShape {α : Type} : Nested α → List Nat × Bool
  | single _ => ([], true)
  | row _ items => rowShape (items.map fun item => item.evenShape)

end Nested

namespace Value

mutual
/-- A value with its tuples as rows. -/
def nested : Value → Nested Value
  | tuple items => .rowOf (nestedAll items)
  | v => .single v

def nestedAll : List Value → List (Nested Value)
  | [] => []
  | v :: rest => v.nested :: nestedAll rest
end

mutual
/-- The doubles of a value, read in order. -/
def entries : Value → Except ArgumentFault (Nested Float)
  | tuple items => (entriesOfAll items).map .rowOf
  | absent => .ok (.single Scalar.undefined)
  | v => v.toReal.map .single

def entriesOfAll : List Value → Except ArgumentFault (List (Nested Float))
  | [] => .ok []
  | v :: rest =>
    match v.entries with
    | .error fault => .error fault
    | .ok array => (entriesOfAll rest).map (array :: ·)
end

def array (v : Value) : Except ArrayFault (Nested Float) :=
  let (shape, even) := v.nested.evenShape
  if even then v.entries.mapError .entry else .error (.uneven shape)

end Value

end CurveBoard
