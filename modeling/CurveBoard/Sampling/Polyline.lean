import CurveBoard.Scalar

/-!
# Polylines

A polyline has at least two points. A `Trace` collects the points of a curve in the order in which
they are found, and cuts them into polylines where the curve breaks; what has fewer than two points
is dropped. One point may be held back: it ends the last polyline if the trace ends with it, and is
forgotten otherwise.
-/
namespace CurveBoard

/-- Why there is no polyline. -/
inductive PolylineFault
  | short (count : Nat)
  | unpaired (count : Nat)
deriving DecidableEq, Repr

namespace PolylineFault

def message : PolylineFault → String
  | short count => s!"A segment needs at least 2 points, got {count}"
  | unpaired count => s!"cannot reshape array of size {count} into shape (2)"

end PolylineFault

structure Polyline (α : Type) where
  points : List (Point α)
  two_le : 2 ≤ points.length

namespace Polyline

variable {α : Type}

def size (p : Polyline α) : Nat := p.points.length

def first (p : Polyline α) : Point α :=
  p.points.head (List.ne_nil_of_length_pos (Nat.lt_of_lt_of_le Nat.zero_lt_two p.two_le))

def last (p : Polyline α) : Point α :=
  p.points.getLast (List.ne_nil_of_length_pos (Nat.lt_of_lt_of_le Nat.zero_lt_two p.two_le))

def ofPoints? (points : List (Point α)) : Option (Polyline α) :=
  if h : 2 ≤ points.length then some ⟨points, h⟩ else none

/-- The points whose coordinates are written one after the other. -/
def paired : List α → Except PolylineFault (List (Point α))
  | [] => .ok []
  | [_] => .error (.unpaired 1)
  | x :: y :: rest =>
    match paired rest with
    | .ok points => .ok ((x, y) :: points)
    | .error (.unpaired count) => .error (.unpaired (count + 2))
    | .error fault => .error fault

/-- The polyline whose coordinates are written one after the other. -/
def ofCoordinates (coordinates : List α) : Except PolylineFault (Polyline α) :=
  (paired coordinates).bind fun points =>
    (ofPoints? points).elim (.error (.short points.length)) .ok

/-- Whether two polylines have the same points in the same order. -/
def agrees [Scalar α] (p q : Polyline α) : Bool :=
  p.size == q.size && (p.points.zip q.points).all fun (a, b) => a.1 == b.1 && a.2 == b.2

/-- A polyline as messages show it. -/
def describe (p : Polyline Float) : String :=
  let shown (q : Point Float) : String := s!"({generalText 4 q.1}, {generalText 4 q.2})"
  s!"Segment(n={p.size}, start={shown p.first}, end={shown p.last})"

end Polyline

/-- Finished polylines and the points of the one under way, both the latest first, and the point
held back. -/
structure Trace (α : Type) where
  finished : List (Polyline α)
  current : List (Point α)
  heldBack : Option (Point α)

namespace Trace

variable {α : Type}

def empty : Trace α := ⟨[], [], none⟩

def push (t : Trace α) (p : Point α) : Trace α :=
  { t with current := p :: t.current, heldBack := none }

def holdBack (t : Trace α) (p : Point α) : Trace α := { t with heldBack := some p }

/-- Ends the polyline under way. -/
def cut (t : Trace α) : Trace α where
  finished := (Polyline.ofPoints? t.current.reverse).toList ++ t.finished
  current := []
  heldBack := none

/-- All polylines, after the point held back has been added to the one under way. -/
def polylines (t : Trace α) : List (Polyline α) :=
  let complete := match t.heldBack with
    | some p => if t.current.isEmpty then t else t.push p
    | none => t
  complete.cut.finished.reverse

end Trace

end CurveBoard
