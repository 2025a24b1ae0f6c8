import CurveBoard.Sampling.Polyline

/-!
# Walking along a curve

A curve is known at many fine samples, each with the slopes in device space before and after it. The
walk keeps the points to be drawn:

* an infinite value is replaced by a point just inside the limits, after which the curve breaks;
* it breaks at an asymptote, where both slopes are steep and of opposite sign;
* it breaks where the sample is outside the limits;
* of the other samples, every `stride`-th after a break is kept, and all where the curve is steep.
  One that is not kept is held back in case the walk ends there.
-/
namespace CurveBoard

open Scalar

/-- What a sampler aims at. -/
structure Settings (α : Type) where
  /-- Fine steps in a coarse one. -/
  microSteps : α
  /-- Of how many fine samples one is kept. -/
  stride : Nat
  asymptoteSlope : α
  edgeSlope : α
  infinityEpsilon : α
  overscan : α
  drawBeyondX : Bool
  drawBeyondY : Bool
deriving Repr

/-- A point of a curve and its slopes, in pixels per unit of the parameter. -/
structure Sample (α : Type) where
  x : α
  y : α
  slopeBefore : α
  slopeAfter : α
deriving Repr

/-- The closed range of abscissas and the open range of ordinates where points are accepted. -/
structure Limits (α : Type) where
  x : α × α
  y : α × α
deriving Repr

variable {α : Type} [Scalar α]

namespace Limits

def admitsX (limits : Limits α) (x : α) : Bool :=
  decide (limits.x.1 ≤ x) && decide (x ≤ limits.x.2)

def admitsY (limits : Limits α) (y : α) : Bool :=
  decide (limits.y.1 < y) && decide (y < limits.y.2)

end Limits

namespace Sample

def isAsymptote (settings : Settings α) (s : Sample α) : Bool :=
  decide (settings.asymptoteSlope < absolute s.slopeBefore)
    && decide (settings.asymptoteSlope < absolute s.slopeAfter)
    && !(sign s.slopeBefore == sign s.slopeAfter)

def isSteep (settings : Settings α) (s : Sample α) : Bool :=
  decide (s.slopeBefore < -settings.edgeSlope) || decide (settings.edgeSlope < s.slopeBefore)

def isAccepted (limits : Limits α) (s : Sample α) : Bool :=
  limits.admitsY s.y && limits.admitsX s.x

/-- The point just inside the limits that stands for an infinite ordinate. -/
def clamped? (settings : Settings α) (limits : Limits α) (s : Sample α) : Option (Point α) :=
  if !limits.admitsX s.x then none
  else if s.y == -infinity then some (s.x, limits.y.1 + settings.infinityEpsilon)
  else if s.y == infinity then some (s.x, limits.y.2 - settings.infinityEpsilon)
  else none

end Sample

/-- A trace and how many samples it has accepted since the last break. -/
structure Walk (α : Type) where
  trace : Trace α
  accepted : Nat

namespace Walk

def start : Walk α := ⟨Trace.empty, 0⟩

def step (settings : Settings α) (limits : Limits α) (w : Walk α) (s : Sample α) : Walk α :=
  let trace := match s.clamped? settings limits with
    | some p => w.trace.push p
    | none => w.trace
  if s.isAsymptote settings || !s.isAccepted limits then ⟨trace.cut, 0⟩
  else if w.accepted % settings.stride == 0 || s.isSteep settings then
    ⟨trace.push (s.x, s.y), w.accepted + 1⟩
  else ⟨trace.holdBack (s.x, s.y), w.accepted + 1⟩

end Walk

/-- The polylines of a curve that is known at fine samples. -/
def walk (settings : Settings α) (limits : Limits α) (samples : List (Sample α)) :
    List (Polyline α) :=
  (samples.foldl (Walk.step settings limits) Walk.start).trace.polylines

/-- The polylines of a curve `(f(y), y)` that is known at coarse samples. All points inside the
range of abscissas are kept, and infinite abscissas are replaced by points just inside it. -/
def walkInverse (range : α × α) (epsilon : α) (points : List (Point α)) : List (Polyline α) :=
  (points.foldl (fun trace (x, y) =>
    let trace :=
      if x == -infinity then trace.push (range.1 + epsilon, y)
      else if x == infinity then trace.push (range.2 - epsilon, y)
      else trace
    if range.1 < x && x < range.2 then trace.push (x, y) else trace.cut) Trace.empty).polylines

end CurveBoard
