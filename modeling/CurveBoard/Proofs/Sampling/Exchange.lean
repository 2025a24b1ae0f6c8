import CurveBoard.Board.Settings
import CurveBoard.Proofs.Sampling.Modes

/-!
# Curves over the ordinates

A curve `(f(y), y)` is walked along by a loop of its own, which keeps all points inside the range of
abscissas. It is the walk along the graph of `f` with the axes exchanged: as long as the ordinates
are numbers no sample is outside their endless range, and where all slopes are zero there are no
asymptotes. With a stride of one every accepted sample is kept, so that no point is ever held back
and both loops have the same trace.
-/
namespace CurveBoard

open Scalar

section

variable {α : Type}

/-- A polyline with its axes exchanged. -/
def Polyline.exchanged (p : Polyline α) : Polyline α where
  points := p.points.map Prod.swap
  two_le := by simpa using p.two_le

private theorem Polyline.map_exchanged_ofPoints? (points : List (Point α)) :
    (ofPoints? points).map exchanged = ofPoints? (points.map Prod.swap) := by
  unfold ofPoints?
  simp only [List.length_map]
  split <;> rfl

namespace Trace

/-- A trace with its axes exchanged. -/
def exchanged (t : Trace α) : Trace α where
  finished := t.finished.map Polyline.exchanged
  current := t.current.map Prod.swap
  heldBack := t.heldBack.map Prod.swap

private theorem exchanged_cut (t : Trace α) : t.cut.exchanged = t.exchanged.cut := by
  simp only [cut, exchanged, List.map_append, ← Option.toList_map,
    Polyline.map_exchanged_ofPoints?, List.map_reverse, List.map_nil, Option.map_none]

private theorem polylines_exchanged (t : Trace α) :
    t.polylines.map Polyline.exchanged = t.exchanged.polylines := by
  have complete (t : Trace α) : t.cut.finished.reverse.map Polyline.exchanged =
      t.exchanged.cut.finished.reverse := by
    rw [← exchanged_cut, List.map_reverse]
    rfl
  obtain ⟨finished, current, heldBack⟩ := t
  cases heldBack with
  | none => exact complete _
  | some p =>
    cases current with
    | nil => exact complete _
    | cons first others => exact complete (push _ p)

end Trace

end

variable {α : Type} [Scalar α]

/-- The sample of a graph for a point `(f(y), y)`, as if the graph were level there. -/
def Sample.level (p : Point α) : Sample α := ⟨p.2, p.1, 0.0, 0.0⟩

/-- Settings by which all fine samples are kept: those of undivided steps. -/
def Settings.unthinned (settings : Settings α) : Settings α :=
  { settings with microSteps := 1.0, stride := 1 }

/-- One point of a curve `(f(y), y)`. -/
def Trace.inverseStep (range : α × α) (epsilon : α) (t : Trace α) (p : Point α) : Trace α :=
  let trace :=
    if p.1 == -infinity then t.push (range.1 + epsilon, p.2)
    else if p.1 == infinity then t.push (range.2 - epsilon, p.2)
    else t
  if range.1 < p.1 && p.1 < range.2 then trace.push (p.1, p.2) else trace.cut

private theorem walkInverse_eq_foldl (range : α × α) (epsilon : α) (points : List (Point α)) :
    walkInverse range epsilon points =
      (points.foldl (Trace.inverseStep range epsilon) Trace.empty).polylines := by
  rfl

section

variable {settings : Settings α} {range : α × α}

private theorem Sample.isAsymptote_level (same_sign : (sign (0.0 : α) == sign 0.0) = true)
    (p : Point α) :
    (level p).isAsymptote settings.unthinned = false := by
  simp [isAsymptote, level, same_sign]

/-- A number is never outside an endless range. -/
theorem Limits.admitsX_endless {y : α} (number : -infinity ≤ y ∧ y ≤ infinity) :
    Limits.admitsX ⟨(-infinity, infinity), range⟩ y = true := by
  simp [admitsX, number]

private theorem Sample.clamped?_level {x y : α} (number : -infinity ≤ y ∧ y ≤ infinity) :
    (level (x, y)).clamped? settings.unthinned ⟨(-infinity, infinity), range⟩ =
      if x == -infinity then some (y, range.1 + settings.infinityEpsilon)
      else if x == infinity then some (y, range.2 - settings.infinityEpsilon)
      else none := by
  rw [clamped?, level, Limits.admitsX_endless number]
  rfl

private theorem Sample.isAccepted_level {x y : α} (number : -infinity ≤ y ∧ y ≤ infinity) :
    (level (x, y)).isAccepted ⟨(-infinity, infinity), range⟩ =
      (decide (range.1 < x) && decide (x < range.2)) := by
  rw [isAccepted, level, Limits.admitsX_endless number, Bool.and_true]
  rfl

/-- A sample of the graph leaves the trace that the point leaves, with the axes exchanged. -/
theorem Walk.trace_step_level (same_sign : (sign (0.0 : α) == sign 0.0) = true) {w : Walk α}
    {t : Trace α} {p : Point α} (number : -infinity ≤ p.2 ∧ p.2 ≤ infinity)
    (same : w.trace = t.exchanged) :
    (w.step settings.unthinned ⟨(-infinity, infinity), range⟩ (Sample.level p)).trace =
      (t.inverseStep range settings.infinityEpsilon p).exchanged := by
  obtain ⟨x, y⟩ := p
  have kept : (w.accepted % settings.unthinned.stride == 0) = true := by
    simp [Settings.unthinned, Nat.mod_one]
  unfold Walk.step Trace.inverseStep
  rw [Sample.clamped?_level number, Sample.isAccepted_level number,
    Sample.isAsymptote_level same_sign, kept, same]
  -- the point for an infinite value comes first in both loops, and then a break or the sample
  -- itself
  cases decide (range.1 < x) && decide (x < range.2) with
  | false =>
    refine Eq.trans ?_ (Trace.exchanged_cut _).symm
    cases x == -infinity <;> cases x == infinity <;> rfl
  | true => cases x == -infinity <;> cases x == infinity <;> rfl

/-- The loop over points `(f(y), y)` is the walk along the graph with the axes exchanged. -/
theorem walkInverse_map_exchanged (same_sign : (sign (0.0 : α) == sign 0.0) = true)
    {points : List (Point α)}
    (numbers : ∀ p ∈ points, -infinity ≤ p.2 ∧ p.2 ≤ infinity) :
    (walkInverse range settings.infinityEpsilon points).map Polyline.exchanged =
      walk settings.unthinned ⟨(-infinity, infinity), range⟩ (points.map Sample.level) := by
  have same :
      ((points.map Sample.level).foldl
        (Walk.step settings.unthinned ⟨(-infinity, infinity), range⟩) Walk.start).trace =
      (points.foldl (Trace.inverseStep range settings.infinityEpsilon) Trace.empty).exchanged := by
    rw [List.foldl_map]
    refine List.foldl_rel (r := fun w t => Walk.trace w = Trace.exchanged t) rfl ?_
    intro p found w t same
    exact Walk.trace_step_level same_sign (numbers p found) same
  rw [walkInverse_eq_foldl, walk, Trace.polylines_exchanged, same]

end

/-- On doubles the loop over points `(f(y), y)`, whatever the abscissas, gives the polylines of the
walk along the graph with the axes exchanged: over an endless range of independent numbers, with
slopes of zero and without thinning. So it is with every curve over the ordinates, since its grid
has numbers only. -/
theorem inverse_walk_exchanged :
    (∀ (settings : Settings Float) (range : Float × Float) (points : List (Point Float)),
      (∀ p ∈ points, p.2.isNaN = false) →
        (walkInverse range settings.infinityEpsilon points).map Polyline.exchanged =
          walk settings.unthinned ⟨(-infinity, infinity), range⟩ (points.map Sample.level)) ∧
    (∀ (f : List Float → List Float) (domain : Option (Float × Float)) (points : Nat)
        (v : Viewport Float) (settings : Settings Float) (c : SampledCurve Float),
      sampleInverse f domain points v settings = .ok c →
        c.polylines = [] ∨ ∃ plot low high count,
        v.plotBoundsFor settings.overscan = .ok plot ∧
          inverseDomain v plot domain = (low, high) ∧ isProperDomain low high = true ∧
          countAsScalar points = .ok count ∧
          let ys := coarseGrid points low high ((high - low) * (1.0 - 1e-6) / count)
          c.polylines.map Polyline.exchanged =
            walk settings.unthinned ⟨(-infinity, infinity), plot.xRange⟩
            (((f ys).zip ys).map Sample.level)) := by
  have same_sign : (sign (0.0 : Float) == sign 0.0) = true := by decide +kernel
  refine ⟨?walk, ?curve⟩
  case walk =>
    intro settings range points numbers
    exact walkInverse_map_exchanged same_sign fun p found => between_infinities (numbers p found)
  case curve =>
    intro f domain points v settings c returned
    refine (polylines_sampleInverse returned).imp_right ?_
    rintro ⟨plot, low, high, count, bounded, range, proper, counted, drawn⟩
    refine ⟨plot, low, high, count, bounded, range, proper, counted, ?_⟩
    rw [drawn]
    refine walkInverse_map_exchanged same_sign fun p found => between_infinities ?_
    -- what is in the grid has been compared with its upper end
    have in_grid := (List.mem_filter.1 (List.of_mem_zip found).2).2
    exact isNaN_eq_false_of_le (of_decide_eq_true in_grid)

/-- Points with abscissas inside and outside a range, infinite ones and one that is no number. -/
def pointsAcrossRange : List (Point Float) :=
  [(1.0, 0.0), (2.0, 1.0), (infinity, 2.0), (3.0, 3.0), (undefined, 4.0), (0.0, 5.0),
    (-1.0, 6.0), (9.0, 7.0), (-infinity, 8.0), (4.0, 9.0), (-4.0, 10.0)]

/-- The frame of a new board. -/
def ViewportRequest.squareOfDoubles : ViewportRequest Float where
  width := 500.0
  height := 500.0
  padding := 20.0
  xMin := -5.0
  xMax := 5.0
  yMin := -5.0
  yMax := some 5.0
  overscan := 0.25

/-- The usual settings. -/
def Settings.usual : Settings Float where
  microSteps := 20.0
  stride := 20
  asymptoteSlope := 500.0
  edgeSlope := 400.0
  infinityEpsilon := 1e-5
  overscan := 0.25
  drawBeyondX := false
  drawBeyondY := true

/-- The line through the origin, with infinite values from one on. -/
def lineOfDoublesToInfinity (ys : List Float) : List Float :=
  ys.map fun y => if y < 1.0 then y else infinity

/-- Points that give three polylines, with one for an infinite abscissa; and a line that becomes
infinite. -/
theorem inverse_walk_exchanged_across_range :
    ((walkInverse (-5.0, 5.0) Settings.usual.infinityEpsilon pointsAcrossRange).map
        Polyline.size = [3, 2, 2] ∧
      (walkInverse (-5.0, 5.0) Settings.usual.infinityEpsilon pointsAcrossRange).map
          Polyline.exchanged =
        walk Settings.usual.unthinned ⟨(-infinity, infinity), (-5.0, 5.0)⟩
          (pointsAcrossRange.map Sample.level)) ∧
    ∃ (v : Viewport Float) (plot : Bounds Float) (c : SampledCurve Float) (ys : List Float),
      sampleInverse lineOfDoublesToInfinity none 4 v .usual = .ok c ∧
      c.polylines.map Polyline.size = [4] ∧
      c.polylines.map Polyline.exchanged =
        walk Settings.usual.unthinned ⟨(-infinity, infinity), plot.xRange⟩
        (((lineOfDoublesToInfinity ys).zip ys).map Sample.level) := by
  refine ⟨⟨by decide +kernel, inverse_walk_exchanged.1 .usual (-5.0, 5.0) pointsAcrossRange
    (by decide +kernel)⟩, ?_⟩
  have run : ((Viewport.create .squareOfDoubles).2.toOption.bind fun v =>
      (sampleInverse lineOfDoublesToInfinity none 4 v .usual).toOption.map fun c =>
        (v, c)).map (fun run =>
        run.2.polylines.map Polyline.size) = some [4] := by
    decide +kernel
  obtain ⟨⟨v, c⟩, found, sizes⟩ := Option.map_eq_some_iff.1 run
  obtain ⟨v', created, found⟩ := Option.bind_eq_some_iff.1 found
  obtain ⟨c', returned, same⟩ := Option.map_eq_some_iff.1 found
  cases same
  dsimp only at sizes
  rw [toOption_eq_some] at returned
  rcases inverse_walk_exchanged.2 _ none 4 v .usual c returned with
    nothing | ⟨plot, low, high, count, -, -, -, -, drawn⟩
  · rw [nothing] at sizes
    cases sizes
  · exact ⟨v, plot, c, _, returned, sizes, drawn⟩

end CurveBoard
