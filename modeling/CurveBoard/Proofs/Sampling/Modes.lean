import CurveBoard.Proofs.Except
import CurveBoard.Proofs.Sampling.Runs
import CurveBoard.Sampling.Modes

/-!
# What a sampled curve is made of

How a mode gets from its domain to the samples of a curve, and from there to its polylines: each of
their points is a sample that is drawn, or stands for one whose value is infinite.
-/
namespace CurveBoard

namespace Trace

variable {α : Type} {P : Point α → Prop} {t : Trace α} {p : Point α}

/-- Whether all points of a trace have a property. -/
structure Holds (P : Point α → Prop) (t : Trace α) : Prop where
  finished : ∀ polyline ∈ t.finished, ∀ p ∈ polyline.points, P p
  current : ∀ p ∈ t.current, P p
  heldBack : ∀ p ∈ t.heldBack, P p

theorem Holds.empty : Holds P (empty : Trace α) := by
  constructor <;> simp [Trace.empty]

theorem Holds.push (holds : t.Holds P) (point : P p) : (t.push p).Holds P := by
  constructor
  · exact holds.finished
  · exact List.forall_mem_cons.2 ⟨point, holds.current⟩
  · simp [Trace.push]

theorem Holds.cut (holds : t.Holds P) : t.cut.Holds P := by
  constructor
  · intro polyline member p inside
    rcases List.mem_append.1 member with made | earlier
    · rw [Option.mem_toList, Polyline.ofPoints?] at made
      split at made
      · cases made
        exact holds.current p (List.mem_reverse.1 inside)
      · cases made
    · exact holds.finished polyline earlier p inside
  · simp [Trace.cut]
  · simp [Trace.cut]

theorem Holds.polylines (holds : t.Holds P) :
    ∀ polyline ∈ t.polylines, ∀ p ∈ polyline.points, P p := by
  intro polyline member
  rw [Trace.polylines, List.mem_reverse] at member
  refine Holds.finished (t := Trace.cut _) (Holds.cut ?_) polyline member
  -- a point that is held back is the last one
  cases held : t.heldBack with
  | none => exact holds
  | some p =>
    dsimp only
    split
    · exact holds
    · exact holds.push (holds.heldBack p held)

end Trace

open Scalar

variable {α : Type} [Scalar α]

/-- Each sample is made from the entries that lists have at one place. -/
theorem mem_samplesOf {v : Viewport α} {step : α} {xs ys before after : List α} {s : Sample α}
    (member : s ∈ samplesOf v step xs ys before after) :
    ∃ place : Nat, xs[place]? = some s.x ∧ ys[place]? = some s.y := by
  obtain ⟨⟨x, y, slopes⟩, found, rfl⟩ := List.mem_map.1 member
  obtain ⟨place, at_place⟩ := List.mem_iff_getElem?.1 found
  obtain ⟨x_at, row_at⟩ := List.getElem?_zip_eq_some.1 at_place
  obtain ⟨⟨y', others⟩, paired, same⟩ :=
    Option.map_eq_some_iff.1 ((List.getElem?_map ..).symm.trans row_at)
  cases same
  exact ⟨place, x_at, (List.getElem?_zip_eq_some.1 paired).1⟩

/-- A point that stands for an infinite ordinate is where the sample is. -/
theorem fst_of_clamped? {settings : Settings α} {limits : Limits α} {s : Sample α} {p : Point α}
    (clamped : s.clamped? settings limits = some p) : p.1 = s.x := by
  unfold Sample.clamped? at clamped
  split_ifs at clamped <;> cases clamped <;> rfl

/-- The points that are drawn on a walk. -/
theorem mem_walk {settings : Settings α} {limits : Limits α} {samples : List (Sample α)}
    {polyline : Polyline α} {p : Point α}
    (finite : ∀ s : Sample α, s.isDrawn settings limits = true →
      s.clamped? settings limits = none)
    (member : polyline ∈ walk settings limits samples) (inside : p ∈ polyline.points) :
    ∃ s ∈ samples, s.isDrawn settings limits = true ∧ p = s.point ∨
      s.clamped? settings limits = some p := by
  have drawn : walk settings limits samples =
      (runs settings limits samples).filterMap (fun run =>
        Polyline.ofPoints? (run.points settings limits)) :=
    Walk.During.runs finite Walk.During.start
  rw [drawn] at member
  obtain ⟨run, found, made⟩ := List.mem_filterMap.1 member
  unfold Polyline.ofPoints? at made
  split at made
  · cases made
    obtain ⟨before, after, split, next_eq, all, -, -⟩ := mem_runs found
    rcases Run.mem_points inside with ⟨s, sampled, rfl⟩ | ⟨s, next, stands⟩
    · exact ⟨s, by simp [split, sampled], .inl ⟨all s sampled, rfl⟩⟩
    · -- the point at the end of a run stands for the sample right after it
      have later : s ∈ after := List.mem_of_head? (next_eq.symm.trans next)
      exact ⟨s, by simp [split, later], .inr stands⟩
  · cases made

/-- What is drawn for a point `(f(y), y)`. -/
def IsDrawnFor (range : α × α) (epsilon : α) (q p : Point α) : Prop :=
  p.2 = q.2 ∧ (range.1 < q.1 ∧ q.1 < range.2 ∧ p.1 = q.1 ∨
    (q.1 == -infinity) = true ∧ p.1 = range.1 + epsilon ∨
    (q.1 == infinity) = true ∧ p.1 = range.2 - epsilon)

/-- The points that are drawn of a curve `(f(y), y)`. -/
theorem mem_walkInverse {range : α × α} {epsilon : α} {points : List (Point α)}
    {polyline : Polyline α} {p : Point α} (member : polyline ∈ walkInverse range epsilon points)
    (inside : p ∈ polyline.points) :
    ∃ q ∈ points, IsDrawnFor range epsilon q p := by
  refine Trace.Holds.polylines (P := fun p => ∃ q ∈ points, IsDrawnFor range epsilon q p)
    (List.foldlRecOn points _ Trace.Holds.empty ?_) polyline member p inside
  intro t holds q found
  -- first a point for an infinite abscissa may be added, then the sample itself, or else the trace
  -- is cut
  have clamped : Trace.Holds (fun p => ∃ q ∈ points, IsDrawnFor range epsilon q p)
      (if q.1 == -infinity then t.push (range.1 + epsilon, q.2)
        else if q.1 == infinity then t.push (range.2 - epsilon, q.2) else t) := by
    split
    next bottom => exact holds.push ⟨q, found, rfl, .inr (.inl ⟨bottom, rfl⟩)⟩
    · split
      next top => exact holds.push ⟨q, found, rfl, .inr (.inr ⟨top, rfl⟩)⟩
      · exact holds
  dsimp only
  split
  next accepted =>
    simp only [Bool.and_eq_true, decide_eq_true_eq] at accepted
    exact clamped.push ⟨q, found, rfl, .inl ⟨accepted.1, accepted.2, rfl⟩⟩
  · exact clamped.cut

section

variable {f g : List α → List α} {domain : Option (α × α)} {points : Nat} {v : Viewport α}
  {settings : Settings α} {c : SampledCurve α} {polyline : Polyline α}

/-- The polylines of a graph are drawn on the samples at a fine grid, if there is anything to
sample. -/
theorem polylines_sampleExplicit (sampled : sampleExplicit f domain points v settings = .ok c) :
    c.polylines = [] ∨ ∃ low high step ts y, explicitDomain v settings domain =
      .ok (low, high) ∧ isProperDomain low high = true ∧
        fineStep settings points low high = .ok step ∧
      fineGrid low high step = .ok ts ∧ ordinateLimits v settings = .ok y ∧
      c.polylines = walk settings ⟨(-infinity, infinity), y⟩
        (samplesOf v step ts (f ts) (f (ts.map (· - step))) (f (ts.map (· + step)))) := by
  obtain ⟨⟨low, high⟩, found, rest⟩ := bind_eq_ok.1 sampled
  dsimp only at rest
  split at rest
  · cases rest
    exact .inl rfl
  next proper =>
    obtain ⟨step, stepped, rest⟩ := bind_eq_ok.1 rest
    obtain ⟨ts, grid, rest⟩ := bind_eq_ok.1 rest
    obtain ⟨y, limits, rest⟩ := bind_eq_ok.1 rest
    cases rest
    exact .inr ⟨low, high, step, ts, y, found, by simpa using proper, stepped,
      grid, limits, rfl⟩

/-- A polyline of a graph is drawn on the samples at a fine grid. -/
theorem mem_sampleExplicit (sampled : sampleExplicit f domain points v settings = .ok c)
    (member : polyline ∈ c.polylines) :
    ∃ low high step ts y, explicitDomain v settings domain = .ok (low, high) ∧
      isProperDomain low high = true ∧ fineStep settings points low high = .ok step ∧
      fineGrid low high step = .ok ts ∧ ordinateLimits v settings = .ok y ∧
      polyline ∈ walk settings ⟨(-infinity, infinity), y⟩
        (samplesOf v step ts (f ts) (f (ts.map (· - step))) (f (ts.map (· + step)))) := by
  rcases polylines_sampleExplicit sampled with
    nothing | ⟨low, high, step, ts, y, found, proper, stepped, grid, limits, drawn⟩
  · rw [nothing] at member
    cases member
  · exact ⟨low, high, step, ts, y, found, proper, stepped, grid, limits, drawn ▸ member⟩

/-- The ordinates to sample: the window's, or the requested ones as far as they are inside the
plot. -/
def inverseDomain (v : Viewport α) (plot : Bounds α) (domain : Option (α × α)) : α × α :=
  domain.elim v.window.yRange (clippedDomain plot.yRange)

/-- The coarse grid over a range, its upper end included. -/
def coarseGrid (points : Nat) (low high step : α) : List α :=
  ((List.range (points + 1)).map fun k => low + step * ofNat k).filter (· ≤ high)

private theorem sampleInverse_eq (f : List α → List α) (domain : Option (α × α))
    (points : Nat) (v : Viewport α) (settings : Settings α) :
    sampleInverse f domain points v settings = (v.plotBoundsFor settings.overscan).bind fun plot =>
      let (low, high) := inverseDomain v plot domain
      if !isProperDomain low high then .ok (.ofEmptyDomain .inverse low high)
      else (countAsScalar points).map fun count =>
        let ys := coarseGrid points low high ((high - low) * (1.0 - 1e-6) / count)
        .ofPolylines .inverse ys.length
          (walkInverse plot.xRange settings.infinityEpsilon ((f ys).zip ys)) := by
  cases domain <;> rfl

/-- The polylines of a graph over the ordinates are drawn on the samples at a coarse grid, if there
is anything to sample. -/
theorem polylines_sampleInverse (sampled : sampleInverse f domain points v settings = .ok c) :
    c.polylines = [] ∨ ∃ plot low high count, v.plotBoundsFor settings.overscan = .ok plot ∧
      inverseDomain v plot domain = (low, high) ∧ isProperDomain low high = true ∧
      countAsScalar points = .ok count ∧
      let ys := coarseGrid points low high ((high - low) * (1.0 - 1e-6) / count)
      c.polylines = walkInverse plot.xRange settings.infinityEpsilon ((f ys).zip ys) := by
  rw [sampleInverse_eq] at sampled
  obtain ⟨plot, bounded, rest⟩ := bind_eq_ok.1 sampled
  cases range : inverseDomain v plot domain with | mk low high =>
  rw [range] at rest
  dsimp only at rest
  split at rest
  · cases rest
    exact .inl rfl
  next proper =>
    obtain ⟨count, counted, same⟩ := map_eq_ok.1 rest
    cases same
    exact .inr ⟨plot, low, high, count, bounded, range, by simpa using proper, counted, rfl⟩

/-- A polyline of a graph over the ordinates is drawn on the samples at a coarse grid. -/
theorem mem_sampleInverse (sampled : sampleInverse f domain points v settings = .ok c)
    (member : polyline ∈ c.polylines) :
    ∃ plot low high count, v.plotBoundsFor settings.overscan = .ok plot ∧
      inverseDomain v plot domain = (low, high) ∧ isProperDomain low high = true ∧
      countAsScalar points = .ok count ∧
      let ys := coarseGrid points low high ((high - low) * (1.0 - 1e-6) / count)
      polyline ∈ walkInverse plot.xRange settings.infinityEpsilon ((f ys).zip ys) := by
  rcases polylines_sampleInverse sampled with
    nothing | ⟨plot, low, high, count, bounded, range, proper, counted, drawn⟩
  · rw [nothing] at member
    cases member
  · rw [drawn] at member
    exact ⟨plot, low, high, count, bounded, range, proper, counted, member⟩

/-- A polyline of a curve in a parameter is drawn on the samples at a fine grid. -/
theorem mem_sampleParametric (sampled : sampleParametric f g domain points v settings = .ok c)
    (member : polyline ∈ c.polylines) :
    ∃ low high step ts plot y, domain.getD v.window.xRange = (low, high) ∧
      isProperDomain low high = true ∧ fineStep settings points low high = .ok step ∧
      fineGrid low high step = .ok ts ∧ v.plotBoundsFor settings.overscan = .ok plot ∧
      ordinateLimits v settings = .ok y ∧
      polyline ∈ walk settings ⟨plot.xRange, y⟩
        (samplesOf v step (f ts) (g ts) (g (ts.map (· - step))) (g (ts.map (· + step)))) := by
  unfold sampleParametric at sampled
  cases range : domain.getD v.window.xRange with | mk low high =>
  rw [range] at sampled
  dsimp only at sampled
  split at sampled
  · cases sampled
    cases member
  next proper =>
    obtain ⟨step, stepped, rest⟩ := bind_eq_ok.1 sampled
    obtain ⟨ts, grid, rest⟩ := bind_eq_ok.1 rest
    obtain ⟨plot, bounded, rest⟩ := bind_eq_ok.1 rest
    obtain ⟨y, limits, rest⟩ := bind_eq_ok.1 rest
    cases rest
    exact ⟨low, high, step, ts, plot, y, rfl, by simpa using proper, stepped, grid, bounded,
      limits, member⟩

end

end CurveBoard
