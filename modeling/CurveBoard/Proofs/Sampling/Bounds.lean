import CurveBoard.Proofs.Sampling.Domain
import CurveBoard.Proofs.Viewport.Exact

/-!
# Curves stay inside the plot

In exact arithmetic all points of a curve are inside the plot bounds. For a sample that is drawn the
walk has looked; the point that stands for an infinite value is a small distance away from an end of
the range. Only if the overscan is infinite, and so the range, the end that it should be away from
is infinite itself.
-/
namespace CurveBoard

open Scalar Extended

variable {K : Type} [Field K] [LinearOrder K] [IsStrictOrderedRing K] [FloorRing K]

/-- Strictly between the ends of a range, or at an end of it that is infinite. -/
def IsWithin (range : Extended K × Extended K) (a : Extended K) : Prop :=
  (range.1 < a ∧ a < range.2) ∨ a = range.1 ∧ range.1 = negInf ∨
  a = range.2 ∧ range.2 = posInf

/-- A small distance away from the ends of a range. -/
theorem isWithin_of_clamped {range : Extended K × Extended K} {epsilon : Extended K}
    (positive : finite 0 < epsilon) (less : epsilon < range.2 - range.1) :
    IsWithin range (range.1 + epsilon) ∧ IsWithin range (range.2 - epsilon) := by
  obtain ⟨low, high⟩ := range
  dsimp only at less
  -- the distance is less than something, so it is finite
  cases epsilon with
  | finite e =>
    rw [finite_lt] at positive
    cases low with
    | finite x =>
      cases high with
      | finite y =>
        rw [finite_sub, finite_lt] at less
        constructor
        · exact .inl ⟨finite_lt.2 (by linarith), finite_lt.2 (by linarith)⟩
        · exact .inl ⟨finite_lt.2 (by linarith), finite_lt.2 (by linarith)⟩
      | posInf =>
        exact ⟨.inl ⟨finite_lt.2 (by linarith), trivial⟩, .inr (.inr ⟨rfl, rfl⟩)⟩
      | negInf => exact absurd less id
      | nan => exact absurd less id
    | negInf =>
      cases high with
      | finite y =>
        exact ⟨.inr (.inl ⟨rfl, rfl⟩), .inl ⟨trivial, finite_lt.2 (by linarith)⟩⟩
      | posInf => exact ⟨.inr (.inl ⟨rfl, rfl⟩), .inr (.inr ⟨rfl, rfl⟩)⟩
      | negInf => exact absurd less id
      | nan => exact absurd less id
    | posInf => cases high <;> exact absurd less id
    | nan =>
      rw [Extended.sub_nan] at less
      exact absurd less not_lt_nan
  | posInf => exact absurd less id
  | negInf => exact absurd positive id
  | nan => exact absurd less id

section

variable {settings : Settings (Extended K)} {polyline : Polyline (Extended K)}
  {p : Point (Extended K)}

private theorem isWithin_of_mem_walk {limits : Limits (Extended K)}
    {samples : List (Sample (Extended K))} (positive : finite 0 < settings.infinityEpsilon)
    (less : settings.infinityEpsilon < limits.y.2 - limits.y.1)
    (member : polyline ∈ walk settings limits samples) (inside : p ∈ polyline.points) :
    IsWithin limits.y p.2 ∧ limits.x.1 ≤ p.1 ∧ p.1 ≤ limits.x.2 := by
  obtain ⟨s, -, ⟨drawn, rfl⟩ | clamped⟩ :=
    mem_walk Extended.clamped?_of_isDrawn member inside
  · simp only [Sample.isDrawn, Sample.isAccepted, Limits.admitsY, Limits.admitsX, Bool.and_eq_true,
      decide_eq_true_eq] at drawn
    obtain ⟨-, between, beside⟩ := drawn
    exact ⟨.inl between, beside⟩
  · obtain ⟨bottom, top⟩ := isWithin_of_clamped positive less
    unfold Sample.clamped? at clamped
    split at clamped
    · cases clamped
    next admitted =>
      simp only [Limits.admitsX, Bool.not_eq_true', Bool.not_eq_false, Bool.and_eq_true,
        decide_eq_true_eq] at admitted
      split_ifs at clamped <;> cases clamped
      · exact ⟨bottom, admitted⟩
      · exact ⟨top, admitted⟩

private theorem isWithin_of_isDrawnFor {range : Extended K × Extended K} {epsilon : Extended K}
    {q : Point (Extended K)} (positive : finite 0 < epsilon) (less : epsilon < range.2 - range.1)
    (drawn : IsDrawnFor range epsilon q p) : IsWithin range p.1 := by
  obtain ⟨bottom, top⟩ := isWithin_of_clamped positive less
  obtain ⟨-, ⟨above, below, same⟩ | ⟨-, same⟩ | ⟨-, same⟩⟩ := drawn
  · exact .inl ⟨same ▸ above, same ▸ below⟩
  · exact same ▸ bottom
  · exact same ▸ top

/-- The ordinates of a coarse grid are between its ends. -/
theorem mem_coarseGrid {low high : K} {points : ℕ} {count y : Extended K} (less : low < high)
    (counted : countAsScalar points = .ok count)
    (member : y ∈ coarseGrid points (finite low) (finite high)
      ((finite high - finite low) * (1.0 - 1e-6) / count)) :
    finite low ≤ y ∧ y ≤ finite high := by
  obtain ⟨found, at_most⟩ := List.mem_filter.1 member
  refine ⟨?_, of_decide_eq_true at_most⟩
  obtain ⟨k, place, rfl⟩ := List.mem_map.1 found
  have number : count = finite (points : K) := by
    unfold countAsScalar at counted
    rw [ofNat_eq] at counted
    exact (Except.ok.inj counted).symm
  subst number
  rcases points.eq_zero_or_pos with rfl | some_points
  · -- without points the grid has just one candidate, which is not a number
    obtain rfl : k = 0 := by simpa using place
    rw [ofNat_eq, Nat.cast_zero, finite_sub, scientific, scientific, finite_sub, finite_mul,
      finite_div_zero, infinityLike_mul_zero, add_nan] at at_most
    exact absurd (of_decide_eq_true at_most) not_nan_le
  · have nonzero : (points : K) ≠ 0 := by
      exact_mod_cast some_points.ne'
    have forward : 0 ≤ (high - low) * (1.0 - 1e-6) / points * (k : K) := by
      have := sub_pos.2 less
      have : (0 : K) < 1.0 - 1e-6 := by norm_num
      positivity
    rw [finite_sub, scientific, scientific, finite_sub, finite_mul, finite_div nonzero,
      ofNat_eq, finite_mul, finite_add, finite_le]
    linarith

private theorem ends_of_ordinateLimits {r : ViewportRequest (Extended K)}
    {v : Viewport (Extended K)} {limits : Extended K × Extended K}
    (created : (Viewport.create r).2 = .ok v) (accepted : ¬ settings.overscan < 0.0)
    (limited : ordinateLimits v settings = .ok limits)
    (less : settings.infinityEpsilon < limits.2 - limits.1) :
    settings.overscan = posInf ∨ ∃ x y : K, limits = (finite x, finite y) := by
  unfold ordinateLimits at limited
  split at limited
  · obtain ⟨plot, bounded, rfl⟩ := map_eq_ok.1 limited
    rcases Viewport.plotBoundsFor_of_create created accepted bounded with rfl | ⟨-, ends⟩
    · exact absurd less not_lt_nan
    · exact ends.imp_right fun ⟨numbers, same⟩ => ⟨_, _, by rw [same]; rfl⟩
  · obtain ⟨b, bounded, rfl⟩ := map_eq_ok.1 limited
    rcases Viewport.extendedBounds_of_create created bounded with rfl | ⟨numbers, rfl⟩
    · exact absurd less not_lt_nan
    · exact .inr ⟨_, _, rfl⟩

/-- Strictly between the ends of a range, or at an end of it that is infinite since the overscan
is. -/
def IsConfined (settings : Settings (Extended K)) (range : Extended K × Extended K)
    (a : Extended K) : Prop :=
  (range.1 < a ∧ a < range.2) ∨
    settings.overscan = infinity ∧
      (a = range.1 ∧ range.1 = -infinity ∨ a = range.2 ∧ range.2 = infinity)

omit [IsStrictOrderedRing K] in
private theorem IsWithin.isConfined {range : Extended K × Extended K} {a : Extended K}
    (within : IsWithin range a)
    (ends : settings.overscan = posInf ∨ ∃ x y : K, range = (finite x, finite y)) :
    IsConfined settings range a := by
  rcases within with between | ⟨rfl, bottom⟩ | ⟨rfl, top⟩
  · exact .inl between
  · rcases ends with endless | ⟨x, y, rfl⟩
    · exact .inr ⟨endless, .inl ⟨rfl, bottom⟩⟩
    · cases bottom
  · rcases ends with endless | ⟨x, y, rfl⟩
    · exact .inr ⟨endless, .inr ⟨rfl, top⟩⟩
    · cases top

omit [IsStrictOrderedRing K] in
/-- What a graph over the ordinates is sampled over is inside the plot. -/
theorem inverseDomain_inside {v : Viewport (Extended K)} {plot : Bounds (Extended K)}
    {domain : Option (Extended K × Extended K)} {low high : K}
    (contains : plot.containsBounds v.window = true)
    (range : inverseDomain v plot domain = (finite low, finite high)) :
    plot.yMin ≤ finite low ∧ finite high ≤ plot.yMax := by
  cases domain with
  | none =>
    simp only [Bounds.containsBounds, Bool.and_eq_true, decide_eq_true_eq] at contains
    obtain ⟨bottom, top⟩ := Prod.mk.inj range
    exact ⟨bottom ▸ contains.2.1, top ▸ contains.2.2⟩
  | some domain => exact clippedDomain_between range

end

/-- The points of a curve, whatever its values, are inside the plot: in each mode the coordinate
that depends is strictly inside its range, and the other one inside its own where the mode looks at
it. The points that stand for infinite values are as well, unless the overscan and with it the end
of the range is infinite. -/
theorem points_inside_plot {r : ViewportRequest (Extended K)} {v : Viewport (Extended K)}
    {settings : Settings (Extended K)} (created : (Viewport.create r).2 = .ok v)
    (accepted : ¬ settings.overscan < 0.0) (positive : 0.0 < settings.infinityEpsilon) :
    (∀ (f : List (Extended K) → List (Extended K)) (domain : Option (Extended K × Extended K))
        (points : ℕ) (limits : Extended K × Extended K) (c : SampledCurve (Extended K)),
      ordinateLimits v settings = .ok limits → settings.infinityEpsilon < limits.2 - limits.1 →
      sampleExplicit f domain points v settings = .ok c →
      ∀ polyline ∈ c.polylines, 2 ≤ polyline.points.length ∧
        ∀ p ∈ polyline.points, IsConfined settings limits p.2) ∧
    (∀ (f g : List (Extended K) → List (Extended K))
        (domain : Option (Extended K × Extended K)) (points : ℕ) (plot : Bounds (Extended K))
        (limits : Extended K × Extended K)
        (c : SampledCurve (Extended K)),
      v.plotBoundsFor settings.overscan = .ok plot →
      ordinateLimits v settings = .ok limits → settings.infinityEpsilon < limits.2 - limits.1 →
      sampleParametric f g domain points v settings = .ok c →
      ∀ polyline ∈ c.polylines, 2 ≤ polyline.points.length ∧
        ∀ p ∈ polyline.points, IsConfined settings limits p.2 ∧ plot.xMin ≤ p.1 ∧
        p.1 ≤ plot.xMax) ∧
    (∀ (f : List (Extended K) → List (Extended K)) (domain : Option (Extended K × Extended K))
        (points : ℕ) (plot : Bounds (Extended K)) (c : SampledCurve (Extended K)),
      v.plotBoundsFor settings.overscan = .ok plot →
      settings.infinityEpsilon < plot.xMax - plot.xMin →
      sampleInverse f domain points v settings = .ok c →
      ∀ polyline ∈ c.polylines, 2 ≤ polyline.points.length ∧
        ∀ p ∈ polyline.points, IsConfined settings plot.xRange p.1 ∧ plot.yMin ≤ p.2 ∧
        p.2 ≤ plot.yMax) := by
  rw [scientific, zero_literal] at positive
  refine ⟨?graph, ?parametric, ?inverse⟩
  case graph =>
    intro f domain points limits c limited less returned polyline member
    obtain ⟨low, high, step, ts, y, -, -, -, -, limited', drawn⟩ :=
      mem_sampleExplicit returned member
    cases limited.symm.trans limited'
    have ends := ends_of_ordinateLimits created accepted limited less
    refine ⟨polyline.two_le, fun p inside => ?_⟩
    exact (isWithin_of_mem_walk positive less drawn inside).1.isConfined ends
  case parametric =>
    intro f g domain points plot limits c bounded limited less returned polyline member
    obtain ⟨low, high, step, ts, plot', y, -, -, -, -, bounded', limited', drawn⟩ :=
      mem_sampleParametric returned member
    cases bounded.symm.trans bounded'
    cases limited.symm.trans limited'
    have ends := ends_of_ordinateLimits created accepted limited less
    refine ⟨polyline.two_le, fun p inside => ?_⟩
    obtain ⟨within, beside⟩ := isWithin_of_mem_walk positive less drawn inside
    exact ⟨within.isConfined ends, beside⟩
  case inverse =>
    intro f domain points plot c bounded less returned polyline member
    obtain ⟨plot', low, high, count, bounded', range, proper, counted, drawn⟩ :=
      mem_sampleInverse returned member
    cases bounded.symm.trans bounded'
    obtain ⟨x, y, rfl, rfl, ordered⟩ := isProperDomain_iff.1 proper
    rcases Viewport.plotBoundsFor_of_create created accepted bounded with rfl | ⟨contains, ends⟩
    · exact absurd less not_lt_nan
    have ends : settings.overscan = posInf ∨ ∃ x y : K, plot.xRange = (finite x, finite y) :=
      ends.imp_right fun ⟨numbers, same⟩ => ⟨_, _, by rw [same]; rfl⟩
    obtain ⟨bottom, top⟩ := inverseDomain_inside contains range
    refine ⟨polyline.two_le, fun p inside => ?_⟩
    obtain ⟨q, found, drawn_for⟩ := mem_walkInverse drawn inside
    -- the ordinate is a point of the grid, and the grid is inside the plot
    obtain ⟨above, below⟩ := mem_coarseGrid ordered counted (List.of_mem_zip found).2
    rw [drawn_for.1]
    exact ⟨(isWithin_of_isDrawnFor positive less drawn_for).isConfined ends,
      Extended.le_trans bottom above, Extended.le_trans below top⟩

/-- The line through the origin, with infinite values from one on. -/
def lineToInfinity (xs : List (Extended ℚ)) : List (Extended ℚ) :=
  xs.map fun x => if x < 1.0 then x else posInf

/-- The line in all three modes; its last point stands for an infinite value. -/
theorem points_inside_plot_line :
    ∃ (v : Viewport (Extended ℚ)) (limits : Extended ℚ × Extended ℚ)
        (plot : Bounds (Extended ℚ)) (graph curve inverse : SampledCurve (Extended ℚ)),
      ordinateLimits v .coarse = .ok limits ∧ v.plotBoundsFor 0.25 = .ok plot ∧
      sampleExplicit lineToInfinity (some (-2.0, 2.0)) 4 v .coarse = .ok graph ∧
      graph.pointCount = 5 ∧
      (∀ polyline ∈ graph.polylines, 2 ≤ polyline.points.length ∧
        ∀ p ∈ polyline.points, IsConfined .coarse limits p.2) ∧
      sampleParametric id lineToInfinity (some (-2.0, 2.0)) 4 v .coarse = .ok curve ∧
      curve.pointCount = 5 ∧
      (∀ polyline ∈ curve.polylines, 2 ≤ polyline.points.length ∧
        ∀ p ∈ polyline.points, IsConfined .coarse limits p.2 ∧ plot.xMin ≤ p.1 ∧
        p.1 ≤ plot.xMax) ∧
      sampleInverse lineToInfinity (some (-2.0, 2.0)) 4 v .coarse = .ok inverse ∧
      inverse.pointCount = 5 ∧
      ∀ polyline ∈ inverse.polylines, 2 ≤ polyline.points.length ∧
        ∀ p ∈ polyline.points, IsConfined .coarse plot.xRange p.1 ∧ plot.yMin ≤ p.2 ∧
        p.2 ≤ plot.yMax := by
  have run : ((Viewport.create .square).2.toOption.bind fun v =>
      (ordinateLimits v .coarse).toOption.bind fun limits =>
      (v.plotBoundsFor 0.25).toOption.bind fun plot =>
      (sampleExplicit lineToInfinity (some (-2.0, 2.0)) 4 v .coarse).toOption.bind fun graph =>
      (sampleParametric id lineToInfinity (some (-2.0, 2.0)) 4 v .coarse).toOption.bind fun curve =>
      (sampleInverse lineToInfinity (some (-2.0, 2.0)) 4 v .coarse).toOption.map fun inverse =>
        (v, limits, plot, graph, curve, inverse)).map
      (fun (_, limits, plot, graph, curve, inverse) =>
        ((decide (finite 1e-5 < limits.2 - limits.1),
            decide (finite 1e-5 < plot.xMax - plot.xMin)),
          graph.pointCount, curve.pointCount, inverse.pointCount)) =
      some ((true, true), 5, 5, 5) := by
    decide +kernel
  obtain ⟨⟨v, limits, plot, graph, curve, inverse⟩, found, measures⟩ :=
    Option.map_eq_some_iff.1 run
  obtain ⟨v', created, found⟩ := Option.bind_eq_some_iff.1 found
  obtain ⟨limits', limited, found⟩ := Option.bind_eq_some_iff.1 found
  obtain ⟨plot', bounded, found⟩ := Option.bind_eq_some_iff.1 found
  obtain ⟨graph', explicit, found⟩ := Option.bind_eq_some_iff.1 found
  obtain ⟨curve', parametric, found⟩ := Option.bind_eq_some_iff.1 found
  obtain ⟨inverse', inversely, same⟩ := Option.map_eq_some_iff.1 found
  cases same
  rw [toOption_eq_some] at created limited bounded explicit parametric inversely
  simp only [Prod.mk.injEq, decide_eq_true_eq] at measures
  obtain ⟨⟨less, less'⟩, graph_count, curve_count, inverse_count⟩ := measures
  obtain ⟨in_graph, in_curve, in_inverse⟩ :=
    points_inside_plot created
      (by decide +kernel : ¬ (Settings.coarse : Settings (Extended ℚ)).overscan < 0.0)
      (by decide +kernel)
  exact ⟨v, limits, plot, graph, curve, inverse, limited, bounded,
    explicit, graph_count, in_graph _ _ _ limits graph limited less explicit,
    parametric, curve_count, in_curve _ _ _ _ plot limits curve bounded limited less parametric,
    inversely, inverse_count, in_inverse _ _ _ plot inverse bounded less' inversely⟩

/-- With an infinite overscan an infinite ordinate stays infinite. -/
theorem not_points_inside_plot :
    ¬ ∀ (r : ViewportRequest (Extended ℚ)) (v : Viewport (Extended ℚ))
        (settings : Settings (Extended ℚ)) (f : List (Extended ℚ) → List (Extended ℚ))
        (domain : Option (Extended ℚ × Extended ℚ)) (points : ℕ)
        (limits : Extended ℚ × Extended ℚ) (c : SampledCurve (Extended ℚ)),
      (Viewport.create r).2 = .ok v → ¬ settings.overscan < 0.0 →
      0.0 < settings.infinityEpsilon →
      ordinateLimits v settings = .ok limits → settings.infinityEpsilon < limits.2 - limits.1 →
      sampleExplicit f domain points v settings = .ok c →
      ∀ polyline ∈ c.polylines, ∀ p ∈ polyline.points, limits.1 < p.2 ∧
        p.2 < limits.2 := by
  intro always
  let settings : Settings (Extended ℚ) := { Settings.coarse with overscan := infinity }
  have run : ((Viewport.create .square).2.toOption.bind fun v =>
      (ordinateLimits v settings).toOption.bind fun limits =>
      (sampleExplicit lineToInfinity (some (-2.0, 2.0)) 4 v settings).toOption.map fun c =>
        (v, limits, c)).map (fun (_, limits, c) =>
      (decide (finite 1e-5 < limits.2 - limits.1), c.polylines.any fun polyline =>
        polyline.points.any fun p => !decide (p.2 < limits.2))) = some (true, true) := by
    decide +kernel
  obtain ⟨⟨v, limits, c⟩, found, measures⟩ := Option.map_eq_some_iff.1 run
  obtain ⟨v', created, found⟩ := Option.bind_eq_some_iff.1 found
  obtain ⟨limits', limited, found⟩ := Option.bind_eq_some_iff.1 found
  obtain ⟨c', returned, same⟩ := Option.map_eq_some_iff.1 found
  cases same
  rw [toOption_eq_some] at created limited returned
  simp only [Prod.mk.injEq, decide_eq_true_eq] at measures
  obtain ⟨polyline, member, some_point⟩ := List.any_eq_true.1 measures.2
  obtain ⟨p, inside, outside⟩ := List.any_eq_true.1 some_point
  have below :=
    (always _ v settings _ _ 4 limits c created (by decide +kernel) (by decide +kernel) limited
    measures.1 returned polyline member p inside).2
  rw [Bool.not_eq_true', decide_eq_false_iff_not] at outside
  exact outside below

end CurveBoard
