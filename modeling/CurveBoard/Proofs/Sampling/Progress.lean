import CurveBoard.Proofs.Sampling.Domain
import Mathlib.Data.List.Flatten
import Mathlib.Data.List.Induction

/-!
# Curves are walked forward

The runs of a walk, each with the sample that ends it, are all its samples in their order. A walk
draws at most one point for each sample, where the sample is; so what it draws is in the order of
the samples, whichever of them it leaves out. In exact arithmetic the fine grid increases, unless
its step is smaller than the numbers that stand for those near zero, and zero is not in it.
-/
namespace CurveBoard

open Scalar Extended

/-- The abscissas of all points of polylines, one polyline after the other. -/
def abscissas {α : Type} (polylines : List (Polyline α)) : List α :=
  polylines.flatMap fun polyline => polyline.points.map Prod.fst

section

variable {α : Type} [Scalar α] {settings : Settings α} {limits : Limits α}

/-- The runs with the samples that end them are all samples. -/
theorem flatMap_runs (settings : Settings α) (limits : Limits α) (samples : List (Sample α)) :
    (runs settings limits samples).flatMap (fun run => run.samples ++ run.next.toList) =
      samples := by
  induction samples using runs.induct settings limits with
  | case1 samples reaches => simp [runs_of_reaches reaches]
  | case2 samples s rest breaks ih =>
    rw [runs_of_breaks breaks, List.flatMap_cons, ih, List.append_assoc]
    exact (split_of_breaks breaks).1.symm

namespace Run

/-- The samples of a run that are kept, and the last one if it is not, are drawn in their order. -/
theorem kept_unkept_sublist (settings : Settings α) (samples : List (Sample α)) :
    (kept settings samples ++ (unkept settings samples).toList).Sublist
      (samples.map Sample.point) := by
  induction samples using List.reverseRecOn with
  | nil => exact .slnil
  | append_singleton samples s ih =>
    rw [kept_append, unkept_append, List.map_append, List.map_singleton]
    -- the last sample is drawn in either case, and what was the last one before may be given up
    have kept_sublist : (kept settings samples).Sublist (samples.map Sample.point) :=
      (List.sublist_append_left _ _).trans ih
    split
    · simpa using kept_sublist.append_right [s.point]
    · simpa using kept_sublist.append_right [s.point]

/-- What is drawn of a run is at the samples of the run and at the one that ends it. -/
theorem points_sublist (run : Run α) :
    ((run.points settings limits).map Prod.fst).Sublist
      ((run.samples ++ run.next.toList).map Sample.x) := by
  obtain ⟨samples, next⟩ := run
  have at_samples := (kept_unkept_sublist settings samples).map Prod.fst
  rw [List.map_map, show Prod.fst ∘ Sample.point = Sample.x (α := α) from rfl] at at_samples
  cases next with
  | none => simpa [points] using at_samples
  | some s =>
    have kept_sublist := ((List.sublist_append_left _ _).map Prod.fst).trans at_samples
    have stands : ((s.clamped? settings limits).toList.map Prod.fst).Sublist [s.x] := by
      cases clamped : s.clamped? settings limits with
      | none => exact List.nil_sublist _
      | some p => simp [fst_of_clamped? clamped]
    simpa [points] using kept_sublist.append stands

end Run

/-- A walk draws at most one point at each sample, in the order of the samples. -/
theorem abscissas_walk_sublist {samples : List (Sample α)}
    (finite : ∀ s : Sample α, s.isDrawn settings limits = true →
      s.clamped? settings limits = none) :
    (abscissas (walk settings limits samples)).Sublist (samples.map Sample.x) := by
  have drawn : walk settings limits samples = (runs settings limits samples).filterMap fun run =>
      Polyline.ofPoints? (run.points settings limits) :=
    Walk.During.runs finite Walk.During.start
  -- a run that gives fewer than two points gives no polyline
  have each (run : Run α) :
      (abscissas (Polyline.ofPoints? (run.points settings limits)).toList).Sublist
      ((run.samples ++ run.next.toList).map Sample.x) := by
    unfold Polyline.ofPoints?
    split
    · simpa [abscissas] using run.points_sublist
    · exact List.nil_sublist _
  rw [drawn]
  conv => rhs; rw [← flatMap_runs settings limits samples]
  rw [abscissas, List.filterMap_eq_flatMap_toList, List.flatMap_assoc, List.map_flatMap]
  exact List.Sublist.flatMap_right _ fun run _ => each run

private theorem map_fst_zip_sublist {β γ : Type} (xs : List β) (ys : List γ) :
    ((xs.zip ys).map Prod.fst).Sublist xs := by
  induction xs generalizing ys with
  | nil => exact .slnil
  | cons x rest ih =>
    cases ys with
    | nil => exact List.nil_sublist _
    | cons y others => exact (ih others).cons_cons x

private theorem map_x_samplesOf_sublist (v : Viewport α) (step : α)
    (xs ys before after : List α) :
    ((samplesOf v step xs ys before after).map Sample.x).Sublist xs := by
  rw [samplesOf, List.map_map]
  exact map_fst_zip_sublist _ _

end

section

variable {K : Type} [Field K] [LinearOrder K] [IsStrictOrderedRing K] [FloorRing K]

omit [IsStrictOrderedRing K] [FloorRing K] in
/-- What stands for a point: itself where it is a step or more away from zero, or a number beside
zero. -/
theorem besideZero_cases (step t : K) :
    (t ≤ -step ∧ besideZero step t = t) ∨
    (-step < t ∧ t < 0 ∧ besideZero step t = -1e-12) ∨
        (0 ≤ t ∧ t < step ∧ besideZero step t = 1e-10) ∨
        (step ≤ t ∧ besideZero step t = t) := by
  unfold besideZero
  split_ifs with below above
  · exact .inr (.inl ⟨below.1, below.2, rfl⟩)
  · exact .inr (.inr (.inl ⟨above.1, above.2, rfl⟩))
  · rcases le_or_gt t (-step) with far | near
    · exact .inl ⟨far, rfl⟩
    · have nonnegative : 0 ≤ t := not_lt.1 fun negative => below ⟨near, negative⟩
      exact .inr (.inr (.inr ⟨not_lt.1 fun less => above ⟨nonnegative, less⟩, rfl⟩))

/-- Nothing stands for a point by being zero. -/
theorem besideZero_ne_zero {step : K} (positive : 0 < step) (t : K) : besideZero step t ≠ 0 := by
  intro zero
  rcases besideZero_cases step t
    with ⟨_, same⟩ | ⟨_, _, same⟩ | ⟨_, _, same⟩ | ⟨_, same⟩
  · linarith
  · norm_num [same] at zero
  · norm_num [same] at zero
  · linarith

/-- A step that is larger than the numbers beside zero leads from what stands for a point to
something larger. -/
theorem besideZero_lt {step s t : K} (large : 1e-10 < step) (apart : s + step ≤ t) :
    besideZero step s < besideZero step t := by
  have beside : (-1e-10 : K) < -1e-12 ∧ (-1e-12 : K) < 1e-10 := by norm_num
  rcases besideZero_cases step s with ⟨_, same⟩ | ⟨_, _, same⟩ | ⟨_, _, same⟩ |
    ⟨_, same⟩ <;>
    rcases besideZero_cases step t with ⟨_, same'⟩ | ⟨_, _, same'⟩ | ⟨_, _, same'⟩ |
      ⟨_, same'⟩ <;>
    linarith

/-- A fine grid leaves out zero, and increases if its step is larger than the numbers beside
zero. -/
theorem fineGrid_forward {low high : K} {step : Extended K} {ts : List (Extended K)}
    (less : low < high) (grid : fineGrid (finite low) (finite high) step = .ok ts) :
    finite 0 ∉ ts ∧ (finite 1e-10 < step → ts.Pairwise (· < ·)) := by
  constructor
  · intro zero
    obtain ⟨s, t, -, positive, -, -, same⟩ := mem_fineGrid less grid zero
    exact besideZero_ne_zero positive t (Extended.finite.inj same).symm
  · intro large
    cases ts with
    | nil => exact .nil
    | cons first others =>
      -- where there are points the step is a number
      obtain ⟨s, rfl, positive⟩ := step_of_mem_fineGrid less grid List.mem_cons_self
      rw [fineGrid_finite positive] at grid
      rw [← Except.ok.inj grid, List.pairwise_map]
      refine List.pairwise_lt_range.imp fun {i j} before =>
        finite_lt.2 (besideZero_lt (finite_lt.1 large) ?_)
      have next : (i : K) + 1 ≤ j := by exact_mod_cast before
      nlinarith

/-- A fine grid has no zero and, with a step larger than the numbers beside zero, increases. A walk
along samples whose abscissas increase draws points whose abscissas increase from the first polyline
to the last, whatever the values and slopes, points for infinite values and the last one among them.
So it is with every graph. -/
theorem sampled_forward :
    (∀ low high step : K, low < high → 0 < step →
      ∃ ts, fineGrid (finite low) (finite high) (finite step) = .ok ts ∧ finite 0 ∉ ts ∧
        (1e-10 < step → ts.Pairwise (· < ·))) ∧
    (∀ (settings : Settings (Extended K)) (limits : Limits (Extended K))
        (samples : List (Sample (Extended K))),
      (samples.map Sample.x).Pairwise (· < ·) →
      (abscissas (walk settings limits samples)).Pairwise (· < ·)) ∧
    (∀ (f : List (Extended K) → List (Extended K)) (domain : Option (Extended K × Extended K))
        (points : ℕ) (v : Viewport (Extended K)) (settings : Settings (Extended K))
        (c : SampledCurve (Extended K)),
      sampleExplicit f domain points v settings = .ok c →
        finite 0 ∉ abscissas c.polylines ∧
        ∀ range step, explicitDomain v settings domain = .ok range →
          fineStep settings points range.1 range.2 = .ok step → finite 1e-10 < step →
          (abscissas c.polylines).Pairwise (· < ·)) := by
  refine ⟨?grid, ?walk, ?graph⟩
  case grid =>
    intro low high step less positive
    obtain ⟨nonzero, forward⟩ := fineGrid_forward less (fineGrid_finite positive)
    exact ⟨_, fineGrid_finite positive, nonzero, fun large => forward (finite_lt.2 large)⟩
  case walk =>
    intro settings limits samples forward
    exact forward.sublist (abscissas_walk_sublist Extended.clamped?_of_isDrawn)
  case graph =>
    intro f domain points v settings c returned
    rcases polylines_sampleExplicit returned with
      nothing | ⟨low, high, step, ts, y, found, proper, stepped, grid, -, drawn⟩
    · simp [nothing, abscissas]
    · -- the abscissas that are drawn are some of the grid's
      obtain ⟨x, x', rfl, rfl, less⟩ := isProperDomain_iff.1 proper
      obtain ⟨nonzero, forward⟩ := fineGrid_forward less grid
      have some_of_grid : (abscissas c.polylines).Sublist ts := by
        rw [drawn]
        exact (abscissas_walk_sublist Extended.clamped?_of_isDrawn).trans
          (map_x_samplesOf_sublist ..)
      refine ⟨fun zero => nonzero (some_of_grid.subset zero),
        fun range step' found' stepped' large => ?_⟩
      cases found.symm.trans found'
      cases stepped.symm.trans stepped'
      exact (forward large).sublist some_of_grid

end

/-- Samples with one in the middle that is infinite. -/
def samplesAroundPole : List (Sample (Extended ℚ)) :=
  [⟨-2.0, 1.0, 0.0, 0.0⟩, ⟨-1.0, 2.0, 0.0, 0.0⟩, ⟨1.0, infinity, 0.0, 0.0⟩,
    ⟨2.0, 2.0, 0.0, 0.0⟩, ⟨3.0, 1.0, 0.0, 0.0⟩]

/-- A grid across zero; a curve with a pole; and a line of which every second sample is kept, and
the last. -/
theorem sampled_forward_through_zero :
    (∃ ts, fineGrid (finite (-1 : ℚ)) (finite 1) (finite (1 / 3)) = .ok ts ∧ ts.length = 6 ∧
      finite 0 ∉ ts ∧ ts.Pairwise (· < ·)) ∧
    (abscissas (walk .coarse ⟨(-infinity, infinity), (-5.0, 5.0)⟩ samplesAroundPole) =
        [-2.0, -1.0, 1.0, 2.0, 3.0] ∧
      (abscissas (walk .coarse ⟨(-infinity, infinity), (-5.0, 5.0)⟩ samplesAroundPole)).Pairwise
        (· < ·)) ∧
    ∃ (v : Viewport (Extended ℚ)) (c : SampledCurve (Extended ℚ)),
      sampleExplicit id (some (finite (-1), finite 1)) 3 v
        { Settings.coarse with stride := 2 } = .ok c ∧
      c.pointCount = 3 ∧ finite 0 ∉ abscissas c.polylines ∧
      (abscissas c.polylines).Pairwise (· < ·) := by
  refine ⟨?grid, ?walk, ?graph⟩
  case grid =>
    obtain ⟨ts, grid, nonzero, forward⟩ :=
      sampled_forward.1 (-1 : ℚ) 1 (1 / 3) (by norm_num) (by norm_num)
    have counted :
        (fineGrid (finite (-1 : ℚ)) (finite 1) (finite (1 / 3))).toOption.map List.length =
        some 6 := by
      decide +kernel
    rw [grid] at counted
    exact ⟨ts, grid, Option.some.inj counted, nonzero, forward (by norm_num)⟩
  case walk =>
    exact ⟨by decide +kernel, sampled_forward.2.1 _ _ _ (by decide +kernel)⟩
  case graph =>
    let settings : Settings (Extended ℚ) := { Settings.coarse with stride := 2 }
    have run : ((Viewport.create .square).2.toOption.bind fun v =>
        (explicitDomain v settings (some (finite (-1), finite 1))).toOption.bind fun range =>
        (fineStep settings 3 range.1 range.2).toOption.bind fun step =>
        (sampleExplicit id (some (finite (-1), finite 1)) 3 v settings).toOption.map fun c =>
          (v, range, step, c)).map (fun (_, _, step, c) =>
            (c.pointCount, decide (finite 1e-10 < step))) =
        some (3, true) := by
      decide +kernel
    obtain ⟨⟨v, range, step, c⟩, found, measures⟩ := Option.map_eq_some_iff.1 run
    obtain ⟨v', created, found⟩ := Option.bind_eq_some_iff.1 found
    obtain ⟨range', clipped, found⟩ := Option.bind_eq_some_iff.1 found
    obtain ⟨step', stepped, found⟩ := Option.bind_eq_some_iff.1 found
    obtain ⟨c', returned, same⟩ := Option.map_eq_some_iff.1 found
    cases same
    rw [toOption_eq_some] at clipped stepped returned
    obtain ⟨counted, large⟩ := Prod.mk.inj measures
    obtain ⟨nonzero, forward⟩ := sampled_forward.2.2 id _ 3 v settings c returned
    exact ⟨v, c, returned, counted, nonzero,
      forward range step clipped stepped (of_decide_eq_true large)⟩

end CurveBoard
