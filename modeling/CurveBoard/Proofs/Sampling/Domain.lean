import CurveBoard.Proofs.Exact
import CurveBoard.Proofs.Sampling.Modes
import Mathlib.Tactic.FieldSimp

/-!
# The domain of a sampled curve

In exact arithmetic the fine grid from one number to another is the usual one, but for the points
less than a step away from zero: a fixed number beside zero stands for each of them.
-/
namespace CurveBoard

open Scalar Extended

variable {K : Type} [Field K] [LinearOrder K] [FloorRing K]

theorem isProperDomain_iff {low high : Extended K} :
    isProperDomain low high = true ↔ ∃ x y, low = finite x ∧ high = finite y ∧ x < y := by
  unfold isProperDomain
  rw [Bool.and_eq_true, Bool.and_eq_true, isFinite_iff, isFinite_iff, Bool.not_eq_true',
    decide_eq_false_iff_not]
  constructor
  · rintro ⟨⟨⟨x, rfl⟩, ⟨y, rfl⟩⟩, ordered⟩
    exact ⟨x, y, rfl, rfl, not_le.1 fun reversed => ordered (finite_le.2 reversed)⟩
  · rintro ⟨x, y, rfl, rfl, less⟩
    exact ⟨⟨⟨x, rfl⟩, ⟨y, rfl⟩⟩, fun reversed => (finite_le.1 reversed).not_gt less⟩

/-- A clipped domain is between the bounds. -/
theorem clippedDomain_between {bounds domain : Extended K × Extended K} {x y : K}
    (clipped : clippedDomain bounds domain = (finite x, finite y)) :
    bounds.1 ≤ finite x ∧ finite y ≤ bounds.2 := by
  obtain ⟨low, high⟩ := Prod.mk.inj clipped
  constructor
  · unfold larger at low
    split at low
    next less => exact .inl (low ▸ less)
    · rw [low, finite_le]
  · unfold smaller at high
    split at high
    next less => exact .inl (high ▸ less)
    · rw [high, finite_le]

/-- Clipping a domain never makes it larger. -/
theorem clippedDomain_inside {bounds domain : Extended K × Extended K} {x y : K}
    (low_number : isNaN domain.1 = false) (high_number : isNaN domain.2 = false)
    (clipped : clippedDomain bounds domain = (finite x, finite y)) :
    domain.1 ≤ finite x ∧ finite y ≤ domain.2 := by
  obtain ⟨low, high⟩ := Prod.mk.inj clipped
  constructor
  · unfold larger at low
    split at low
    · rw [low, finite_le]
    next not_less =>
      rw [low] at not_less
      exact le_finite_of_not_lt low_number not_less
  · unfold smaller at high
    split at high
    · rw [high, finite_le]
    next not_less =>
      rw [high] at not_less
      exact finite_le_of_not_lt high_number not_less

/-- What a graph is sampled over is inside the requested domain. -/
theorem explicitDomain_inside {v : Viewport (Extended K)} {settings : Settings (Extended K)}
    {domain : Extended K × Extended K} {x y : K} (low_number : isNaN domain.1 = false)
    (high_number : isNaN domain.2 = false)
    (found : explicitDomain v settings (some domain) = .ok (finite x, finite y)) :
    domain.1 ≤ finite x ∧ finite y ≤ domain.2 := by
  unfold explicitDomain at found
  dsimp only at found
  split at found
  · cases found
    exact ⟨finite_le.2 le_rfl, finite_le.2 le_rfl⟩
  · obtain ⟨bounds, -, clipped⟩ := map_eq_ok.1 found
    exact clippedDomain_inside low_number high_number clipped

/-- No infinite ordinate is inside any limits. -/
theorem Extended.clamped?_of_isDrawn {settings : Settings (Extended K)}
    {limits : Limits (Extended K)} (s : Sample (Extended K))
    (drawn : s.isDrawn settings limits = true) : s.clamped? settings limits = none := by
  simp only [Sample.isDrawn, Sample.isAccepted, Limits.admitsY, Bool.and_eq_true,
    decide_eq_true_eq] at drawn
  obtain ⟨-, ⟨above, below⟩, -⟩ := drawn
  unfold Sample.clamped?
  split
  · rfl
  · split
    next bottom =>
      rw [show s.y = negInf from eq_of_same bottom] at above
      exact absurd above (by cases limits.y.1 <;> exact id)
    · split
      next top =>
        rw [show s.y = posInf from eq_of_same top] at below
        exact absurd below id
      · rfl

/-- A point that is not a sample stands for an infinite ordinate. -/
theorem isInfinite_of_clamped? {settings : Settings (Extended K)} {limits : Limits (Extended K)}
    {s : Sample (Extended K)} {p : Point (Extended K)}
    (clamped : s.clamped? settings limits = some p) :
    isInfinite s.y = true := by
  unfold Sample.clamped? at clamped
  split_ifs at clamped with _ bottom top
  · rw [show s.y = negInf from eq_of_same bottom]
    rfl
  · rw [show s.y = posInf from eq_of_same top]
    rfl

/-- What stands for a point of a grid. -/
def besideZero (step t : K) : K :=
  if -step < t ∧ t < 0 then -1e-12 else if 0 ≤ t ∧ t < step then 1e-10 else t

/-- Whether a number is in a domain or stands for one that is. -/
def IsSampledIn (step : K) (domain : Extended K × Extended K) (x : Extended K) : Prop :=
  ∃ t, domain.1 ≤ finite t ∧ finite t < domain.2 ∧ x = finite (besideZero step t)

/-- Whether the numbers that stand for those near zero are inside a domain, on each side on which
the domain comes within a step of zero. -/
structure KeepsInside (step : K) (domain : Extended K × Extended K) : Prop where
  below : domain.1 < finite 0 → finite (-step) < domain.2 →
    domain.1 ≤ finite (-1e-12) ∧ finite (-1e-12) < domain.2
  above : domain.1 < finite step → finite 0 < domain.2 →
    domain.1 ≤ finite 1e-10 ∧ finite 1e-10 < domain.2

theorem KeepsInside.inside {step : K} {domain : Extended K × Extended K} {x : Extended K}
    (keeps : KeepsInside step domain) (sampled : IsSampledIn step domain x) :
    domain.1 ≤ x ∧ x < domain.2 := by
  obtain ⟨t, at_least, less, rfl⟩ := sampled
  unfold besideZero
  split_ifs with below above
  · exact keeps.below (Extended.lt_of_le_of_lt at_least (finite_lt.2 below.2))
      (Extended.lt_trans (finite_lt.2 below.1) less)
  · exact keeps.above (Extended.lt_of_le_of_lt at_least (finite_lt.2 above.2))
      (Extended.lt_of_le_of_lt (finite_le.2 above.1) less)
  · exact ⟨at_least, less⟩

variable [IsStrictOrderedRing K]

private theorem avoidZero_finite {step : K} (positive : 0 < step) (t : K) :
    avoidZero (finite step) (finite t) = finite (besideZero step t) := by
  have below : (t < 0 ∧ 0 < t + step) ↔ (-step < t ∧ t < 0) := by
    constructor <;> rintro ⟨_, _⟩ <;> constructor <;> linarith
  have above : ((t - step < 0 ∧ 0 < t) ∨ t = 0) ↔ (0 ≤ t ∧ t < step) := by
    constructor
    · rintro (⟨_, _⟩ | rfl)
      · constructor <;> linarith
      · exact ⟨le_rfl, positive⟩
    · rintro ⟨at_least, less⟩
      rcases at_least.lt_or_eq with more | same
      · exact .inl ⟨by linarith, more⟩
      · exact .inr same.symm
  unfold avoidZero besideZero
  simp only [scientific, finite_add, finite_sub, finite_lt, finite_neg, finite_beq, zero_literal,
    Bool.and_eq_true, Bool.or_eq_true, decide_eq_true_eq, below, above]
  split_ifs <;> rfl

/-- The grid has a point for every multiple of the step that is less than the length of the
domain. -/
theorem fineGrid_finite {low high step : K} (positive : 0 < step) :
    fineGrid (finite low) (finite high) (finite step) =
      .ok ((List.range ⌈(high - low) / step⌉.toNat).map fun (k : ℕ) =>
        finite (besideZero step (low + step * k))) := by
  have inside : ∀ k ∈ List.range ⌈(high - low) / step⌉.toNat, low + step * k < high := by
    intro k member
    rw [List.mem_range, Int.lt_toNat, Int.lt_ceil, lt_div_iff₀ positive,
      Int.cast_natCast] at member
    linarith
  have all : ((List.range ⌈(high - low) / step⌉.toNat).map fun (k : ℕ) =>
    finite (low + step * k)).filter
      (· < finite high) = (List.range ⌈(high - low) / step⌉.toNat).map fun (k : ℕ) =>
        finite (low + step * k) := by
    rw [List.filter_eq_self]
    simpa using inside
  simp only [fineGrid, finite_sub, quotient_finite positive.ne', Except.bind,
    toInteger_finite, Except.map, ofNat_eq, finite_mul, finite_add, ceil_finite]
  rw [all, List.map_map]
  congr 1
  exact List.map_congr_left fun k _ => avoidZero_finite positive _

/-- Only a positive step leads anywhere. -/
theorem step_of_mem_fineGrid {low high : K} {step t : Extended K} {ts : List (Extended K)}
    (less : low < high) (grid : fineGrid (finite low) (finite high) step = .ok ts)
    (member : t ∈ ts) :
    ∃ s, step = finite s ∧ 0 < s := by
  obtain ⟨ratio, divided, rest⟩ := bind_eq_ok.1 grid
  obtain ⟨count, rounded, rfl⟩ := map_eq_ok.1 rest
  have some_steps : 0 < count := by
    obtain ⟨t₀, inside, -⟩ := List.mem_map.1 member
    obtain ⟨k, found, -⟩ := List.mem_map.1 (List.mem_filter.1 inside).1
    have := List.mem_range.1 found
    omega
  -- the number of steps is the length of the domain by that of a step
  cases step with
  | finite s =>
    rcases lt_trichotomy s 0 with negative | rfl | positive
    · rw [finite_sub, quotient_finite negative.ne] at divided
      cases divided
      rw [toInteger_finite] at rounded
      cases rounded
      have backwards := div_neg_of_pos_of_neg (sub_pos.2 less) negative
      rw [ceil_finite, Int.ceil_pos] at some_steps
      exact absurd some_steps backwards.not_gt
    · simp [quotient, zero_literal] at divided
    · exact ⟨s, rfl, positive⟩
  | posInf =>
    rw [finite_sub, quotient_posInf] at divided
    cases divided
    cases rounded
    simp at some_steps
  | negInf =>
    rw [finite_sub, quotient_negInf] at divided
    cases divided
    cases rounded
    simp at some_steps
  | nan =>
    cases divided
    cases rounded

/-- Every point of a grid stands for a number of its domain. -/
theorem mem_fineGrid {low high : K} {step t : Extended K} {ts : List (Extended K)}
    (less : low < high) (grid : fineGrid (finite low) (finite high) step = .ok ts)
    (member : t ∈ ts) :
    ∃ s t₀, step = finite s ∧ 0 < s ∧ low ≤ t₀ ∧ t₀ < high ∧
      t = finite (besideZero s t₀) := by
  obtain ⟨s, rfl, positive⟩ := step_of_mem_fineGrid less grid member
  rw [fineGrid_finite positive] at grid
  cases grid
  obtain ⟨k, found, rfl⟩ := List.mem_map.1 member
  rw [List.mem_range, Int.lt_toNat, Int.lt_ceil, lt_div_iff₀ positive, Int.cast_natCast] at found
  have forward := mul_nonneg positive.le (Nat.cast_nonneg (α := K) k)
  exact ⟨s, low + s * k, rfl, positive, by linarith, by linarith, rfl⟩

section

variable {f g : List (Extended K) → List (Extended K)}
  {domain : Extended K × Extended K} {points : ℕ}
  {v : Viewport (Extended K)} {settings : Settings (Extended K)} {c : SampledCurve (Extended K)}

private theorem fst_of_mem_sampleExplicit {polyline : Polyline (Extended K)}
    {p : Point (Extended K)} (low_number : isNaN domain.1 = false)
    (high_number : isNaN domain.2 = false)
    (sampled : sampleExplicit f (some domain) points v settings = .ok c)
    (member : polyline ∈ c.polylines) (inside : p ∈ polyline.points) :
    ∃ range step, explicitDomain v settings (some domain) = .ok range ∧
      fineStep settings points range.1 range.2 = .ok (finite step) ∧ 0 < step ∧
      IsSampledIn step domain p.1 := by
  obtain ⟨low, high, step, ts, limits, found, proper, stepped, grid, -, drawn⟩ :=
    mem_sampleExplicit sampled member
  obtain ⟨x, y, rfl, rfl, less⟩ := isProperDomain_iff.1 proper
  obtain ⟨at_least, at_most⟩ := explicitDomain_inside low_number high_number found
  -- the abscissa of a point is a point of the grid, be the ordinate finite or not
  obtain ⟨s, made, point⟩ := mem_walk Extended.clamped?_of_isDrawn drawn inside
  obtain ⟨place, at_place, -⟩ := mem_samplesOf made
  have same : p.1 = s.x := by
    rcases point with ⟨-, rfl⟩ | clamped
    · rfl
    · exact fst_of_clamped? clamped
  obtain ⟨step, t, rfl, positive, above, below, sampled_at⟩ :=
    mem_fineGrid less grid (List.mem_of_getElem? at_place)
  refine ⟨(finite x, finite y), step, found, stepped, positive, t, ?_, ?_,
    same.trans sampled_at⟩
  · exact Extended.le_trans at_least (finite_le.2 above)
  · exact Extended.lt_of_lt_of_le (finite_lt.2 below) at_most

/-- A curve in a parameter is drawn at points of a grid whose parameters are in the requested
domain. -/
theorem parameter_of_mem_sampleParametric {polyline : Polyline (Extended K)}
    {p : Point (Extended K)} (pointwise : ∀ ts, (f ts).length = ts.length)
    (sampled : sampleParametric f g (some domain) points v settings = .ok c)
    (member : polyline ∈ c.polylines) (inside : p ∈ polyline.points) :
    ∃ (step : K) (ts : List (Extended K)) (place : ℕ) (t : Extended K),
      fineStep settings points domain.1 domain.2 = .ok (finite step) ∧ 0 < step ∧
      fineGrid domain.1 domain.2 (finite step) = .ok ts ∧ ts[place]? = some t ∧
      IsSampledIn step domain t ∧
      (f ts)[place]? = some p.1 ∧ ((g ts)[place]? = some p.2 ∨
        ∃ y, (g ts)[place]? = some y ∧ isInfinite y = true) := by
  obtain ⟨low, high, step, ts, plot, limits, rfl, proper, stepped, grid, -, -, drawn⟩ :=
    mem_sampleParametric sampled member
  obtain ⟨x, y, rfl, rfl, less⟩ := isProperDomain_iff.1 proper
  obtain ⟨s, made, point⟩ := mem_walk Extended.clamped?_of_isDrawn drawn inside
  obtain ⟨place, abscissa, ordinate⟩ := mem_samplesOf made
  -- there are as many parameters as abscissas
  have short : place < ts.length := pointwise ts ▸ (List.getElem?_eq_some_iff.1 abscissa).1
  have at_place := List.getElem?_eq_getElem short
  obtain ⟨step, t, rfl, positive, above, below, sampled_at⟩ :=
    mem_fineGrid less grid (List.mem_of_getElem? at_place)
  refine ⟨step, ts, place, ts[place], stepped, positive, grid, at_place,
    ⟨t, finite_le.2 above, finite_lt.2 below, sampled_at⟩, ?_⟩
  rcases point with ⟨-, rfl⟩ | clamped
  · exact ⟨abscissa, .inl ordinate⟩
  · exact ⟨fst_of_clamped? clamped ▸ abscissa,
      .inr ⟨s.y, ordinate, isInfinite_of_clamped? clamped⟩⟩

end

/-- What is sampled is in the requested domain or stands for a number of it that is less than a step
away from zero; so it is in the domain if the numbers that stand for others are. This is said of the
fine grid, of the abscissas of a graph's points, and of the parameters at which points of a curve in
a parameter are drawn. -/
theorem sampled_in_domain :
    (∀ low high step : K, low < high → 0 < step →
      ∃ ts, fineGrid (finite low) (finite high) (finite step) = .ok ts ∧
        ∀ t ∈ ts, IsSampledIn step (finite low, finite high) t ∧
          (KeepsInside step (finite low, finite high) → finite low ≤ t ∧ t < finite high)) ∧
    (∀ (f : List (Extended K) → List (Extended K)) (domain : Extended K × Extended K)
        (points : ℕ) (v : Viewport (Extended K)) (settings : Settings (Extended K))
        (c : SampledCurve (Extended K)),
      isNaN domain.1 = false → isNaN domain.2 = false →
      sampleExplicit f (some domain) points v settings = .ok c →
      ∀ polyline ∈ c.polylines, ∀ p ∈ polyline.points, ∃ range step,
        explicitDomain v settings (some domain) = .ok range ∧
        fineStep settings points range.1 range.2 = .ok (finite step) ∧
        IsSampledIn step domain p.1 ∧ (KeepsInside step domain →
          domain.1 ≤ p.1 ∧ p.1 < domain.2)) ∧
    (∀ (f g : List (Extended K) → List (Extended K)) (domain : Extended K × Extended K)
        (points : ℕ) (v : Viewport (Extended K)) (settings : Settings (Extended K))
        (c : SampledCurve (Extended K)),
      (∀ ts, (f ts).length = ts.length) →
      sampleParametric f g (some domain) points v settings = .ok c →
      ∀ polyline ∈ c.polylines, ∀ p ∈ polyline.points,
        ∃ (step : K) (ts : List (Extended K)) (place : ℕ) (t : Extended K),
          fineStep settings points domain.1 domain.2 = .ok (finite step) ∧
          fineGrid domain.1 domain.2 (finite step) = .ok ts ∧ ts[place]? = some t ∧
          (f ts)[place]? = some p.1 ∧
          ((g ts)[place]? = some p.2 ∨ ∃ y, (g ts)[place]? = some y ∧ isInfinite y = true) ∧
          IsSampledIn step domain t ∧ (KeepsInside step domain →
            domain.1 ≤ t ∧ t < domain.2)) := by
  refine ⟨?grid, ?graph, ?parametric⟩
  case grid =>
    intro low high step less positive
    refine ⟨_, fineGrid_finite positive, fun t member => ?_⟩
    obtain ⟨step', t₀, same, -, above, below, rfl⟩ :=
      mem_fineGrid less (fineGrid_finite positive) member
    cases same
    have sampled : IsSampledIn step (finite low, finite high) (finite (besideZero step t₀)) :=
      ⟨t₀, finite_le.2 above, finite_lt.2 below, rfl⟩
    exact ⟨sampled, fun keeps => keeps.inside sampled⟩
  case graph =>
    intro f domain points v settings c low_number high_number returned polyline member p inside
    obtain ⟨range, step, found, stepped, -, sampled⟩ :=
      fst_of_mem_sampleExplicit low_number high_number returned member inside
    exact ⟨range, step, found, stepped, sampled, fun keeps => keeps.inside sampled⟩
  case parametric =>
    intro f g domain points v settings c pointwise returned polyline member p inside
    obtain ⟨step, ts, place, t, stepped, -, grid, at_place, sampled, abscissa, ordinate⟩ :=
      parameter_of_mem_sampleParametric pointwise returned member inside
    exact ⟨step, ts, place, t, stepped, grid, at_place, abscissa, ordinate, sampled,
      fun keeps => keeps.inside sampled⟩

/-- The frame of a new board, in exact arithmetic. -/
def ViewportRequest.square : ViewportRequest (Extended ℚ) where
  width := 500.0
  height := 500.0
  padding := 20.0
  xMin := -5.0
  xMax := 5.0
  yMin := -5.0
  yMax := some 5.0
  overscan := 0.25

/-- The usual settings but for steps that are not divided, in exact arithmetic. -/
def Settings.coarse : Settings (Extended ℚ) where
  microSteps := 1.0
  stride := 1
  asymptoteSlope := 500.0
  edgeSlope := 400.0
  infinityEpsilon := 1e-5
  overscan := 0.25
  drawBeyondX := false
  drawBeyondY := true

/-- A curve that is sampled in the frame of a new board, and this frame. -/
def sampledOnSquare
    (sample : Viewport (Extended ℚ) → Except ArithmeticFault (SampledCurve (Extended ℚ))) :
    Option (Viewport (Extended ℚ) × SampledCurve (Extended ℚ)) :=
  (Viewport.create .square).2.toOption.bind fun v => (sample v).toOption.map fun c => (v, c)

private theorem sampledOnSquare_eq_some {v : Viewport (Extended ℚ)}
    {c : SampledCurve (Extended ℚ)}
    {sample : Viewport (Extended ℚ) → Except ArithmeticFault (SampledCurve (Extended ℚ))}
    (sampled : sampledOnSquare sample = some (v, c)) :
    (Viewport.create .square).2 = .ok v ∧ sample v = .ok c := by
  obtain ⟨v', created, rest⟩ := Option.bind_eq_some_iff.1 sampled
  obtain ⟨c', returned, same⟩ := Option.map_eq_some_iff.1 rest
  cases same
  exact ⟨toOption_eq_some.1 created, toOption_eq_some.1 returned⟩

/-- A domain from one half on, with a step of more than that: the first point of the grid is moved
below it. -/
theorem not_sampled_in_domain :
    (¬ ∀ low high step : ℚ, low < high → 0 < step →
      ∀ ts, fineGrid (finite low) (finite high) (finite step) = .ok ts →
        ∀ t ∈ ts, finite low ≤ t ∧ t < finite high) ∧
    ¬ ∀ (r : ViewportRequest (Extended ℚ)) (v : Viewport (Extended ℚ))
        (f : List (Extended ℚ) → List (Extended ℚ))
          (domain : Extended ℚ × Extended ℚ) (points : ℕ)
        (settings : Settings (Extended ℚ)) (c : SampledCurve (Extended ℚ)),
      (Viewport.create r).2 = .ok v → sampleExplicit f (some domain) points v settings = .ok c →
      ∀ polyline ∈ c.polylines, ∀ p ∈ polyline.points, domain.1 ≤ p.1 ∧
        p.1 ≤ domain.2 := by
  constructor
  · intro always
    have grid : fineGrid (finite (1 / 2 : ℚ)) (finite 2) (finite (3 / 4)) = .ok _ :=
      fineGrid_finite (by norm_num)
    -- the first point, one half, is less than a step from zero
    have first : finite (1e-10 : ℚ) ∈
        (List.range ⌈((2 : ℚ) - 1 / 2) / (3 / 4)⌉.toNat).map fun (k : ℕ) =>
          finite (besideZero (3 / 4 : ℚ) (1 / 2 + 3 / 4 * k)) :=
      List.mem_map.2 ⟨0, by decide +kernel, by decide +kernel⟩
    have above := (always _ _ _ (by norm_num) (by norm_num) _ grid _ first).1
    exact absurd above (by decide +kernel)
  · intro always
    have run :
        (sampledOnSquare fun v => sampleExplicit id (some (0.5, 2.0)) 2 v .coarse).map (fun found =>
          found.2.polylines.any fun polyline => polyline.points.any fun p => decide (p.1 < 0.5)) =
            some true := by
      decide +kernel
    obtain ⟨⟨v, c⟩, sampled, below⟩ := Option.map_eq_some_iff.1 run
    obtain ⟨created, returned⟩ := sampledOnSquare_eq_some sampled
    obtain ⟨polyline, member, some_point⟩ := List.any_eq_true.1 below
    obtain ⟨p, inside, less⟩ := List.any_eq_true.1 some_point
    have above := (always _ v id _ 2 _ c created returned polyline member p inside).1
    exact absurd (Extended.lt_of_le_of_lt above (of_decide_eq_true less)) (by decide +kernel)

/-- A domain around zero, whatever the step. -/
theorem sampled_in_domain_around_zero :
    (∃ ts, fineGrid (finite (-1 : ℚ)) (finite 1) (finite (1 / 3)) = .ok ts ∧
      ∀ t ∈ ts, finite (-1) ≤ t ∧ t < finite 1) ∧
    (∃ (v : Viewport (Extended ℚ)) (c : SampledCurve (Extended ℚ)),
      sampleExplicit id (some (finite (-1), finite 1)) 2 v .coarse = .ok c ∧ c.pointCount = 3 ∧
        ∀ polyline ∈ c.polylines, ∀ p ∈ polyline.points, finite (-1) ≤ p.1 ∧
          p.1 < finite 1) ∧
    ∃ (v : Viewport (Extended ℚ)) (c : SampledCurve (Extended ℚ)),
      sampleParametric id id (some (finite (-1), finite 1)) 2 v .coarse = .ok c ∧
        c.pointCount = 3 ∧ ∀ polyline ∈ c.polylines, ∀ p ∈ polyline.points,
          finite (-1) ≤ p.1 ∧ p.1 < finite 1 := by
  have keeps (step : ℚ) : KeepsInside step (finite (-1), finite 1) := by
    constructor <;> intro _ _ <;> decide +kernel
  refine ⟨?grid, ?graph, ?parametric⟩
  case grid =>
    obtain ⟨ts, grid, inside⟩ :=
      sampled_in_domain.1 (-1 : ℚ) 1 (1 / 3) (by norm_num) (by norm_num)
    exact ⟨ts, grid, fun t member => (inside t member).2 (keeps _)⟩
  case graph =>
    have run :
        (sampledOnSquare fun v => sampleExplicit id (some (finite (-1), finite 1)) 2 v .coarse).map
          (·.2.pointCount) = some 3 := by
      decide +kernel
    obtain ⟨⟨v, c⟩, sampled, counted⟩ := Option.map_eq_some_iff.1 run
    obtain ⟨-, returned⟩ := sampledOnSquare_eq_some sampled
    refine ⟨v, c, returned, counted, fun polyline member p inside => ?_⟩
    obtain ⟨-, step, -, -, -, stays⟩ :=
      sampled_in_domain.2.1 id _ 2 v _ c rfl rfl returned polyline member p inside
    exact stays (keeps step)
  case parametric =>
    have run :
        (sampledOnSquare fun v =>
        sampleParametric id id (some (finite (-1), finite 1)) 2 v .coarse).map
          (·.2.pointCount) = some 3 := by
      decide +kernel
    obtain ⟨⟨v, c⟩, sampled, counted⟩ := Option.map_eq_some_iff.1 run
    obtain ⟨-, returned⟩ := sampledOnSquare_eq_some sampled
    refine ⟨v, c, returned, counted, fun polyline member p inside => ?_⟩
    obtain ⟨step, ts, place, t, -, -, at_place, abscissa, -, -, stays⟩ :=
      sampled_in_domain.2.2 id id _ 2 v _ c (fun _ => rfl) returned polyline member p inside
    -- the abscissa is the parameter
    cases at_place.symm.trans abscissa
    exact stays (keeps step)

end CurveBoard
