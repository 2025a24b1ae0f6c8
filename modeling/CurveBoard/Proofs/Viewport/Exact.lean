import CurveBoard.Proofs.Exact
import CurveBoard.Proofs.Viewport
import CurveBoard.Viewport.Given
import Mathlib.Tactic.FieldSimp

/-!
# Viewports in exact arithmetic

All numbers of a viewport are finite, but for its overscan. The ends of its window are in order, and
its scales are positive.
-/
namespace CurveBoard

open Scalar Extended

/-- The same viewport with other numbers. -/
def Viewport.map {α β : Type} (f : α → β) (v : Viewport α) : Viewport β where
  width := f v.width
  height := f v.height
  padding := f v.padding
  window := v.window.map f
  xScale := f v.xScale
  yScale := f v.yScale
  origin := (f v.origin.1, f v.origin.2)
  equalScale := v.equalScale
  overscan := f v.overscan

variable {K : Type} [Field K] [LinearOrder K] [IsStrictOrderedRing K]

/-- What holds of the numbers of a viewport. -/
structure Viewport.IsProper (u : Viewport K) : Prop where
  padding : 0 ≤ u.padding
  width : 2 * u.padding < u.width
  height : 2 * u.padding < u.height
  x_lt : u.window.xMin < u.window.xMax
  y_lt : u.window.yMin < u.window.yMax
  xScale : u.xScale = (u.width - 2 * u.padding) / (u.window.xMax - u.window.xMin)
  yScale : u.yScale = (u.height - 2 * u.padding) / (u.window.yMax - u.window.yMin)
  origin : u.origin = (u.padding - u.window.xMin * u.xScale, u.padding - u.window.yMin * u.yScale)

namespace Viewport.IsProper

variable {u : Viewport K}

theorem xScale_pos (proper : u.IsProper) : 0 < u.xScale := by
  rw [proper.xScale]
  exact div_pos (sub_pos.2 proper.width) (sub_pos.2 proper.x_lt)

theorem yScale_pos (proper : u.IsProper) : 0 < u.yScale := by
  rw [proper.yScale]
  exact div_pos (sub_pos.2 proper.height) (sub_pos.2 proper.y_lt)

end Viewport.IsProper

variable [FloorRing K]

private theorem checkRange_finite {axis : Axis} {low high : Extended K}
    {range : CheckedRange (Extended K)} (checked : checkRange axis low high = .ok range) :
    ∃ x y : K, range.low = finite x ∧ range.high = finite y ∧ x < y := by
  unfold checkRange at checked
  split at checked
  · cases checked
  next ends =>
    simp only [Bool.not_eq_true, Bool.not_eq_false', Bool.and_eq_true, isFinite_iff] at ends
    obtain ⟨⟨x, rfl⟩, ⟨y, rfl⟩⟩ := ends
    split at checked
    · cases checked
      refine ⟨x, x + 1.0, rfl, rfl, ?_⟩
      norm_num
    next ordered =>
      cases checked
      exact ⟨x, y, rfl, rfl, not_le.1 fun reversed => ordered (finite_le.2 reversed)⟩

private theorem checkFrame_finite {width height padding : Extended K}
    (number : isNaN padding = false) (checked : checkFrame width height padding = .ok ()) :
    ∃ w h p : K, width = finite w ∧ height = finite h ∧ padding = finite p ∧ 0 ≤ p ∧
      2 * p < w ∧ 2 * p < h := by
  unfold checkFrame at checked
  split at checked
  · cases checked
  next padded =>
    split at checked
    · cases checked
    next roomy =>
      simp only [Bool.not_eq_true, Bool.or_eq_false_iff, Bool.not_eq_false', Bool.and_eq_true,
        isFinite_iff, decide_eq_false_iff_not] at roomy
      obtain ⟨⟨⟨⟨w, rfl⟩, ⟨h, rfl⟩⟩, wide⟩, high⟩ := roomy
      cases padding with
      | finite p =>
        simp only [scientific, finite_mul, finite_le, finite_lt, zero_literal, two_literal,
          not_le, not_lt]
          at padded wide high
        exact ⟨w, h, p, rfl, rfl, rfl, padded, wide, high⟩
      | posInf =>
        -- no side has room for a padding without end
        have doubled : (2.0 : Extended K) * posInf = posInf := if_pos (by norm_num)
        rw [doubled] at wide
        exact absurd (.inl trivial) wide
      | negInf => exact absurd trivial padded
      | nan => cases number

theorem scaleFor_finite {side padding low high : K} (less : low < high) :
    Viewport.scaleFor (finite side) (finite padding) (finite low) (finite high) =
      .ok (finite ((side - 2 * padding) / (high - low))) := by
  simp only [Viewport.scaleFor, scientific, finite_mul, finite_sub, two_literal,
    quotient_finite (sub_pos.2 less).ne', mapError_ok]

namespace Viewport

private theorem ordinates_finite {r : ViewportRequest (Extended K)} {xScale : K}
    {yScale : Extended K} {y : CheckedRange (Extended K)} {h p : K} (height : r.height = finite h)
    (padding : r.padding = finite p) (room : 2 * p < h) (positive : 0 < xScale)
    (found : (ordinates r (finite xScale)).2 = .ok (y, yScale)) :
    ∃ low high : K, y.low = finite low ∧ y.high = finite high ∧ low < high ∧
      yScale = finite ((h - 2 * p) / (high - low)) := by
  cases upper : r.yMax with
  | none =>
    -- the range is as long as the scale of the abscissas makes it
    obtain ⟨y_low, rfl, extent⟩ := ordinates_none upper found
    obtain ⟨low, start⟩ := isFinite_iff.1 (isFinite_of_ordinates_none upper found)
    have length_pos := div_pos (sub_pos.2 room) positive
    simp only [height, padding, start, scientific, finite_mul, finite_sub, two_literal,
      quotient_finite positive.ne', Except.map, finite_add] at extent
    refine ⟨low, low + (h - 2 * p) / xScale, y_low.trans start, (Except.ok.inj extent).symm,
      by linarith, ?_⟩
    have nonzero := (sub_pos.2 room).ne'
    rw [add_sub_cancel_left, div_div_cancel₀ nonzero]
  | some yMax =>
    obtain ⟨ranged, scaled⟩ := ordinates_some upper found
    obtain ⟨low, high, y_low, y_high, less⟩ := checkRange_finite ranged
    rw [height, padding, y_low, y_high, scaleFor_finite less] at scaled
    exact ⟨low, high, y_low, y_high, less, (Except.ok.inj scaled).symm⟩

/-- The numbers of a viewport. -/
theorem create_finite {r : ViewportRequest (Extended K)} {v : Viewport (Extended K)}
    (number : isNaN r.padding = false) (created : (create r).2 = .ok v) :
    ∃ u : Viewport K, u.IsProper ∧ v = { u.map finite with overscan := v.overscan } := by
  have framed := checkFrame_of_create created
  obtain ⟨x, y, xScale, yScale, ranged, scaled, found, rfl⟩ := create_eq_ok created
  obtain ⟨w, h, p, width, height, padding, nonneg, wide, high⟩ :=
    checkFrame_finite number framed
  obtain ⟨xMin, xMax, x_low, x_high, x_lt⟩ := checkRange_finite ranged
  rw [width, padding, x_low, x_high, scaleFor_finite x_lt] at scaled
  cases scaled
  have positive : 0 < (w - 2 * p) / (xMax - xMin) := div_pos (sub_pos.2 wide) (sub_pos.2 x_lt)
  obtain ⟨yMin, yMax, y_low, y_high, y_lt, rfl⟩ :=
    ordinates_finite height padding high positive found
  let u : Viewport K := {
    width := w
    height := h
    padding := p
    window := ⟨xMin, xMax, yMin, yMax⟩
    xScale := (w - 2 * p) / (xMax - xMin)
    yScale := (h - 2 * p) / (yMax - yMin)
    origin := (p - xMin * ((w - 2 * p) / (xMax - xMin)), p - yMin * ((h - 2 * p) / (yMax - yMin)))
    equalScale := r.yMax.isNone
    overscan := 0 }
  refine ⟨u, ⟨nonneg, wide, high, x_lt, y_lt, rfl, rfl, rfl⟩, ?_⟩
  simp [u, assemble, map, Bounds.map, width, height, padding, x_low, x_high, y_low, y_high]

section

variable {u : Viewport K} {v : Viewport (Extended K)}

/-- All that can be seen is the window and the margin around it. -/
theorem extendedBounds_finite (proper : u.IsProper)
    (numbers : v = { u.map finite with overscan := v.overscan }) :
    v.extendedBounds = .ok (Bounds.map finite
      ⟨u.window.xMin - u.padding / u.xScale, u.window.xMax + u.padding / u.xScale,
        u.window.yMin - u.padding / u.yScale, u.window.yMax + u.padding / u.yScale⟩) := by
  rw [numbers]
  simp [extendedBounds, map, Bounds.map, Except.bind, Except.map, Bounds.grown,
    quotient_finite proper.xScale_pos.ne', quotient_finite proper.yScale_pos.ne']

theorem plotBoundsFor_finite (proper : u.IsProper)
    (numbers : v = { u.map finite with overscan := v.overscan }) (overscan : K) :
    v.plotBoundsFor (finite overscan) = .ok (Bounds.map finite
      ⟨u.window.xMin - u.padding / u.xScale - overscan * (u.window.xMax - u.window.xMin),
        u.window.xMax + u.padding / u.xScale + overscan * (u.window.xMax - u.window.xMin),
        u.window.yMin - u.padding / u.yScale - overscan * (u.window.yMax - u.window.yMin),
        u.window.yMax + u.padding / u.yScale + overscan * (u.window.yMax - u.window.yMin)⟩) := by
  rw [plotBoundsFor, extendedBounds_finite proper numbers, numbers]
  simp [map, Bounds.map, Except.map, Bounds.grown]

/-- With an infinite overscan the plot is the whole plane. -/
theorem plotBoundsFor_posInf (proper : u.IsProper)
    (numbers : v = { u.map finite with overscan := v.overscan }) :
    v.plotBoundsFor posInf = .ok ⟨negInf, posInf, negInf, posInf⟩ := by
  have wide : (posInf * finite (u.window.xMax - u.window.xMin) : Extended K) = posInf :=
    if_pos (sub_pos.2 proper.x_lt)
  have high : (posInf * finite (u.window.yMax - u.window.yMin) : Extended K) = posInf :=
    if_pos (sub_pos.2 proper.y_lt)
  rw [plotBoundsFor, extendedBounds_finite proper numbers, numbers]
  simp only [map, Bounds.map, Except.map, Bounds.grown, finite_sub, wide, high]
  rfl

omit [IsStrictOrderedRing K] in
private theorem extendedBounds_of_nan {b : Bounds (Extended K)} (padding : v.padding = nan)
    (bounded : v.extendedBounds = .ok b) : b = ⟨nan, nan, nan, nan⟩ := by
  obtain ⟨dx, divided, rest⟩ := bind_eq_ok.1 bounded
  obtain ⟨dy, divided', rfl⟩ := map_eq_ok.1 rest
  rw [padding] at divided divided'
  simp [Bounds.grown, quotient_nan divided, quotient_nan divided']

omit [IsStrictOrderedRing K] in
private theorem plotBoundsFor_nan {plot : Bounds (Extended K)}
    (bounded : v.plotBoundsFor nan = .ok plot) :
    plot = ⟨nan, nan, nan, nan⟩ := by
  obtain ⟨b, -, rfl⟩ := map_eq_ok.1 bounded
  simp [Bounds.grown]

omit [IsStrictOrderedRing K] in
private theorem plotBoundsFor_of_nan {overscan : Extended K} {plot : Bounds (Extended K)}
    (padding : v.padding = nan) (bounded : v.plotBoundsFor overscan = .ok plot) :
    plot = ⟨nan, nan, nan, nan⟩ := by
  obtain ⟨b, seen, rfl⟩ := map_eq_ok.1 bounded
  simp [extendedBounds_of_nan padding seen, Bounds.grown]

end

omit [IsStrictOrderedRing K] in
private theorem padding_of_create {r : ViewportRequest (Extended K)} {v : Viewport (Extended K)}
    (created : (create r).2 = .ok v) : v.padding = r.padding := by
  obtain ⟨x, y, xScale, yScale, -, -, -, rfl⟩ := create_eq_ok created
  rfl

/-- The plot bounds contain the window; and they are finite unless the overscan is infinite, and
infinite then. -/
theorem plotBoundsFor_of_create {r : ViewportRequest (Extended K)} {v : Viewport (Extended K)}
    {overscan : Extended K} {plot : Bounds (Extended K)} (created : (create r).2 = .ok v)
    (accepted : ¬ overscan < 0.0) (bounded : v.plotBoundsFor overscan = .ok plot) :
    plot = ⟨nan, nan, nan, nan⟩ ∨ plot.containsBounds v.window = true ∧
      (overscan = posInf ∨ ∃ numbers : Bounds K, plot = numbers.map finite) := by
  have padding := padding_of_create created
  cases number : isNaN r.padding with
  | true => exact .inl (plotBoundsFor_of_nan (padding.trans (isNaN_iff.1 number)) bounded)
  | false =>
    obtain ⟨u, proper, numbers⟩ := create_finite number created
    cases overscan with
    | finite o =>
      rw [scientific, finite_lt, zero_literal, not_lt] at accepted
      rw [plotBoundsFor_finite proper numbers] at bounded
      cases bounded
      -- both the margin and what the overscan adds to it go outwards
      have margin_x := div_nonneg proper.padding proper.xScale_pos.le
      have margin_y := div_nonneg proper.padding proper.yScale_pos.le
      have more_x := mul_nonneg accepted (sub_pos.2 proper.x_lt).le
      have more_y := mul_nonneg accepted (sub_pos.2 proper.y_lt).le
      refine .inr ⟨?_, .inr ⟨_, rfl⟩⟩
      rw [numbers]
      simp only [Bounds.containsBounds, Bounds.map, map, finite_le, Bool.and_eq_true,
        decide_eq_true_eq]
      refine ⟨⟨?_, ?_⟩, ?_, ?_⟩ <;> linarith
    | posInf =>
      rw [plotBoundsFor_posInf proper numbers] at bounded
      cases bounded
      refine .inr ⟨?_, .inl rfl⟩
      rw [numbers]
      simp only [Bounds.containsBounds, Bounds.map, map, Bool.and_eq_true]
      have below (x : K) : (negInf : Extended K) ≤ finite x := .inl trivial
      have above (x : K) : finite x ≤ (posInf : Extended K) := .inl trivial
      exact ⟨⟨decide_eq_true (below _), decide_eq_true (above _)⟩, decide_eq_true (below _),
        decide_eq_true (above _)⟩
    | negInf => exact absurd trivial accepted
    | nan => exact .inl (plotBoundsFor_nan bounded)

/-- All that can be seen has finite bounds. -/
theorem extendedBounds_of_create {r : ViewportRequest (Extended K)} {v : Viewport (Extended K)}
    {b : Bounds (Extended K)} (created : (create r).2 = .ok v)
    (bounded : v.extendedBounds = .ok b) :
    b = ⟨nan, nan, nan, nan⟩ ∨ ∃ numbers : Bounds K, b = numbers.map finite := by
  have padding := padding_of_create created
  cases number : isNaN r.padding with
  | true => exact .inl (extendedBounds_of_nan (padding.trans (isNaN_iff.1 number)) bounded)
  | false =>
    obtain ⟨u, proper, numbers⟩ := create_finite number created
    rw [extendedBounds_finite proper numbers] at bounded
    cases bounded
    exact .inr ⟨_, rfl⟩

end Viewport

end CurveBoard
