import CurveBoard.Proofs.Viewport.Exact

/-!
# The map between the plane and the device

In exact arithmetic a viewport maps the plane onto the device one to one, and its window onto the
frame without the padding. What can be seen in the frame are the extended bounds: they are the
window and a margin that is as wide as the padding on the device. The plot bounds lie around them,
the further the larger the overscan.

Everything follows from the scales being positive and from the length of each range, scaled, being
that of the frame's side without the padding. A viewport is made from numbers of the field here;
arithmetic with NaN, where a padding that is NaN passes the check of the frame, is not exact.
-/
namespace CurveBoard

open Scalar Extended

/-- The same request with other numbers. -/
def ViewportRequest.map {α β : Type} (f : α → β) (r : ViewportRequest α) :
    ViewportRequest β where
  width := f r.width
  height := f r.height
  padding := f r.padding
  xMin := f r.xMin
  xMax := f r.xMax
  yMin := f r.yMin
  yMax := r.yMax.map f
  overscan := f r.overscan

variable {K : Type} [Field K] [LinearOrder K] [IsStrictOrderedRing K]

/-! ### Margins -/

section Margin

variable {scale margin edge x : K}

private theorem sub_margin_le_iff (positive : 0 < scale) :
    edge - margin / scale ≤ x ↔ 0 ≤ (x - edge) * scale + margin := by
  rw [sub_le_iff_le_add, ← sub_le_iff_le_add', le_div_iff₀ positive]
  constructor
  · intro below
    linarith
  · intro below
    linarith

private theorem le_add_margin_iff (positive : 0 < scale) :
    x ≤ edge + margin / scale ↔ (x - edge) * scale ≤ margin := by
  rw [← sub_le_iff_le_add', le_div_iff₀ positive]

end Margin

/-! ### Columns and rows -/

namespace Viewport.IsProper

variable {u : Viewport K} (proper : u.IsProper)

include proper

/-- The window is as wide on the device as the frame without the padding. -/
theorem scaled_width : (u.window.xMax - u.window.xMin) * u.xScale = u.width - 2 * u.padding := by
  have nonzero : u.window.xMax - u.window.xMin ≠ 0 := (sub_pos.2 proper.x_lt).ne'
  rw [proper.xScale, mul_div_cancel₀ _ nonzero]

/-- The window is as high on the device as the frame without the padding. -/
theorem scaled_height : (u.window.yMax - u.window.yMin) * u.yScale = u.height - 2 * u.padding := by
  have nonzero : u.window.yMax - u.window.yMin ≠ 0 := (sub_pos.2 proper.y_lt).ne'
  rw [proper.yScale, mul_div_cancel₀ _ nonzero]

omit [IsStrictOrderedRing K] in
theorem column_from_left (x : K) :
    x * u.xScale + u.origin.1 = (x - u.window.xMin) * u.xScale + u.padding := by
  rw [proper.origin]
  ring

theorem column_from_right (x : K) :
    x * u.xScale + u.origin.1 = (x - u.window.xMax) * u.xScale + (u.width - u.padding) := by
  have width := proper.scaled_width
  rw [proper.column_from_left]
  linarith

omit [IsStrictOrderedRing K] in
theorem row_from_bottom (y : K) :
    u.height - (y * u.yScale + u.origin.2) =
      u.height - ((y - u.window.yMin) * u.yScale + u.padding) := by
  rw [proper.origin]
  ring

theorem row_from_top (y : K) :
    u.height - (y * u.yScale + u.origin.2) = u.padding - (y - u.window.yMax) * u.yScale := by
  have height := proper.scaled_height
  rw [proper.row_from_bottom]
  linarith

/-- An abscissa is in the range that can be seen just if its column is in the frame. -/
theorem column_visible_iff (x : K) :
    (u.window.xMin - u.padding / u.xScale ≤ x ∧ x ≤ u.window.xMax + u.padding / u.xScale) ↔
      0 ≤ x * u.xScale + u.origin.1 ∧ x * u.xScale + u.origin.1 ≤ u.width := by
  apply and_congr
  · rw [sub_margin_le_iff proper.xScale_pos, proper.column_from_left]
  · rw [le_add_margin_iff proper.xScale_pos, proper.column_from_right]
    constructor
    · intro below
      linarith
    · intro below
      linarith

/-- An ordinate is in the range that can be seen just if its row is in the frame. -/
theorem row_visible_iff (y : K) :
    (u.window.yMin - u.padding / u.yScale ≤ y ∧ y ≤ u.window.yMax + u.padding / u.yScale) ↔
      0 ≤ u.height - (y * u.yScale + u.origin.2) ∧
      u.height - (y * u.yScale + u.origin.2) ≤ u.height := by
  -- rows go down where ordinates go up
  rw [and_comm]
  apply and_congr
  · rw [le_add_margin_iff proper.yScale_pos, proper.row_from_top, sub_nonneg]
  · rw [sub_margin_le_iff proper.yScale_pos, proper.row_from_bottom, sub_le_self_iff]

end Viewport.IsProper

variable [FloorRing K]

/-- A point whose coordinates are numbers of the field. -/
def Extended.point (p : Point K) : Point (Extended K) := (finite p.1, finite p.2)

namespace Bounds

/-- Whether every edge is further out than that of other bounds. -/
def Surrounds (outer inner : Bounds (Extended K)) : Prop :=
  outer.xMin < inner.xMin ∧ inner.xMax < outer.xMax ∧ outer.yMin < inner.yMin ∧
  inner.yMax < outer.yMax

omit [IsStrictOrderedRing K] in
private theorem containsBounds_finite {b c : Bounds K} :
    (b.map finite).containsBounds (c.map finite) = true ↔
      (b.xMin ≤ c.xMin ∧ c.xMax ≤ b.xMax) ∧ b.yMin ≤ c.yMin ∧ c.yMax ≤ b.yMax := by
  simp only [containsBounds, map, finite_le, Bool.and_eq_true, decide_eq_true_eq]

omit [IsStrictOrderedRing K] in
private theorem contains_finite {b : Bounds K} {p : Point K} :
    (b.map finite).contains (point p) = true ↔ (b.xMin ≤ p.1 ∧ p.1 ≤ b.xMax) ∧
      b.yMin ≤ p.2 ∧ p.2 ≤ b.yMax := by
  simp only [contains, map, point, finite_le, Bool.and_eq_true, decide_eq_true_eq]

end Bounds

namespace Viewport

/-! ### Points -/

section Points

variable {u : Viewport K} {v : Viewport (Extended K)}
  (numbers : v = { u.map finite with overscan := v.overscan })

include numbers

omit [IsStrictOrderedRing K] in
theorem toDevice_finite (p : Point K) :
    v.toDevice (point p) =
      point (p.1 * u.xScale + u.origin.1, u.height - (p.2 * u.yScale + u.origin.2)) := by
  rw [numbers]
  simp [toDevice, deviceRow, map, point]

omit [IsStrictOrderedRing K] in
/-- Where a point of a given column and row is on the device. -/
theorem toDevice_corner {x y column row : K} (atColumn : x * u.xScale + u.origin.1 = column)
    (atRow : u.height - (y * u.yScale + u.origin.2) = row) :
    v.toDevice (finite x, finite y) = (finite column, finite row) := by
  have mapped := toDevice_finite numbers (x, y)
  rw [atColumn, atRow] at mapped
  exact mapped

private theorem toPlane_finite (proper : u.IsProper) (q : Point K) :
    v.toPlane (point q) =
      .ok (point ((q.1 - u.origin.1) / u.xScale, (u.height - q.2 - u.origin.2) / u.yScale)) := by
  rw [numbers]
  simp [toPlane, map, point, Except.bind, Except.map, quotient_finite proper.xScale_pos.ne',
    quotient_finite proper.yScale_pos.ne']

end Points

/-- Whether a viewport maps the plane onto the device and back, the window onto the frame without
the padding, and what can be seen onto the frame, and has its bounds around each other. -/
structure MapsExactly (v : Viewport (Extended K)) : Prop where
  xScale_pos : 0.0 < v.xScale
  yScale_pos : 0.0 < v.yScale
  equal : v.equalScale = true → v.yScale = v.xScale
  toPlane_toDevice : ∀ p : Point K, v.toPlane (v.toDevice (point p)) = .ok (point p)
  toDevice_toPlane : ∀ q : Point K,
    ∃ p : Point K, v.toPlane (point q) = .ok (point p) ∧ v.toDevice (point p) = point q
  lowerLeft : v.toDevice (v.window.xMin, v.window.yMin) = (v.padding, v.height - v.padding)
  lowerRight : v.toDevice (v.window.xMax, v.window.yMin) =
    (v.width - v.padding, v.height - v.padding)
  upperLeft : v.toDevice (v.window.xMin, v.window.yMax) = (v.padding, v.padding)
  upperRight : v.toDevice (v.window.xMax, v.window.yMax) = (v.width - v.padding, v.padding)
  visible : ∃ seen, v.extendedBounds = .ok seen ∧ seen.containsBounds v.window = true ∧
    (∀ p : Point K, seen.contains (point p) = true ↔
      (0.0 ≤ (v.toDevice (point p)).1 ∧ (v.toDevice (point p)).1 ≤ v.width) ∧
        0.0 ≤ (v.toDevice (point p)).2 ∧ (v.toDevice (point p)).2 ≤ v.height) ∧
    ∀ overscan : K, 0 ≤ overscan →
      ∃ plot, v.plotBoundsFor (finite overscan) = .ok plot ∧ plot.containsBounds seen = true
  grows : ∀ less more : K, less < more →
    ∃ inner outer, v.plotBoundsFor (finite less) = .ok inner ∧
    v.plotBoundsFor (finite more) = .ok outer ∧
      outer.Surrounds inner

section Mapping

variable {u : Viewport K} {v : Viewport (Extended K)} (proper : u.IsProper)
  (numbers : v = { u.map finite with overscan := v.overscan })

include proper numbers

private theorem toPlane_toDevice (p : Point K) :
    v.toPlane (v.toDevice (point p)) = .ok (point p) := by
  rw [toDevice_finite numbers, toPlane_finite numbers proper]
  have column : (p.1 * u.xScale + u.origin.1 - u.origin.1) / u.xScale = p.1 := by
    rw [add_sub_cancel_right, mul_div_cancel_right₀ _ proper.xScale_pos.ne']
  have row :
      (u.height - (u.height - (p.2 * u.yScale + u.origin.2)) - u.origin.2) / u.yScale = p.2 := by
    rw [sub_sub_cancel, add_sub_cancel_right, mul_div_cancel_right₀ _ proper.yScale_pos.ne']
  rw [column, row]

private theorem toDevice_toPlane (q : Point K) :
    ∃ p : Point K, v.toPlane (point q) = .ok (point p) ∧ v.toDevice (point p) = point q := by
  refine ⟨_, toPlane_finite numbers proper q, ?_⟩
  rw [toDevice_finite numbers]
  have column : (q.1 - u.origin.1) / u.xScale * u.xScale + u.origin.1 = q.1 := by
    rw [div_mul_cancel₀ _ proper.xScale_pos.ne', sub_add_cancel]
  have row :
      u.height - ((u.height - q.2 - u.origin.2) / u.yScale * u.yScale + u.origin.2) = q.2 := by
    rw [div_mul_cancel₀ _ proper.yScale_pos.ne', sub_add_cancel, sub_sub_cancel]
  dsimp only
  rw [column, row]

/-- What can be seen contains the window and is what the frame shows. -/
theorem exists_visible :
    ∃ seen, v.extendedBounds = .ok seen ∧ seen.containsBounds v.window = true ∧
    (∀ p : Point K, seen.contains (point p) = true ↔
      (0.0 ≤ (v.toDevice (point p)).1 ∧ (v.toDevice (point p)).1 ≤ v.width) ∧
        0.0 ≤ (v.toDevice (point p)).2 ∧ (v.toDevice (point p)).2 ≤ v.height) ∧
    ∀ overscan : K, 0 ≤ overscan →
      ∃ plot, v.plotBoundsFor (finite overscan) = .ok plot ∧
        plot.containsBounds seen = true := by
  have width : v.width = finite u.width := congrArg Viewport.width numbers
  have height : v.height = finite u.height := congrArg Viewport.height numbers
  have window : v.window = u.window.map finite := congrArg Viewport.window numbers
  refine ⟨_, extendedBounds_finite proper numbers, ?_, ?_, ?_⟩
  · -- the margins are not negative
    have margin_x := div_nonneg proper.padding proper.xScale_pos.le
    have margin_y := div_nonneg proper.padding proper.yScale_pos.le
    rw [window, Bounds.containsBounds_finite]
    constructor
    · constructor <;> linarith
    · constructor <;> linarith
  · intro p
    rw [Bounds.contains_finite, toDevice_finite numbers, width, height, proper.column_visible_iff,
      proper.row_visible_iff]
    simp only [point, scientific, finite_le, zero_literal]
  · intro overscan nonneg
    refine ⟨_, plotBoundsFor_finite proper numbers overscan, ?_⟩
    -- and neither is what the overscan adds to them
    have more_x := mul_nonneg nonneg (sub_pos.2 proper.x_lt).le
    have more_y := mul_nonneg nonneg (sub_pos.2 proper.y_lt).le
    rw [Bounds.containsBounds_finite]
    constructor
    · constructor <;> linarith
    · constructor <;> linarith

/-- With more overscan the plot bounds are further out on all sides. -/
theorem plotBoundsFor_surrounds {less more : K} (larger : less < more) :
    ∃ inner outer, v.plotBoundsFor (finite less) = .ok inner ∧
      v.plotBoundsFor (finite more) = .ok outer ∧ outer.Surrounds inner := by
  refine ⟨_, _, plotBoundsFor_finite proper numbers less,
    plotBoundsFor_finite proper numbers more, ?_⟩
  have more_x := mul_lt_mul_of_pos_right larger (sub_pos.2 proper.x_lt)
  have more_y := mul_lt_mul_of_pos_right larger (sub_pos.2 proper.y_lt)
  simp only [Bounds.Surrounds, Bounds.map, finite_lt]
  refine ⟨?_, ?_, ?_, ?_⟩ <;> linarith

end Mapping

/-- Every viewport that is made from numbers maps exactly, be its ranges corrected or not; and its
scales are equal if no upper end of the ordinates is asked for. -/
theorem create_mapsExactly {r : ViewportRequest K} {v : Viewport (Extended K)}
    (created : (create (r.map finite)).2 = .ok v) :
    v.MapsExactly ∧ v.equalScale = r.yMax.isNone := by
  obtain ⟨u, proper, numbers⟩ := create_finite rfl created
  have window : v.window = u.window.map finite := congrArg Viewport.window numbers
  have padding : v.padding = finite u.padding := congrArg Viewport.padding numbers
  have width : v.width = finite u.width := congrArg Viewport.width numbers
  have height : v.height = finite u.height := congrArg Viewport.height numbers
  -- the edges of the window are as far from those of the frame as the padding is wide
  have left : u.window.xMin * u.xScale + u.origin.1 = u.padding := by simp [proper.column_from_left]
  have right : u.window.xMax * u.xScale + u.origin.1 = u.width - u.padding := by
    simp [proper.column_from_right]
  have bottom : u.height - (u.window.yMin * u.yScale + u.origin.2) = u.height - u.padding := by
    simp [proper.row_from_bottom]
  have top : u.height - (u.window.yMax * u.yScale + u.origin.2) = u.padding := by
    simp [proper.row_from_top]
  constructor
  · exact {
      xScale_pos := by
        rw [numbers]
        simpa [map, zero_literal] using proper.xScale_pos
      yScale_pos := by
        rw [numbers]
        simpa [map, zero_literal] using proper.yScale_pos
      equal := fun equal => ((create_consistent created).equal equal).1
      toPlane_toDevice := toPlane_toDevice proper numbers
      toDevice_toPlane := toDevice_toPlane proper numbers
      lowerLeft := by
        rw [window, padding, height, finite_sub]
        exact toDevice_corner numbers left bottom
      lowerRight := by
        rw [window, padding, width, height, finite_sub, finite_sub]
        exact toDevice_corner numbers right bottom
      upperLeft := by
        rw [window, padding]
        exact toDevice_corner numbers left top
      upperRight := by
        rw [window, padding, width, finite_sub]
        exact toDevice_corner numbers right top
      visible := exists_visible proper numbers
      grows := fun _ _ larger => plotBoundsFor_surrounds proper numbers larger }
  · obtain ⟨x, y, xScale, yScale, -, -, -, rfl⟩ := create_eq_ok created
    simp [assemble, ViewportRequest.map]

/-- A wide frame with equal scales for a range of abscissas that has to be corrected. -/
theorem create_mapsExactly_corrected :
    ∃ v : Viewport (Extended ℚ),
      (create (ViewportRequest.map finite ⟨500, 300, 20, 3, 1, -2, none, 1 / 4⟩)).2 = .ok v ∧
        v.window.xMax = finite 4 ∧ v.equalScale = true ∧ v.MapsExactly := by
  have made :
      ((create (ViewportRequest.map (finite : ℚ → _)
        ⟨500, 300, 20, 3, 1, -2, none, 1 / 4⟩)).2.toOption.map fun v => v.window.xMax) =
        some (finite 4) := by
    decide +kernel
  obtain ⟨v, found, corrected⟩ := Option.map_eq_some_iff.1 made
  have created := toOption_eq_some.1 found
  obtain ⟨mapsExactly, equal⟩ := create_mapsExactly created
  exact ⟨v, created, corrected, equal, mapsExactly⟩

end Viewport

end CurveBoard
