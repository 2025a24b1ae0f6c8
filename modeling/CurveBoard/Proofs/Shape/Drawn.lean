import CurveBoard.Proofs.Shape.Ticks

/-!
# Axes that are drawn

In exact arithmetic texts have a place wherever their points are, and arrowheads wherever they point
anywhere. So axes without a grid are drawn if their steps are positive and their tips are not at the
origin.
-/
namespace CurveBoard

open Scalar Extended

/-! ### Texts -/

section Texts

variable {α : Type} [Geometry α] {v : Viewport α} {id : String}

theorem exists_textPrimitive (id content : String) {p : Point α} (position : Option TextPosition)
    (finite : isFinitePoint p = true) :
    ∃ text, textPrimitive v id p content position = .ok text := by
  unfold textPrimitive placed
  rw [if_pos finite]
  exact ⟨_, rfl⟩

private theorem exists_tickLabels {values : List α} {place : α → Point α} (decimals : ℕ)
    (position : TextPosition) (each : ∀ value ∈ values, isFinitePoint (place value) = true) :
    ∃ labels, Axes.tickLabels v id values decimals place position = .ok labels := by
  apply exists_mapM_eq_ok
  rintro ⟨value, n⟩ numbered
  exact exists_textPrimitive _ _ _ (each value (List.fst_mem_of_mem_zipIdx numbered))

end Texts

/-! ### Arrowheads -/

variable {u : Viewport ℝ} {v : Viewport (Extended ℝ)} {id : String}
  {style : AxesStyle (Extended ℝ)}
  {step : Axis → ℝ}

/-- An arrowhead between two points of the device. -/
theorem exists_arrowPrimitive {p q : Point ℝ} (distinct : p ≠ q) :
    ∃ arrow, arrowPrimitive id (point p) (point q) = .ok arrow := by
  have apart : Real.sqrt ((q.1 - p.1) ^ 2 + (q.2 - p.2) ^ 2) ≠ 0 := by
    intro same
    rw [Real.sqrt_eq_zero (by positivity), add_eq_zero_iff_of_nonneg (sq_nonneg _) (sq_nonneg _),
      sq_eq_zero_iff, sq_eq_zero_iff, sub_eq_zero, sub_eq_zero] at same
    exact distinct (Prod.ext same.1.symm same.2.symm)
  have length : Geometry.hypotenuse (finite (q.1 - p.1)) (finite (q.2 - p.2)) =
      finite (Real.sqrt ((q.1 - p.1) ^ 2 + (q.2 - p.2) ^ 2)) := rfl
  simp only [arrowPrimitive, arrowTriangle, arrowTriangleAlong, point, finite_sub, length,
    scientific, finite_beq, zero_literal, decide_eq_true_eq, if_neg apart]
  exact ⟨_, rfl⟩

private theorem exists_arrowShape (id : String) (proper : u.IsProper)
    (numbers : v = { u.map finite with overscan := v.overscan }) {p q : Point ℝ}
    (distinct : p ≠ q) :
    ∃ arrow, arrowShape v id (point p) (point q) = .ok arrow := by
  have placed_point (p : Point ℝ) : placed (point p) = .ok (point p) := rfl
  unfold arrowShape
  rw [placed_point, placed_point]
  simp only [Except.bind, Viewport.toDevice_finite numbers]
  apply exists_arrowPrimitive
  -- the scales keep points apart
  intro same
  obtain ⟨columns, rows⟩ := Prod.mk.inj same
  apply distinct
  apply Prod.ext
  · exact mul_right_cancel₀ proper.xScale_pos.ne' (add_right_cancel columns)
  · exact mul_right_cancel₀ proper.yScale_pos.ne' (add_right_cancel (sub_right_injective rows))

/-! ### Axes -/

theorem tickDecimals_finite {spacing : ℝ} (positive : 0 < spacing) :
    tickDecimals (finite spacing) = .ok (⌊1.1 - Real.logb 10 spacing⌋ + 2).toNat := by
  have logarithm : Geometry.logarithm (finite spacing) = .ok (finite (Real.logb 10 spacing)) := by
    unfold Geometry.logarithm
    rw [if_neg (by simpa [zero_literal] using positive)]
    exact congrArg Except.ok (if_pos positive)
  simp only [tickDecimals, logarithm, Except.bind, scientific, finite_sub,
    toInteger_finite, Except.map]
  rfl

private theorem exists_tickDecimals {spacing : ℝ} (positive : 0 < spacing) :
    ∃ decimals, tickDecimals (finite spacing) = .ok decimals :=
  ⟨_, tickDecimals_finite positive⟩

private theorem exists_labelLine (low high : ℝ) :
    ∃ line, Axes.labelLine (finite low) (finite high) = finite line := by
  unfold Axes.labelLine
  split
  · exact ⟨low, rfl⟩
  · exact ⟨_, rfl⟩

theorem checkTickSpacing_iff (steps : ∀ axis, style.step axis = finite (step axis)) :
    checkTickSpacing style.dx style.dy = .ok () ↔ ∀ axis, 0 < step axis := by
  have xStep : style.dx = finite (step .x) := steps .x
  have yStep : style.dy = finite (step .y) := steps .y
  rw [checkTickSpacing, xStep, yStep]
  simp only [scientific, finite_lt, zero_literal, Bool.and_eq_true, decide_eq_true_eq]
  constructor
  · intro checked axis
    split at checked
    next positive =>
      cases axis with
      | x => exact positive.1
      | y => exact positive.2
    · cases checked
  · intro positive
    rw [if_pos ⟨positive .x, positive .y⟩]

/-- The steps on the device. -/
theorem scaled_steps (numbers : v = { u.map finite with overscan := v.overscan })
    (steps : ∀ axis, style.step axis = finite (step axis)) :
    style.dx * v.xScale = finite (step .x * u.xScale) ∧
    style.dy * v.yScale = finite (step .y * u.yScale) :=
  ⟨congrArg₂ (· * ·) (steps .x) (congrArg Viewport.xScale numbers),
    congrArg₂ (· * ·) (steps .y) (congrArg Viewport.yScale numbers)⟩

section Drawing

variable (id : String) (numbers : v = { u.map finite with overscan := v.overscan })
  (steps : ∀ axis, style.step axis = finite (step axis)) (positive : ∀ axis, 0 < step axis)

include numbers steps positive

theorem exists_linesPrimitive (proper : u.IsProper) :
    ∃ lines, Axes.linesPrimitive v id style = .ok lines := by
  obtain ⟨xScaled, yScaled⟩ := scaled_steps numbers steps
  obtain ⟨xs, inColumns, -⟩ := Axes.columns_finite numbers proper (positive .x)
  obtain ⟨ys, inRows, -⟩ := Axes.rows_finite numbers proper (positive .y)
  rw [← xScaled] at inColumns
  rw [← yScaled] at inRows
  simp only [Axes.linesPrimitive_eq_ok]
  split
  · exact ⟨_, _, inColumns, _, inRows, rfl⟩
  · exact ⟨_, _, inColumns, _, rfl, rfl⟩

/-- All labels of ticks have a place. -/
theorem exists_ticks (axis : Axis) :
    ∃ values, multiples (style.step axis) (v.window.low axis) (v.window.high axis) =
      .ok values ∧ ∀ mark decimals position, ∃ labels, Axes.tickLabels v mark values decimals
        (fun value =>
          axis.point value (Axes.labelLine (v.window.low axis.other) (v.window.high axis.other)))
        position = .ok labels := by
  obtain ⟨low, high⟩ := Viewport.window_finite numbers axis
  obtain ⟨low', high'⟩ := Viewport.window_finite numbers axis.other
  obtain ⟨ks, listed, -⟩ :=
    multiples_finite (positive axis) (u.window.low axis) (u.window.high axis)
  obtain ⟨line, isLine⟩ := exists_labelLine (u.window.low axis.other) (u.window.high axis.other)
  rw [steps, low, high, low', high', isLine]
  refine ⟨_, listed, fun mark decimals position => exists_tickLabels decimals position ?_⟩
  intro value among
  obtain ⟨k, -, rfl⟩ := List.mem_map.1 among
  cases axis with
  | x => rfl
  | y => rfl

theorem exists_labelPrimitives : ∃ labels, Axes.labelPrimitives v id style = .ok labels := by
  obtain ⟨xDecimals, xDecided⟩ := exists_tickDecimals (positive .x)
  obtain ⟨yDecimals, yDecided⟩ := exists_tickDecimals (positive .y)
  rw [← steps] at xDecided yDecided
  obtain ⟨xValues, xMultiples, xLabelled⟩ := exists_ticks numbers steps positive .x
  obtain ⟨yValues, yMultiples, yLabelled⟩ := exists_ticks numbers steps positive .y
  choose xLabels xPlaced using xLabelled
  choose yLabels yPlaced using yLabelled
  unfold Axes.labelPrimitives calculated
  simp only [do_eq_ok, mapError_eq_ok]
  by_cases ordinates : style.ordinates = true
  · simp only [if_pos ordinates, do_eq_ok, mapError_eq_ok]
    exact ⟨_, xDecimals, xDecided, yDecimals, yDecided, xValues, xMultiples, _, xPlaced _ _ _,
      yValues, yMultiples, _, yPlaced _ _ _, rfl⟩
  · -- in place of the other axis zero has a label
    obtain ⟨low, high⟩ := Viewport.window_finite numbers .y
    obtain ⟨line, isLine⟩ := exists_labelLine (u.window.low .y) (u.window.high .y)
    rw [← low, ← high] at isLine
    have zeroPlaced : isFinitePoint (0.0, Axes.labelLine v.window.yMin v.window.yMax) =
        true := isLine ▸ rfl
    have zeroLabelled := fun mark position => exists_textPrimitive (v :=
      v) mark "0" position zeroPlaced
    choose zero labelled using zeroLabelled
    simp only [if_neg ordinates, do_eq_ok]
    exact ⟨_, xDecimals, xDecided, yDecimals, yDecided, xValues, xMultiples, _, xPlaced _ _ _, _,
      labelled _ _, rfl⟩

end Drawing

/-! ### The ends of axes -/

section Ends

variable (id : String) (proper : u.IsProper)
  (numbers : v = { u.map finite with overscan := v.overscan })

include proper numbers

omit proper numbers in
theorem point_axis (axis : Axis) (value line : ℝ) :
    point (axis.point value line) = axis.point (finite value) (finite line) := by
  cases axis <;> rfl

theorem exists_axisEnd (name : String) (axis : Axis)
    (apart : u.window.high axis + u.padding / u.scale axis ≠ 0) :
    ∃ primitives, Axes.axisEnd v id name axis = .ok primitives := by
  have padding : v.padding = finite u.padding := congrArg Viewport.padding numbers
  have scale := Viewport.scale_finite numbers axis
  have edge := (Viewport.window_finite numbers axis).2
  have distinct : ((0.0, 0.0) : Point ℝ) ≠
      axis.point (u.window.high axis + u.padding / u.scale axis) 0.0 := by
    intro same
    rw [zero_literal] at same
    cases axis with
    | x => exact apart (Prod.mk.inj same).1.symm
    | y => exact apart (Prod.mk.inj same).2.symm
  obtain ⟨arrow, pointed⟩ :=
    exists_arrowShape (id ++ ("-" ++ axis.letter ++ "arrow")) proper numbers distinct
  obtain ⟨text, labelled⟩ := exists_textPrimitive (v := v)
    (id ++ ("-" ++ axis.letter ++ "name")) name (some (Axes.namePosition axis))
    (p := point (axis.point (u.window.high axis + (u.padding - 10.0) / u.scale axis) 0.0)) rfl
  rw [point_axis, ← finite_add] at pointed labelled
  unfold Axes.axisEnd calculated
  simp only [do_eq_ok, mapError_eq_ok, padding, scale, edge, scientific, finite_sub,
    quotient_finite (proper.scale_pos axis).ne']
  exact ⟨_, _, rfl, _, rfl, text, labelled, arrow, pointed, rfl⟩

end Ends

/-- Axes without a grid are drawn if their tips are not at the origin. -/
theorem exists_axesShape (id : String) (proper : u.IsProper)
    (numbers : v = { u.map finite with overscan := v.overscan })
    (steps : ∀ axis, style.step axis = finite (step axis)) (positive : ∀ axis, 0 < step axis)
    (noGrid : style.grid = none) (xApart : u.window.xMax + u.padding / u.xScale ≠ 0)
    (yApart : u.window.yMax + u.padding / u.yScale ≠ 0) :
    ∃ primitives, axesShape v id style = .ok primitives := by
  have checked := (checkTickSpacing_iff steps).2 positive
  obtain ⟨lines, drawn⟩ := exists_linesPrimitive id numbers steps positive proper
  obtain ⟨labels, labelled⟩ :
      ∃ labels, (if style.labels then Axes.labelPrimitives v id style else pure []) =
      .ok labels :=
    exists_ite_eq_ok (exists_labelPrimitives id numbers steps positive) ⟨[], rfl⟩
  obtain ⟨xEnd, xEnded⟩ := exists_axisEnd id proper numbers style.xName .x xApart
  obtain ⟨yEnd, yEnded⟩ :
      ∃ yEnd, (if style.ordinates then Axes.axisEnd v id style.yName .y
      else pure []) = .ok yEnd :=
    exists_ite_eq_ok (exists_axisEnd id proper numbers style.yName .y yApart) ⟨[], rfl⟩
  refine ⟨_, axesShape_eq_ok.2 ⟨checked, [], ?_, lines, drawn, labels, labelled, xEnd, xEnded,
    yEnd, yEnded, rfl⟩⟩
  rw [Axes.gridPieces, noGrid]
  rfl

end CurveBoard
