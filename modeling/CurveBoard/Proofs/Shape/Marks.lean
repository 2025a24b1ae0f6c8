import CurveBoard.Proofs.Shape.Drawn

/-!
# What axes mark

In exact arithmetic the labels of an axis are those of the multiples of its step in the window, each
once, but for zero; and its marks are those strictly inside the frame. Where the window does not
reach zero, the multiples on the way from zero to the window are labelled, too, though nothing is
seen of them, and so for the marks.
-/
namespace CurveBoard

open Scalar Extended

variable {r : ViewportRequest (Extended ℝ)} {u : Viewport ℝ} {v : Viewport (Extended ℝ)}
  {id : String}
  {style : AxesStyle (Extended ℝ)} {step : Axis → ℝ}
  {primitives : List (Primitive (Extended ℝ))}

/-- What axes with given steps show: every label of a tick is at a multiple that is labelled, every
mark at a place that is marked, and each of them is there once. Beside them there are the axes' own
places, which zero has. Where the window reaches zero, all of this is inside. -/
structure ShowsTicks (u : Viewport ℝ) (v : Viewport (Extended ℝ)) (id : String)
    (style : AxesStyle (Extended ℝ)) (step : Axis → ℝ)
    (primitives : List (Primitive (Extended ℝ))) : Prop where
  labels : ∀ axis, ∃ ks,
    Enumerates ks (IsLabelled (step axis) (u.window.low axis) (u.window.high axis)) ∧
    ∀ p ∈ primitives, ∀ n, p.id = id ++ (DrawingPart.tick axis n).suffix →
      ∃ k, ks[n]? = some k ∧ Axes.IsTickLabel v id style axis n (finite (k * step axis)) p
  zero : ∀ p ∈ primitives, p.id = id ++ DrawingPart.origin.suffix → Axes.IsZeroLabel v id p
  marks : ∃ ks : Axis → List ℤ,
    (∀ axis, Enumerates (ks axis) (u.IsMarkedAt axis (step axis))) ∧
    ∃ p ∈ primitives, p.id = id ∧ p.paths = Axes.axisLines v style ++
      (((ks .x).map fun k =>
          Axes.uprightMark v (Axes.reach v style) (finite (u.markPlace .x (step .x) k))) ++
        if style.ordinates then
          (ks .y).map fun k =>
            Axes.flatMark v (Axes.reach v style) (finite (u.markPlace .y (step .y) k))
        else [])
  inside : ∀ axis, u.window.low axis ≤ 0 → 0 ≤ u.window.high axis →
    (∀ k, IsLabelled (step axis) (u.window.low axis) (u.window.high axis) k →
      u.window.low axis - 1e-9 * step axis ≤ k * step axis ∧
        k * step axis ≤ u.window.high axis + 1e-9 * step axis) ∧
    (∀ k, u.IsMarkedAt axis (step axis) k →
      0 < u.markPlace axis (step axis) k ∧ u.markPlace axis (step axis) k < u.extent axis) ∧
    u.padding ≤ u.zeroPlace axis ∧ u.zeroPlace axis ≤ u.extent axis - u.padding

private theorem exists_labelled (numbers : v = { u.map finite with overscan := v.overscan })
    (steps : ∀ axis, style.step axis = finite (step axis))
    (built : axesShape v id style = .ok primitives) (axis : Axis) :
    ∃ ks, Enumerates ks (IsLabelled (step axis) (u.window.low axis) (u.window.high axis)) ∧
      ∀ p ∈ primitives, ∀ n, p.id = id ++ (DrawingPart.tick axis n).suffix →
        ∃ k, ks[n]? = some k ∧
          Axes.IsTickLabel v id style axis n (finite (k * step axis)) p := by
  have positive := (checkTickSpacing_iff steps).1 (axesShape_eq_ok.1 built).1 axis
  obtain ⟨low, high⟩ := Viewport.window_finite numbers axis
  obtain ⟨ks, listed, enumerates⟩ :=
    multiples_finite positive (u.window.low axis) (u.window.high axis)
  refine ⟨ks, enumerates, ?_⟩
  intro p member n named
  obtain ⟨values, value, listed', numbered, isLabel⟩ :=
    Axes.isTickLabel_of_id built member named
  -- the label is at one of the multiples
  rw [steps, low, high, listed] at listed'
  cases listed'
  rw [List.getElem?_map] at numbered
  obtain ⟨k, found, rfl⟩ := Option.map_eq_some_iff.1 numbered
  exact ⟨k, found, isLabel⟩

private theorem exists_marked (proper : u.IsProper)
    (numbers : v = { u.map finite with overscan := v.overscan })
    (steps : ∀ axis, style.step axis = finite (step axis))
    (built : axesShape v id style = .ok primitives) :
    ∃ ks : Axis → List ℤ, (∀ axis, Enumerates (ks axis) (u.IsMarkedAt axis (step axis))) ∧
      ∃ p ∈ primitives, p.id = id ∧ p.paths = Axes.axisLines v style ++
        (((ks .x).map fun k =>
          Axes.uprightMark v (Axes.reach v style) (finite (u.markPlace .x (step .x) k))) ++
          if style.ordinates then
            (ks .y).map fun k =>
              Axes.flatMark v (Axes.reach v style) (finite (u.markPlace .y (step .y) k))
          else []) := by
  obtain ⟨checked, grid, -, lines, drawn, labels, -, xEnd, -, yEnd, -, rfl⟩ :=
    axesShape_eq_ok.1 built
  have positive := (checkTickSpacing_iff steps).1 checked
  obtain ⟨xs, inColumns, xs_enumerates⟩ := Axes.columns_finite numbers proper (positive .x)
  obtain ⟨ys, inRows, ys_enumerates⟩ := Axes.rows_finite numbers proper (positive .y)
  obtain ⟨xScaled, yScaled⟩ := scaled_steps numbers steps
  refine ⟨fun axis => if axis = .x then xs else ys, ?_, lines, ?_, id_linesPrimitive drawn, ?_⟩
  · intro axis
    cases axis with
    | x => exact xs_enumerates
    | y => exact ys_enumerates
  · exact List.mem_append_right _ List.mem_cons_self
  · obtain ⟨xTicks, xTicked, yTicks, yTicked, rfl⟩ := Axes.linesPrimitive_eq_ok.1 drawn
    rw [xScaled, inColumns] at xTicked
    rw [yScaled, inRows] at yTicked
    cases xTicked
    split at yTicked
    next ordinates =>
      cases yTicked
      rw [if_pos ordinates, List.map_map, List.map_map]
      rfl
    next noOrdinates =>
      cases yTicked
      rw [if_neg noOrdinates, List.map_map]
      rfl

private theorem showsTicks (proper : u.IsProper)
    (numbers : v = { u.map finite with overscan := v.overscan })
    (steps : ∀ axis, style.step axis = finite (step axis))
    (built : axesShape v id style = .ok primitives) :
    ShowsTicks u v id style step primitives where
  labels := exists_labelled numbers steps built
  zero := fun _ member named => Axes.isZeroLabel_of_id built member named
  marks := exists_marked proper numbers steps built
  inside := by
    intro axis below above
    refine ⟨?_, ?_, proper.zeroPlace_inside below above⟩
    · intro k labelled
      exact labelled.inside below above
    · intro k marked
      exact proper.mark_inside below above marked

/-- A padding that is NaN leaves axes without a place. -/
theorem axesShape_ne_ok_of_nan (created : (Viewport.create r).2 = .ok v)
    (noNumber : isNaN r.padding = true) : axesShape v id style ≠ .ok primitives := by
  intro built
  have noPlace : Axes.column v = nan := by
    obtain ⟨x, y, xScale, yScale, -, -, -, rfl⟩ := Viewport.create_eq_ok created
    simp [Axes.column, Viewport.assemble, isNaN_iff.1 noNumber]
  obtain ⟨-, grid, -, lines, drawn, -⟩ := axesShape_eq_ok.1 built
  obtain ⟨xTicks, xTicked, -⟩ := Axes.linesPrimitive_eq_ok.1 drawn
  exact Axes.columns_ne_ok_of_nan noPlace xTicked

/-- For all ends that are numbers exactly the multiples to be labelled are returned, each once. And
in every viewport, whether or not zero is in its window, axes show at their ticks what is described
above: labels and marks only inside wherever the window reaches zero, and otherwise those on the way
from zero to it, too. -/
theorem ticks_enumerated (created : (Viewport.create r).2 = .ok v) :
    (∀ step low high : ℝ, 0 < step →
      ∃ ks : List ℤ,
        multiples (finite step) (finite low) (finite high) =
          .ok (ks.map fun k : ℤ => finite (k * step)) ∧
        Enumerates ks (IsLabelled step low high)) ∧
    ∀ (id : String) (style : AxesStyle (Extended ℝ)) (step : Axis → ℝ)
        (primitives : List (Primitive (Extended ℝ))),
      (∀ axis, style.step axis = finite (step axis)) → axesShape v id style = .ok primitives →
      ∃ u : Viewport ℝ, u.IsProper ∧ v = { u.map finite with overscan := v.overscan } ∧
        ShowsTicks u v id style step primitives := by
  constructor
  · intro step low high positive
    exact multiples_finite positive low high
  · intro id style step primitives steps built
    cases number : isNaN r.padding with
    | true => exact absurd built (axesShape_ne_ok_of_nan created number)
    | false =>
      obtain ⟨u, proper, numbers⟩ := Viewport.create_finite number created
      exact ⟨u, proper, numbers, showsTicks proper numbers steps built⟩

/-- Numbers in order ask for the viewport with their window. -/
theorem exists_viewport {width height padding xMin xMax yMin yMax : ℝ} (overscan : ℝ)
    (nonneg : 0 ≤ padding) (wide : 2 * padding < width) (high : 2 * padding < height)
    (x_lt : xMin < xMax) (y_lt : yMin < yMax) :
    ∃ v, (Viewport.create (ViewportRequest.map (finite : ℝ → _)
        ⟨width, height, padding, xMin, xMax, yMin, some yMax, overscan⟩)).2 = .ok v ∧
      v.window = Bounds.map finite ⟨xMin, xMax, yMin, yMax⟩ ∧ v.padding = finite padding := by
  have framed : checkFrame (finite width) (finite height) (finite padding) = .ok () := by
    simp [checkFrame, zero_literal, two_literal, nonneg.not_gt, wide.not_ge, high.not_ge]
  have ranged {low high : ℝ} (axis : Axis) (less : low < high) :
      checkRange axis (finite low) (finite high) = .ok ⟨finite low, finite high, false⟩ := by
    simp [checkRange, less.not_ge]
  let r : ViewportRequest (Extended ℝ) :=
    ViewportRequest.map finite ⟨width, height, padding, xMin, xMax, yMin, some yMax, overscan⟩
  have created : (Viewport.create r).2 =
      .ok (Viewport.assemble r ⟨finite xMin, finite xMax, false⟩
        ⟨finite yMin, finite yMax, false⟩ (finite ((width - 2 * padding) / (xMax - xMin)))
        (finite ((height - 2 * padding) / (yMax - yMin)))) := by
    simp only [Viewport.create, r, ViewportRequest.map, framed, ranged .x x_lt, ranged .y y_lt,
      scaleFor_finite x_lt, scaleFor_finite y_lt, Except.bind, Option.map,
      Viewport.ordinates, Except.map]
  exact ⟨_, created, rfl, rfl⟩

/-- A viewport around zero. -/
theorem exists_centered :
    ∃ v,
      (Viewport.create (ViewportRequest.map (finite : ℝ → _)
        ⟨500, 500, 20, -2, 2, -2, some 2, 0.25⟩)).2 = .ok v ∧
      v.window = Bounds.map finite ⟨-2, 2, -2, 2⟩ := by
  obtain ⟨v, created, window, -⟩ := exists_viewport 0.25 (by norm_num : (0 : ℝ) ≤ 20)
    (by norm_num : 2 * 20 < (500 : ℝ)) (by norm_num : 2 * 20 < (500 : ℝ))
    (by norm_num : (-2 : ℝ) < 2) (by norm_num : (-2 : ℝ) < 2)
  exact ⟨v, created, window⟩

/-- Axes with all their labels in a window around zero. -/
theorem ticks_enumerated_centered :
    ∃ v,
      (Viewport.create (ViewportRequest.map (finite : ℝ → _)
        ⟨500, 500, 20, -2, 2, -2, some 2, 0.25⟩)).2 = .ok v ∧
      (∃ ks : List ℤ,
        multiples (finite (1 : ℝ)) (finite (-2)) (finite 2) =
          .ok (ks.map fun k : ℤ => finite (k * 1)) ∧
        ∀ k, k ∈ ks ↔ k ≠ 0 ∧ -2 ≤ k ∧ k ≤ 2) ∧
      ∃ style primitives u, style.labels = true ∧ style.ordinates = true ∧
        axesShape v "axes" style = .ok primitives ∧
          ShowsTicks u v "axes" style (fun _ => 1) primitives := by
  obtain ⟨v, created, window⟩ := exists_centered
  obtain ⟨listed, shown⟩ := ticks_enumerated created
  refine ⟨v, created, ?_, ?_⟩
  · obtain ⟨ks, returned, enumerates⟩ := listed 1 (-2) 2 one_pos
    refine ⟨ks, returned, ?_⟩
    intro k
    rw [enumerates.mem_iff]
    constructor
    · intro labelled
      obtain ⟨after, before⟩ := labelled.inside (by norm_num) (by norm_num)
      -- a multiple may be outside, but not by a whole step
      have above : (-3 : ℝ) < k := by norm_num at after; linarith
      have below : (k : ℝ) < 3 := by norm_num at before; linarith
      norm_cast at above below
      exact ⟨labelled.1, by omega, by omega⟩
    · rintro ⟨nonzero, above, below⟩
      have after : (-2 : ℝ) ≤ k := by exact_mod_cast above
      have before : (k : ℝ) ≤ 2 := by exact_mod_cast below
      refine ⟨nonzero, ?_, ?_⟩
      · norm_num
        linarith
      · norm_num
        linarith
  · obtain ⟨u, proper, numbers⟩ := Viewport.create_finite rfl created
    let style : AxesStyle (Extended ℝ) := ⟨finite 1, finite 1, none, true, true, "x", "y"⟩
    have steps (axis : Axis) : style.step axis = finite 1 := by cases axis <;> rfl
    have edges : Bounds.map finite u.window = Bounds.map finite ⟨-2, 2, -2, 2⟩ :=
      (congrArg Viewport.window numbers).symm.trans window
    have xMax : u.window.xMax = 2 := finite.inj (congrArg Bounds.xMax edges)
    have yMax : u.window.yMax = 2 := finite.inj (congrArg Bounds.yMax edges)
    have xApart : u.window.xMax + u.padding / u.xScale ≠ 0 := by
      have := div_nonneg proper.padding proper.xScale_pos.le
      linarith
    have yApart : u.window.yMax + u.padding / u.yScale ≠ 0 := by
      have := div_nonneg proper.padding proper.yScale_pos.le
      linarith
    obtain ⟨primitives, built⟩ :=
      exists_axesShape "axes" proper numbers steps (fun _ => one_pos) rfl xApart yApart
    obtain ⟨u, -, -, ticks⟩ := shown "axes" style (fun _ => 1) primitives steps built
    exact ⟨style, primitives, u, rfl, rfl, built, ticks⟩

/-- In a window to the right of zero a multiple to the left of it is labelled, and there are marks
to the left of the frame. -/
theorem not_ticks_inside :
    (¬ ∀ (r : ViewportRequest Float) (v : Viewport Float) (step : Float) (values : List Float),
      (Viewport.create r).2 = .ok v → 0.0 < step →
      multiples step v.window.xMin v.window.xMax = .ok values →
      ∀ x ∈ values, v.window.xMin - 1e-9 * step ≤ x ∧ x ≤ v.window.xMax + 1e-9 * step) ∧
    ¬ ∀ (r : ViewportRequest Float) (v : Viewport Float) (step : Float) (xs : List Float),
      (Viewport.create r).2 = .ok v → 0.0 < step → Axes.columns v (step * v.xScale) = .ok xs →
      ∀ x ∈ xs, 0.0 < x ∧ x < v.width := by
  let r : ViewportRequest Float := ⟨500, 500, 20, 3, 5, -5, some 5, 0.25⟩
  have run : ((Viewport.create r).2.toOption.bind fun v =>
      (multiples 1.0 v.window.xMin v.window.xMax).toOption.bind fun values =>
        (Axes.columns v (1.0 * v.xScale)).toOption.map fun xs => (v, values, xs)).map
      (fun (v, values, xs) =>
        (values.any fun x => !decide (v.window.xMin - 1e-9 * 1.0 ≤ x),
          xs.any fun x => !decide (0.0 < x))) =
      some (true, true) := by
    decide +kernel
  obtain ⟨⟨v, values, xs⟩, found, outside⟩ := Option.map_eq_some_iff.1 run
  obtain ⟨v', created, found⟩ := Option.bind_eq_some_iff.1 found
  obtain ⟨values', listed, found⟩ := Option.bind_eq_some_iff.1 found
  obtain ⟨xs', marked, same⟩ := Option.map_eq_some_iff.1 found
  cases same
  rw [toOption_eq_some] at created listed marked
  obtain ⟨labels_outside, marks_outside⟩ := Prod.mk.inj outside
  have positive : (0.0 : Float) < 1.0 := by decide +kernel
  constructor
  · intro always
    obtain ⟨x, among, before⟩ := List.any_eq_true.1 labels_outside
    have inside := (always r v 1.0 values created positive listed x among).1
    rw [Bool.not_eq_true', decide_eq_false_iff_not] at before
    exact before inside
  · intro always
    obtain ⟨x, among, before⟩ := List.any_eq_true.1 marks_outside
    have inside := (always r v 1.0 xs created positive marked x among).1
    rw [Bool.not_eq_true', decide_eq_false_iff_not] at before
    exact before inside

end CurveBoard
