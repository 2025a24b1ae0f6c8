import CurveBoard.Proofs.Shape.Marks
import CurveBoard.Shape.Sketch

/-!
# When axes cannot be drawn

The spacings of axes are given one by one, and those that are left out follow from the others. Axes
are refused for a spacing that is not positive and, if they have a grid, for one of the grid that is
negative; one that is zero is left out. In exact arithmetic there is one other reason: where the end
of an axis is at the origin, which is a matter of the window and its padding, the arrowhead there
would point from the origin to itself.
-/
namespace CurveBoard

open Scalar Extended

/-! ### Given spacings -/

/-- The spacings of ticks and of a grid, as far as they are given. -/
structure GivenSpacings (α : Type) where
  dx : Option α
  dy : Option α
  gridX : Option α
  gridY : Option α

namespace GivenSpacings

def map {α β : Type} (f : α → β) (given : GivenSpacings α) : GivenSpacings β :=
  ⟨given.dx.map f, given.dy.map f, given.gridX.map f, given.gridY.map f⟩

section Defaults

variable {α : Type} [Scalar α] (given : GivenSpacings α)

def stepX : α := given.dx.getD 1.0

def stepY : α := given.dy.getD given.stepX

/-- A spacing of a grid, unless it is zero. -/
def nonzero? (space : Option α) : Option α := space.filter fun space => !(space == 0.0)

/-- The spacings of the grid, if one of them is given. -/
def grid : Option (α × α) :=
  if given.gridX.isNone && given.gridY.isNone then none
  else
    let across := nonzero? given.gridX
    some (across.getD given.stepX, (nonzero? given.gridY).getD (across.getD given.stepY))

/-- Axes with these spacings. -/
def style (labels ordinates : Bool) (xName yName : String) : AxesStyle α :=
  ⟨given.stepX, given.stepY, given.grid, labels, ordinates, xName, yName⟩

end Defaults

end GivenSpacings

/-! ### Numbers as values -/

namespace Value

/-- A number as a value, if there is one. -/
def optional (x : Option Float) : Value := x.elim .absent .real

private theorem isAbsent_optional (x : Option Float) : (optional x).isAbsent = x.isNone := by
  cases x with
  | none => rfl
  | some x => rfl

private theorem orElse_optional (x : Option Float) (default : Float) :
    (optional x).orElse (.real default) = .real (x.getD default) := by
  cases x with
  | none => rfl
  | some x => rfl

/-- Zero counts as nothing. -/
theorem orElseTrue_optional (x : Option Float) (default : Float) :
    (optional x).orElseTrue (.real default) = .real ((GivenSpacings.nonzero? x).getD default) := by
  cases x with
  | none => rfl
  | some x =>
    have kept : GivenSpacings.nonzero? (some x) = if (real x).isTrue then some x else none :=
      Option.filter_some
    have isReal : optional (some x) = real x := rfl
    rw [kept, isReal, orElseTrue]
    cases (real x).isTrue <;> rfl

end Value

/-- What a caller's numbers come to. -/
theorem GivenSpacings.axesStyle_optional (given : GivenSpacings Float)
    (labels ordinates xName yName : Value) :
    Sketch.axesStyle (.optional given.dx) (.optional given.dy) labels
        (.optional given.gridX) (.optional given.gridY) ordinates xName yName =
      (Sketch.early (checkTickSpacing given.stepX given.stepY)).map fun _ =>
        given.style labels.isTrue ordinates.isTrue xName.plainText yName.plainText := by
  have measured (x : Float) : (Value.real x).measure = .ok x := rfl
  unfold Sketch.axesStyle style grid stepY stepX
  simp only [Value.orElse_optional, Value.orElseTrue_optional, measured,
    Value.isAbsent_optional, ok_do]
  generalize Sketch.early (checkTickSpacing _ _) = checked
  cases checked with
  | error fault => rfl
  | ok passed => cases given.gridX.isNone && given.gridY.isNone <;> rfl

/-! ### Exact spacings -/

namespace GivenSpacings

variable (given : GivenSpacings ℝ)

/-- Whether a spacing of ticks is given that is not positive. -/
def HasFlatStep : Prop := (∃ x ∈ given.dx, x ≤ 0) ∨ ∃ y ∈ given.dy, y ≤ 0

/-- Whether a spacing of the grid is given that is negative. -/
def HasNegativeGrid : Prop := (∃ x ∈ given.gridX, x < 0) ∨ ∃ y ∈ given.gridY, y < 0

/-- The steps along the axes. -/
def step : Axis → ℝ
  | .x => given.dx.getD 1
  | .y => given.dy.getD (given.dx.getD 1)

private theorem stepX_finite : (given.map finite).stepX = finite (given.step .x) := by
  have one : (1.0 : Extended ℝ) = finite 1 := by
    rw [scientific]
    norm_num
  unfold stepX map step
  rw [one]
  exact Option.getD_map finite 1 given.dx

private theorem stepY_finite : (given.map finite).stepY = finite (given.step .y) := by
  unfold stepY
  rw [stepX_finite]
  exact Option.getD_map finite _ given.dy

private theorem step_pos_iff : (∀ axis, 0 < given.step axis) ↔ ¬given.HasFlatStep := by
  obtain ⟨dx, dy, -, -⟩ := given
  constructor
  · rintro positive (⟨x, rfl, flat⟩ | ⟨y, rfl, flat⟩)
    · exact flat.not_gt (positive .x)
    · exact flat.not_gt (positive .y)
  · intro noFlat
    have across : 0 < dx.getD 1 := by
      cases dx with
      | none => exact one_pos
      | some x => exact not_le.1 fun flat => noFlat (.inl ⟨x, rfl, flat⟩)
    rintro (_ | _)
    · exact across
    · cases dy with
      | none => exact across
      | some y => exact not_le.1 fun flat => noFlat (.inr ⟨y, rfl, flat⟩)

/-- A spacing of the grid, or a default in place of zero and of nothing. -/
theorem exists_nonzero (space : Option ℝ) (default : ℝ) :
    ∃ x, (nonzero? (space.map finite)).getD (finite default) = finite x ∧
      (0 < default → (0 < x ↔ ¬∃ s ∈ space, s < 0)) := by
  cases space with
  | none => exact ⟨default, rfl, fun positive => by simp [positive]⟩
  | some s =>
    have kept : nonzero? (some (finite s)) = if s = 0 then none else some (finite s) := by
      simp [nonzero?, Option.filter_some, zero_literal]
    rw [Option.map_some, kept]
    split
    next zero => exact ⟨default, rfl, fun positive => by simp [positive, zero]⟩
    next nonzero => exact ⟨s, rfl, fun _ => by simp [(Ne.symm nonzero).le_iff_lt]⟩

private theorem exists_grid (positive : ∀ axis, 0 < given.step axis) :
    (given.map finite).grid = none ∧ ¬given.HasNegativeGrid ∨
      ∃ x y : ℝ, (given.map finite).grid = some (finite x, finite y) ∧
        (0 < x ∧ 0 < y ↔ ¬given.HasNegativeGrid) := by
  unfold grid
  rw [stepX_finite, stepY_finite]
  by_cases absent : given.gridX = none ∧ given.gridY = none
  · left
    simp [map, HasNegativeGrid, absent]
  · right
    have present : ((given.map finite).gridX.isNone &&
        (given.map finite).gridY.isNone) = false := by
      rw [Bool.eq_false_iff]
      simpa [map] using absent
    obtain ⟨x, across, x_pos_iff⟩ := exists_nonzero given.gridX (given.step .x)
    obtain ⟨d, across', d_pos_iff⟩ := exists_nonzero given.gridX (given.step .y)
    obtain ⟨y, up, y_pos_iff⟩ := exists_nonzero given.gridY d
    refine ⟨x, y, ?_, ?_⟩
    · rw [present, if_neg Bool.false_ne_true, ← across, ← up, ← across']
      rfl
    · rw [x_pos_iff (positive .x), HasNegativeGrid, not_or]
      exact and_congr_right fun notNegative => y_pos_iff ((d_pos_iff (positive .y)).2 notNegative)

end GivenSpacings

/-! ### Grids -/

variable {u : Viewport ℝ} {v : Viewport (Extended ℝ)}
  {style : AxesStyle (Extended ℝ)} {gx gy : ℝ}

namespace Axes

private theorem gridPrimitive_of_not_pos (id : String) (proper : u.IsProper)
    (numbers : v = { u.map finite with overscan := v.overscan }) (flat : ¬(0 < gx ∧ 0 < gy)) :
    gridPrimitive v id style (finite gx) (finite gy) = .error .gridSpacingNotPositive := by
  have xScale : v.xScale = finite u.xScale := congrArg Viewport.xScale numbers
  have yScale : v.yScale = finite u.yScale := congrArg Viewport.yScale numbers
  have refused : (!(decide (0 < gx * u.xScale) && decide (0 < gy * u.yScale))) = true := by
    rw [Bool.not_eq_true', ← Bool.not_eq_true, Bool.and_eq_true, decide_eq_true_eq,
      decide_eq_true_eq, mul_pos_iff_of_pos_right proper.xScale_pos,
      mul_pos_iff_of_pos_right proper.yScale_pos]
    exact flat
  simp only [gridPrimitive, Viewport.toDeviceLength, xScale, yScale, finite_mul, scientific,
    zero_literal, finite_lt, refused, if_true]
  rfl

private theorem exists_gridPrimitive (id : String) (proper : u.IsProper)
    (numbers : v = { u.map finite with overscan := v.overscan }) (positive : 0 < gx ∧ 0 < gy) :
    ∃ grid, gridPrimitive v id style (finite gx) (finite gy) = .ok grid := by
  have xScale : v.xScale = finite u.xScale := congrArg Viewport.xScale numbers
  have yScale : v.yScale = finite u.yScale := congrArg Viewport.yScale numbers
  obtain ⟨xs, inColumns, -⟩ := columns_finite numbers proper positive.1
  obtain ⟨ys, inRows, -⟩ := rows_finite numbers proper positive.2
  have accepted : (!(decide (0 < gx * u.xScale) && decide (0 < gy * u.yScale))) = false := by
    simp [mul_pos positive.1 proper.xScale_pos, mul_pos positive.2 proper.yScale_pos]
  simp only [gridPrimitive, Viewport.toDeviceLength, xScale, yScale, finite_mul, scientific,
    zero_literal, finite_lt, accepted, Bool.false_eq_true, if_false, inColumns, inRows, calculated,
    mapError_ok, ok_do]
  split
  · exact ⟨_, rfl⟩
  · exact ⟨_, rfl⟩

/-! ### Ends at the origin -/

/-- There is no arrowhead between a point of the device and itself. -/
theorem arrowPrimitive_self (id : String) (p : Point ℝ) :
    arrowPrimitive id (point p) (point p) = .error .arrowOfOnePoint := by
  have noLength : Geometry.hypotenuse (finite (0 : ℝ)) (finite 0) = finite 0 := by
    simp [Geometry.hypotenuse, length]
  simp only [arrowPrimitive, arrowTriangle, arrowTriangleAlong, point, finite_sub, sub_self,
    noLength, scientific, zero_literal, finite_beq, decide_true, if_true]
  rfl

private theorem arrowShape_self (id : String)
    (numbers : v = { u.map finite with overscan := v.overscan }) (p : Point ℝ) :
    arrowShape v id (point p) (point p) = .error .arrowOfOnePoint := by
  have placed_point : placed (point p) = .ok (point p) := rfl
  unfold arrowShape
  rw [placed_point]
  simp only [Except.bind, Viewport.toDevice_finite numbers, arrowPrimitive_self]

private theorem axisEnd_at_origin (id name : String) (proper : u.IsProper)
    (numbers : v = { u.map finite with overscan := v.overscan }) (axis : Axis)
    (origin : u.window.high axis + u.padding / u.scale axis = 0) :
    axisEnd v id name axis = .error .arrowOfOnePoint := by
  have padding : v.padding = finite u.padding := congrArg Viewport.padding numbers
  have scale := Viewport.scale_finite numbers axis
  have edge := (Viewport.window_finite numbers axis).2
  obtain ⟨text, labelled⟩ := exists_textPrimitive (v := v)
    (id ++ ("-" ++ axis.letter ++ "name")) name (some (namePosition axis))
    (p := point (axis.point (u.window.high axis + (u.padding - 10.0) / u.scale axis) 0.0)) rfl
  -- the tip is where the arrow starts
  have start : point (axis.point (u.window.high axis + u.padding / u.scale axis) 0.0) =
      point (0.0, 0.0) := by
    rw [origin, zero_literal]
    cases axis <;> rfl
  have pointed := arrowShape_self (id ++ ("-" ++ axis.letter ++ "arrow")) numbers (0.0, 0.0)
  nth_rewrite 2 [← start] at pointed
  rw [point_axis, ← finite_add] at pointed labelled
  unfold axisEnd calculated
  simp only [padding, scale, edge, scientific, finite_sub,
    quotient_finite (proper.scale_pos axis).ne', mapError_ok, ok_do, labelled]
  exact congrArg (· >>= _) pointed

end Axes

/-! ### Axes piece by piece -/

/-- Axes are their pieces, made one after another. -/
theorem axesShape_eq {α : Type} [Geometry α] (v : Viewport α) (id : String)
    (style : AxesStyle α) :
    axesShape v id style =
      checkTickSpacing style.dx style.dy >>= fun _ =>
      Axes.gridPieces v id style >>= fun grid =>
      Axes.linesPrimitive v id style >>= fun lines =>
      (if style.labels then Axes.labelPrimitives v id style else pure []) >>= fun labels =>
      Axes.axisEnd v id style.xName .x >>= fun xEnd =>
      (if style.ordinates then Axes.axisEnd v id style.yName .y else pure []) >>= fun yEnd =>
      pure (grid ++ lines :: (labels ++ xEnd ++ yEnd)) := by
  unfold axesShape Axes.gridPieces
  cases style.grid <;> cases style.labels <;> cases style.ordinates <;> rfl

/-! ### What comes of it -/

/-- Whether an axis that has an arrowhead at its end ends at the origin. -/
def Viewport.EndsAtOrigin (u : Viewport ℝ) (ordinates : Bool) : Prop :=
  u.window.xMax + u.padding / u.xScale = 0 ∨ ordinates = true ∧
    u.window.yMax + u.padding / u.yScale = 0

/-- What comes of drawing axes with given spacings. -/
structure Axes.Outcome (u : Viewport ℝ) (given : GivenSpacings ℝ) (ordinates : Bool)
    (result : Drawn (Extended ℝ) (List (Primitive (Extended ℝ)))) : Prop where
  flatStep : given.HasFlatStep →
    result = .error (.tickSpacingNotPositive (finite (given.step .x)) (finite (given.step .y)))
  negativeGrid : ¬given.HasFlatStep → given.HasNegativeGrid →
    result = .error .gridSpacingNotPositive
  atOrigin : ¬given.HasFlatStep → ¬given.HasNegativeGrid → u.EndsAtOrigin ordinates →
    result = .error .arrowOfOnePoint
  drawn : ¬given.HasFlatStep → ¬given.HasNegativeGrid → ¬u.EndsAtOrigin ordinates →
    ∃ primitives, result = .ok primitives

section Outcome

variable {given : GivenSpacings ℝ}

private theorem checkTickSpacing_of_flat
    (steps : ∀ axis, style.step axis = finite (given.step axis)) (flat : given.HasFlatStep) :
    checkTickSpacing style.dx style.dy =
      .error (.tickSpacingNotPositive (finite (given.step .x)) (finite (given.step .y))) := by
  have unchecked : checkTickSpacing style.dx style.dy ≠ .ok () := by
    rw [Ne, checkTickSpacing_iff steps, given.step_pos_iff, not_not]
    exact flat
  have xStep : style.dx = finite (given.step .x) := steps .x
  have yStep : style.dy = finite (given.step .y) := steps .y
  unfold checkTickSpacing at unchecked ⊢
  rw [xStep, yStep] at unchecked ⊢
  split at unchecked
  · exact absurd rfl unchecked
  next refused => exact if_neg refused

variable (proper : u.IsProper) (numbers : v = { u.map finite with overscan := v.overscan })

include proper numbers

private theorem gridPieces_of_negative (id : String) (grid : style.grid = (given.map finite).grid)
    (positive : ∀ axis, 0 < given.step axis) (negative : given.HasNegativeGrid) :
    Axes.gridPieces v id style = .error .gridSpacingNotPositive := by
  rcases given.exists_grid positive with ⟨-, noNegative⟩ | ⟨gx, gy, spaced, pos_iff⟩
  · exact absurd negative noNegative
  · have flat : ¬(0 < gx ∧ 0 < gy) := fun pos => pos_iff.1 pos negative
    rw [Axes.gridPieces, grid, spaced]
    dsimp only
    rw [Axes.gridPrimitive_of_not_pos id proper numbers flat]
    rfl

private theorem exists_gridPieces (id : String) (grid : style.grid = (given.map finite).grid)
    (positive : ∀ axis, 0 < given.step axis) (noNegative : ¬given.HasNegativeGrid) :
    ∃ pieces, Axes.gridPieces v id style = .ok pieces := by
  unfold Axes.gridPieces
  rw [grid]
  rcases given.exists_grid positive with ⟨noGrid, -⟩ | ⟨gx, gy, spaced, pos_iff⟩
  · rw [noGrid]
    exact ⟨[], rfl⟩
  · obtain ⟨p, gridded⟩ : ∃ p,
        Axes.gridPrimitive v id style (finite gx) (finite gy) = .ok p :=
      Axes.exists_gridPrimitive id proper numbers (pos_iff.2 noNegative)
    rw [spaced]
    exact ⟨[p], map_eq_ok.2 ⟨p, gridded, rfl⟩⟩

/-- Up to their ends axes are drawn. -/
theorem exists_axesShape_eq (id : String)
    (steps : ∀ axis, style.step axis = finite (given.step axis))
    (grid : style.grid = (given.map finite).grid) (noFlat : ¬given.HasFlatStep)
    (noNegative : ¬given.HasNegativeGrid) :
    ∃ made, axesShape v id style =
      Axes.axisEnd v id style.xName .x >>= fun xEnd =>
      (if style.ordinates then Axes.axisEnd v id style.yName .y else pure []) >>= fun yEnd =>
      pure (made ++ xEnd ++ yEnd) := by
  have positive := given.step_pos_iff.2 noFlat
  obtain ⟨pieces, gridded⟩ := exists_gridPieces proper numbers id grid positive noNegative
  obtain ⟨lines, drawn⟩ := exists_linesPrimitive id numbers steps positive proper
  obtain ⟨labels, labelled⟩ :
      ∃ labels, (if style.labels then Axes.labelPrimitives v id style else pure []) =
      .ok labels :=
    exists_ite_eq_ok (exists_labelPrimitives id numbers steps positive) ⟨[], rfl⟩
  refine ⟨pieces ++ lines :: labels, ?_⟩
  simp only [axesShape_eq, (checkTickSpacing_iff steps).2 positive, gridded, drawn, labelled, ok_do,
    List.append_assoc, List.cons_append]

private theorem axesShape_outcome (id : String) (given : GivenSpacings ℝ)
    (labels ordinates : Bool) (xName yName : String) :
    Axes.Outcome u given ordinates
      (axesShape v id ((given.map finite).style labels ordinates xName yName)) := by
  let style := (given.map finite).style labels ordinates xName yName
  have steps (axis : Axis) : style.step axis = finite (given.step axis) := by
    cases axis with
    | x => exact given.stepX_finite
    | y => exact given.stepY_finite
  constructor
  case flatStep =>
    intro flat
    rw [axesShape_eq, checkTickSpacing_of_flat steps flat, error_do]
  case negativeGrid =>
    intro noFlat negative
    have positive := given.step_pos_iff.2 noFlat
    rw [axesShape_eq, (checkTickSpacing_iff steps).2 positive, ok_do,
      gridPieces_of_negative proper numbers id rfl positive negative, error_do]
  case atOrigin =>
    intro noFlat noNegative atOrigin
    obtain ⟨made, upToEnds⟩ := exists_axesShape_eq proper numbers id steps rfl noFlat noNegative
    rw [upToEnds]
    -- the horizontal end is made first, so the other one is only seen if that is apart
    by_cases xOrigin : u.window.xMax + u.padding / u.xScale = 0
    · rw [Axes.axisEnd_at_origin id _ proper numbers .x xOrigin, error_do]
    · obtain ⟨upright, yOrigin⟩ := atOrigin.resolve_left xOrigin
      obtain ⟨xEnd, xEnded⟩ := exists_axisEnd id proper numbers style.xName .x xOrigin
      have isUpright : style.ordinates = true := upright
      rw [xEnded, ok_do, if_pos isUpright,
        Axes.axisEnd_at_origin id _ proper numbers .y yOrigin, error_do]
  case drawn =>
    intro noFlat noNegative apart
    obtain ⟨xApart, yApart⟩ := not_or.1 apart
    obtain ⟨made, upToEnds⟩ := exists_axesShape_eq proper numbers id steps rfl noFlat noNegative
    obtain ⟨xEnd, xEnded⟩ := exists_axisEnd id proper numbers style.xName .x xApart
    rw [upToEnds, xEnded, ok_do]
    cases ordinates with
    | true =>
      obtain ⟨yEnd, yEnded⟩ := exists_axisEnd id proper numbers style.yName .y fun origin =>
        yApart ⟨rfl, origin⟩
      exact ⟨made ++ xEnd ++ yEnd, do_eq_ok.2 ⟨yEnd, yEnded, rfl⟩⟩
    | false => exact ⟨made ++ xEnd ++ [], rfl⟩

end Outcome

/-- Spacings that are left out have their defaults. In exact arithmetic axes are refused for a
spacing of ticks that is not positive and for a negative spacing of the grid, and drawn otherwise,
except where one of them ends at the origin and has no arrowhead for that. A padding that is NaN
leaves them without a place. -/
theorem axes_outcome {r : ViewportRequest (Extended ℝ)}
    (created : (Viewport.create r).2 = .ok v) :
    (∀ (given : GivenSpacings Float) (labels ordinates xName yName : Value),
      Sketch.axesStyle (.optional given.dx) (.optional given.dy) labels
          (.optional given.gridX) (.optional given.gridY) ordinates xName yName =
        (Sketch.early (checkTickSpacing given.stepX given.stepY)).map fun _ =>
          given.style labels.isTrue ordinates.isTrue xName.plainText yName.plainText) ∧
    ∀ (id : String) (given : GivenSpacings ℝ) (labels ordinates : Bool) (xName yName : String),
      (isNaN r.padding = false → ∃ u : Viewport ℝ, u.IsProper ∧
        v = { u.map finite with overscan := v.overscan } ∧
          Axes.Outcome u given ordinates
          (axesShape v id ((given.map finite).style labels ordinates xName yName))) ∧
      (isNaN r.padding = true → ∀ primitives,
        axesShape v id ((given.map finite).style labels ordinates xName yName) ≠
          .ok primitives) := by
  refine ⟨GivenSpacings.axesStyle_optional,
    fun id given labels ordinates xName yName => ⟨?_, ?_⟩⟩
  · intro number
    obtain ⟨u, proper, numbers⟩ := Viewport.create_finite number created
    exact ⟨u, proper, numbers,
      axesShape_outcome proper numbers id given labels ordinates xName yName⟩
  · rintro noNumber primitives built
    exact axesShape_ne_ok_of_nan created noNumber built

/-- Axes with a grid in a window around zero. -/
theorem axes_outcome_centered :
    ∃ v,
      (Viewport.create (ViewportRequest.map (finite : ℝ → _)
        ⟨500, 500, 20, -2, 2, -2, some 2, 0.25⟩)).2 = .ok v ∧
      ∃ primitives,
        axesShape v "axes" (GivenSpacings.style
          ⟨some (finite 1), none, some (finite 0), none⟩ true true "x" "y") =
          .ok primitives := by
  obtain ⟨v, created, window⟩ := exists_centered
  obtain ⟨-, outcome⟩ := axes_outcome created
  obtain ⟨u, proper, numbers, isOutcome⟩ :=
    (outcome "axes" ⟨some 1, none, some 0, none⟩ true true "x" "y").1 rfl
  have edges : Bounds.map finite u.window = Bounds.map finite ⟨-2, 2, -2, 2⟩ :=
    (congrArg Viewport.window numbers).symm.trans window
  have xMax : u.window.xMax = 2 := finite.inj (congrArg Bounds.xMax edges)
  have yMax : u.window.yMax = 2 := finite.inj (congrArg Bounds.yMax edges)
  refine ⟨v, created, isOutcome.drawn ?_ ?_ ?_⟩
  · simp [GivenSpacings.HasFlatStep]
  · simp [GivenSpacings.HasNegativeGrid]
  · have across := div_nonneg proper.padding proper.xScale_pos.le
    have up := div_nonneg proper.padding proper.yScale_pos.le
    rintro (origin | ⟨-, origin⟩)
    · linarith
    · linarith

/-- A window that ends at zero without a padding has no axes, though all spacings are positive. -/
theorem not_axes_drawn :
    ¬∀ (r : ViewportRequest (Extended ℝ)) (v : Viewport (Extended ℝ))
      (given : GivenSpacings ℝ), (Viewport.create r).2 = .ok v → isFinite r.padding = true →
        ¬given.HasFlatStep → ¬given.HasNegativeGrid →
      ∃ primitives, axesShape v "axes" ((given.map finite).style false false "x" "y") =
        .ok primitives := by
  intro always
  obtain ⟨v, created, window, padding⟩ := exists_viewport 0.25 (le_refl (0 : ℝ))
    (by norm_num : 2 * 0 < (500 : ℝ))
    (by norm_num : 2 * 0 < (500 : ℝ)) (by norm_num : (-5 : ℝ) < 0)
      (by norm_num : (-5 : ℝ) < 5)
  obtain ⟨u, proper, numbers⟩ := Viewport.create_finite rfl created
  let given : GivenSpacings ℝ := ⟨some 5, none, none, none⟩
  have noFlat : ¬given.HasFlatStep := by simp [given, GivenSpacings.HasFlatStep]
  have noNegative : ¬given.HasNegativeGrid := by simp [given, GivenSpacings.HasNegativeGrid]
  obtain ⟨primitives, built⟩ := always _ v given created rfl noFlat noNegative
  -- the tip is where the arrow starts
  have edges : Bounds.map finite u.window = Bounds.map finite ⟨-5, 0, -5, 5⟩ :=
    (congrArg Viewport.window numbers).symm.trans window
  have xMax : u.window.xMax = 0 := finite.inj (congrArg Bounds.xMax edges)
  have noPadding : u.padding = 0 :=
    finite.inj ((congrArg Viewport.padding numbers).symm.trans padding)
  have origin : u.EndsAtOrigin false := .inl (by rw [xMax, noPadding, zero_div, add_zero])
  have refused :=
    (axesShape_outcome proper numbers "axes" given false false "x" "y").atOrigin noFlat
    noNegative origin
  rw [refused] at built
  cases built

end CurveBoard
