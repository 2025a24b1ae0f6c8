import CurveBoard.Proofs.Shape.Parts

/-!
# Axes

Axes are assembled from a grid, the lines with their marks, labels, and an arrowhead with a name at
each end. A primitive of axes tells by its id which of these it is; the label of a tick is a text at
a multiple of the step.
-/
namespace CurveBoard

open Scalar

def Axis.other : Axis → Axis
  | x => y
  | y => x

def AxesStyle.step {α : Type} (style : AxesStyle α) : Axis → α
  | .x => style.dx
  | .y => style.dy

variable {α : Type} [Geometry α] {v : Viewport α} {id : String} {style : AxesStyle α}
  {p : Primitive α}

namespace Axes

/-- A mark across the axis of abscissas. -/
def uprightMark (v : Viewport α) (reach x : α) : List (Point α) :=
  [roundedPoint (x, row v + reach), roundedPoint (x, row v - reach)]

/-- A mark across the axis of ordinates. -/
def flatMark (v : Viewport α) (reach y : α) : List (Point α) :=
  [roundedPoint (column v + reach, y), roundedPoint (column v - reach, y)]

/-- How far marks reach to both sides. -/
def reach (v : Viewport α) (style : AxesStyle α) : α :=
  tickReach (style.dx * v.xScale) (style.dy * v.yScale)

/-- The two lines, or the one and a mark in place of the other. -/
def axisLines (v : Viewport α) (style : AxesStyle α) : List (List (Point α)) :=
  [[roundedPoint (0.0, row v), roundedPoint (v.width, row v)],
    if style.ordinates then [roundedPoint (column v, 0.0), roundedPoint (column v, v.height)]
    else uprightMark v (reach v style) (column v)]

theorem linesPrimitive_eq_ok :
    linesPrimitive v id style = .ok p ↔
      ∃ xTicks, columns v (style.dx * v.xScale) = .ok xTicks ∧
      ∃ yTicks, (if style.ordinates then rows v (style.dy * v.yScale)
        else pure []) = .ok yTicks ∧
      Primitive.polylines id (axisLines v style ++ (xTicks.map (uprightMark v (reach v style)) ++
        yTicks.map (flatMark v (reach v style)))) = p := by
  unfold linesPrimitive axisLines calculated
  cases style.ordinates with
  | true =>
    simp only [do_eq_ok, mapError_eq_ok, pure_eq_ok, if_true]
    rfl
  | false =>
    simp only [do_eq_ok, mapError_eq_ok, pure_eq_ok, Bool.false_eq_true, if_false]
    rfl

/-- A text at a place along an axis that tells which one it is. -/
def IsTickLabel (v : Viewport α) (id : String) (style : AxesStyle α) (axis : Axis) (n : ℕ)
    (value : α) (p : Primitive α) : Prop :=
  ∃ decimals position, tickDecimals (style.step axis) = .ok decimals ∧
    textPrimitive v (id ++ (DrawingPart.tick axis n).suffix)
      (axis.point value (labelLine (v.window.low axis.other) (v.window.high axis.other)))
        (tickText value decimals)
      (some position) = .ok p

theorem IsTickLabel.id_eq {axis : Axis} {n : ℕ} {value : α}
    (isLabel : IsTickLabel v id style axis n value p) :
    p.id = id ++ (DrawingPart.tick axis n).suffix := by
  obtain ⟨decimals, position, -, labelled⟩ := isLabel
  exact id_textPrimitive labelled

/-- The label of zero where there is no axis of ordinates. -/
def IsZeroLabel (v : Viewport α) (id : String) (p : Primitive α) : Prop :=
  ∃ position, textPrimitive v (id ++ DrawingPart.origin.suffix)
    (0.0, labelLine v.window.yMin v.window.yMax) "0" (some position) = .ok p

theorem IsZeroLabel.id_eq (isLabel : IsZeroLabel v id p) :
    p.id = id ++ DrawingPart.origin.suffix := by
  obtain ⟨position, labelled⟩ := isLabel
  exact id_textPrimitive labelled

private theorem mem_tickLabels (axis : Axis) {values : List α} {decimals : ℕ}
    {position : TextPosition} {labels : List (Primitive α)}
    (decided : tickDecimals (style.step axis) = .ok decimals)
    (built : tickLabels v (id ++ (axis.ticks ++ "-")) values decimals
      (fun value =>
        axis.point value (labelLine (v.window.low axis.other) (v.window.high axis.other)))
      position = .ok labels)
    (member : p ∈ labels) :
    ∃ n value, values[n]? = some value ∧ IsTickLabel v id style axis n value p := by
  obtain ⟨⟨value, n⟩, numbered, labelled⟩ := exists_of_mem_mapM built member
  refine ⟨n, value, List.mk_mem_zipIdx_iff_getElem?.1 numbered, decimals, position, decided, ?_⟩
  rw [DrawingPart.suffix, ← String.append_assoc]
  exact labelled

/-- A label is that of a multiple of a step, or of zero. -/
theorem mem_labelPrimitives {labels : List (Primitive α)}
    (built : labelPrimitives v id style = .ok labels) (member : p ∈ labels) :
    (∃ axis values n value, multiples (style.step axis) (v.window.low axis) (v.window.high axis) =
      .ok values ∧ values[n]? = some value ∧ IsTickLabel v id style axis n value p) ∨
        IsZeroLabel v id p := by
  unfold labelPrimitives calculated at built
  simp only [do_eq_ok, mapError_eq_ok] at built
  obtain ⟨xDecimals, xDecided, yDecimals, yDecided, xValues, xMultiples, xLabels, xLabelled,
      built⟩ := built
  split at built
  · simp only [do_eq_ok, mapError_eq_ok] at built
    obtain ⟨yValues, yMultiples, yLabels, yLabelled, built⟩ := built
    cases built
    rcases List.mem_append.1 member with among | among
    · obtain ⟨n, value, isLabel⟩ := mem_tickLabels .x xDecided xLabelled among
      exact .inl ⟨.x, xValues, n, value, xMultiples, isLabel⟩
    · obtain ⟨n, value, isLabel⟩ := mem_tickLabels .y yDecided yLabelled among
      exact .inl ⟨.y, yValues, n, value, yMultiples, isLabel⟩
  · simp only [do_eq_ok] at built
    obtain ⟨zero, zeroLabelled, built⟩ := built
    cases built
    rcases List.mem_append.1 member with among | among
    · obtain ⟨n, value, isLabel⟩ := mem_tickLabels .x xDecided xLabelled among
      exact .inl ⟨.x, xValues, n, value, xMultiples, isLabel⟩
    · rw [List.mem_singleton] at among
      subst among
      exact .inr ⟨_, zeroLabelled⟩

/-- A primitive of axes is that of the lines and marks, or a label, or a part that comes once. -/
theorem mem_axesShape {primitives : List (Primitive α)}
    (built : axesShape v id style = .ok primitives) (member : p ∈ primitives) :
    linesPrimitive v id style = .ok p ∨
    (∃ labels, labelPrimitives v id style = .ok labels ∧ p ∈ labels) ∨
        ∃ name, p.id = id ++ (DrawingPart.named name).suffix := by
  obtain ⟨-, grid, gridded, lines, drawn, labels, labelled, xEnd, xEnded, yEnd, yEnded, rfl⟩ :=
    axesShape_eq_ok.1 built
  simp only [List.mem_append, List.mem_cons] at member
  rcases member with inGrid | rfl | (inLabels | inEnd) | inEnd
  · rcases ids_gridPieces gridded with nothing | one
    · rw [List.map_eq_nil_iff.1 nothing] at inGrid
      cases inGrid
    · have named := List.mem_map_of_mem (f := Primitive.id) inGrid
      rw [one, List.mem_singleton] at named
      exact .inr (.inr ⟨.grid, named⟩)
  · exact .inl drawn
  · split at labelled
    · exact .inr (.inl ⟨labels, labelled, inLabels⟩)
    · cases labelled
      cases inLabels
  · have named := List.mem_map_of_mem (f := Primitive.id) inEnd
    rw [ids_axisEnd xEnded, List.mem_pair] at named
    rcases named with named | named
    · exact .inr (.inr ⟨.abscissaName, named⟩)
    · exact .inr (.inr ⟨.abscissaArrow, named⟩)
  · split at yEnded
    · have named := List.mem_map_of_mem (f := Primitive.id) inEnd
      rw [ids_axisEnd yEnded, List.mem_pair] at named
      rcases named with named | named
      · exact .inr (.inr ⟨.ordinateName, named⟩)
      · exact .inr (.inr ⟨.ordinateArrow, named⟩)
    · cases yEnded
      cases inEnd

section Labels

variable {primitives : List (Primitive α)} (built : axesShape v id style = .ok primitives)
  (member : p ∈ primitives)

include built member

/-- A primitive with the id of a label is a label. -/
theorem mem_labels_of_id {part : DrawingPart} (named : p.id = id ++ part.suffix)
    (isLabel : part.IsLabel) :
    ∃ labels, labelPrimitives v id style = .ok labels ∧ p ∈ labels := by
  -- the suffix tells which part it is
  have part_eq {other : DrawingPart} (same : p.id = id ++ other.suffix) : part = other :=
    DrawingPart.append_suffix_injective id (named.symm.trans same)
  rcases mem_axesShape built member with drawn | labelled | ⟨name, same⟩
  · have own : p.id = id ++ DrawingPart.self.suffix :=
      (id_linesPrimitive drawn).trans String.append_empty.symm
    rw [part_eq own] at isLabel
    exact isLabel.elim
  · exact labelled
  · rw [part_eq same] at isLabel
    exact isLabel.elim

theorem isTickLabel_of_id {axis : Axis} {n : ℕ}
    (named : p.id = id ++ (DrawingPart.tick axis n).suffix) :
    ∃ values value, multiples (style.step axis) (v.window.low axis) (v.window.high axis) =
      .ok values ∧ values[n]? = some value ∧ IsTickLabel v id style axis n value p := by
  obtain ⟨labels, labelled, among⟩ := mem_labels_of_id built member named trivial
  rcases mem_labelPrimitives labelled among
    with ⟨axis', values, n', value, listed, numbered, isLabel⟩ | isLabel
  · cases DrawingPart.append_suffix_injective id (named.symm.trans isLabel.id_eq)
    exact ⟨values, value, listed, numbered, isLabel⟩
  · cases DrawingPart.append_suffix_injective id (named.symm.trans isLabel.id_eq)

theorem isZeroLabel_of_id (named : p.id = id ++ DrawingPart.origin.suffix) :
    IsZeroLabel v id p := by
  obtain ⟨labels, labelled, among⟩ := mem_labels_of_id built member named trivial
  rcases mem_labelPrimitives labelled among
    with ⟨axis, values, n, value, -, -, isLabel⟩ | isLabel
  · cases DrawingPart.append_suffix_injective id (named.symm.trans isLabel.id_eq)
  · exact isLabel

end Labels

end Axes

end CurveBoard
