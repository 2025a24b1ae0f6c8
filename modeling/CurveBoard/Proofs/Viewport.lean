import CurveBoard.Proofs.Except
import CurveBoard.Viewport.Basic

/-!
# Resizing viewports

All of a viewport follows from its frame and from what it asks for in any frame: the ranges of its
window, the padding, the kind of scale and the overscan. Resizing keeps all of that but the frame.
The ranges are kept because they have been checked once: checking them again changes nothing.

None of this needs a law of arithmetic.
-/
namespace CurveBoard

open Scalar

attribute [ext] Bounds Viewport

variable {α : Type} [Scalar α]

/-- Whether a range is in order or has been corrected. -/
def SettledRange (low high : α) : Prop := ¬ high ≤ low ∨ high = low + 1.0

private theorem checkRange_eq_ok {axis : Axis} {low high : α} {range : CheckedRange α}
    (checked : checkRange axis low high = .ok range) :
    range.low = low ∧ SettledRange low range.high ∧
    (SettledRange low high → range.high = high) := by
  unfold checkRange at checked
  split at checked
  · cases checked
  · split at checked
    next reversed =>
      -- a range out of order is corrected, and what is corrected is settled
      cases checked
      exact ⟨rfl, .inr rfl, fun settled =>
        (settled.resolve_left (fun ordered => ordered reversed)).symm⟩
    next ordered =>
      cases checked
      exact ⟨rfl, .inl ordered, fun _ => rfl⟩

namespace Viewport

/-- What holds in every viewport: its ranges are settled, and its scales and its origin follow from
them. -/
structure Consistent (v : Viewport α) : Prop where
  x_settled : SettledRange v.window.xMin v.window.xMax
  y_settled : v.equalScale = false → SettledRange v.window.yMin v.window.yMax
  xScale : scaleFor v.width v.padding v.window.xMin v.window.xMax = .ok v.xScale
  yScale : v.equalScale = false →
    scaleFor v.height v.padding v.window.yMin v.window.yMax = .ok v.yScale
  equal : v.equalScale = true → v.yScale = v.xScale ∧
    (quotient (v.height - 2.0 * v.padding) v.xScale).map (v.window.yMin + ·) = .ok v.window.yMax
  origin : v.origin = (v.padding - v.window.xMin * v.xScale, v.padding - v.window.yMin * v.yScale)

/-- How a viewport is made for a request. -/
theorem create_eq_ok {r : ViewportRequest α} {v : Viewport α} (created : (create r).2 = .ok v) :
    ∃ x y xScale yScale, checkRange .x r.xMin r.xMax = .ok x ∧
      scaleFor r.width r.padding x.low x.high = .ok xScale ∧
      (ordinates r xScale).2 = .ok (y, yScale) ∧ assemble r x y xScale yScale = v := by
  unfold create at created
  split at created
  · cases created
  next x checked =>
    obtain ⟨-, -, ranged⟩ := bind_eq_ok.1 checked
    split at created
    · cases created
    next xScale scaled =>
      obtain ⟨⟨y, yScale⟩, found, assembled⟩ := map_eq_ok.1 created
      exact ⟨x, y, xScale, yScale, ranged, scaled, found, assembled⟩

theorem checkFrame_of_create {r : ViewportRequest α} {v : Viewport α}
    (created : (create r).2 = .ok v) :
    checkFrame r.width r.height r.padding = .ok () := by
  unfold create at created
  split at created
  · cases created
  next checked =>
    obtain ⟨⟨⟩, framed, -⟩ := bind_eq_ok.1 checked
    exact framed

/-- The ordinates with a scale of their own. -/
theorem ordinates_some {r : ViewportRequest α} {yMax xScale yScale : α} {y : CheckedRange α}
    (own : r.yMax = some yMax) (found : (ordinates r xScale).2 = .ok (y, yScale)) :
    checkRange .y r.yMin yMax = .ok y ∧ scaleFor r.height r.padding y.low y.high =
      .ok yScale := by
  unfold ordinates at found
  rw [own] at found
  dsimp only at found
  split at found
  · cases found
  next range checked =>
    obtain ⟨scale, scaled, same⟩ := map_eq_ok.1 found
    cases same
    exact ⟨checked, scaled⟩

/-- The ordinates with the scale of the abscissas. -/
theorem ordinates_none {r : ViewportRequest α} {xScale yScale : α} {y : CheckedRange α}
    (equal : r.yMax = none) (found : (ordinates r xScale).2 = .ok (y, yScale)) :
    y.low = r.yMin ∧ yScale = xScale ∧
      (quotient (r.height - 2.0 * r.padding) xScale).map (r.yMin + ·) = .ok y.high := by
  unfold ordinates at found
  rw [equal] at found
  dsimp only at found
  split at found
  · cases found
  · obtain ⟨extent, divided, same⟩ := map_eq_ok.1 found
    cases same
    exact ⟨rfl, rfl, map_eq_ok.2 ⟨extent, mapError_eq_ok.1 divided, rfl⟩⟩

theorem isFinite_of_ordinates_none {r : ViewportRequest α} {xScale yScale : α}
    {y : CheckedRange α} (equal : r.yMax = none)
    (found : (ordinates r xScale).2 = .ok (y, yScale)) : isFinite r.yMin = true := by
  unfold ordinates at found
  rw [equal] at found
  dsimp only at found
  split at found
  · cases found
  next finite => simpa using finite

theorem create_consistent {r : ViewportRequest α} {v : Viewport α}
    (created : (create r).2 = .ok v) :
    v.Consistent := by
  obtain ⟨x, y, xScale, yScale, ranged, scaled, found, rfl⟩ := create_eq_ok created
  obtain ⟨x_low, x_settled, -⟩ := checkRange_eq_ok ranged
  rw [← x_low] at x_settled
  -- without an upper end the ordinates are not checked, but follow from the scale of the abscissas
  cases upper : r.yMax with
  | none =>
    obtain ⟨y_low, scale_eq, extent⟩ := ordinates_none upper found
    rw [← y_low] at extent
    refine ⟨x_settled, ?_, scaled, ?_, fun _ => ⟨scale_eq, extent⟩, rfl⟩
    · simp [assemble, upper]
    · simp [assemble, upper]
  | some yMax =>
    obtain ⟨ranged', scaled'⟩ := ordinates_some upper found
    obtain ⟨y_low, y_settled, -⟩ := checkRange_eq_ok ranged'
    rw [← y_low] at y_settled
    refine ⟨x_settled, fun _ => y_settled, scaled, fun _ => scaled', ?_, rfl⟩
    simp [assemble, upper]

/-- A viewport of another size asks for the same. -/
theorem requestFor_resized {v v' : Viewport α} {width height : α} (consistent : v.Consistent)
    (resized : (v.resized width height).2 = .ok v') :
    v'.requestFor = v.requestFor ∧ v'.width = width ∧ v'.height = height := by
  obtain ⟨x, y, xScale, yScale, ranged, -, found, rfl⟩ := create_eq_ok resized
  obtain ⟨x_low, -, x_high⟩ := checkRange_eq_ok ranged
  -- the ends are settled, so checking them again leaves them as they are
  have x_high := x_high consistent.x_settled
  refine ⟨funext fun width => funext fun height => ?_, rfl, rfl⟩
  cases equal : v.equalScale with
  | true =>
    have upper (width height : α) : (v.requestFor width height).yMax = none := by
      simp [requestFor, equal]
    obtain ⟨y_low, -, -⟩ := ordinates_none (upper _ _) found
    simp [requestFor, assemble, equal, x_low, x_high, y_low]
  | false =>
    have upper (width height : α) : (v.requestFor width height).yMax = some v.window.yMax := by
      simp [requestFor, equal]
    obtain ⟨ranged', -⟩ := ordinates_some (upper _ _) found
    obtain ⟨y_low, -, y_high⟩ := checkRange_eq_ok ranged'
    have y_high := y_high (consistent.y_settled equal)
    simp [requestFor, assemble, equal, x_low, x_high, y_low, y_high]

/-- What viewports ask for that were made for the same request but in frames of other sizes. -/
theorem requestFor_eq_of_create {r : ViewportRequest α} {v v' : Viewport α} {width height : α}
    (created : (create r).2 = .ok v)
    (created' : (create { r with width := width, height := height }).2 = .ok v') :
    v.requestFor = v'.requestFor := by
  obtain ⟨x, y, xScale, yScale, ranged, -, found, rfl⟩ := create_eq_ok created
  obtain ⟨x', y', xScale', yScale', ranged', -, found', rfl⟩ := create_eq_ok created'
  obtain rfl : x = x' := Except.ok.inj (ranged.symm.trans ranged')
  refine funext fun _ => funext fun _ => ?_
  cases upper : r.yMax with
  | none =>
    obtain ⟨y_low, -, -⟩ := ordinates_none upper found
    obtain ⟨y'_low, -, -⟩ := ordinates_none (r :=
      { r with width := width, height := height }) upper found'
    simp [requestFor, assemble, upper, y_low, y'_low]
  | some yMax =>
    obtain ⟨y_ranged, -⟩ := ordinates_some upper found
    obtain ⟨y'_ranged, -⟩ := ordinates_some (r :=
      { r with width := width, height := height }) upper found'
    obtain rfl : y = y' := Except.ok.inj (y_ranged.symm.trans y'_ranged)
    simp [requestFor, assemble, upper]

/-- All of a viewport follows from its frame and what it asks for. -/
theorem Consistent.unique {v v' : Viewport α} (consistent : v.Consistent)
    (consistent' : v'.Consistent) (request : v.requestFor = v'.requestFor)
    (width : v.width = v'.width) (height : v.height = v'.height) :
    v = v' := by
  -- what is asked for in one frame tells all ends, and whether the scales are equal
  have same := congrFun (congrFun request v.width) v.height
  simp only [requestFor, ViewportRequest.mk.injEq, true_and] at same
  obtain ⟨padding, xMin, xMax, yMin, yMax, overscan⟩ := same
  have xScale : v.xScale = v'.xScale := by
    refine Except.ok.inj (consistent.xScale.symm.trans ?_)
    rw [width, padding, xMin, xMax, consistent'.xScale]
  have equalScale : v.equalScale = v'.equalScale := by
    cases equal : v.equalScale <;> cases equal' : v'.equalScale <;> simp [equal, equal'] at yMax ⊢
  -- with equal scales the upper end follows from the frame, otherwise the scale does
  have ordinates : v.window.yMax = v'.window.yMax ∧ v.yScale = v'.yScale := by
    cases equal : v.equalScale with
    | true =>
      obtain ⟨scale, extent⟩ := consistent.equal equal
      obtain ⟨scale', extent'⟩ := consistent'.equal (equalScale ▸ equal)
      rw [height, padding, xScale, yMin] at extent
      exact ⟨Except.ok.inj (extent.symm.trans extent'), by rw [scale, scale', xScale]⟩
    | false =>
      have equal' : v'.equalScale = false := equalScale ▸ equal
      have upper : v.window.yMax = v'.window.yMax := by simpa [equal, equal'] using yMax
      refine ⟨upper, Except.ok.inj ((consistent.yScale equal).symm.trans ?_)⟩
      rw [height, padding, yMin, upper, consistent'.yScale equal']
  have origin : v.origin = v'.origin := by
    rw [consistent.origin, consistent'.origin, padding, xMin, yMin, xScale, ordinates.2]
  have window : v.window = v'.window := Bounds.ext xMin xMax yMin ordinates.1
  exact Viewport.ext width height padding window xScale ordinates.2 origin equalScale overscan

end Viewport

end CurveBoard
