import CurveBoard.Proofs.FloatSum
import CurveBoard.Proofs.Viewport

/-!
# What resizing keeps

A viewport that has been resized any number of times is the one that is made for its frame at once,
so nothing of its history is left. What it is made for are the ranges as they have been corrected,
and those are in order: a range that stays out of order when its upper end is corrected is empty,
and there is no viewport for an empty range. So no range is corrected again.

Viewports are compared by all they are made of, with NaN as one value: the padding may be NaN, and
then the scales are.
-/
namespace CurveBoard

open Scalar

/-- The upper end of a range, corrected if it is not above the lower one. -/
def correctedEnd (low high : Float) : Float := if high ≤ low then low + 1.0 else high

/-- The same request with its ranges corrected. -/
def ViewportRequest.corrected (r : ViewportRequest Float) : ViewportRequest Float :=
  { r with xMax := correctedEnd r.xMin r.xMax, yMax := r.yMax.map (correctedEnd r.yMin) }

/-- Whether a range needs no correction. -/
structure IsOrdered (low high : Float) : Prop where
  low_finite : isFinite low = true
  high_finite : isFinite high = true
  ordered : ¬ high ≤ low

variable {axis : Axis} {low high : Float} {range : CheckedRange Float}

theorem IsOrdered.checkRange (ordered : IsOrdered low high) (axis : Axis) :
    checkRange axis low high = .ok ⟨low, high, false⟩ := by
  rw [CurveBoard.checkRange, ordered.low_finite, ordered.high_finite, if_neg (by decide),
    if_neg ordered.ordered]

private theorem checkRange_high (checked : checkRange axis low high = .ok range) :
    range.low = low ∧ range.high = correctedEnd low high := by
  unfold checkRange at checked
  unfold correctedEnd
  split at checked
  · cases checked
  · split at checked
    next reversed =>
      cases checked
      exact ⟨rfl, (if_pos reversed).symm⟩
    next ordered =>
      cases checked
      exact ⟨rfl, (if_neg ordered).symm⟩

/-- A range that has a scale is in order. -/
theorem isOrdered_of_scaleFor {side padding scale : Float}
    (checked : checkRange axis low high = .ok range)
    (scaled : Viewport.scaleFor side padding range.low range.high = .ok scale) :
    IsOrdered range.low range.high := by
  unfold checkRange at checked
  split at checked
  · cases checked
  next finite =>
    obtain ⟨low_finite, high_finite⟩ : isFinite low = true ∧ isFinite high = true := by
      simpa using finite
    split at checked
    next reversed =>
      cases checked
      refine ⟨low_finite, isFinite_add_one low_finite, fun still => ?_⟩
      -- still out of order, so the ends are equal
      have empty : (low + 1.0 - low == 0.0) = true :=
        sub_eq_zero_of_le_of_le low_finite (le_add_of_nonneg low_finite (by decide +kernel)) still
      simp only [Viewport.scaleFor, quotient, empty, if_true] at scaled
      cases scaled
    next ordered =>
      cases checked
      exact ⟨low_finite, high_finite, ordered⟩

namespace Viewport

variable {r : ViewportRequest Float} {v v' : Viewport Float}

/-- What is asked for again is what was asked for, with the ranges corrected. -/
theorem requestFor_of_create (created : (create r).2 = .ok v) (width height : Float) :
    v.requestFor width height = { r.corrected with width := width, height := height } := by
  obtain ⟨x, y, xScale, yScale, ranged, -, found, rfl⟩ := create_eq_ok created
  obtain ⟨x_low, x_high⟩ := checkRange_high ranged
  cases upper : r.yMax with
  | none =>
    obtain ⟨y_low, -, -⟩ := ordinates_none upper found
    simp [requestFor, assemble, ViewportRequest.corrected, upper, x_low, x_high, y_low]
  | some yMax =>
    obtain ⟨ranged', -⟩ := ordinates_some upper found
    obtain ⟨y_low, y_high⟩ := checkRange_high ranged'
    simp [requestFor, assemble, ViewportRequest.corrected, upper, x_low, x_high, y_low, y_high]

/-- What holds in every viewport besides: the frame has room for the window, and no range needs a
correction. -/
structure IsOrderly (v : Viewport Float) : Prop where
  frame : checkFrame v.width v.height v.padding = .ok ()
  x : IsOrdered v.window.xMin v.window.xMax
  yMin_finite : isFinite v.window.yMin = true
  y : v.equalScale = false → IsOrdered v.window.yMin v.window.yMax

private theorem create_isOrderly (created : (create r).2 = .ok v) : v.IsOrderly := by
  have frame := checkFrame_of_create created
  obtain ⟨x, y, xScale, yScale, ranged, scaled, found, rfl⟩ := create_eq_ok created
  have ordered := isOrdered_of_scaleFor ranged scaled
  cases upper : r.yMax with
  | none =>
    obtain ⟨y_low, -, -⟩ := ordinates_none upper found
    refine ⟨frame, ordered, ?_, ?_⟩
    · change isFinite y.low = true
      rw [y_low]
      exact isFinite_of_ordinates_none upper found
    · simp [assemble, upper]
  | some yMax =>
    obtain ⟨ranged', scaled'⟩ := ordinates_some upper found
    have ordered' := isOrdered_of_scaleFor ranged' scaled'
    exact ⟨frame, ordered, ordered'.low_finite, fun _ => ordered'⟩

private theorem ordinates_of_none {xScale : Float} (upper : r.yMax = none)
    (finite : isFinite r.yMin = true) :
    ordinates r xScale =
      ([], ((quotient (r.height - 2.0 * r.padding) xScale).mapError .arithmetic).map fun extent =>
        (⟨r.yMin, r.yMin + extent, false⟩, xScale)) := by
  unfold ordinates
  rw [upper, finite]
  rfl

private theorem ordinates_of_ordered {xScale yMax : Float} (upper : r.yMax = some yMax)
    (ordered : IsOrdered r.yMin yMax) :
    ordinates r xScale =
      ([], (scaleFor r.height r.padding r.yMin yMax).map fun scale =>
        (⟨r.yMin, yMax, false⟩, scale)) := by
  unfold ordinates
  rw [upper]
  dsimp only
  rw [ordered.checkRange]
  rfl

private theorem requestFor_equal (equal : v.equalScale = true) (width height : Float) :
    (v.requestFor width height).yMax = none := if_pos equal

private theorem requestFor_own (own : v.equalScale = false) (width height : Float) :
    (v.requestFor width height).yMax = some v.window.yMax := by
  rw [requestFor, own]
  rfl

/-- Nothing is corrected when a viewport is resized, be it that it cannot have the new size. -/
theorem IsOrderly.corrections_resized (orderly : v.IsOrderly) (width height : Float) :
    (v.resized width height).1 = [] := by
  have abscissas : checkRange .x (v.requestFor width height).xMin (v.requestFor width height).xMax =
      .ok ⟨v.window.xMin, v.window.xMax, false⟩ := orderly.x.checkRange .x
  have ordinates (xScale : Float) : (ordinates (v.requestFor width height) xScale).1 = [] := by
    cases equal : v.equalScale with
    | true => rw [ordinates_of_none (requestFor_equal equal width height) orderly.yMin_finite]
    | false => rw [ordinates_of_ordered (requestFor_own equal width height) (orderly.y equal)]
  unfold resized create
  rw [abscissas]
  cases checkFrame (v.requestFor width height).width (v.requestFor width height).height
      (v.requestFor width height).padding with
  | error fault => rfl
  | ok framed =>
    simp only [Except.bind]
    split
    · rfl
    next xScale scaled => exact ordinates xScale

/-- A viewport that is given the size it has stays as it is. -/
theorem IsOrderly.resized_self (orderly : v.IsOrderly) (consistent : v.Consistent) :
    v.resized v.width v.height = ([], .ok v) := by
  have abscissas :
      checkRange .x (v.requestFor v.width v.height).xMin (v.requestFor v.width v.height).xMax =
        .ok ⟨v.window.xMin, v.window.xMax, false⟩ := orderly.x.checkRange .x
  have frame :
      checkFrame (v.requestFor v.width v.height).width (v.requestFor v.width v.height).height
        (v.requestFor v.width v.height).padding = .ok () := orderly.frame
  have scale :
      scaleFor (v.requestFor v.width v.height).width (v.requestFor v.width v.height).padding
        v.window.xMin v.window.xMax = .ok v.xScale := consistent.xScale
  have found : ordinates (v.requestFor v.width v.height) v.xScale =
      ([], .ok (⟨v.window.yMin, v.window.yMax, false⟩, v.yScale)) := by
    -- with equal scales the upper end is found anew, else it is asked for
    cases equal : v.equalScale with
    | true =>
      obtain ⟨same, extent⟩ := consistent.equal equal
      obtain ⟨height, divided, sum⟩ := map_eq_ok.1 extent
      rw [ordinates_of_none (requestFor_equal equal _ _) orderly.yMin_finite]
      simp only [requestFor, divided, mapError_ok, Except.map, sum, same]
    | false =>
      rw [ordinates_of_ordered (requestFor_own equal _ _) (orderly.y equal)]
      simp only [requestFor, consistent.yScale equal, Except.map]
  have whole : assemble (v.requestFor v.width v.height) ⟨v.window.xMin, v.window.xMax, false⟩
      ⟨v.window.yMin, v.window.yMax, false⟩ v.xScale v.yScale = v := by
    refine Viewport.ext rfl rfl rfl rfl rfl rfl consistent.origin.symm ?_ rfl
    cases equal : v.equalScale with
    | true => rw [assemble, requestFor_equal equal]; rfl
    | false => rw [assemble, requestFor_own equal]; rfl
  unfold resized create
  rw [abscissas, frame]
  simp only [Except.bind, scale, found, Except.map, whole]
  rfl

/-- Gives a viewport one size after another. -/
def resizedAll (v : Viewport Float) (sizes : List (Float × Float)) :
    Except (ViewportFault Float) (Viewport Float) :=
  sizes.foldlM (fun v size => (v.resized size.1 size.2).2) v

private theorem resizedAll_cons (v : Viewport Float) (size : Float × Float)
    (sizes : List (Float × Float)) :
    v.resizedAll (size :: sizes) = (v.resized size.1 size.2).2.bind fun v => v.resizedAll sizes :=
  rfl

/-- The size that a viewport has in the end. -/
def lastSize (size : Float × Float) (sizes : List (Float × Float)) : Float × Float :=
  sizes.getLast?.getD size

private theorem lastSize_cons (size size' : Float × Float) (sizes : List (Float × Float)) :
    lastSize size (size' :: sizes) = lastSize size' sizes := by
  rw [lastSize, List.getLast?_cons, Option.getD_some]
  rfl

/-- A viewport that has been resized again and again asks for what it asked for at first. -/
theorem requestFor_resizedAll (consistent : v.Consistent) (orderly : v.IsOrderly)
    {sizes : List (Float × Float)} (resized : v.resizedAll sizes = .ok v') :
    v'.requestFor = v.requestFor ∧ (v'.width, v'.height) = lastSize (v.width, v.height) sizes ∧
      v'.Consistent ∧ v'.IsOrderly := by
  induction sizes generalizing v with
  | nil =>
    cases resized
    exact ⟨rfl, rfl, consistent, orderly⟩
  | cons size sizes ih =>
    obtain ⟨next, once, rest⟩ :=
      bind_eq_ok.1 ((resizedAll_cons v size sizes).symm.trans resized)
    obtain ⟨request, width, height⟩ := requestFor_resized consistent once
    obtain ⟨request', size_eq, kept⟩ := ih (create_consistent once) (create_isOrderly once) rest
    refine ⟨request'.trans request, ?_, kept⟩
    rw [size_eq, width, height, lastSize_cons]

/-- A viewport that has been resized any number of times is the one that is made at once for its
frame and the ranges as they were corrected, without a further correction. Given the first size it
is the first viewport again. Its window has kept the abscissas and the lower end of the ordinates,
the scales are equal if they were, and nothing is corrected whatever size it is given next. -/
theorem resized_forgets (created : (create r).2 = .ok v) {sizes : List (Float × Float)}
    (resized : v.resizedAll sizes = .ok v') :
    let size := lastSize (r.width, r.height) sizes
    create { r.corrected with width := size.1, height := size.2 } = ([], .ok v') ∧
      v'.resized r.width r.height = ([], .ok v) ∧
      v'.window.xRange = v.window.xRange ∧ v'.window.yMin = v.window.yMin ∧
      v'.equalScale = v.equalScale ∧
      ∀ width height, (v'.resized width height).1 = [] := by
  intro size
  have consistent := create_consistent created
  have orderly := create_isOrderly created
  obtain ⟨width, height⟩ : v.width = r.width ∧ v.height = r.height := by
    obtain ⟨_, _, _, _, -, -, -, rfl⟩ := create_eq_ok created
    exact ⟨rfl, rfl⟩
  obtain ⟨request, size_eq, consistent', orderly'⟩ :=
    requestFor_resizedAll consistent orderly resized
  rw [width, height] at size_eq
  have width' : v'.width = size.1 := congrArg Prod.fst size_eq
  have height' : v'.height = size.2 := congrArg Prod.snd size_eq
  -- the request is the same at both ends, so each size gives the viewport that it gave before
  have again := orderly'.resized_self consistent'
  have first := orderly.resized_self consistent
  rw [width', height', Viewport.resized, request, requestFor_of_create created] at again
  rw [width, height, Viewport.resized, ← request] at first
  have same := congrFun (congrFun request r.width) r.height
  simp only [requestFor, ViewportRequest.mk.injEq, true_and] at same
  obtain ⟨-, xMin, xMax, yMin, yMax, -⟩ := same
  have equalScale : v'.equalScale = v.equalScale := by
    cases equal : v.equalScale <;> cases equal' : v'.equalScale <;> simp [equal, equal'] at yMax ⊢
  exact ⟨again, first, Prod.ext xMin xMax, yMin, equalScale, orderly'.corrections_resized⟩

/-- A viewport with equal scales whose abscissas had to be corrected, resized twice. -/
theorem resized_forgets_corrected :
    let r : ViewportRequest Float := ⟨200.0, 100.0, 10.0, 3.0, 1.0, 0.0, none, 0.25⟩
    ∃ v v', (create r).2 = .ok v ∧ v.resizedAll [(300.0, 120.0), (80.0, 60.0)] = .ok v' ∧
      create { r.corrected with width := 80.0, height := 60.0 } = ([], .ok v') ∧
      v'.resized 200.0 100.0 = ([], .ok v) ∧ (v'.resized 1.0 1.0).1 = [] := by
  intro r
  have resizes :
      ((create r).2.bind fun v => v.resizedAll [(300.0, 120.0), (80.0, 60.0)]).isOk = true := by
    decide +kernel
  cases made : (create r).2.bind fun v => v.resizedAll [(300.0, 120.0), (80.0, 60.0)] with
  | error fault =>
    rw [made] at resizes
    cases resizes
  | ok v' =>
    obtain ⟨v, created, resized⟩ := bind_eq_ok.1 made
    obtain ⟨at_once, back, -, -, -, corrections⟩ := resized_forgets created resized
    exact ⟨v, v', created, resized, at_once, back, corrections 1.0 1.0⟩

end Viewport

end CurveBoard
