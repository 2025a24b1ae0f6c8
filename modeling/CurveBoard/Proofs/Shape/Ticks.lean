import CurveBoard.Proofs.ExactGeometry
import CurveBoard.Proofs.Shape.Axes
import CurveBoard.Proofs.Viewport.Mapping

/-!
# Multiples of a step

In exact arithmetic the multiples of a step that are labelled, and the places that are marked, are
counted from zero outwards in both directions. Each is held against one end only, the one that lies
ahead. So where zero is not between the ends, what lies on the way to the nearer end counts, too.
-/
namespace CurveBoard

open Scalar Extended

/-! ### Counting from zero in both directions -/

/-- A list of the chosen integers, each once. -/
structure Enumerates (ks : List ℤ) (chosen : ℤ → Prop) : Prop where
  nodup : ks.Nodup
  mem_iff : ∀ k, k ∈ ks ↔ chosen k

private theorem mem_upTo {count : ℤ} {n : ℕ} :
    n ∈ upTo count ↔ 0 < n ∧ (n : ℤ) ≤ count := by
  simp only [upTo, List.mem_range'_1]
  omega

private theorem nodup_upTo (count : ℤ) : (upTo count).Nodup := List.nodup_range'

/-- What is counted upwards and downwards, without zero. -/
theorem enumerates_both {ups downs : List ℕ} {chosen : ℤ → Prop} (ups_nodup : ups.Nodup)
    (downs_nodup : downs.Nodup) (up : ∀ n : ℕ, n ∈ ups ↔ 0 < n ∧ chosen n)
    (down : ∀ n : ℕ, n ∈ downs ↔ 0 < n ∧ chosen (-n)) (zero : ¬chosen 0) :
    Enumerates (ups.map (fun n : ℕ => (n : ℤ)) ++ downs.map fun n : ℕ =>
      -(n : ℤ)) chosen where
  nodup := by
    refine List.nodup_append.2 ⟨ups_nodup.map fun m n same =>
      ?_, downs_nodup.map fun m n same => ?_, ?_⟩
    · exact Int.ofNat_inj.1 same
    · exact Int.ofNat_inj.1 (neg_inj.1 same)
    · -- the ones are positive and the others negative
      intro k above l below
      obtain ⟨m, counted, rfl⟩ := List.mem_map.1 above
      obtain ⟨n, counted', rfl⟩ := List.mem_map.1 below
      have m_pos := ((up m).1 counted).1
      have n_pos := ((down n).1 counted').1
      omega
  mem_iff := by
    intro k
    rw [List.mem_append, List.mem_map, List.mem_map]
    constructor
    · rintro (⟨n, counted, rfl⟩ | ⟨n, counted, rfl⟩)
      · exact ((up n).1 counted).2
      · exact ((down n).1 counted).2
    · intro isChosen
      have nonzero : k ≠ 0 := fun same => zero (same ▸ isChosen)
      obtain ⟨n, rfl | rfl⟩ := k.eq_nat_or_neg
      · exact .inl ⟨n, (up n).2 ⟨by omega, isChosen⟩, rfl⟩
      · exact .inr ⟨n, (down n).2 ⟨by omega, isChosen⟩, rfl⟩

/-! ### Multiples of a step -/

section Multiples

variable {step low high : ℝ} {k : ℤ}

/-- Whether a multiple of a step is labelled: it is between the ends of a range, up to a billionth
of a step. An end that zero is not inside of gives way to zero, which has no label itself. -/
def IsLabelled (step low high : ℝ) (k : ℤ) : Prop :=
  k ≠ 0 ∧ min low 0 - 1e-9 * step ≤ k * step ∧ k * step ≤ max high 0 + 1e-9 * step

/-- Where the range reaches zero, all labels are inside. -/
theorem IsLabelled.inside (labelled : IsLabelled step low high k) (below : low ≤ 0)
    (above : 0 ≤ high) :
    low - 1e-9 * step ≤ k * step ∧ k * step ≤ high + 1e-9 * step := by
  obtain ⟨-, after, before⟩ := labelled
  rw [min_eq_left below] at after
  rw [max_eq_left above] at before
  exact ⟨after, before⟩

/-- Labels look the same from the other side. -/
theorem isLabelled_neg : IsLabelled step low high (-k) ↔ IsLabelled step (-high) (-low) k := by
  have lowest : min (-high) 0 = -max high 0 := by rw [← neg_zero, min_neg_neg, neg_zero]
  have highest : max (-low) 0 = -min low 0 := by rw [← neg_zero, max_neg_neg, neg_zero]
  unfold IsLabelled
  rw [lowest, highest, Int.cast_neg, neg_mul, neg_ne_zero]
  constructor
  · rintro ⟨nonzero, after, before⟩
    exact ⟨nonzero, by linarith, by linarith⟩
  · rintro ⟨nonzero, after, before⟩
    exact ⟨nonzero, by linarith, by linarith⟩

/-- Upwards from zero only the upper end matters. -/
theorem isLabelled_natCast {n : ℕ} (positive : 0 < step) (n_pos : 0 < n) :
    IsLabelled step low high n ↔ n * step ≤ max high 0 + 1e-9 * step := by
  constructor
  · intro labelled
    exact_mod_cast labelled.2.2
  · intro below
    have nonzero : (n : ℤ) ≠ 0 := by omega
    have after : min low 0 - 1e-9 * step ≤ n * step := by
      have lowest := min_le_right low 0
      have tolerance : 0 ≤ 1e-9 * step := by positivity
      have multiple : 0 ≤ n * step := by positivity
      linarith
    exact ⟨nonzero, by exact_mod_cast after, by exact_mod_cast below⟩

/-- The natural numbers whose multiples of a step are up to an end, if that is positive. -/
noncomputable def reached (step room : ℝ) : List ℕ :=
  if 0 < room then upTo ⌊room / step + 1e-9⌋ else []

private theorem nodup_reached (step room : ℝ) : (reached step room).Nodup := by
  unfold reached
  split
  · exact nodup_upTo _
  · exact List.nodup_nil

private theorem mem_reached {room : ℝ} {n : ℕ} (positive : 0 < step) :
    n ∈ reached step room ↔ 0 < n ∧ n * step ≤ max room 0 + 1e-9 * step := by
  unfold reached
  split
  next ahead =>
    rw [mem_upTo, Int.le_floor, max_eq_left ahead.le, ← sub_le_iff_le_add,
      le_div_iff₀ positive, sub_mul, sub_le_iff_le_add, Int.cast_natCast]
  next behind =>
    -- the first multiple is already too far away
    rw [max_eq_right (not_lt.1 behind), zero_add, mul_le_mul_iff_left₀ positive]
    refine iff_of_false List.not_mem_nil ?_
    rintro ⟨n_pos, small⟩
    have : (1 : ℝ) ≤ n := Nat.one_le_cast.2 n_pos
    norm_num at small
    linarith

/-- Counting the multiples of a step up to an end. -/
theorem counted_finite (positive : 0 < step) (room : ℝ) (value : ℕ → Extended ℝ) :
    (if 0 < room then
        (quotient (finite room) (finite step)).bind fun q =>
          (toInteger truncate (q + 1e-9)).map fun count => (upTo count).map value
      else pure []) = .ok ((reached step room).map value) := by
  unfold reached
  by_cases ahead : 0 < room
  · have nonneg : ¬room / step + 1e-9 < 0 := by
      have := div_pos ahead positive
      norm_num
      linarith
    have whole : truncate (finite (room / step + 1e-9)) = ⌊room / step + 1e-9⌋ := by
      simp only [truncate, scientific, finite_lt, zero_literal, if_neg nonneg]
      rfl
    simp only [if_pos ahead, quotient_finite positive.ne', Except.bind, scientific, finite_add,
      toInteger_finite, whole, Except.map]
  · rw [if_neg ahead, if_neg ahead]
    rfl

/-- Of the multiples of a step exactly those that are to be labelled are returned. -/
theorem multiples_finite (positive : 0 < step) (low high : ℝ) :
    ∃ ks : List ℤ, multiples (finite step) (finite low) (finite high) =
      .ok (ks.map fun k : ℤ => finite (k * step)) ∧
        Enumerates ks (IsLabelled step low high) := by
  refine ⟨(reached step high).map (fun n : ℕ => (n : ℤ)) ++
    (reached step (-low)).map fun n : ℕ => -(n : ℤ), ?_, ?_⟩
  · have up := counted_finite positive high fun n => ofNat n * finite step
    have down := counted_finite positive (-low) fun n => ofInt (-(n : ℤ)) * finite step
    unfold multiples
    simp only [scientific, finite_lt, zero_literal, finite_neg, Left.neg_pos_iff] at up down ⊢
    refine ite_do_eq_ok.2 ⟨_, up, ite_do_eq_ok.2 ⟨_, down, ?_⟩⟩
    rw [List.map_append, List.map_map, List.map_map]
    rfl
  · apply enumerates_both (nodup_reached _ _) (nodup_reached _ _)
    · intro n
      rw [mem_reached positive]
      exact and_congr_right fun n_pos => (isLabelled_natCast positive n_pos).symm
    · intro n
      rw [mem_reached positive, isLabelled_neg]
      exact and_congr_right fun n_pos => (isLabelled_natCast positive n_pos).symm
    · intro labelled
      exact labelled.1 rfl

end Multiples

/-! ### Marks at steps from a start -/

section Marks

variable {start step low high : ℝ} {k : ℤ}

/-- Whether the place some steps from a start is marked: it is strictly between two ends. An end
that the start is not inside of gives way to the start, which has no mark itself. -/
def IsMarked (start step low high : ℝ) (k : ℤ) : Prop :=
  k ≠ 0 ∧ min low start < start + k * step ∧ start + k * step < max high start

/-- Where the start is in the frame, all marks are strictly inside. -/
theorem IsMarked.inside {length : ℝ} (marked : IsMarked start step low high k)
    (low_nonneg : 0 ≤ low) (high_le : high ≤ length) (below : 0 ≤ start)
    (above : start ≤ length) :
    0 < start + k * step ∧ start + k * step < length :=
  ⟨(le_min low_nonneg below).trans_lt marked.2.1, marked.2.2.trans_le (max_le high_le above)⟩

/-- Marks look the same from the other side. -/
theorem isMarked_neg :
    IsMarked start step low high (-k) ↔ IsMarked (-start) step (-high) (-low) k := by
  unfold IsMarked
  rw [min_neg_neg, max_neg_neg, Int.cast_neg, neg_mul, neg_ne_zero]
  constructor
  · rintro ⟨nonzero, after, before⟩
    exact ⟨nonzero, by linarith, by linarith⟩
  · rintro ⟨nonzero, after, before⟩
    exact ⟨nonzero, by linarith, by linarith⟩

/-- Upwards from the start only the upper end matters. -/
theorem isMarked_natCast {n : ℕ} (positive : 0 < step) (n_pos : 0 < n) :
    IsMarked start step low high n ↔ start + n * step < high := by
  have further : 0 < n * step := by positivity
  constructor
  · rintro ⟨-, -, before⟩
    rcases lt_max_iff.1 before with below | back
    · exact_mod_cast below
    · rw [Int.cast_natCast] at back
      linarith
  · intro below
    have nonzero : (n : ℤ) ≠ 0 := by omega
    refine ⟨nonzero, ?_, ?_⟩
    · rw [Int.cast_natCast]
      exact (min_le_right low start).trans_lt (by linarith)
    · rw [Int.cast_natCast]
      exact below.trans_le (le_max_left high start)

/-- The places in one direction that are inside. There is room for all of them. -/
theorem marksBeside_finite {room : ℝ} (move : Extended ℝ → Extended ℝ → Extended ℝ)
    (inside : Extended ℝ → Bool) (positive : 0 < step)
    (near : ∀ n : ℕ, inside (move (finite start) (finite (n * step))) = true →
      n * step < room) :
    ∃ ns : List ℕ,
      marksBeside (finite start) (finite step) (finite room) move inside =
        .ok (ns.map fun n : ℕ => move (finite start) (finite (n * step))) ∧
      ns.Nodup ∧ ∀ n : ℕ, n ∈ ns ↔ 0 < n ∧
        inside (move (finite start) (finite (n * step))) = true := by
  let place (n : ℕ) : Extended ℝ := move (finite start) (finite (n * step))
  let count : ℤ := truncate (finite (room / step))
  refine ⟨(upTo (count + 1)).filter fun n => inside (place n), ?_, (nodup_upTo _).filter _, ?_⟩
  · simp only [marksBeside, quotient_finite positive.ne', Except.bind, toInteger_finite,
      Except.map, ofNat_eq, finite_mul, List.filter_map]
    rfl
  · intro n
    rw [List.mem_filter, mem_upTo]
    constructor
    · rintro ⟨⟨n_pos, -⟩, isInside⟩
      exact ⟨n_pos, isInside⟩
    · rintro ⟨n_pos, isInside⟩
      have less : (n : ℝ) < room / step := (lt_div_iff₀ positive).2 (near n isInside)
      have ahead : ¬room / step < 0 := not_lt.2 (n.cast_nonneg.trans less.le)
      have whole : count = ⌊room / step⌋ := by
        simp only [count, truncate, scientific, finite_lt, zero_literal, if_neg ahead]
        rfl
      have enough : (n : ℤ) ≤ ⌊room / step⌋ := Int.le_floor.2 (by exact_mod_cast less.le)
      exact ⟨⟨n_pos, by omega⟩, isInside⟩

/-- The places in both directions, if there is room for those up to the ends. -/
theorem marksBeside_both {above below : ℝ} (positive : 0 < step) (room : high ≤ start + above)
    (room' : start - below ≤ low) :
    ∃ ks : List ℤ,
      (do
        let right ← marksBeside (finite start) (finite step) (finite above) (· + ·)
          (· < finite high)
        let left ← marksBeside (finite start) (finite step) (finite below) (· - ·)
          (finite low < ·)
        return right ++ left) = .ok (ks.map fun k : ℤ => finite (start + k * step)) ∧
      Enumerates ks (IsMarked start step low high) := by
  have inside_iff (n : ℕ) :
      decide (finite start + finite (n * step) < finite high) = true ↔
      start + n * step < high := by
    rw [decide_eq_true_iff, finite_add, finite_lt]
  have inside_iff' (n : ℕ) :
      decide (finite low < finite start - finite (n * step)) = true ↔ low < start - n * step := by
    rw [decide_eq_true_iff, finite_sub, finite_lt]
  -- the search ends: what is inside is nearer than the extent that it counts up to
  have near (n : ℕ) (isInside : decide (finite start + finite (n * step) < finite high) = true) :
      n * step < above := by linarith [(inside_iff n).1 isInside]
  have near' (n : ℕ) (isInside : decide (finite low < finite start - finite (n * step)) = true) :
      n * step < below := by linarith [(inside_iff' n).1 isInside]
  obtain ⟨ups, up, ups_nodup, mem_ups⟩ :=
    marksBeside_finite (· + ·) (· < finite high) positive near
  obtain ⟨downs, down, downs_nodup, mem_downs⟩ :=
    marksBeside_finite (· - ·) (finite low < ·) positive near'
  refine ⟨ups.map (fun n : ℕ => (n : ℤ)) ++ downs.map fun n : ℕ => -(n : ℤ), ?_, ?_⟩
  · refine do_eq_ok.2 ⟨_, up, do_eq_ok.2 ⟨_, down, ?_⟩⟩
    simp only [List.map_append, List.map_map, Function.comp_def, finite_add, finite_sub,
      sub_eq_add_neg, Int.cast_natCast, Int.cast_neg, neg_mul]
    rfl
  · apply enumerates_both ups_nodup downs_nodup
    · intro n
      rw [mem_ups, inside_iff]
      exact and_congr_right fun n_pos => (isMarked_natCast positive n_pos).symm
    · intro n
      rw [mem_downs, inside_iff', isMarked_neg]
      refine and_congr_right fun n_pos => ?_
      rw [isMarked_natCast positive n_pos]
      constructor
      · intro before
        linarith
      · intro before
        linarith
    · intro marked
      exact marked.1 rfl

end Marks

/-! ### Along an axis -/

namespace Viewport

variable {u : Viewport ℝ}

/-- How far the frame reaches along an axis. -/
def extent (u : Viewport ℝ) : Axis → ℝ
  | .x => u.width
  | .y => u.height

/-- Where the zero of an axis is on the device. -/
def zeroPlace (u : Viewport ℝ) : Axis → ℝ
  | .x => u.origin.1
  | .y => u.height - u.origin.2

/-- How much of the frame stays free of marks at both ends of an axis. -/
def unmarked (u : Viewport ℝ) : Axis → ℝ
  | .x => 0
  | .y => 0.99 * u.padding

/-- The place on the device some steps along an axis from its zero. -/
def markPlace (u : Viewport ℝ) (axis : Axis) (step : ℝ) (k : ℤ) : ℝ :=
  u.zeroPlace axis + k * (step * u.scale axis)

/-- Whether the place some steps along an axis from its zero is marked. -/
def IsMarkedAt (u : Viewport ℝ) (axis : Axis) (step : ℝ) : ℤ → Prop :=
  IsMarked (u.zeroPlace axis) (step * u.scale axis) (u.unmarked axis)
    (u.extent axis - u.unmarked axis)

theorem IsProper.scale_pos (proper : u.IsProper) (axis : Axis) : 0 < u.scale axis := by
  cases axis with
  | x => exact proper.xScale_pos
  | y => exact proper.yScale_pos

private theorem IsProper.unmarked_nonneg (proper : u.IsProper) (axis : Axis) :
    0 ≤ u.unmarked axis := by
  have padding := proper.padding
  cases axis with
  | x => exact le_rfl
  | y => exact mul_nonneg (by norm_num) padding

/-- A zero in the window is in the frame, and not in the padding. -/
theorem IsProper.zeroPlace_inside (proper : u.IsProper) {axis : Axis}
    (below : u.window.low axis ≤ 0) (above : 0 ≤ u.window.high axis) :
    u.padding ≤ u.zeroPlace axis ∧ u.zeroPlace axis ≤ u.extent axis - u.padding := by
  cases axis with
  | x =>
    have left := proper.column_from_left 0
    have right := proper.column_from_right 0
    have before := mul_nonneg (sub_nonneg.2 below) proper.xScale_pos.le
    have after := mul_nonneg (sub_nonneg.2 above) proper.xScale_pos.le
    simp only [zeroPlace, extent, Bounds.low, Bounds.high] at *
    constructor
    · linarith
    · linarith
  | y =>
    have bottom := proper.row_from_bottom 0
    have top := proper.row_from_top 0
    have before := mul_nonneg (sub_nonneg.2 below) proper.yScale_pos.le
    have after := mul_nonneg (sub_nonneg.2 above) proper.yScale_pos.le
    simp only [zeroPlace, extent, Bounds.low, Bounds.high] at *
    constructor
    · linarith
    · linarith

/-- Where the window reaches zero, all marks of an axis are strictly inside the frame. -/
theorem IsProper.mark_inside (proper : u.IsProper) {axis : Axis} {step : ℝ} {k : ℤ}
    (below : u.window.low axis ≤ 0) (above : 0 ≤ u.window.high axis)
    (marked : u.IsMarkedAt axis step k) :
    0 < u.markPlace axis step k ∧ u.markPlace axis step k < u.extent axis := by
  obtain ⟨after, before⟩ := proper.zeroPlace_inside below above
  have padding := proper.padding
  have free := proper.unmarked_nonneg axis
  exact marked.inside free (by linarith) (by linarith) (by linarith)

/-- The ends of the window along an axis. -/
theorem window_finite {v : Viewport (Extended ℝ)}
    (numbers : v = { u.map finite with overscan := v.overscan }) (axis : Axis) :
    v.window.low axis = finite (u.window.low axis) ∧
    v.window.high axis = finite (u.window.high axis) := by
  have window : v.window = u.window.map finite := congrArg Viewport.window numbers
  rw [window]
  cases axis with
  | x => exact ⟨rfl, rfl⟩
  | y => exact ⟨rfl, rfl⟩

theorem scale_finite {v : Viewport (Extended ℝ)}
    (numbers : v = { u.map finite with overscan := v.overscan }) (axis : Axis) :
    v.scale axis = finite (u.scale axis) := by
  cases axis with
  | x => exact congrArg Viewport.xScale numbers
  | y => exact congrArg Viewport.yScale numbers

end Viewport

namespace Axes

variable {u : Viewport ℝ} {v : Viewport (Extended ℝ)} {step : ℝ}

theorem columns_finite (numbers : v = { u.map finite with overscan := v.overscan })
    (proper : u.IsProper) (positive : 0 < step) :
    ∃ ks : List ℤ, columns v (finite (step * u.xScale)) =
        .ok (ks.map fun k : ℤ => finite (u.markPlace .x step k)) ∧
      Enumerates ks (u.IsMarkedAt .x step) := by
  have room : u.width ≤ u.origin.1 + (u.width - u.origin.1) := by linarith
  have room' : u.origin.1 - u.origin.1 ≤ 0 := by linarith
  obtain ⟨ks, returned, enumerates⟩ :=
    marksBeside_both (mul_pos positive proper.xScale_pos) room room'
  refine ⟨ks, ?_, ?_⟩
  · rw [numbers]
    simp only [columns, column, Viewport.map, scientific, zero_literal, finite_sub]
    exact returned
  · rw [Viewport.IsMarkedAt]
    simp only [Viewport.unmarked, Viewport.extent, sub_zero]
    exact enumerates

theorem rows_finite (numbers : v = { u.map finite with overscan := v.overscan })
    (proper : u.IsProper) (positive : 0 < step) :
    ∃ ks : List ℤ, rows v (finite (step * u.yScale)) =
        .ok (ks.map fun k : ℤ => finite (u.markPlace .y step k)) ∧
      Enumerates ks (u.IsMarkedAt .y step) := by
  have free := proper.unmarked_nonneg .y
  have room : u.height - 0.99 * u.padding ≤ u.zeroPlace .y + (u.height - u.zeroPlace .y) := by
    simp only [Viewport.unmarked] at free
    linarith
  have room' : u.zeroPlace .y - u.zeroPlace .y ≤ 0.99 * u.padding := by
    simp only [Viewport.unmarked] at free
    linarith
  obtain ⟨ks, returned, enumerates⟩ :=
    marksBeside_both (mul_pos positive proper.yScale_pos) room room'
  refine ⟨ks, ?_, enumerates⟩
  rw [numbers]
  simp only [rows, row, Viewport.map, scientific, finite_sub, finite_mul]
  exact returned

/-- Nothing is marked beside an axis that has no place. -/
theorem columns_ne_ok_of_nan {xStep : Extended ℝ} {xs : List (Extended ℝ)}
    (noPlace : column v = nan) :
    columns v xStep ≠ .ok xs := by
  intro returned
  obtain ⟨right, counted, -⟩ := do_eq_ok.1 returned
  obtain ⟨q, divided, counted⟩ := bind_eq_ok.1 counted
  rw [noPlace, sub_nan] at divided
  rw [quotient_nan divided] at counted
  cases counted

end Axes

end CurveBoard
