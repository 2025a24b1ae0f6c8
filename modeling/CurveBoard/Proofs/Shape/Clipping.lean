import CurveBoard.Proofs.Viewport.Mapping
import CurveBoard.Shape.Stroke
import Mathlib

/-!
# Clipping lines

A line across a rectangle is drawn between the points where it crosses the edges, and that is all of
it that is in the rectangle. A line that is not upright is the graph of a function. The rectangle
leaves it a range of abscissas, and another one where its ordinates are in the rectangle, whose ends
are where the line crosses the lower and the upper edge. The line has been drawn over what the two
ranges have in common.
-/
namespace CurveBoard

open Scalar Extended

variable {K : Type} [Field K] [LinearOrder K] [IsStrictOrderedRing K]

namespace Bounds

/-- The rectangle with its edges. -/
def region (b : Bounds K) : Set (Point K) := Set.Icc b.xMin b.xMax ×ˢ Set.Icc b.yMin b.yMax

/-- The rectangle without its edges. -/
def inside (b : Bounds K) : Set (Point K) := Set.Ioo b.xMin b.xMax ×ˢ Set.Ioo b.yMin b.yMax

end Bounds

section

variable {K : Type} [Field K]

/-- The point of a line at an abscissa, given its slope and a point of it. -/
def graph (slope : K) (p : Point K) : K →ᵃ[K] Point K :=
  (AffineMap.id K K).prod (slope • (AffineMap.id K K - AffineMap.const K K p.1) +
    AffineMap.const K K p.2)

private theorem graph_apply (slope : K) (p : Point K) (x : K) :
    graph slope p x = (x, slope * (x - p.1) + p.2) := rfl

/-- A line may be taken from either of two points. -/
theorem graph_eq {slope : K} {p q : Point K} (steps : q.2 - p.2 = slope * (q.1 - p.1)) :
    graph slope q = graph slope p := by
  refine AffineMap.ext fun x => Prod.ext rfl ?_
  rw [graph_apply, graph_apply]
  linear_combination steps

private theorem mem_line_iff {p q r : Point K} : r ∈ line[K, p, q] ↔
    ∃ t : K, r.1 = t * (q.1 - p.1) + p.1 ∧ r.2 = t * (q.2 - p.2) + p.2 := by
  rw [mem_affineSpan_pair_iff_exists_lineMap_eq]
  refine exists_congr fun t => ?_
  rw [AffineMap.lineMap_apply, Prod.ext_iff, eq_comm (a := r.1), eq_comm (a := r.2)]
  rfl

private theorem line_eq_range_graph {slope : K} {p q : Point K} (slanted : p.1 ≠ q.1)
    (steps : q.2 - p.2 = slope * (q.1 - p.1)) :
    (line[K, p, q] : Set (Point K)) = Set.range (graph slope p) := by
  have run : q.1 - p.1 ≠ 0 := sub_ne_zero.2 slanted.symm
  ext r
  rw [SetLike.mem_coe, mem_line_iff]
  constructor
  · rintro ⟨t, abscissa, ordinate⟩
    refine ⟨r.1, Prod.ext rfl ?_⟩
    rw [graph_apply, ordinate, abscissa, steps]
    ring
  · rintro ⟨x, rfl⟩
    refine ⟨(x - p.1) / (q.1 - p.1), ?_, ?_⟩
    · rw [graph_apply, div_mul_cancel₀ _ run, sub_add_cancel]
    · rw [graph_apply, steps, mul_left_comm, div_mul_cancel₀ _ run]

/-- An upright line. -/
theorem line_eq_column {p q : Point K} (upright : p.1 = q.1) (distinct : p ≠ q) :
    (line[K, p, q] : Set (Point K)) = (p.1, ·) '' Set.univ := by
  have rise : q.2 - p.2 ≠ 0 := sub_ne_zero.2 fun same => distinct (Prod.ext upright same.symm)
  ext r
  rw [SetLike.mem_coe, mem_line_iff]
  constructor
  · rintro ⟨t, abscissa, -⟩
    refine ⟨r.2, trivial, Prod.ext ?_ rfl⟩
    rw [abscissa, ← upright]
    ring
  · rintro ⟨y, -, rfl⟩
    refine ⟨(y - p.2) / (q.2 - p.2), ?_, ?_⟩
    · rw [← upright]
      ring
    · rw [div_mul_cancel₀ _ rise, sub_add_cancel]

end

/-- The stroke between two points of a line. -/
theorem segment_graph (slope : K) (p : Point K) {x x' : K} (le : x ≤ x') :
    segment K (graph slope p x) (graph slope p x') = graph slope p '' Set.Icc x x' := by
  rw [← segment_eq_Icc le, image_segment]

/-! ### What is drawn of a line -/

/-- Whether a stroke is what a line has in common with a rectangle, and ends at its edges. -/
structure Clips (b : Bounds K) (line : Set (Point K)) (start stop : Point K) : Prop where
  stroke : segment K start stop = line ∩ b.region
  start_outside : start ∉ b.inside
  stop_outside : stop ∉ b.inside

variable {b : Bounds K} {p q : Point K} {slope : K}

private theorem clips_upright (upright : p.1 = q.1) (distinct : p ≠ q)
    (meets : (line[K, p, q] ∩ b.inside : Set (Point K)).Nonempty) :
    Clips b line[K, p, q] (p.1, b.yMin) (p.1, b.yMax) := by
  rw [line_eq_column upright distinct] at meets ⊢
  obtain ⟨-, ⟨y, -, rfl⟩, between, below, above⟩ := meets
  refine ⟨?_, fun start => lt_irrefl _ start.2.1, fun stop => lt_irrefl _ stop.2.2⟩
  rw [← Prod.image_mk_segment_right, segment_eq_Icc (below.trans above).le,
    ← Set.image_inter_preimage, Set.univ_inter]
  congr 1
  ext t
  exact ⟨fun inside => ⟨Set.Ioo_subset_Icc_self between, inside⟩, fun inside => inside.2⟩

private theorem clips_graph {x x' : K} (le : x ≤ x')
    (region : ∀ t, graph slope p t ∈ b.region ↔ x ≤ t ∧ t ≤ x')
    (start : graph slope p x ∉ b.inside) (stop : graph slope p x' ∉ b.inside) :
    Clips b (Set.range (graph slope p)) (graph slope p x) (graph slope p x') := by
  refine ⟨?_, start, stop⟩
  rw [segment_graph slope p le, ← Set.image_preimage_eq_range_inter]
  congr 1
  ext t
  exact (region t).symm

private theorem clips_flat (flat : p.2 = q.2) (slanted : p.1 ≠ q.1)
    (meets : (line[K, p, q] ∩ b.inside : Set (Point K)).Nonempty) :
    Clips b line[K, p, q] (b.xMin, p.2) (b.xMax, p.2) := by
  have steps : q.2 - p.2 = 0 * (q.1 - p.1) := by rw [flat, sub_self, zero_mul]
  have height (x : K) : graph 0 p x = (x, p.2) := by rw [graph_apply, zero_mul, zero_add]
  rw [line_eq_range_graph slanted steps] at meets ⊢
  obtain ⟨-, ⟨x, rfl⟩, between, level⟩ := meets
  rw [height] at between level
  rw [← height, ← height]
  refine clips_graph (between.1.trans between.2).le (fun t => ?_) ?_ ?_
  · rw [height]
    exact ⟨fun inside => inside.1, fun inside => ⟨inside, Set.Ioo_subset_Icc_self level⟩⟩
  · rw [height]
    exact fun start => lt_irrefl _ start.1.1
  · rw [height]
    exact fun stop => lt_irrefl _ stop.1.2

/-! ### Lines that rise or fall -/

section

variable {K : Type} [Field K] {slope : K} {p q : Point K}

/-- The abscissa where a line reaches an ordinate. -/
def crossing (slope : K) (p : Point K) (y : K) : K := (y - p.2) / slope + p.1

private theorem graph_crossing (slanted : slope ≠ 0) (p : Point K) (y : K) :
    graph slope p (crossing slope p y) = (crossing slope p y, y) := by
  rw [graph_apply, crossing, add_sub_cancel_right, mul_div_cancel₀ _ slanted, sub_add_cancel]

private theorem crossing_eq (slanted : slope ≠ 0) (steps : q.2 - p.2 = slope * (q.1 - p.1))
    (y : K) :
    crossing slope q y = crossing slope p y := by
  unfold crossing
  field_simp
  linear_combination -steps

end

/-- The edge where a line comes in, from left to right: the lower one if it rises, and the upper one
if it falls. -/
def entryEdge (b : Bounds K) (slope : K) : K := if 0 < slope then b.yMin else b.yMax

/-- The edge where a line goes out. -/
def exitEdge (b : Bounds K) (slope : K) : K := if 0 < slope then b.yMax else b.yMin

private theorem graph_le_iff_of_rising (rising : 0 < slope) (p : Point K) (t t' : K) :
    (graph slope p t).2 ≤ (graph slope p t').2 ↔ t ≤ t' := by
  rw [graph_apply, graph_apply, add_le_add_iff_right, mul_le_mul_iff_right₀ rising,
    sub_le_sub_iff_right]

private theorem graph_le_iff_of_falling (falling : slope < 0) (p : Point K) (t t' : K) :
    (graph slope p t).2 ≤ (graph slope p t').2 ↔ t' ≤ t := by
  rw [graph_apply, graph_apply, add_le_add_iff_right, mul_le_mul_left_of_neg falling,
    sub_le_sub_iff_right]

/-- The abscissas where a line is between the lower and the upper edge. -/
theorem le_graph_le_iff (slanted : slope ≠ 0) (p : Point K) (t : K) :
    (b.yMin ≤ (graph slope p t).2 ∧ (graph slope p t).2 ≤ b.yMax) ↔
      crossing slope p (entryEdge b slope) ≤ t ∧ t ≤ crossing slope p (exitEdge b slope) := by
  have reached (y : K) : (graph slope p (crossing slope p y)).2 = y :=
    congrArg Prod.snd (graph_crossing slanted p y)
  unfold entryEdge exitEdge
  rcases slanted.lt_or_gt with falling | rising
  · have order := graph_le_iff_of_falling falling p
    rw [if_neg falling.not_gt, if_neg falling.not_gt, ← order t, ← order _ t, reached,
      reached, and_comm]
  · have order := graph_le_iff_of_rising rising p
    rw [if_pos rising, if_pos rising, ← order _ t, ← order t, reached, reached]

private theorem lt_graph_lt_iff (slanted : slope ≠ 0) (p : Point K) (t : K) :
    (b.yMin < (graph slope p t).2 ∧ (graph slope p t).2 < b.yMax) ↔
      crossing slope p (entryEdge b slope) < t ∧ t < crossing slope p (exitEdge b slope) := by
  have reached (y : K) : (graph slope p (crossing slope p y)).2 = y :=
    congrArg Prod.snd (graph_crossing slanted p y)
  unfold entryEdge exitEdge
  rcases slanted.lt_or_gt with falling | rising
  · have order (t t' : K) := not_congr (graph_le_iff_of_falling falling p t t')
    simp only [not_le] at order
    rw [if_neg falling.not_gt, if_neg falling.not_gt, ← order _ t, ← order t, reached,
      reached, and_comm]
  · have order (t t' : K) := not_congr (graph_le_iff_of_rising rising p t t')
    simp only [not_le] at order
    rw [if_pos rising, if_pos rising, ← order t, ← order _ t, reached, reached]

/-- Where a line is drawn from: at the left edge if it is between the corners there, otherwise where
it comes in. -/
def leftEnd (b : Bounds K) (slope : K) (p : Point K) : Point K :=
  if b.yMin < (graph slope p b.xMin).2 ∧ (graph slope p b.xMin).2 < b.yMax then
    graph slope p b.xMin
  else (crossing slope p (entryEdge b slope), entryEdge b slope)

/-- Where a line is drawn to. -/
def rightEnd (b : Bounds K) (slope : K) (p : Point K) : Point K :=
  if b.yMin < (graph slope p b.xMax).2 ∧ (graph slope p b.xMax).2 < b.yMax then
    graph slope p b.xMax
  else (crossing slope p (exitEdge b slope), exitEdge b slope)

/-- What the two ranges of abscissas have in common is where the line is drawn. -/
theorem ends_eq (slanted : slope ≠ 0) {x : K} (meets : graph slope p x ∈ b.inside) :
    leftEnd b slope p = graph slope p (max b.xMin (crossing slope p (entryEdge b slope))) ∧
      rightEnd b slope p = graph slope p (min b.xMax (crossing slope p (exitEdge b slope))) := by
  obtain ⟨⟨right, left⟩, level⟩ := meets
  obtain ⟨after, before⟩ := (lt_graph_lt_iff slanted p x).1 level
  unfold leftEnd rightEnd
  simp only [lt_graph_lt_iff slanted]
  refine ⟨?_, ?_⟩
  · split
    next corners => rw [max_eq_left corners.1.le]
    next outside =>
      have late : ¬ crossing slope p (entryEdge b slope) < b.xMin :=
        fun early => outside ⟨early, right.trans before⟩
      rw [max_eq_right (not_lt.1 late), graph_crossing slanted]
  · split
    next corners => rw [min_eq_left corners.2.le]
    next outside =>
      have early : ¬ b.xMax < crossing slope p (exitEdge b slope) :=
        fun late => outside ⟨after.trans left, late⟩
      rw [min_eq_right (not_lt.1 early), graph_crossing slanted]

private theorem clips_slanted (slanted : slope ≠ 0)
    (meets : (Set.range (graph slope p) ∩ b.inside).Nonempty) :
    Clips b (Set.range (graph slope p)) (leftEnd b slope p) (rightEnd b slope p) := by
  obtain ⟨-, ⟨x, rfl⟩, meets⟩ := meets
  obtain ⟨left_eq, right_eq⟩ := ends_eq slanted meets
  obtain ⟨⟨right, left⟩, level⟩ := meets
  obtain ⟨after, before⟩ := (lt_graph_lt_iff slanted p x).1 level
  rw [left_eq, right_eq]
  refine clips_graph ((max_lt right after).trans (lt_min left before)).le (fun t => ?_) ?_ ?_
  · rw [max_le_iff, le_min_iff, and_and_and_comm, ← le_graph_le_iff slanted]
    exact .rfl
  · rintro ⟨⟨inner, -⟩, level⟩
    exact lt_irrefl _ (max_lt inner ((lt_graph_lt_iff slanted p _).1 level).1)
  · rintro ⟨⟨-, inner⟩, level⟩
    exact lt_irrefl _ (lt_min inner ((lt_graph_lt_iff slanted p _).1 level).2)

/-! ### In exact arithmetic -/

variable [FloorRing K]

section

omit [IsStrictOrderedRing K]

private theorem frameCrossings_upright (upright : p.1 = q.1) (b : Bounds K) :
    frameCrossings (point p) (point q) (b.map finite) =
      .ok (point (p.1, b.yMin), point (p.1, b.yMax)) := by
  have same : ((point p).1 == (point q).1) = true := by simp [point, upright]
  rw [frameCrossings, if_pos same]
  rfl

private theorem frameCrossings_flat (slanted : p.1 ≠ q.1) (flat : p.2 = q.2) (b : Bounds K) :
    frameCrossings (point p) (point q) (b.map finite) =
      .ok (point (b.xMin, p.2), point (b.xMax, p.2)) := by
  have differ : ¬ ((point p).1 == (point q).1) = true := by simp [point, slanted]
  have same : ((point p).2 == (point q).2) = true := by simp [point, flat]
  rw [frameCrossings, if_neg differ, if_pos same]
  rfl

end

/-- How an end is found: at a side of the rectangle if the line is between the corners there,
otherwise at an edge. -/
theorem end_eq (nonzero : slope ≠ 0) (b : Bounds K) (p : Point K) (side : K) {edge : K}
    {edge' : Extended K} (same : edge' = finite edge) :
    (if (decide (finite b.yMin < finite (graph slope p side).2) &&
          decide (finite (graph slope p side).2 < finite b.yMax)) = true
      then pure (finite side, finite (graph slope p side).2)
      else (quotient (edge' - finite p.2) (finite slope)).map fun dx => (dx + finite p.1, edge')) =
      (.ok (point (if b.yMin < (graph slope p side).2 ∧ (graph slope p side).2 < b.yMax
        then graph slope p side
        else (crossing slope p edge, edge))) : Except ArithmeticFault (Point (Extended K))) := by
  subst same
  simp only [finite_lt, Bool.and_eq_true, decide_eq_true_eq, finite_sub, quotient_finite nonzero]
  split
  · rfl
  · rfl

private theorem frameCrossings_slanted (slanted : p.1 ≠ q.1) (nonzero : slope ≠ 0)
    (steps : q.2 - p.2 = slope * (q.1 - p.1)) (b : Bounds K) :
    frameCrossings (point p) (point q) (b.map finite) =
      .ok (point (leftEnd b slope p), point (rightEnd b slope q)) := by
  have run : q.1 - p.1 ≠ 0 := sub_ne_zero.2 slanted.symm
  have rises : p.2 ≠ q.2 :=
    fun flat => mul_ne_zero nonzero run (by rw [← steps, flat, sub_self])
  have differ : ¬ ((point p).1 == (point q).1) = true := by simp [point, slanted]
  have differ' : ¬ ((point p).2 == (point q).2) = true := by simp [point, rises]
  have divided : quotient ((point q).2 - (point p).2) ((point q).1 - (point p).1) =
      .ok (finite slope) := by
    simp only [point, finite_sub]
    rw [quotient_finite run, steps, mul_div_cancel_right₀ _ run]
  have sign : ((0.0 : Extended K) < finite slope) ↔ 0 < slope := by
    rw [scientific, finite_lt, zero_literal]
  have entry_eq : (if (0.0 : Extended K) < finite slope then finite b.yMin else finite b.yMax) =
      finite (entryEdge b slope) := by
    simp only [sign, entryEdge]
    split <;> rfl
  have exit_eq : (if (0.0 : Extended K) < finite slope then finite b.yMax else finite b.yMin) =
      finite (exitEdge b slope) := by
    simp only [sign, exitEdge]
    split <;> rfl
  rw [frameCrossings, if_neg differ, if_neg differ', divided]
  refine do_eq_ok.2 ⟨_, rfl, ?_⟩
  simp only [Bounds.map, point, finite_sub, finite_mul, finite_add]
  refine ite_do_eq_ok.2 ⟨_, end_eq nonzero b p b.xMin entry_eq, ?_⟩
  exact ite_do_eq_ok.2 ⟨_, end_eq nonzero b q b.xMax exit_eq, rfl⟩

/-- What is drawn of a line through two different points, whose line goes through the inside of the
rectangle. -/
theorem exists_clips (distinct : p ≠ q)
    (meets : ((line[K, p, q] : Set (Point K)) ∩ b.inside).Nonempty) :
    ∃ start stop, frameCrossings (point p) (point q) (b.map finite) =
      .ok (point start, point stop) ∧ Clips b line[K, p, q] start stop := by
  by_cases upright : p.1 = q.1
  · exact ⟨_, _, frameCrossings_upright upright b, clips_upright upright distinct meets⟩
  by_cases flat : p.2 = q.2
  · exact ⟨_, _, frameCrossings_flat upright flat b, clips_flat flat upright meets⟩
  have run : q.1 - p.1 ≠ 0 := sub_ne_zero.2 (Ne.symm upright)
  obtain ⟨slope, same⟩ : ∃ slope, slope = (q.2 - p.2) / (q.1 - p.1) := ⟨_, rfl⟩
  have steps : q.2 - p.2 = slope * (q.1 - p.1) := by rw [same, div_mul_cancel₀ _ run]
  have nonzero : slope ≠ 0 := same ▸ div_ne_zero (sub_ne_zero.2 (Ne.symm flat)) run
  refine ⟨_, _, frameCrossings_slanted upright nonzero steps b, ?_⟩
  -- the end that is reckoned from the second point is on the same line
  have right_eq : rightEnd b slope q = rightEnd b slope p := by
    unfold rightEnd
    rw [graph_eq steps, crossing_eq nonzero steps]
  rw [right_eq, line_eq_range_graph upright steps]
  exact clips_slanted nonzero (line_eq_range_graph upright steps ▸ meets)

/-- A line through two different points goes through the inside of a rectangle. What is drawn of it
is all of it that is in the rectangle, and ends at the edges. -/
theorem frameCrossings_clips (distinct : p ≠ q)
    (meets : ((line[K, p, q] : Set (Point K)) ∩ b.inside).Nonempty) :
    ∃ start stop, frameCrossings (point p) (point q) (b.map finite) =
      .ok (point start, point stop) ∧ segment K start stop =
        (line[K, p, q] : Set (Point K)) ∩ b.region ∧
      start ∈ b.region \ b.inside ∧ stop ∈ b.region \ b.inside := by
  obtain ⟨start, stop, crossed, clips⟩ := exists_clips distinct meets
  have left : start ∈ (line[K, p, q] : Set (Point K)) ∩ b.region :=
    clips.stroke ▸ left_mem_segment K start stop
  have right : stop ∈ (line[K, p, q] : Set (Point K)) ∩ b.region :=
    clips.stroke ▸ right_mem_segment K start stop
  exact ⟨start, stop, crossed, clips.stroke, ⟨left.2, clips.start_outside⟩,
    ⟨right.2, clips.stop_outside⟩⟩

/-- A rising line through two points outside, which comes in at the left side and goes out at the
top. -/
theorem frameCrossings_clips_rising :
    let b : Bounds ℚ := ⟨-3, 5, -2, 4⟩
    let p : Point ℚ := (-10, -9)
    let q : Point ℚ := (10, 12)
    p ≠ q ∧ ((line[ℚ, p, q] : Set (Point ℚ)) ∩ b.inside).Nonempty ∧
      ∃ start stop,
        frameCrossings (point p) (point q) (b.map finite) = .ok (point start, point stop) ∧
        segment ℚ start stop = (line[ℚ, p, q] : Set (Point ℚ)) ∩ b.region := by
  intro b p q
  have distinct : p ≠ q := by decide +kernel
  have meets : ((line[ℚ, p, q] : Set (Point ℚ)) ∩ b.inside).Nonempty := by
    refine ⟨(0, 3 / 2), mem_line_iff.2 ⟨1 / 2, by norm_num [p, q], by norm_num [p, q]⟩, ?_⟩
    norm_num [Bounds.inside, b]
  obtain ⟨start, stop, crossed, stroke, -, -⟩ := frameCrossings_clips distinct meets
  exact ⟨distinct, meets, start, stop, crossed, stroke⟩

end CurveBoard
