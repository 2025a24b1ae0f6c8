import CurveBoard.Proofs.FloatOrder
import CurveBoard.Sampling.Walk
import Mathlib.Data.List.TakeWhile

/-!
# Where a curve is drawn

A sample is accepted if it is inside the limits and no asymptote. The walk along a curve cuts the
samples into runs of accepted ones. Of every run it draws the samples that it keeps, in front of the
point that stands for an infinite ordinate right after the run, or of the last sample if the walk
ends there.
-/
namespace CurveBoard

open Scalar

variable {α : Type} [Scalar α]

/-- Whether a curve can go through a sample. -/
def Sample.isDrawn (settings : Settings α) (limits : Limits α) (s : Sample α) : Bool :=
  !s.isAsymptote settings && s.isAccepted limits

/-- Whether the sample that is so many places behind a break is kept. -/
def Sample.isKept (settings : Settings α) (place : Nat) (s : Sample α) : Bool :=
  place % settings.stride == 0 || s.isSteep settings

def Sample.point (s : Sample α) : Point α := (s.x, s.y)

/-- Consecutive samples, and the one right after them unless they are the last. -/
structure Run (α : Type) where
  samples : List (Sample α)
  next : Option (Sample α)

/-- The longest runs of samples that can be drawn, up to the one that the walk ends with. Where two
samples that cannot be drawn stand side by side, there is an empty run between them. -/
def runs (settings : Settings α) (limits : Limits α) (samples : List (Sample α)) :
    List (Run α) :=
  match _h : samples.dropWhile (Sample.isDrawn settings limits) with
  | [] => [⟨samples, none⟩]
  | s :: rest =>
    ⟨samples.takeWhile (Sample.isDrawn settings limits), some s⟩ :: runs settings limits rest
termination_by samples.length
decreasing_by
  have shorter := (List.dropWhile_suffix (l := samples) (Sample.isDrawn settings limits)).length_le
  rw [_h, List.length_cons] at shorter
  exact shorter

section

variable {settings : Settings α} {limits : Limits α} {samples rest : List (Sample α)}
  {s : Sample α}

theorem runs_of_reaches (reaches : samples.dropWhile (Sample.isDrawn settings limits) = []) :
    runs settings limits samples = [⟨samples, none⟩] := by
  rw [runs]
  split
  · rfl
  next breaks => rw [reaches] at breaks; cases breaks

theorem runs_of_breaks (breaks : samples.dropWhile (Sample.isDrawn settings limits) = s :: rest) :
    runs settings limits samples =
      ⟨samples.takeWhile (Sample.isDrawn settings limits), some s⟩ ::
        runs settings limits rest := by
  rw [runs]
  split
  next reaches => rw [breaks] at reaches; cases reaches
  next breaks' => rw [breaks] at breaks'; cases breaks'; rfl

/-- Where samples break off, and what comes before. -/
theorem split_of_breaks (breaks : samples.dropWhile (Sample.isDrawn settings limits) = s :: rest) :
    samples = samples.takeWhile (Sample.isDrawn settings limits) ++ s :: rest ∧
      (∀ s ∈ samples.takeWhile (Sample.isDrawn settings limits),
        s.isDrawn settings limits = true) ∧
      s.isDrawn settings limits = false := by
  -- the part before the break is all that passes the test, and the break is the first that does not
  refine ⟨?_, fun s member => List.mem_takeWhile_imp member, ?_⟩
  · rw [← breaks, List.takeWhile_append_dropWhile]
  · have head := List.head?_dropWhile_not (Sample.isDrawn settings limits) samples
    rw [breaks] at head
    simpa using head

end

namespace Run

/-- The samples of a run that are kept. -/
def kept (settings : Settings α) (samples : List (Sample α)) : List (Point α) :=
  samples.zipIdx.filterMap fun (s, place) => if s.isKept settings place then some s.point else none

/-- The last sample of a run, if it is not kept. -/
def unkept (settings : Settings α) (samples : List (Sample α)) : Option (Point α) :=
  samples.getLast?.bind fun s =>
    if s.isKept settings (samples.length - 1) then none else some s.point

/-- All that is drawn of a run. -/
def points (settings : Settings α) (limits : Limits α) (run : Run α) : List (Point α) :=
  kept settings run.samples ++
    match run.next with
    | some s => (s.clamped? settings limits).toList
    | none => (unkept settings run.samples).toList

variable {settings : Settings α} {samples : List (Sample α)}

theorem kept_append (s : Sample α) :
    kept settings (samples ++ [s]) =
      kept settings samples ++ if s.isKept settings samples.length then [s.point] else [] := by
  rw [kept, List.zipIdx_append, List.filterMap_append]
  simp only [kept, List.zipIdx_singleton, List.filterMap_cons, List.filterMap_nil, Nat.zero_add]
  split <;> simp_all

theorem unkept_append (s : Sample α) :
    unkept settings (samples ++ [s]) =
      if s.isKept settings samples.length then none else some s.point := by
  simp [unkept]

/-- The first sample after a break is kept, whatever the stride. -/
theorem kept_ne_nil (s : Sample α) : kept settings (s :: samples) ≠ [] := by
  simp [kept, Sample.isKept]

end Run

private theorem Option.reverse_toList {β : Type} (o : Option β) :
    o.toList.reverse = o.toList := by
  cases o <;> rfl

namespace Walk

variable {settings : Settings α} {limits : Limits α} {w : Walk α} {samples : List (Sample α)}
  {finished : List (Polyline α)} {s : Sample α}

/-- What the walk knows in the middle of a run: the finished polylines, and what is kept of the
run. -/
structure During (settings : Settings α) (finished : List (Polyline α))
    (samples : List (Sample α)) (w : Walk α) : Prop where
  accepted_eq : w.accepted = samples.length
  finished_eq : w.trace.finished = finished
  current_eq : w.trace.current = (Run.kept settings samples).reverse
  heldBack_eq : w.trace.heldBack = Run.unkept settings samples

theorem During.start : During settings [] [] (start : Walk α) := ⟨rfl, rfl, rfl, rfl⟩

/-- A sample that is drawn makes the run longer by one. -/
theorem During.step_drawn (during : During settings finished samples w)
    (drawn : s.isDrawn settings limits = true) (finite : s.clamped? settings limits = none) :
    During settings finished (samples ++ [s]) (step settings limits w s) := by
  simp only [Sample.isDrawn, Bool.and_eq_true, Bool.not_eq_true'] at drawn
  have stays : (s.isAsymptote settings || !s.isAccepted limits) = false := by simp [drawn]
  have same : (w.accepted % settings.stride == 0 || s.isSteep settings) =
      s.isKept settings samples.length := by rw [Sample.isKept, during.accepted_eq]
  unfold step
  simp only [finite, stays, same, Bool.false_eq_true, if_false]
  -- kept or held back; in both cases the last sample that was held back is given up
  split
  next kept =>
    constructor
    · simp [during.accepted_eq]
    · exact during.finished_eq
    · simp [Trace.push, Run.kept_append, kept, during.current_eq, Sample.point]
    · simp [Trace.push, Run.unkept_append, kept]
  next kept =>
    constructor
    · simp [during.accepted_eq]
    · exact during.finished_eq
    · simp [Trace.holdBack, Run.kept_append, kept, during.current_eq]
    · simp [Trace.holdBack, Run.unkept_append, kept, Sample.point]

/-- A sample that is not drawn ends the run, with the point that stands for it if there is one. -/
theorem During.step_break (during : During settings finished samples w)
    (broken : s.isDrawn settings limits = false) :
    During settings
      ((Polyline.ofPoints? (Run.points settings limits ⟨samples, some s⟩)).toList ++ finished)
      [] (step settings limits w s) := by
  have stops : (s.isAsymptote settings || !s.isAccepted limits) = true := by
    cases asymptote : s.isAsymptote settings <;> simp_all [Sample.isDrawn]
  -- the point for an infinite ordinate is pushed before the walk looks whether the run ends
  unfold step
  simp only [stops, if_true]
  refine ⟨rfl, ?_, rfl, rfl⟩
  simp only [Trace.cut, Run.points]
  cases s.clamped? settings limits with
  | none => simp [during.current_eq, during.finished_eq]
  | some p => simp [Trace.push, during.current_eq, during.finished_eq]

/-- If the walk ends here, the run is drawn to its last sample. -/
theorem During.polylines (limits : Limits α) (during : During settings finished samples w) :
    w.trace.polylines =
      finished.reverse ++
        (Polyline.ofPoints? (Run.points settings limits ⟨samples, none⟩)).toList := by
  have points_eq : (Run.points settings limits ⟨samples, none⟩) =
      w.trace.current.reverse ++ w.trace.heldBack.toList := by
    rw [during.current_eq, during.heldBack_eq, List.reverse_reverse, Run.points]
  rw [points_eq, Trace.polylines]
  cases held : w.trace.heldBack with
  | none => simp [Trace.cut, during.finished_eq, Option.reverse_toList]
  | some p =>
    -- what is held back comes after the first sample of the run, which is kept
    have nonempty : w.trace.current.isEmpty = false := by
      cases samples with
      | nil =>
        rw [during.heldBack_eq] at held
        cases held
      | cons first others =>
        rw [during.current_eq, List.isEmpty_reverse, List.isEmpty_eq_false_iff]
        exact Run.kept_ne_nil first
    simp [nonempty, Trace.cut, Trace.push, during.finished_eq, Option.reverse_toList]

/-- Samples that are all drawn make the run longer. -/
theorem During.run (during : During settings finished samples w) {more : List (Sample α)}
    (drawn : ∀ s ∈ more, s.isDrawn settings limits = true)
    (finite : ∀ s ∈ more, s.clamped? settings limits = none) :
    During settings finished (samples ++ more) (more.foldl (step settings limits) w) := by
  induction more generalizing samples w with
  | nil => simpa using during
  | cons s rest ih =>
    obtain ⟨drawn_head, drawn⟩ := List.forall_mem_cons.1 drawn
    obtain ⟨finite_head, finite⟩ := List.forall_mem_cons.1 finite
    rw [List.foldl_cons, List.append_cons]
    exact ih (during.step_drawn drawn_head finite_head) drawn finite

/-- From a break on, the walk draws what there is to draw of every run. -/
theorem During.runs (finite : ∀ s : Sample α, s.isDrawn settings limits = true →
      s.clamped? settings limits = none) (during : During settings finished [] w) :
    (samples.foldl (step settings limits) w).trace.polylines =
      finished.reverse ++ (CurveBoard.runs settings limits samples).filterMap fun run =>
        Polyline.ofPoints? (run.points settings limits) := by
  -- Along the runs: between two of them the walk is as at its start, but for the finished
  -- polylines.
  induction samples using CurveBoard.runs.induct settings limits generalizing finished w with
  | case1 samples reaches =>
    have drawn := List.dropWhile_eq_nil_iff.1 reaches
    have whole := during.run drawn fun s member => finite s (drawn s member)
    rw [List.nil_append] at whole
    rw [runs_of_reaches reaches, whole.polylines limits, List.filterMap_cons, List.filterMap_nil]
    cases Polyline.ofPoints? (Run.points settings limits ⟨samples, none⟩) <;> rfl
  | case2 samples s rest breaks ih =>
    obtain ⟨split, drawn, broken⟩ := split_of_breaks breaks
    have whole := during.run drawn fun s member => finite s (drawn s member)
    rw [runs_of_breaks breaks]
    conv => lhs; rw [split]
    rw [List.foldl_append, List.foldl_cons, ih (whole.step_break broken), List.filterMap_cons,
      List.nil_append]
    cases Polyline.ofPoints?
        (Run.points settings limits
          ⟨samples.takeWhile (Sample.isDrawn settings limits), some s⟩) with
    | none => rfl
    | some p => simp

end Walk

/-- A run is as long as it can be: it starts after a break or at the first sample, and ends at a
break or with the last sample. -/
theorem mem_runs {settings : Settings α} {limits : Limits α} {samples : List (Sample α)}
    {run : Run α} (member : run ∈ runs settings limits samples) :
    ∃ before after, samples = before ++ run.samples ++ after ∧ run.next = after.head? ∧
      (∀ s ∈ run.samples, s.isDrawn settings limits = true) ∧
      (∀ s ∈ before.getLast?, s.isDrawn settings limits = false) ∧
      ∀ s ∈ after.head?, s.isDrawn settings limits = false := by
  induction samples using runs.induct settings limits with
  | case1 samples reaches =>
    rw [runs_of_reaches reaches, List.mem_singleton] at member
    subst member
    exact ⟨[], [], by simp, rfl, List.dropWhile_eq_nil_iff.1 reaches, by simp, by simp⟩
  | case2 samples s rest breaks ih =>
    obtain ⟨split, drawn, broken⟩ := split_of_breaks breaks
    rw [runs_of_breaks breaks] at member
    rcases List.mem_cons.1 member with rfl | later
    · exact ⟨[], s :: rest, split, rfl, drawn, by simp, by simpa using broken⟩
    · obtain ⟨before, after, rest_eq, next_eq, drawn', broken_before, broken_after⟩ := ih later
      refine ⟨samples.takeWhile (Sample.isDrawn settings limits) ++ s :: before,
        after, ?_, next_eq, drawn', ?_, broken_after⟩
      · calc samples = samples.takeWhile (Sample.isDrawn settings limits) ++ s :: rest := split
          _ = _ := by rw [rest_eq]; simp only [List.append_assoc, List.cons_append]
      · -- what comes before a later run ends with the break, or with what is before it in the rest
        cases before with
        | nil => simpa using broken
        | cons t others => simpa using broken_before

/-- The points that are drawn of a run are samples of it, but for one that stands for the next
sample. -/
theorem Run.mem_points {settings : Settings α} {limits : Limits α} {run : Run α} {p : Point α}
    (member : p ∈ run.points settings limits) :
    (∃ s ∈ run.samples, p = s.point) ∨ ∃ s, run.next = some s ∧
      s.clamped? settings limits = some p := by
  obtain ⟨samples, next⟩ := run
  rcases List.mem_append.1 member with kept | ending
  · obtain ⟨⟨s, place⟩, found, point⟩ := List.mem_filterMap.1 kept
    dsimp only at point
    split at point
    · cases point
      exact .inl ⟨s, List.fst_mem_of_mem_zipIdx found, rfl⟩
    · cases point
  · cases next with
    | some s => exact .inr ⟨s, rfl, by simpa using ending⟩
    | none =>
      rw [Option.mem_toList, unkept] at ending
      obtain ⟨s, found, point⟩ := Option.bind_eq_some_iff.1 ending
      split at point
      · cases point
      · cases point
        exact .inl ⟨s, List.mem_of_getLast? found, rfl⟩

/-- Of doubles, no infinite one is inside any limits. -/
theorem clamped?_of_isDrawn {settings : Settings Float} {limits : Limits Float} {s : Sample Float}
    (drawn : s.isDrawn settings limits = true) : s.clamped? settings limits = none := by
  simp only [Sample.isDrawn, Sample.isAccepted, Limits.admitsY, Bool.and_eq_true,
    decide_eq_true_eq] at drawn
  obtain ⟨-, ⟨above, below⟩, -⟩ := drawn
  unfold Sample.clamped?
  split
  · rfl
  · split
    next bottom => exact absurd above (not_lt_of_beq_negInfinity bottom)
    · split
      next top => exact absurd below (not_lt_of_beq_infinity top)
      · rfl

/-- The walk draws the runs of samples that it can draw, each by itself and in their order, and
leaves out those that give fewer than two points. So no polyline goes on past a break. -/
theorem walk_eq_runs (settings : Settings Float) (limits : Limits Float)
    (samples : List (Sample Float)) :
    walk settings limits samples =
        (runs settings limits samples).filterMap (fun run =>
          Polyline.ofPoints? (run.points settings limits)) ∧
      ∀ polyline ∈ walk settings limits samples, ∃ before run after,
        samples = before ++ run ++ after ∧ (∀ s ∈ run, s.isDrawn settings limits = true) ∧
        ∀ p ∈ polyline.points, (∃ s ∈ run, p = s.point) ∨
          ∃ s, after.head? = some s ∧ s.clamped? settings limits = some p := by
  have drawn : walk settings limits samples =
      (runs settings limits samples).filterMap (fun run =>
        Polyline.ofPoints? (run.points settings limits)) :=
    Walk.During.runs (fun _ => clamped?_of_isDrawn) Walk.During.start
  -- every polyline is made of the points of one run
  refine ⟨drawn, fun polyline member => ?_⟩
  rw [drawn] at member
  obtain ⟨run, found, made⟩ := List.mem_filterMap.1 member
  obtain ⟨before, after, split, next_eq, all, -, -⟩ := mem_runs found
  refine ⟨before, run.samples, after, split, all, fun p inside => ?_⟩
  rw [← next_eq]
  refine Run.mem_points ?_
  unfold Polyline.ofPoints? at made
  split at made
  · cases made
    exact inside
  · cases made

end CurveBoard
