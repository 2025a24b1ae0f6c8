import CurveBoard.Canvas.Figure
import Mathlib.Data.List.Chain
import Mathlib.Data.List.Forall2
import Mathlib.Data.List.ReduceOption

/-!
# Polylines between gaps

The polylines of a primitive's trace follow one another in two lists of coordinates, with a gap
before each but the first. Both lists come from one list of points with gaps, so one is as long as
the other and has its gaps in the same places. What lies between the gaps of that list are the
polylines, and as long as none of them is empty, a gap never stands at an end or beside another one.
-/
namespace CurveBoard

/-! ### Lists with gaps -/

section Gaps

variable {α β : Type} {path : List α} {paths : List (List α)} {left right : List (Option α)}

/-- Lists of any entries with a gap before each but the first. -/
def gapped (paths : List (List α)) : List (Option α) :=
  [none].intercalate (paths.map fun path => path.map some)

/-- What lies between the gaps of a list; in a list without any entries there is nothing. -/
def betweenGaps (entries : List (Option α)) : List (List α) :=
  if entries.isEmpty then [] else (entries.splitOnP Option.isNone).map List.reduceOption

/-- No gap is at an end of a list or beside another gap. -/
structure GapsApart (entries : List (Option α)) : Prop where
  first : entries.head? ≠ some none
  last : entries.getLast? ≠ some none
  single : entries.IsChain fun entry next => ¬ (entry = none ∧ next = none)

private theorem withGaps_eq (paths : List (List Float)) : withGaps paths = gapped paths := rfl

private theorem gapped_singleton (path : List α) : gapped [path] = path.map some :=
  List.intercalate_singleton

private theorem gapped_cons_cons (path next : List α) (rest : List (List α)) :
    gapped (path :: next :: rest) = path.map some ++ none :: gapped (next :: rest) := by
  rw [gapped, List.map_cons, List.map_cons, List.intercalate_cons_cons, List.append_assoc,
    List.singleton_append]
  rfl

private theorem gapped_ne_nil (some_path : paths ≠ []) (full : ∀ path ∈ paths, path ≠ []) :
    gapped paths ≠ [] := by
  cases paths with
  | nil => exact absurd rfl some_path
  | cons path rest =>
    cases rest with
    | nil =>
      rw [gapped_singleton, Ne, List.map_eq_nil_iff]
      exact full path List.mem_cons_self
    | cons next rest =>
      rw [gapped_cons_cons]
      exact List.append_ne_nil_of_right_ne_nil _ (List.cons_ne_nil _ _)

/-- Entries may be changed before or after the gaps come between them. -/
theorem map_gapped (f : α → β) (paths : List (List α)) :
    (gapped paths).map (Option.map f) = gapped (paths.map (·.map f)) := by
  have entries (path : List α) : (path.map some).map (Option.map f) = (path.map f).map some := by
    rw [List.map_map, List.map_map]
    rfl
  induction paths with
  | nil => rfl
  | cons path rest ih =>
    cases rest with
    | nil => rw [gapped_singleton, entries, List.map_singleton, gapped_singleton]
    | cons next rest =>
      rw [gapped_cons_cons, List.map_append, entries, List.map_cons, ih]
      exact (gapped_cons_cons (path.map f) (next.map f) (rest.map (·.map f))).symm

/-! ### What lies between the gaps -/

private theorem splitOnP_gapped (some_path : paths ≠ []) :
    (gapped paths).splitOnP Option.isNone = paths.map fun path => path.map some := by
  classical
  -- gaps are found without comparing entries, while the library's lemma is about splitting at a
  -- value
  have is_gap : Option.isNone = fun entry : Option α => entry == none := by
    funext entry
    cases entry <;> simp
  have no_gap : ∀ entries ∈ paths.map fun path => path.map some, none ∉ entries := by
    rw [List.forall_mem_map]
    exact fun path _ gap => by simp at gap
  rw [is_gap, ← List.splitOn_eq_splitOnP, gapped]
  exact List.splitOn_intercalate none no_gap (by rwa [Ne, List.map_eq_nil_iff])

/-- Between the gaps lie the lists that were put there, if none of them is empty. -/
theorem betweenGaps_gapped (full : ∀ path ∈ paths, path ≠ []) :
    betweenGaps (gapped paths) = paths := by
  have entries (path : List α) : (path.map some).reduceOption = path := by
    rw [List.reduceOption, List.filterMap_map]
    exact List.filterMap_some
  rcases eq_or_ne paths [] with rfl | some_path
  · rfl
  · have nonempty : ¬ (gapped paths).isEmpty = true := by
      rw [List.isEmpty_iff]
      exact gapped_ne_nil some_path full
    rw [betweenGaps, if_neg nonempty, splitOnP_gapped some_path, List.map_map]
    exact (List.map_congr_left fun path _ => entries path).trans (List.map_id _)

/-! ### Where the gaps are -/

private theorem gapsApart_map_some (path : List α) : GapsApart (path.map some) where
  first := by simp
  last := by simp
  single := by
    refine (List.pairwise_map.2 (List.pairwise_of_forall ?_)).isChain
    rintro _ _ ⟨gap, -⟩
    cases gap

/-- One more gap may come between two lists that are not empty. -/
theorem GapsApart.join (before : GapsApart left) (after : GapsApart right) (left_some : left ≠ [])
    (right_some : right ≠ []) : GapsApart (left ++ none :: right) where
  first := by
    rw [List.head?_append_of_ne_nil _ left_some]
    exact before.first
  last := by
    rw [List.getLast?_append_of_ne_nil _ (List.cons_ne_nil _ _),
      List.getLast?_cons_of_ne_nil right_some]
    exact after.last
  single := by
    -- the new gap has the last entry on the left before it and the first entry on the right behind
    -- it
    refine List.isChain_append.2 ⟨before.single, List.isChain_cons.2 ⟨?_, after.single⟩, ?_⟩
    · rintro entry start ⟨-, rfl⟩
      exact after.first start
    · rintro entry stop _ - ⟨rfl, -⟩
      exact before.last stop

/-- Between lists that are not empty the gaps are apart. -/
theorem gapsApart_gapped (full : ∀ path ∈ paths, path ≠ []) : GapsApart (gapped paths) := by
  induction paths with
  | nil => exact ⟨nofun, nofun, List.isChain_nil⟩
  | cons path rest ih =>
    cases rest with
    | nil =>
      rw [gapped_singleton]
      exact gapsApart_map_some path
    | cons next rest =>
      rw [List.forall_mem_cons] at full
      have path_some : path.map some ≠ [] := by
        rw [Ne, List.map_eq_nil_iff]
        exact full.1
      rw [gapped_cons_cons]
      exact (gapsApart_map_some path).join (ih full.2) path_some
        (gapped_ne_nil (List.cons_ne_nil _ _) full.2)

end Gaps

/-! ### Reading a trace -/

/-- The points of two lists of coordinates, with gaps where both of them have one. There are none if
one list is longer or has a gap where the other has a number. -/
def tracePoints? : Coordinates → Coordinates → Option (List (Option (Point Float)))
  | [], [] => some []
  | none :: xs, none :: ys => (tracePoints? xs ys).map (none :: ·)
  | some x :: xs, some y :: ys => (tracePoints? xs ys).map (some (x, y) :: ·)
  | _, _ => none

/-- The polylines that two lists of coordinates show. -/
def readPolylines? (trace : Coordinates × Coordinates) : Option (List (List (Point Float))) :=
  (tracePoints? trace.1 trace.2).map betweenGaps

private theorem tracePoints?_map (points : List (Option (Point Float))) :
    tracePoints? (points.map (Option.map Prod.fst)) (points.map (Option.map Prod.snd)) =
      some points := by
  induction points with
  | nil => rfl
  | cons point rest ih =>
    cases point with
    | none => rw [List.map_cons, List.map_cons, Option.map_none, Option.map_none, tracePoints?, ih,
      Option.map_some]
    | some point =>
      rw [List.map_cons, List.map_cons, Option.map_some, Option.map_some, tracePoints?, ih,
        Option.map_some]

/-! ### Primitives -/

/-- How the trace of a primitive shows one of its paths: a stroke as it is, and an outline with its
first point once more behind it. -/
inductive IsShownAs : PrimitiveKind → List (Point Float) → List (Point Float) → Prop
  | stroke (path : List (Point Float)) : IsShownAs .segmentPath path path
  | polygon (first : Point Float) (rest : List (Point Float)) :
      IsShownAs .polygon (first :: rest) (first :: rest ++ [first])
  | arrowhead (first : Point Float) (rest : List (Point Float)) :
      IsShownAs .arrowhead (first :: rest) (first :: rest ++ [first])

namespace Primitive

variable {p : Primitive Float}

/-- A primitive that is drawn along its paths, and not around its center. -/
def HasPaths (p : Primitive Float) : Prop :=
  p.kind = .segmentPath ∨ p.kind = .polygon ∨ p.kind = .arrowhead

/-- Both lists of coordinates come from the same points and gaps. -/
theorem coordinates_eq (p : Primitive Float) :
    p.coordinates =
      ((gapped p.tracePaths).map (Option.map Prod.fst),
        (gapped p.tracePaths).map (Option.map Prod.snd)) := by
  rw [coordinates, withGaps_eq, withGaps_eq, map_gapped, map_gapped]

/-- Whatever is drawn, abscissas and ordinates go together. -/
theorem coordinates_aligned (p : Primitive Float) :
    p.coordinates.1.length = p.coordinates.2.length ∧
      ∀ k : Nat, p.coordinates.1[k]? = some none ↔ p.coordinates.2[k]? = some none := by
  rw [coordinates_eq]
  refine ⟨by rw [List.length_map, List.length_map], fun k => ?_⟩
  rw [List.getElem?_map, List.getElem?_map]
  simp only [Option.map_eq_some_iff, Option.map_eq_none_iff]

/-- A trace has no empty polylines if the primitive has no empty paths. -/
theorem tracePaths_ne_nil (full : ∀ path ∈ p.paths, path ≠ []) :
    ∀ polyline ∈ p.tracePaths, polyline ≠ [] := by
  have outlines : ∀ polyline ∈ p.paths.map closedPath, polyline ≠ [] := by
    rw [List.forall_mem_map]
    exact fun path member => List.append_ne_nil_of_left_ne_nil (full path member) _
  unfold tracePaths
  cases p.kind with
  | segmentPath => exact full
  | polygon => exact outlines
  | arrowhead => exact outlines
  | circle => simp [outline]
  | ellipse => simp [outline]
  | rect => simp
  | text => simp

/-- What is read from a trace are the polylines that it has been made of. -/
theorem readPolylines?_coordinates (full : ∀ path ∈ p.paths, path ≠ []) :
    readPolylines? p.coordinates = some p.tracePaths := by
  rw [coordinates_eq, readPolylines?, tracePoints?_map, Option.map_some,
    betweenGaps_gapped (tracePaths_ne_nil full)]

private theorem gapsApart_coordinates (full : ∀ path ∈ p.paths, path ≠ []) :
    GapsApart p.coordinates.1 ∧ GapsApart p.coordinates.2 := by
  have one (f : Point Float → Float) : GapsApart (gapped (p.tracePaths.map (·.map f))) := by
    refine gapsApart_gapped (List.forall_mem_map.2 fun polyline member => ?_)
    rw [Ne, List.map_eq_nil_iff]
    exact tracePaths_ne_nil full polyline member
  exact ⟨one Prod.fst, one Prod.snd⟩

private theorem tracePaths_shown (paths_kind : p.HasPaths)
    (full : ∀ path ∈ p.paths, path ≠ []) :
    List.Forall₂ (IsShownAs p.kind) p.paths p.tracePaths := by
  have outlines {kind : PrimitiveKind}
      (shown : ∀ first rest, IsShownAs kind (first :: rest) (first :: rest ++ [first])) :
      List.Forall₂ (IsShownAs kind) p.paths (p.paths.map closedPath) := by
    rw [List.forall₂_map_right_iff, List.forall₂_same]
    intro path member
    obtain ⟨first, rest, rfl⟩ := List.exists_cons_of_ne_nil (full path member)
    exact shown first rest
  rcases paths_kind with stroke | polygon | arrowhead
  · rw [tracePaths, stroke]
    exact List.forall₂_same.2 fun path _ => .stroke path
  · rw [tracePaths, polygon]
    exact outlines .polygon
  · rw [tracePaths, arrowhead]
    exact outlines .arrowhead

/-- The trace of strokes, polygons or arrowheads keeps their paths apart: both lists of coordinates
have the same length and gaps in the same places, no gap is at an end or beside another one, and
what is read between the gaps are the paths in order, the strokes as they are and the outlines with
their first point behind them. -/
theorem coordinates_kept_apart (p : Primitive Float) (paths_kind : p.HasPaths)
    (full : ∀ path ∈ p.paths, path ≠ []) :
    p.coordinates.1.length = p.coordinates.2.length ∧
      (∀ k : Nat, p.coordinates.1[k]? = some none ↔ p.coordinates.2[k]? = some none) ∧
      (∃ polylines, readPolylines? p.coordinates = some polylines ∧
        List.Forall₂ (IsShownAs p.kind) p.paths polylines) ∧
      GapsApart p.coordinates.1 ∧ GapsApart p.coordinates.2 := by
  obtain ⟨same_length, same_gaps⟩ := coordinates_aligned p
  have read := readPolylines?_coordinates full
  have shown := tracePaths_shown paths_kind full
  exact ⟨same_length, same_gaps, ⟨p.tracePaths, read, shown⟩, gapsApart_coordinates full⟩

/-- A triangle and a line that is drawn as an outline, too. -/
def twoOutlines : Primitive Float :=
  { blank "p" .polygon with
      paths := [[(0.0, 0.0), (1.0, 0.0), (0.0, 1.0)], [(2.0, 2.0), (3.0, 2.0)]] }

theorem coordinates_kept_apart_outlines :
    twoOutlines.HasPaths ∧ (∀ path ∈ twoOutlines.paths, path ≠ []) ∧
      readPolylines? twoOutlines.coordinates =
        some [[(0.0, 0.0), (1.0, 0.0), (0.0, 1.0), (0.0, 0.0)], [(2.0, 2.0), (3.0, 2.0),
          (2.0, 2.0)]] := by
  have polygon : twoOutlines.HasPaths := .inr (.inl rfl)
  have full : ∀ path ∈ twoOutlines.paths, path ≠ [] := by decide
  obtain ⟨-, -, ⟨polylines, read, shown⟩, -⟩ :=
    coordinates_kept_apart twoOutlines polygon full
  refine ⟨polygon, full, read.trans ?_⟩
  cases shown with
  | cons triangle others =>
    cases triangle
    cases others with
    | cons line rest =>
      cases line
      cases rest
      rfl

end Primitive

end CurveBoard
