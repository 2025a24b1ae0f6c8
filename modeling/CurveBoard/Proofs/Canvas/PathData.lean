import CurveBoard.Canvas.Image
import CurveBoard.Proofs.Written

/-!
# Path data read back

Path data are words with spaces between them. A word is a point, the move that starts a polyline, or
the return to its start; so the polylines lie between the moves. Numbers are written without spaces
and commas, so that splitting finds the words and the numbers as they have been written.

A number has six significant digits, and what is read is what they leave of every coordinate. Of
coordinates that are rounded to hundredths nothing is lost up to ten thousand. Beyond that, those
are lost that need more digits.
-/
namespace CurveBoard

/-! ### Reading -/

/-- A point has two coordinates with a comma between them. -/
def readPathPoint? (word : List Char) : Option (Point Float) :=
  match word.splitOn ',' with
  | [x, y] => (readFloat? x).bind fun x => (readFloat? y).map fun y => (x, y)
  | _ => none

/-- The points of a polyline, and whether it returns to its start behind them. -/
def readPolyline? (words : List (List Char)) : Option (List (Point Float) × Bool) :=
  if words.getLast? = some ['Z'] then (words.dropLast.mapM readPathPoint?).map (·, true)
  else (words.mapM readPathPoint?).map (·, false)

/-- The polylines of path data, each of which starts with a move; an empty text has none. -/
def readPathData? (text : String) : Option (List (List (Point Float) × Bool)) :=
  match (text.toList.splitOn ' ').splitOn ['M'] with
  | [[[]]] => some []
  | [] :: polylines => polylines.mapM readPolyline?
  | _ => none

/-! ### Words -/

section Words

variable {α β : Type}

private theorem mapM_map_eq_some {γ : Type} {f : α → β} {g : β → Option γ} {h : α → γ}
    {items : List α} (each : ∀ item ∈ items, g (f item) = some (h item)) :
    (items.map f).mapM g = some (items.map h) := by
  induction items with
  | nil => rfl
  | cons first others ih =>
    rw [List.forall_mem_cons] at each
    rw [List.map_cons, List.mapM_cons, each.1, ih each.2]
    rfl

private theorem intercalate_append (separator : List α) {left right : List (List α)}
    (left_some : left ≠ []) (right_some : right ≠ []) :
    separator.intercalate (left ++ right) = separator.intercalate left ++ separator ++
      separator.intercalate right := by
  induction left with
  | nil => exact absurd rfl left_some
  | cons first others ih =>
    cases others with
    | nil => rw [List.singleton_append, List.intercalate_cons_of_ne_nil right_some,
      List.intercalate_singleton]
    | cons second others =>
      rw [List.cons_append, List.intercalate_cons_of_ne_nil (by simp), ih (List.cons_ne_nil _ _),
        List.intercalate_cons_of_ne_nil (List.cons_ne_nil _ _)]
      simp only [List.append_assoc]

/-- What stands between separators may itself be put together with them. -/
theorem intercalate_map_intercalate (separator : List α) {groups : List (List (List α))}
    (full : ∀ group ∈ groups, group ≠ []) :
    separator.intercalate (groups.map separator.intercalate) =
      separator.intercalate groups.flatten := by
  induction groups with
  | nil => rfl
  | cons first others ih =>
    rw [List.forall_mem_cons] at full
    cases others with
    | nil => rw [List.map_singleton, List.intercalate_singleton, List.flatten_singleton]
    | cons second others =>
      have some : (second :: others).flatten ≠ [] := by
        rw [List.flatten_cons]
        exact List.append_ne_nil_of_left_ne_nil (full.2 second List.mem_cons_self) _
      rw [List.map_cons, List.intercalate_cons_of_ne_nil (by simp), ih full.2,
        ← intercalate_append separator full.1 some, ← List.flatten_cons]

/-- A separator before each of the parts. -/
theorem intercalate_nil_cons (separator : α) {parts : List (List α)} (some : parts ≠ []) :
    [separator].intercalate ([] :: parts) = (parts.map (separator :: ·)).flatten := by
  induction parts with
  | nil => exact absurd rfl some
  | cons first others ih =>
    rw [List.intercalate_cons_of_ne_nil some, List.map_cons, List.flatten_cons]
    cases others with
    | nil => simp
    | cons second others =>
      rw [← ih (List.cons_ne_nil _ _), List.intercalate_cons_of_ne_nil (List.cons_ne_nil _ _),
        List.intercalate_cons_of_ne_nil (List.cons_ne_nil _ _)]
      simp only [List.nil_append, List.cons_append, List.append_assoc]

end Words

/-- A point as it is written. -/
def pointWord (point : Point String) : List Char := point.1.toList ++ ',' :: point.2.toList

/-- The words of a polyline behind its move. -/
def polylineWords (closed : Bool) (path : List (Point String)) : List (List Char) :=
  path.map pointWord ++ if closed then [['Z']] else []

def polylineText (closed : Bool) (path : List (Point String)) : String :=
  "M " ++ " ".intercalate (path.map fun (x, y) => x ++ "," ++ y) ++ (if closed then " Z" else "")

section Written

variable {paths : List (List (Point String))} {path : List (Point String)} {closed : Bool}

private theorem writtenPathData_eq (full : ∀ path ∈ paths, path ≠ []) :
    writtenPathData paths closed = " ".intercalate (paths.map (polylineText closed)) := by
  have all : paths.filter (!·.isEmpty) = paths := by
    rw [List.filter_eq_self]
    intro path member
    simpa using full path member
  unfold writtenPathData
  rw [all]
  rfl

private theorem toList_polylineText (full : path ≠ []) :
    (polylineText closed path).toList = [' '].intercalate (['M'] :: polylineWords closed path) := by
  have words : (" ".intercalate (path.map fun (x, y) => x ++ "," ++ y)).toList =
      [' '].intercalate (path.map pointWord) := by
    rw [String.toList_intercalate, List.map_map]
    refine congrArg _ (List.map_congr_left fun point _ => ?_)
    simp [pointWord]
  have some : path.map pointWord ≠ [] := by rwa [Ne, List.map_eq_nil_iff]
  unfold polylineText polylineWords
  rw [String.toList_append, String.toList_append, words]
  cases closed with
  | false =>
    rw [List.intercalate_cons_of_ne_nil (by simp [full])]
    simp
  | true =>
    rw [List.intercalate_cons_of_ne_nil (by simp), if_pos rfl, if_pos rfl,
      intercalate_append _ some (List.cons_ne_nil _ _), List.intercalate_singleton]
    simp

/-- Path data are their words with spaces between them, and a move before each polyline. -/
theorem toList_writtenPathData (closed : Bool) (full : ∀ path ∈ paths, path ≠ [])
    (some : paths ≠ []) :
    (writtenPathData paths closed).toList =
      [' '].intercalate ([['M']].intercalate ([] :: paths.map (polylineWords closed))) := by
  rw [writtenPathData_eq full, String.toList_intercalate, List.map_map]
  have words : paths.map (String.toList ∘ polylineText closed) =
      (paths.map fun path => ['M'] :: polylineWords closed path).map [' '].intercalate := by
    rw [List.map_map]
    exact List.map_congr_left fun path member => toList_polylineText (full path member)
  have moved : ∀ group ∈ paths.map fun path => ['M'] :: polylineWords closed path,
      group ≠ [] := by
    rw [List.forall_mem_map]
    exact fun path _ => List.cons_ne_nil _ _
  have parts : paths.map (polylineWords closed) ≠ [] := by rwa [Ne, List.map_eq_nil_iff]
  have groups : (paths.map (polylineWords closed)).map (['M'] :: ·) =
      paths.map fun path => ['M'] :: polylineWords closed path := List.map_map
  rw [words, intercalate_nil_cons _ parts, groups]
  exact intercalate_map_intercalate [' '] moved

end Written

/-! ### Numbers in words -/

section Numbers

variable {x : Float} {point : Point Float} {path : List (Point Float)}
  {paths : List (List (Point Float))}
  {closed : Bool} {word : List Char}

/-- A point with finite coordinates. -/
def IsFinitePoint (point : Point Float) : Prop :=
  point.1.isFinite = true ∧ point.2.isFinite = true

def writtenPoint (point : Point Float) : Point String := point.map pathNumber pathNumber

/-- What six significant digits leave of a point. -/
def keptPoint (point : Point Float) : Point Float :=
  point.map (significantFloat 6) (significantFloat 6)

private theorem exists_parts (finite : x.isFinite = true) : ∃ b, Binary.ofFloat? x = some b := by
  rw [Binary.isFinite_eq_isSome] at finite
  exact Option.isSome_iff_exists.1 finite

private theorem isWritten_pathNumber (finite : x.isFinite = true) :
    ∀ c ∈ (pathNumber x).toList, isWritten c = true := by
  obtain ⟨b, found⟩ := exists_parts finite
  exact isWritten_generalText found

private theorem readFloat?_pathNumber (finite : x.isFinite = true) :
    readFloat? (pathNumber x).toList = some (significantFloat 6 x) := by
  obtain ⟨b, found⟩ := exists_parts finite
  exact readFloat?_generalText found

/-- A character that numbers are not written with is in the word of a point only if it is the
comma. -/
theorem not_mem_pointWord (finite : IsFinitePoint point) {c : Char}
    (unwritten : isWritten c = false) (other : c ≠ ',') :
    c ∉ pointWord (writtenPoint point) := by
  intro member
  rcases List.mem_append.1 member with first | rest
  · exact Bool.false_ne_true (unwritten.symm.trans (isWritten_pathNumber finite.1 c first))
  · rcases List.mem_cons.1 rest with comma | second
    · exact other comma
    · exact Bool.false_ne_true (unwritten.symm.trans (isWritten_pathNumber finite.2 c second))

private theorem pointWord_ne (point : Point String) (c : Char) (other : c ≠ ',') :
    pointWord point ≠ [c] := by
  intro same
  have member : ',' ∈ pointWord point := List.mem_append_right _ List.mem_cons_self
  rw [same, List.mem_singleton] at member
  exact other member.symm

private theorem readPathPoint?_pointWord (finite : IsFinitePoint point) :
    readPathPoint? (pointWord (writtenPoint point)) = some (keptPoint point) := by
  have noComma {x : Float} (finite : x.isFinite = true) : ',' ∉ (pathNumber x).toList :=
    fun member => Bool.false_ne_true (isWritten_pathNumber finite ',' member)
  have word : pointWord (writtenPoint point) =
      [','].intercalate [(pathNumber point.1).toList, (pathNumber point.2).toList] := by
    simp [pointWord, writtenPoint]
  have parts : (pointWord (writtenPoint point)).splitOn ',' =
      [(pathNumber point.1).toList, (pathNumber point.2).toList] := by
    rw [word]
    refine List.splitOn_intercalate ',' ?_ (List.cons_ne_nil _ _)
    simpa using ⟨noComma finite.1, noComma finite.2⟩
  unfold readPathPoint?
  rw [parts]
  dsimp only
  rw [readFloat?_pathNumber finite.1, readFloat?_pathNumber finite.2]
  rfl

private theorem readPolyline?_polylineWords (finite : ∀ point ∈ path, IsFinitePoint point) :
    readPolyline? (polylineWords closed (path.map writtenPoint)) =
      some (path.map keptPoint, closed) := by
  have points : (path.map fun point => pointWord (writtenPoint point)).mapM readPathPoint? =
      some (path.map keptPoint) :=
    mapM_map_eq_some fun point member => readPathPoint?_pointWord (finite point member)
  unfold readPolyline? polylineWords
  rw [List.map_map]
  change (path.map (pointWord ∘ writtenPoint)).mapM readPathPoint? = _ at points
  cases closed with
  | true => rw [if_pos rfl, if_pos (List.getLast?_concat), List.dropLast_concat, points]; rfl
  | false =>
    have open_end : ¬ (path.map (pointWord ∘ writtenPoint)).getLast? = some ['Z'] := by
      intro last
      obtain ⟨point, -, same⟩ := List.mem_map.1 (List.mem_of_getLast? last)
      exact pointWord_ne _ 'Z' (by decide) same
    rw [if_neg Bool.false_ne_true, List.append_nil, if_neg open_end, points]
    rfl

/-- The words of polylines behind their moves. -/
def pathWords (closed : Bool) (paths : List (List (Point Float))) : List (List (List Char)) :=
  paths.map fun path => polylineWords closed (path.map writtenPoint)

private theorem toList_pathData (full : ∀ path ∈ paths, path ≠ []) (some : paths ≠ []) :
    (pathData paths closed).toList = [' '].intercalate
      ([['M']].intercalate ([] :: pathWords closed paths)) := by
  have written_full : ∀ path ∈ paths.map (·.map writtenPoint), path ≠ [] := by
    rw [List.forall_mem_map]
    intro path member
    rw [Ne, List.map_eq_nil_iff]
    exact full path member
  have words := toList_writtenPathData closed written_full (by rwa [Ne, List.map_eq_nil_iff])
  rw [List.map_map] at words
  exact words

/-- Behind the moves every word is a finite point or a return. -/
theorem mem_pathWords (finite : ∀ path ∈ paths, ∀ point ∈ path, IsFinitePoint point)
    {words : List (List Char)} (words_member : words ∈ pathWords closed paths)
    (member : word ∈ words) :
    (∃ point, IsFinitePoint point ∧ word = pointWord (writtenPoint point)) ∨
    word = ['Z'] := by
  obtain ⟨path, path_member, rfl⟩ := List.mem_map.1 words_member
  rcases List.mem_append.1 member with points | close
  · rw [List.map_map] at points
    obtain ⟨point, point_member, rfl⟩ := List.mem_map.1 points
    exact .inl ⟨point, finite path path_member point point_member, rfl⟩
  · split at close
    · exact .inr (List.mem_singleton.1 close)
    · cases close

/-- Splitting at the spaces finds the words. -/
theorem splitOn_space (full : ∀ path ∈ paths, path ≠ []) (some : paths ≠ [])
    (finite : ∀ path ∈ paths, ∀ point ∈ path, IsFinitePoint point) :
    (pathData paths closed).toList.splitOn ' ' = [['M']].intercalate
      ([] :: pathWords closed paths) := by
  have words_some : pathWords closed paths ≠ [] := by rwa [pathWords, Ne, List.map_eq_nil_iff]
  rw [toList_pathData full some]
  refine List.splitOn_intercalate ' ' (fun word member => ?_) ?_
  · rw [intercalate_nil_cons _ words_some, List.mem_flatten] at member
    obtain ⟨_, moved, member⟩ := member
    obtain ⟨words, words_member, rfl⟩ := List.mem_map.1 moved
    rcases List.mem_cons.1 member with rfl | member
    · decide
    · rcases mem_pathWords finite words_member member with ⟨point, finite_point, rfl⟩ | rfl
      · exact not_mem_pointWord finite_point (by decide) (by decide)
      · decide
  · rw [List.intercalate_cons_of_ne_nil words_some]
    exact List.append_ne_nil_of_left_ne_nil (List.cons_ne_nil _ _) _

/-- Splitting at the moves finds the polylines. -/
theorem splitOn_move (finite : ∀ path ∈ paths, ∀ point ∈ path, IsFinitePoint point) :
    ([['M']].intercalate ([] :: pathWords closed paths)).splitOn ['M'] = [] ::
      pathWords closed paths := by
  refine List.splitOn_intercalate ['M'] ?_ (List.cons_ne_nil _ _)
  refine List.forall_mem_cons.2 ⟨List.not_mem_nil, fun words words_member move => ?_⟩
  rcases mem_pathWords finite words_member move with ⟨point, -, same⟩ | same
  · exact pointWord_ne _ 'M' (by decide) same.symm
  · cases same

/-- Path data of finite points are read as what six significant digits leave of the points. -/
theorem readPathData?_eq (full : ∀ path ∈ paths, path ≠ [])
    (finite : ∀ path ∈ paths, ∀ point ∈ path, IsFinitePoint point) :
    readPathData? (pathData paths closed) =
      some (paths.map fun path => (path.map keptPoint, closed)) := by
  rcases eq_or_ne paths [] with rfl | some
  · cases closed <;> rfl
  · unfold readPathData?
    rw [splitOn_space full some finite, splitOn_move finite]
    exact mapM_map_eq_some fun path member => readPolyline?_polylineWords (finite path member)

end Numbers

/-! ### Rounded coordinates -/

/-- A finite coordinate that is rounded to hundredths. -/
def IsRoundedCoordinate (x : Float) : Prop := x.isFinite = true ∧ IsRounded x

/-- Whether a coordinate is finite and no farther from zero than a bound. -/
def IsAtMost (bound : ℚ) (x : Float) : Prop := ∃ b ∈ Binary.ofFloat? x, |b.toRat| ≤ bound

instance (x : Float) : Decidable (IsRoundedCoordinate x) :=
  inferInstanceAs (Decidable (x.isFinite = true ∧ IsRounded x))

instance (bound : ℚ) (x : Float) : Decidable (IsAtMost bound x) :=
  inferInstanceAs (Decidable (∃ b ∈ Binary.ofFloat? x, |b.toRat| ≤ bound))

section Rounded

variable {x : Float} {paths : List (List (Point Float))} {closed : Bool}

private theorem IsRoundedCoordinate.kept_iff (rounded : IsRoundedCoordinate x) :
    significantFloat 6 x = x ↔ IsShort 6 x := by
  obtain ⟨b, found⟩ := exists_parts rounded.1
  exact significantFloat_eq_iff_of_isRounded (by decide) (by decide) found rounded.2

private theorem IsRoundedCoordinate.isShort (rounded : IsRoundedCoordinate x)
    (near : IsAtMost 10000 x) :
    IsShort 6 x := by
  obtain ⟨b, found, small⟩ := near
  exact isShort_of_isRounded (by decide) (by decide) found rounded.2 (by linarith)

/-- A point is kept as it is if both its coordinates have few digits. -/
theorem keptPoint_eq_iff {point : Point Float} (first : IsRoundedCoordinate point.1)
    (second : IsRoundedCoordinate point.2) :
    keptPoint point = point ↔ IsShort 6 point.1 ∧ IsShort 6 point.2 := by
  rw [keptPoint, Prod.ext_iff, Prod.map_fst, Prod.map_snd, first.kept_iff, second.kept_iff]

/-- Polylines are the same if each of their points is. -/
theorem map_points_eq_iff (f : Point Float → Point Float) :
    (paths.map fun path => (path.map f, closed)) = paths.map (·, closed) ↔
      ∀ path ∈ paths, ∀ point ∈ path, f point = point := by
  have points (path : List (Point Float)) : path.map f = path ↔
      ∀ point ∈ path, f point = point := by
    nth_rewrite 2 [← List.map_id path]
    exact List.map_inj_left
  rw [List.map_inj_left]
  simp only [Prod.mk.injEq, and_true, points]

end Rounded

/-- Path data of rounded finite points are read as what six significant digits leave of the points.
So the polylines come back if and only if each coordinate is nearest to a decimal with six digits,
as it is up to ten thousand. -/
theorem readPathData?_pathData {paths : List (List (Point Float))} {closed : Bool}
    (full : ∀ path ∈ paths, path ≠ [])
    (rounded : ∀ path ∈ paths, ∀ point ∈ path, IsRoundedCoordinate point.1 ∧
      IsRoundedCoordinate point.2) :
    readPathData? (pathData paths closed) =
      some (paths.map fun path => (path.map keptPoint, closed)) ∧
    (readPathData? (pathData paths closed) = some (paths.map (·, closed)) ↔
      ∀ path ∈ paths, ∀ point ∈ path, IsShort 6 point.1 ∧ IsShort 6 point.2) ∧
    ((∀ path ∈ paths, ∀ point ∈ path, IsAtMost 10000 point.1 ∧ IsAtMost 10000 point.2) →
      readPathData? (pathData paths closed) = some (paths.map (·, closed))) := by
  have read : readPathData? (pathData paths closed) =
      some (paths.map fun path => (path.map keptPoint, closed)) :=
    readPathData?_eq full fun path member point inside =>
      ⟨(rounded path member point inside).1.1, (rounded path member point inside).2.1⟩
  have same_iff : readPathData? (pathData paths closed) = some (paths.map (·, closed)) ↔
      ∀ path ∈ paths, ∀ point ∈ path, IsShort 6 point.1 ∧ IsShort 6 point.2 := by
    rw [read, Option.some_inj, map_points_eq_iff]
    refine forall₂_congr fun path member => forall₂_congr fun point inside => ?_
    exact keptPoint_eq_iff (rounded path member point inside).1 (rounded path member point inside).2
  refine ⟨read, same_iff, fun near => same_iff.2 fun path member point inside => ?_⟩
  obtain ⟨first, second⟩ := rounded path member point inside
  exact ⟨first.isShort (near path member point inside).1,
    second.isShort (near path member point inside).2⟩

/-- A triangle comes back. -/
theorem readPathData?_pathData_triangle :
    readPathData? (pathData [[(0.5, -20.25), (3.0, 0.0), (9999.99, 1.0)]] true) =
      some [([(0.5, -20.25), (3.0, 0.0), (9999.99, 1.0)], true)] :=
  (readPathData?_pathData (by decide) (by decide +kernel)).2.2 (by decide +kernel)

/-- A coordinate with seven digits does not come back. -/
theorem not_pathData_lossless :
    ¬ ∀ (paths : List (List (Point Float))) (closed : Bool),
      (∀ path ∈ paths, path ≠ []) →
      (∀ path ∈ paths, ∀ point ∈ path,
        IsRoundedCoordinate point.1 ∧ IsRoundedCoordinate point.2) →
      readPathData? (pathData paths closed) = some (paths.map (·, closed)) := by
  intro lossless
  have back := lossless [[(12345.67, 0.0), (0.0, 0.0)]] false (by decide) (by decide +kernel)
  revert back
  decide +kernel

end CurveBoard
