import CurveBoard.Proofs.Hundredths
import CurveBoard.Proofs.Shape.Parts

/-!
# Shapes in hundredths of a pixel

Whatever a shape is built from, the numbers of its primitives are rounded to hundredths: the points
of their paths, their centers, their radii and their sizes. Points get there through a rounding, and
the sizes that are fixed are whole.
-/
namespace CurveBoard

open Scalar

/-- A point with rounded coordinates. -/
def IsRoundedPoint (p : Point Float) : Prop := IsRounded p.1 ∧ IsRounded p.2

/-- A path through rounded points. -/
def IsRoundedPath (path : List (Point Float)) : Prop := ∀ q ∈ path, IsRoundedPoint q

/-- All numbers of a primitive are rounded. -/
structure Primitive.IsRounded (p : Primitive Float) : Prop where
  paths : ∀ path ∈ p.paths, IsRoundedPath path
  center : ∀ q, p.center = some q → IsRoundedPoint q
  radii : IsRoundedPoint p.radii
  size : IsRoundedPoint p.size

@[simp] theorem isRoundedPoint_roundedPoint (p : Point Float) : IsRoundedPoint (roundedPoint p) :=
  ⟨isRounded_hundredths p.1, isRounded_hundredths p.2⟩

@[simp] theorem isRoundedPoint_zero : IsRoundedPoint (0.0, 0.0) :=
  ⟨isRounded_zero, isRounded_zero⟩

/-- The radii of a disc. -/
theorem isRoundedPoint_discRadii : IsRoundedPoint (4.0, 4.0) := by
  have four : IsRounded 4.0 := by
    change roundToHundredths 4.0 = 4.0
    decide +kernel
  exact ⟨four, four⟩

@[simp] theorem isRoundedPath_nil : IsRoundedPath [] := List.forall_mem_nil _

@[simp] theorem isRoundedPath_cons {q : Point Float} {path : List (Point Float)} :
    IsRoundedPath (q :: path) ↔ IsRoundedPoint q ∧ IsRoundedPath path := List.forall_mem_cons

@[simp] theorem isRoundedPath_append {path path' : List (Point Float)} :
    IsRoundedPath (path ++ path') ↔ IsRoundedPath path ∧ IsRoundedPath path' :=
  List.forall_mem_append

@[simp] theorem isRoundedPath_map_roundedPoint {β : Type} (f : β → Point Float)
    (items : List β) :
    IsRoundedPath (items.map fun item => roundedPoint (f item)) := by
  intro q member
  obtain ⟨item, -, rfl⟩ := List.mem_map.1 member
  exact isRoundedPoint_roundedPoint _

section Shapes

variable {v : Viewport Float} {id : String} {primitives : List (Primitive Float)}
  {p : Primitive Float}

@[simp] theorem isRoundedPoint_device (q : Point Float) : IsRoundedPoint (device v q) :=
  isRoundedPoint_roundedPoint _

@[simp] theorem isRoundedPath_devicePath (points : List (Point Float)) :
    IsRoundedPath (devicePath v points) :=
  isRoundedPath_map_roundedPoint _ points

/-! ### One primitive -/

/-- A primitive with nothing but paths. -/
theorem Primitive.isRounded_of_paths {kind : PrimitiveKind} {paths : List (List (Point Float))}
    {filled : Bool} (rounded : ∀ path ∈ paths, IsRoundedPath path) :
    Primitive.IsRounded { Primitive.blank id kind with paths := paths, filled := filled } where
  paths := rounded
  center := nofun
  radii := isRoundedPoint_zero
  size := isRoundedPoint_zero

@[simp] theorem Primitive.isRounded_polylines {paths : List (List (Point Float))} :
    (Primitive.polylines id paths).IsRounded ↔ ∀ path ∈ paths, IsRoundedPath path :=
  ⟨IsRounded.paths, isRounded_of_paths⟩

/-- A primitive with a center, radii and a size. -/
theorem Primitive.isRounded_of_center {kind : PrimitiveKind} {center radii size : Point Float}
    {text anchor : String} {filled : Bool} (center_rounded : IsRoundedPoint center)
    (radii_rounded : IsRoundedPoint radii) (size_rounded : IsRoundedPoint size) :
    Primitive.IsRounded ⟨id, kind, [], some center, radii, size, text, anchor, filled⟩ where
  paths := List.forall_mem_nil _
  center _ same := Option.some.inj same ▸ center_rounded
  radii := radii_rounded
  size := size_rounded

private theorem Primitive.isRounded_disc {center : Point Float} (rounded : IsRoundedPoint center)
    (filled : Bool) :
    (Primitive.disc id center filled).IsRounded :=
  isRounded_of_center rounded isRoundedPoint_discRadii isRoundedPoint_zero

@[simp] theorem Primitive.isRounded_disc_device (q : Point Float) (filled : Bool) :
    (Primitive.disc id (device v q) filled).IsRounded :=
  isRounded_disc (isRoundedPoint_device q) filled

private theorem isRoundedPath_arrowTriangleAlong {tip direction : Point Float}
    {triangle : List (Point Float)} (built : arrowTriangleAlong tip direction = .ok triangle) :
    IsRoundedPath triangle := by
  unfold arrowTriangleAlong at built
  dsimp only at built
  split at built
  · cases built
  · cases built
    simp

private theorem isRounded_arrowPrimitive {tail tip : Point Float}
    (built : arrowPrimitive id tail tip = .ok p) :
    p.IsRounded := by
  obtain ⟨triangle, pointed, rfl⟩ := map_eq_ok.1 built
  exact Primitive.isRounded_of_paths (List.forall_mem_singleton.2
    (isRoundedPath_arrowTriangleAlong pointed))

private theorem isRounded_arrowShape {tail tip : Point Float}
    (built : arrowShape v id tail tip = .ok p) :
    p.IsRounded := by
  obtain ⟨tail, -, built⟩ := bind_eq_ok.1 built
  obtain ⟨tip, -, built⟩ := bind_eq_ok.1 built
  exact isRounded_arrowPrimitive built

private theorem isRounded_textPrimitive {place : Point Float} {content : String}
    {position : Option TextPosition} (built : textPrimitive v id place content position = .ok p) :
    p.IsRounded := by
  obtain ⟨place, -, rfl⟩ := map_eq_ok.1 built
  exact Primitive.isRounded_of_center (isRoundedPoint_roundedPoint _) isRoundedPoint_zero
    isRoundedPoint_zero

private theorem isRounded_dotMark (center : Point Float) (type : DotType) :
    (dotMark v id center type).IsRounded := by
  cases type with
  | closed | opened => exact Primitive.isRounded_disc (isRoundedPoint_roundedPoint _) _
  | plus | minus | bar => simp [dotMark]

/-! ### Shapes -/

/-- Primitives with rounded numbers only. -/
def AreRounded (primitives : List (Primitive Float)) : Prop := ∀ p ∈ primitives, p.IsRounded

@[simp] theorem areRounded_nil : AreRounded [] := List.forall_mem_nil _

@[simp] theorem areRounded_cons {rest : List (Primitive Float)} :
    AreRounded (p :: rest) ↔ p.IsRounded ∧ AreRounded rest := List.forall_mem_cons

@[simp] theorem areRounded_append {rest : List (Primitive Float)} :
    AreRounded (primitives ++ rest) ↔ AreRounded primitives ∧ AreRounded rest :=
  List.forall_mem_append

private theorem areRounded_of_mapM {ε β : Type} {f : β → Except ε (Primitive Float)}
    {items : List β} (each : ∀ item p, f item = .ok p → p.IsRounded)
    (built : items.mapM f = .ok primitives) :
    AreRounded primitives := by
  intro p member
  obtain ⟨item, -, made⟩ := exists_of_mem_mapM built member
  exact each item p made

private theorem areRounded_segment {p q : Point Float} {marker : Marker}
    (built : segmentShape v id p q marker = .ok primitives) : AreRounded primitives := by
  unfold segmentShape at built
  cases marker with
  | none | dot | dotdot =>
    cases built
    simp
  | arrow | dotarrow | arrowdot =>
    obtain ⟨arrow, pointed, made⟩ := singleton_do_eq_ok.1 built
    cases made
    simp [isRounded_arrowPrimitive pointed]

private theorem areRounded_arc {start stop : Point Float} {radius : Option Float} {marker : Marker}
    (built : arcShape v id start stop radius marker = .ok primitives) : AreRounded primitives := by
  unfold arcShape at built
  obtain ⟨-, -, built⟩ := do_eq_ok.1 built
  obtain ⟨⟨center, startAngle, stopAngle⟩, -, built⟩ := do_eq_ok.1 built
  obtain ⟨count, -, built⟩ := do_eq_ok.1 built
  cases marker with
  | none | dot | dotdot =>
    cases built
    simp
  | arrow | dotarrow | arrowdot =>
    obtain ⟨arrow, pointed, made⟩ := singleton_do_eq_ok.1 built
    cases made
    simp [isRounded_arrowPrimitive pointed]

private theorem areRounded_dot {center : Point Float} {type : DotType}
    {label : Option (String × Option TextPosition)}
    (built : dotShape v id center type label = .ok primitives) : AreRounded primitives := by
  unfold dotShape at built
  split at built
  · cases built
    simp [isRounded_dotMark]
  · obtain ⟨text, labelled, rfl⟩ := map_eq_ok.1 built
    simp [isRounded_dotMark, isRounded_textPrimitive labelled]

private theorem areRounded_line {p q : Point Float} {toExtremities : Bool}
    (built : lineShape v id p q toExtremities = .ok primitives) : AreRounded primitives := by
  unfold lineShape at built
  split at built
  · cases built
  · split at built
    all_goals
      obtain ⟨bounds, -, built⟩ := do_eq_ok.1 built
      obtain ⟨crossings, -, built⟩ := do_eq_ok.1 built
      cases built
      simp

private theorem areRounded_path {points : List (Point Float)} {closed : Bool}
    (built : pathShape v id points closed = .ok primitives) : AreRounded primitives := by
  unfold pathShape at built
  split at built <;> cases built
  simp

private theorem areRounded_polygon {points : List (Point Float)}
    (built : polygonShape v id points = .ok primitives) :
    AreRounded primitives := by
  unfold polygonShape at built
  split at built <;> cases built
  exact List.forall_mem_singleton.2 (Primitive.isRounded_of_paths (by simp))

private theorem areRounded_angleArc {vertex : Point Float} {radius start stop : Float}
    (built : angleArcShape v id vertex radius start stop = .ok primitives) :
    AreRounded primitives := by
  obtain ⟨-, -, built⟩ := do_eq_ok.1 built
  obtain ⟨count, -, built⟩ := do_eq_ok.1 built
  cases built
  exact List.forall_mem_singleton.2 (Primitive.isRounded_of_paths (by simp))

private theorem areRounded_ellipse {center : Point Float} {rx ry : Float}
    (built : ellipseShape v id center rx ry = .ok primitives) : AreRounded primitives := by
  obtain ⟨-, -, rfl⟩ := map_eq_ok.1 built
  refine List.forall_mem_singleton.2 (Primitive.isRounded_of_center ?_ ?_ isRoundedPoint_zero)
  · exact isRoundedPoint_device center
  · exact ⟨isRounded_hundredths _, isRounded_hundredths _⟩

private theorem CornerRadius.isRounded_device (r : CornerRadius Float) (x : Float) :
    IsRounded (r.device x) := by
  unfold CornerRadius.device
  split
  · exact isRounded_arrayHundredths x
  · exact isRounded_hundredths x

private theorem areRounded_rect (p q : Point Float) (rx ry : CornerRadius Float) :
    AreRounded (rectShape v id p q rx ry) := by
  refine List.forall_mem_singleton.2 (Primitive.isRounded_of_center ?_ ?_ ?_)
  · exact isRoundedPoint_device _
  · exact ⟨rx.isRounded_device _, ry.isRounded_device _⟩
  · exact ⟨isRounded_hundredths _, isRounded_hundredths _⟩

/-! ### Axes -/

variable {style : AxesStyle Float}

private theorem isRoundedPath_upright (x y : Float) :
    IsRoundedPath [(hundredths x, 0.0), (hundredths x, hundredths y)] := by
  simp [IsRoundedPoint]

private theorem isRoundedPath_flat (x y : Float) :
    IsRoundedPath [(0.0, hundredths y), (hundredths x, hundredths y)] := by
  simp [IsRoundedPoint]

private theorem isRounded_gridPrimitive {dx dy : Float}
    (built : Axes.gridPrimitive v id style dx dy = .ok p) :
    p.IsRounded := by
  unfold Axes.gridPrimitive at built
  dsimp only at built
  split at built
  · cases built
  · obtain ⟨beside, -, built⟩ := do_eq_ok.1 built
    split at built
    · obtain ⟨flat, crossed, built⟩ := do_eq_ok.1 built
      obtain ⟨rows, -, rfl⟩ := map_eq_ok.1 crossed
      cases built
      refine Primitive.isRounded_polylines.2 (List.forall_mem_append.2 ⟨?_, ?_⟩)
      · exact List.forall_mem_map.2 fun x _ => isRoundedPath_upright x _
      · exact List.forall_mem_map.2 fun y _ => isRoundedPath_flat _ y
    · cases built
      rw [List.append_nil, Primitive.isRounded_polylines]
      exact List.forall_mem_map.2 fun x _ => isRoundedPath_upright x _

private theorem isRounded_linesPrimitive (built : Axes.linesPrimitive v id style = .ok p) :
    p.IsRounded := by
  unfold Axes.linesPrimitive at built
  obtain ⟨ticks, -, built⟩ := do_eq_ok.1 built
  split at built
  all_goals
    obtain ⟨ticks', -, built⟩ := do_eq_ok.1 built
    cases built
    simp only [Primitive.isRounded_polylines, List.forall_mem_cons, List.forall_mem_append,
      List.forall_mem_map]
    simp

private theorem areRounded_tickLabels {mark : String} {values : List Float} {decimals : Nat}
    {place : Float → Point Float} {position : TextPosition}
    (built : Axes.tickLabels v mark values decimals place position = .ok primitives) :
    AreRounded primitives :=
  areRounded_of_mapM (fun _ _ labelled => isRounded_textPrimitive labelled) built

private theorem areRounded_labelPrimitives
    (built : Axes.labelPrimitives v id style = .ok primitives) :
    AreRounded primitives := by
  unfold Axes.labelPrimitives at built
  obtain ⟨xDecimals, -, built⟩ := do_eq_ok.1 built
  obtain ⟨yDecimals, -, built⟩ := do_eq_ok.1 built
  obtain ⟨xValues, -, built⟩ := do_eq_ok.1 built
  obtain ⟨xLabels, xLabelled, built⟩ := do_eq_ok.1 built
  split at built
  · obtain ⟨yValues, -, built⟩ := do_eq_ok.1 built
    obtain ⟨yLabels, yLabelled, built⟩ := do_eq_ok.1 built
    cases built
    exact areRounded_append.2 ⟨areRounded_tickLabels xLabelled, areRounded_tickLabels yLabelled⟩
  · obtain ⟨zero, labelled, built⟩ := do_eq_ok.1 built
    cases built
    simp [areRounded_tickLabels xLabelled, isRounded_textPrimitive labelled]

private theorem areRounded_axisEnd {name : String} {axis : Axis}
    (built : Axes.axisEnd v id name axis = .ok primitives) : AreRounded primitives := by
  obtain ⟨tip, -, built⟩ := do_eq_ok.1 built
  obtain ⟨near, -, built⟩ := do_eq_ok.1 built
  obtain ⟨text, labelled, built⟩ := do_eq_ok.1 built
  obtain ⟨arrow, pointed, built⟩ := do_eq_ok.1 built
  cases built
  simp [isRounded_textPrimitive labelled, isRounded_arrowShape pointed]

/-- What is left out is rounded. -/
theorem areRounded_of_ite {ε : Type} {given : Prop} [Decidable given]
    {built : Except ε (List (Primitive Float))}
    (rounded : built = .ok primitives → AreRounded primitives)
    (optional : (if given then built else pure []) = .ok primitives) : AreRounded primitives := by
  split at optional
  · exact rounded optional
  · cases optional
    exact areRounded_nil

private theorem areRounded_gridPieces {grid : List (Primitive Float)}
    (built : Axes.gridPieces v id style = .ok grid) :
    AreRounded grid := by
  unfold Axes.gridPieces at built
  split at built
  · obtain ⟨p, gridded, rfl⟩ := map_eq_ok.1 built
    simp [isRounded_gridPrimitive gridded]
  · cases built
    exact areRounded_nil

private theorem areRounded_axes (built : axesShape v id style = .ok primitives) :
    AreRounded primitives := by
  obtain ⟨-, grid, gridded, lines, drawn, labels, labelled, xEnd, xEnded, yEnd, yEnded, rfl⟩ :=
    axesShape_eq_ok.1 built
  simp [areRounded_gridPieces gridded, isRounded_linesPrimitive drawn,
    areRounded_of_ite areRounded_labelPrimitives labelled, areRounded_axisEnd xEnded,
    areRounded_of_ite areRounded_axisEnd yEnded]

/-- The primitives of every shape have rounded numbers only. -/
theorem Shape.areRounded {s : Shape Float} (built : s.primitives v id = .ok primitives) :
    AreRounded primitives := by
  cases s with
  | arrowhead tail tip =>
    obtain ⟨p, pointed, rfl⟩ := map_eq_ok.1 built
    simp [isRounded_arrowShape pointed]
  | line p q toExtremities => exact areRounded_line built
  | segment p q marker => exact areRounded_segment built
  | path points closed => exact areRounded_path built
  | polygon points => exact areRounded_polygon built
  | ellipse center rx ry => exact areRounded_ellipse built
  | rect p q rx ry =>
    rw [Shape.primitives, Except.ok.injEq] at built
    rw [← built]
    exact areRounded_rect p q rx ry
  | text place content position =>
    obtain ⟨p, labelled, rfl⟩ := map_eq_ok.1 built
    simp [isRounded_textPrimitive labelled]
  | dot center type label => exact areRounded_dot built
  | arc start stop radius marker => exact areRounded_arc built
  | angleArc vertex radius start stop => exact areRounded_angleArc built
  | axes style => exact areRounded_axes built

end Shapes

end CurveBoard
