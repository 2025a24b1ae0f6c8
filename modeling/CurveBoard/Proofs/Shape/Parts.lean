import CurveBoard.Proofs.Except
import CurveBoard.Shape.Basic
import Mathlib.Data.List.Nodup

/-!
# Parts of drawings

A shape puts one primitive under its own id on the canvas, and others under its id with a suffix
that tells which part of the shape they are. No part of a shape comes twice, so its primitives have
different ids. Two shapes can have a primitive of one id only if the id of one of them is the id of
a part of the other: of two different suffixes none ends like the other.
-/
namespace CurveBoard

/-- The parts that come once. -/
inductive PartName
  | start
  | stop
  | head
  | label
  | grid
  | abscissaName
  | abscissaArrow
  | ordinateName
  | ordinateArrow
deriving DecidableEq

/-- A primitive of a drawing: the one under its own id, or another one. -/
inductive DrawingPart
  | self
  | named (name : PartName)
  | tick (axis : Axis) (n : Nat)
  | origin
deriving DecidableEq

def PartName.text : PartName → String
  | start => "start"
  | stop => "end"
  | head => "ah"
  | label => "label"
  | grid => "grid"
  | abscissaName => "xname"
  | abscissaArrow => "xarrow"
  | ordinateName => "yname"
  | ordinateArrow => "yarrow"

private theorem PartName.text_injective : Function.Injective PartName.text := by
  intro name name' same
  cases name <;> cases name' <;> first | rfl | exact absurd same (by decide)

def Axis.ticks : Axis → String
  | x => "-xtick"
  | y => "-ytick"

private theorem Axis.ticks_injective : Function.Injective (String.toList ∘ Axis.ticks) := by
  intro axis axis' same
  cases axis <;> cases axis' <;> first | rfl | exact absurd same (by decide)

private theorem Axis.toList_ticks_ne_nil (axis : Axis) : axis.ticks.toList ≠ [] := by
  cases axis <;> decide

namespace DrawingPart

/-- What the id of a part has after the id of its drawing. -/
def suffix : DrawingPart → String
  | self => ""
  | named name => "-" ++ name.text
  | tick axis n => axis.ticks ++ "-" ++ toString n
  | origin => "-xtick-origin"

/-! ### Reading suffixes from the end -/

/-- What is before the last dash of a suffix. -/
def lead : DrawingPart → List Char
  | tick axis _ => axis.ticks.toList
  | origin => "-xtick".toList
  | _ => []

/-- What is after the last dash of a suffix. -/
def word : DrawingPart → List Char
  | self => []
  | named name => name.text.toList
  | tick _ n => Nat.toDigits 10 n
  | origin => "origin".toList

@[simp] theorem word_tick (axis : Axis) (n : Nat) : (tick axis n).word = Nat.toDigits 10 n := rfl

theorem toList_suffix {p : DrawingPart} (proper : p ≠ self) :
    p.suffix.toList = p.lead ++ '-' :: p.word := by
  cases p with
  | self => exact absurd rfl proper
  | named name => cases name <;> decide
  | tick axis n => simp [suffix, lead, Nat.toString_eq_repr, String.toList_append]
  | origin => decide

theorem dash_notMem_word (p : DrawingPart) : '-' ∉ p.word := by
  cases p with
  | self => exact List.not_mem_nil
  | named name => cases name <;> decide
  | tick axis n =>
    intro member
    have digit := Nat.isDigit_of_mem_toDigits (by decide) (by decide) member
    exact absurd digit (by decide)
  | origin => decide

private theorem head?_toDigits (n : Nat) :
    ∃ c, (Nat.toDigits 10 n).head? = some c ∧ c.isDigit = true := by
  cases digits : Nat.toDigits 10 n with
  | nil => exact absurd digits Nat.toDigits_ne_nil
  | cons c rest =>
    have member : c ∈ Nat.toDigits 10 n := by simp [digits]
    exact ⟨c, rfl, Nat.isDigit_of_mem_toDigits (by decide) (by decide) member⟩

theorem toDigits_ne_origin (n : Nat) : Nat.toDigits 10 n ≠ "origin".toList := by
  intro same
  obtain ⟨c, first, digit⟩ := head?_toDigits n
  rw [same] at first
  cases first
  exact absurd digit (by decide)

theorem toDigits_ne_text (n : Nat) (name : PartName) : Nat.toDigits 10 n ≠ name.text.toList := by
  intro same
  obtain ⟨c, first, digit⟩ := head?_toDigits n
  rw [same] at first
  cases name <;> cases first <;> exact absurd digit (by decide)

private theorem toDigits_injective : Function.Injective (Nat.toDigits 10) :=
  Function.LeftInverse.injective fun _ => Nat.ofDigitChars_ten_toDigits

/-- The word tells how much comes before it. -/
theorem length_lead {p : DrawingPart} (proper : p ≠ self) :
    p.lead.length = if p.word.head?.any Char.isDigit || p.word = "origin".toList then 6 else 0 := by
  cases p with
  | self => exact absurd rfl proper
  | named name => cases name <;> decide
  | tick axis n =>
    obtain ⟨c, first, digit⟩ := head?_toDigits n
    rw [word_tick, first]
    cases axis <;> simp [lead, Axis.ticks, digit]
  | origin => decide

private theorem eq_of_lead_of_word {p q : DrawingPart} (proper : p ≠ self) (proper' : q ≠ self)
    (lead_eq : p.lead = q.lead) (word_eq : p.word = q.word) : p = q := by
  cases p with
  | self => exact absurd rfl proper
  | named name =>
    cases q with
    | self => exact absurd rfl proper'
    | named name' => rw [PartName.text_injective (String.toList_inj.1 word_eq)]
    | tick axis n => exact absurd lead_eq.symm axis.toList_ticks_ne_nil
    | origin => exact absurd lead_eq.symm (Axis.toList_ticks_ne_nil .x)
  | tick axis n =>
    cases q with
    | self => exact absurd rfl proper'
    | named name => exact absurd lead_eq axis.toList_ticks_ne_nil
    | tick axis' n' => rw [Axis.ticks_injective lead_eq, toDigits_injective word_eq]
    | origin => exact absurd word_eq (toDigits_ne_origin n)
  | origin =>
    cases q with
    | self => exact absurd rfl proper'
    | named name => exact absurd lead_eq (Axis.toList_ticks_ne_nil .x)
    | tick axis n => exact absurd word_eq.symm (toDigits_ne_origin n)
    | origin => rfl

/-- Where a mark comes last can be told from the end. -/
theorem append_cons_inj {mark : Char} {before before' after after' : List Char}
    (last : mark ∉ after) (last' : mark ∉ after')
    (same : before ++ mark :: after = before' ++ mark :: after') :
    before = before' ∧ after = after' := by
  rcases List.append_eq_append_iff.1 same with ⟨between, rfl, rest⟩ | ⟨between, rfl, rest⟩
  · cases between with
    | nil => simpa using rest
    | cons c between =>
      cases rest
      simp at last
  · cases between with
    | nil => simpa [eq_comm] using rest
    | cons c between =>
      cases rest
      simp at last'

/-- Ids of two parts are the same only if the drawings and the parts are. -/
theorem append_suffix_inj {id id' : String} {p q : DrawingPart} (proper : p ≠ self)
    (proper' : q ≠ self) (same : id ++ p.suffix = id' ++ q.suffix) : id = id' ∧ p = q := by
  have texts := congrArg String.toList same
  rw [String.toList_append, String.toList_append, toList_suffix proper, toList_suffix proper',
    ← List.append_assoc, ← List.append_assoc] at texts
  obtain ⟨leads, words⟩ := append_cons_inj (dash_notMem_word p) (dash_notMem_word q) texts
  have lengths : p.lead.length = q.lead.length := by
    rw [length_lead proper, length_lead proper', words]
  obtain ⟨ids, leads⟩ := List.append_inj' leads lengths
  exact ⟨String.toList_inj.1 ids, eq_of_lead_of_word proper proper' leads words⟩

/-- The own primitive of a drawing is no other part of it. -/
theorem append_suffix_ne {p : DrawingPart} (proper : p ≠ self) (id : String) :
    id ++ p.suffix ≠ id := by
  intro same
  have texts := congrArg String.toList same
  rw [String.toList_append, toList_suffix proper, List.append_right_eq_self] at texts
  cases (List.append_eq_nil_iff.1 texts).2

theorem append_suffix_injective (id : String) :
    Function.Injective fun p : DrawingPart => id ++ p.suffix := by
  intro p q same
  have own : id ++ self.suffix = id := String.append_empty
  by_cases proper : p = self
  · by_cases proper' : q = self
    · rw [proper, proper']
    · rw [proper] at same
      exact absurd (same.symm.trans own) (append_suffix_ne proper' id)
  · by_cases proper' : q = self
    · rw [proper'] at same
      exact absurd (same.trans own) (append_suffix_ne proper id)
    · exact (append_suffix_inj proper proper' same).2

end DrawingPart

/-! ### The parts of shapes -/

/-- Whether primitives are different parts of a drawing. -/
def AreParts {α : Type} (id : String) (primitives : List (Primitive α)) : Prop :=
  ∃ parts : List DrawingPart, parts.Nodup ∧ primitives.map Primitive.id = parts.map fun part =>
    id ++ part.suffix

namespace AreParts

variable {α : Type} {id : String} {primitives : List (Primitive α)}

theorem ids_nodup (areParts : AreParts id primitives) : (primitives.map Primitive.id).Nodup := by
  obtain ⟨parts, distinct, ids⟩ := areParts
  rw [ids]
  exact distinct.map (DrawingPart.append_suffix_injective id)

theorem exists_part (areParts : AreParts id primitives) {p : Primitive α}
    (member : p ∈ primitives) :
    ∃ part : DrawingPart, p.id = id ++ part.suffix := by
  obtain ⟨parts, -, ids⟩ := areParts
  have listed : p.id ∈ primitives.map Primitive.id := List.mem_map_of_mem member
  rw [ids] at listed
  obtain ⟨part, -, same⟩ := List.mem_map.1 listed
  exact ⟨part, same.symm⟩

theorem singleton {p : Primitive α} (own : p.id = id) : AreParts id [p] :=
  ⟨[.self], List.nodup_singleton _, by simp [own, DrawingPart.suffix]⟩

end AreParts

private theorem ids_mapM {ε α β : Type} {primitives : List (Primitive α)}
    {f : β → Except ε (Primitive α)} {name : β → String} {items : List β}
    (names : ∀ item p, f item = .ok p → p.id = name item)
    (built : items.mapM f = .ok primitives) :
    primitives.map Primitive.id = items.map name := by
  induction items generalizing primitives with
  | nil =>
    cases built
    rfl
  | cons item rest ih =>
    rw [List.mapM_cons] at built
    obtain ⟨p, first, built⟩ := do_eq_ok.1 built
    obtain ⟨others, later, built⟩ := do_eq_ok.1 built
    cases built
    rw [List.map_cons, List.map_cons, names item p first, ih later]

section Shapes

variable {α : Type} [Geometry α] {v : Viewport α} {id : String}
  {primitives : List (Primitive α)}

@[simp] theorem Primitive.id_polylines (paths : List (List (Point α))) :
    (Primitive.polylines id paths).id = id := by
  simp [polylines, blank]

@[simp] theorem Primitive.id_disc (center : Point α) (filled : Bool) :
    (Primitive.disc id center filled).id = id := by
  simp [disc, blank]

private theorem id_arrowPrimitive {tail tip : Point α} {p : Primitive α}
    (built : arrowPrimitive id tail tip = .ok p) :
    p.id = id := by
  obtain ⟨triangle, -, rfl⟩ := map_eq_ok.1 built
  rfl

private theorem id_arrowShape {tail tip : Point α} {p : Primitive α}
    (built : arrowShape v id tail tip = .ok p) :
    p.id = id := by
  obtain ⟨tail, -, built⟩ := bind_eq_ok.1 built
  obtain ⟨tip, -, built⟩ := bind_eq_ok.1 built
  exact id_arrowPrimitive built

theorem id_textPrimitive {place : Point α} {content : String} {position : Option TextPosition}
    {p : Primitive α} (built : textPrimitive v id place content position = .ok p) : p.id = id := by
  obtain ⟨place, -, rfl⟩ := map_eq_ok.1 built
  rfl

private theorem id_dotMark (center : Point α) (type : DotType) :
    (dotMark v id center type).id = id := by
  cases type <;> rfl

private theorem areParts_segment {p q : Point α} {marker : Marker}
    (built : segmentShape v id p q marker = .ok primitives) : AreParts id primitives := by
  unfold segmentShape at built
  -- the marker tells which parts there are
  cases marker with
  | none =>
    cases built
    exact .singleton rfl
  | arrow =>
    obtain ⟨arrow, pointed, made⟩ := singleton_do_eq_ok.1 built
    cases made
    exact ⟨[.self, .named .head], by decide,
      by simp [DrawingPart.suffix, PartName.text, id_arrowPrimitive pointed]⟩
  | dot =>
    cases built
    exact ⟨[.self, .named .start], by decide, by simp [DrawingPart.suffix, PartName.text]⟩
  | dotdot =>
    cases built
    exact ⟨[.self, .named .start, .named .stop], by decide,
      by simp [DrawingPart.suffix, PartName.text]⟩
  | dotarrow =>
    obtain ⟨arrow, pointed, made⟩ := singleton_do_eq_ok.1 built
    cases made
    exact ⟨[.self, .named .start, .named .head], by decide, by
      simp [DrawingPart.suffix, PartName.text, id_arrowPrimitive pointed]⟩
  | arrowdot =>
    obtain ⟨arrow, pointed, made⟩ := singleton_do_eq_ok.1 built
    cases made
    exact ⟨[.self, .named .stop, .named .head], by decide, by
      simp [DrawingPart.suffix, PartName.text, id_arrowPrimitive pointed]⟩

private theorem areParts_arc {start stop : Point α} {radius : Option α} {marker : Marker}
    (built : arcShape v id start stop radius marker = .ok primitives) : AreParts id primitives := by
  unfold arcShape at built
  obtain ⟨-, -, built⟩ := do_eq_ok.1 built
  obtain ⟨⟨center, startAngle, stopAngle⟩, -, built⟩ := do_eq_ok.1 built
  obtain ⟨count, -, built⟩ := do_eq_ok.1 built
  cases marker with
  | none =>
    cases built
    exact .singleton rfl
  | arrow =>
    obtain ⟨arrow, pointed, made⟩ := singleton_do_eq_ok.1 built
    cases made
    exact ⟨[.self, .named .head], by decide,
      by simp [DrawingPart.suffix, PartName.text, id_arrowPrimitive pointed]⟩
  | dot | dotdot =>
    cases built
    exact ⟨[.self, .named .start, .named .stop], by decide,
      by simp [DrawingPart.suffix, PartName.text]⟩
  | dotarrow | arrowdot =>
    obtain ⟨arrow, pointed, made⟩ := singleton_do_eq_ok.1 built
    cases made
    exact ⟨[.self, .named .start, .named .stop, .named .head], by decide, by
      simp [DrawingPart.suffix, PartName.text, id_arrowPrimitive pointed]⟩

private theorem areParts_dot {center : Point α} {type : DotType}
    {label : Option (String × Option TextPosition)}
    (built : dotShape v id center type label = .ok primitives) : AreParts id primitives := by
  unfold dotShape at built
  split at built
  · cases built
    exact .singleton (id_dotMark center type)
  · obtain ⟨text, labelled, rfl⟩ := map_eq_ok.1 built
    exact ⟨[.self, .named .label], by decide, by
      simp [DrawingPart.suffix, PartName.text, id_dotMark, id_textPrimitive labelled]⟩

private theorem areParts_line {p q : Point α} {toExtremities : Bool}
    (built : lineShape v id p q toExtremities = .ok primitives) : AreParts id primitives := by
  unfold lineShape at built
  split at built
  · cases built
  · split at built
    all_goals
      obtain ⟨bounds, -, built⟩ := do_eq_ok.1 built
      obtain ⟨crossings, -, built⟩ := do_eq_ok.1 built
      cases built
      exact .singleton rfl

private theorem areParts_path {points : List (Point α)} {closed : Bool}
    (built : pathShape v id points closed = .ok primitives) : AreParts id primitives := by
  unfold pathShape at built
  split at built <;> cases built
  exact .singleton rfl

private theorem areParts_polygon {points : List (Point α)}
    (built : polygonShape v id points = .ok primitives) :
    AreParts id primitives := by
  unfold polygonShape at built
  split at built <;> cases built
  exact .singleton rfl

private theorem areParts_ellipse {center : Point α} {rx ry : α}
    (built : ellipseShape v id center rx ry = .ok primitives) :
    AreParts id primitives := by
  obtain ⟨-, -, rfl⟩ := map_eq_ok.1 built
  exact .singleton rfl

private theorem areParts_angleArc {vertex : Point α} {radius start stop : α}
    (built : angleArcShape v id vertex radius start stop = .ok primitives) :
    AreParts id primitives := by
  obtain ⟨-, -, built⟩ := do_eq_ok.1 built
  obtain ⟨count, -, built⟩ := do_eq_ok.1 built
  cases built
  exact .singleton rfl

/-! ### The parts of axes -/

variable {style : AxesStyle α}

/-- The grid of axes, if there is one. -/
def Axes.gridPieces (v : Viewport α) (id : String) (style : AxesStyle α) :
    Drawn α (List (Primitive α)) :=
  match style.grid with
  | some (dx, dy) => (Axes.gridPrimitive v id style dx dy).map ([·])
  | none => pure []

/-- The pieces that axes are assembled from. -/
theorem axesShape_eq_ok :
    axesShape v id style = .ok primitives ↔
      checkTickSpacing style.dx style.dy = .ok () ∧
      ∃ grid, Axes.gridPieces v id style = .ok grid ∧
      ∃ lines, Axes.linesPrimitive v id style = .ok lines ∧
      ∃ labels, (if style.labels then Axes.labelPrimitives v id style
        else pure []) = .ok labels ∧
      ∃ xEnd, Axes.axisEnd v id style.xName .x = .ok xEnd ∧
      ∃ yEnd, (if style.ordinates then Axes.axisEnd v id style.yName .y
        else pure []) = .ok yEnd ∧
      grid ++ lines :: (labels ++ xEnd ++ yEnd) = primitives := by
  unfold axesShape Axes.gridPieces
  cases style.grid with
  | none => simp only [do_eq_ok, ite_do_eq_ok, pure_eq_ok, Unique.exists_iff, PUnit.default_eq_unit]
  | some steps =>
    simp only [do_eq_ok, ite_do_eq_ok, pure_eq_ok, Unique.exists_iff, PUnit.default_eq_unit]

private theorem id_gridPrimitive {dx dy : α} {p : Primitive α}
    (built : Axes.gridPrimitive v id style dx dy = .ok p) :
    p.id = id ++ "-grid" := by
  unfold Axes.gridPrimitive at built
  dsimp only at built
  split at built
  · cases built
  · obtain ⟨beside, -, built⟩ := do_eq_ok.1 built
    split at built
    · obtain ⟨flat, -, built⟩ := do_eq_ok.1 built
      cases built
      rfl
    · cases built
      rfl

theorem ids_gridPieces {grid : List (Primitive α)}
    (built : Axes.gridPieces v id style = .ok grid) :
    grid.map Primitive.id = [] ∨ grid.map Primitive.id = [id ++ "-grid"] := by
  unfold Axes.gridPieces at built
  split at built
  · obtain ⟨p, gridded, rfl⟩ := map_eq_ok.1 built
    exact .inr (congrArg (fun name => [name]) (id_gridPrimitive gridded))
  · cases built
    exact .inl rfl

theorem id_linesPrimitive {p : Primitive α} (built : Axes.linesPrimitive v id style = .ok p) :
    p.id = id := by
  unfold Axes.linesPrimitive at built
  obtain ⟨ticks, -, built⟩ := do_eq_ok.1 built
  split at built
  · obtain ⟨ticks', -, built⟩ := do_eq_ok.1 built
    cases built
    rfl
  · cases built
    rfl

/-- The labels at the ticks of an axis are numbered. -/
theorem ids_tickLabels (id : String) (axis : Axis) {values : List α} {decimals : Nat}
    {place : α → Point α} {position : TextPosition}
    (built : Axes.tickLabels v (id ++ (axis.ticks ++ "-")) values decimals place position =
      .ok primitives) :
    primitives.map Primitive.id =
      ((List.range values.length).map (DrawingPart.tick axis)).map fun part =>
        id ++ part.suffix := by
  have names (item : α × Nat) (p : Primitive α)
      (labelled : textPrimitive v (id ++ (axis.ticks ++ "-") ++ toString item.2) (place item.1)
        (tickText item.1 decimals) (some position) = .ok p) : p.id =
          id ++ (DrawingPart.tick axis item.2).suffix := by
    rw [id_textPrimitive labelled, DrawingPart.suffix, String.append_assoc]
  have ids := ids_mapM names built
  rw [ids, List.map_map, List.range_eq_range', ← List.zipIdx_map_snd 0 values, List.map_map]
  rfl

/-- The parts that labels are. -/
def DrawingPart.IsLabel : DrawingPart → Prop
  | tick _ _ | origin => True
  | _ => False

private theorem nodup_ticks (axis : Axis) (n : Nat) :
    ((List.range n).map (DrawingPart.tick axis)).Nodup :=
  List.nodup_range.map fun k l same => by cases same; rfl

private theorem ids_labelPrimitives (built : Axes.labelPrimitives v id style = .ok primitives) :
    ∃ parts : List DrawingPart, parts.Nodup ∧ (∀ part ∈ parts, part.IsLabel) ∧
      primitives.map Primitive.id = parts.map fun part => id ++ part.suffix := by
  unfold Axes.labelPrimitives at built
  obtain ⟨xDecimals, -, built⟩ := do_eq_ok.1 built
  obtain ⟨yDecimals, -, built⟩ := do_eq_ok.1 built
  obtain ⟨xValues, -, built⟩ := do_eq_ok.1 built
  obtain ⟨xLabels, xLabelled, built⟩ := do_eq_ok.1 built
  have xIds := ids_tickLabels id .x xLabelled
  -- the vertical axis has labels of its own, or there is one at the origin
  split at built
  · obtain ⟨yValues, -, built⟩ := do_eq_ok.1 built
    obtain ⟨yLabels, yLabelled, built⟩ := do_eq_ok.1 built
    have yIds := ids_tickLabels id .y yLabelled
    cases built
    refine ⟨(List.range xValues.length).map (.tick .x) ++
      (List.range yValues.length).map (.tick .y), ?_, ?_, ?_⟩
    · exact List.nodup_append.2 ⟨nodup_ticks _ _, nodup_ticks _ _, by simp⟩
    · simp only [List.mem_append, List.mem_map]
      rintro part (⟨k, -, rfl⟩ | ⟨k, -, rfl⟩) <;> trivial
    · rw [List.map_append, xIds, yIds, List.map_append]
  · obtain ⟨zero, labelled, built⟩ := do_eq_ok.1 built
    cases built
    refine ⟨(List.range xValues.length).map (.tick .x) ++ [.origin], ?_, ?_, ?_⟩
    · exact List.nodup_append.2 ⟨nodup_ticks _ _, List.nodup_singleton _, by simp⟩
    · simp only [List.mem_append, List.mem_map, List.mem_singleton]
      rintro part (⟨k, -, rfl⟩ | rfl) <;> trivial
    · rw [List.map_append, xIds, List.map_append, List.map_singleton, id_textPrimitive labelled]
      rfl

theorem ids_axisEnd {name : String} {axis : Axis}
    (built : Axes.axisEnd v id name axis = .ok primitives) :
    primitives.map Primitive.id =
      [id ++ ("-" ++ axis.letter ++ "name"), id ++ ("-" ++ axis.letter ++ "arrow")] := by
  obtain ⟨tip, -, built⟩ := do_eq_ok.1 built
  obtain ⟨near, -, built⟩ := do_eq_ok.1 built
  obtain ⟨text, labelled, built⟩ := do_eq_ok.1 built
  obtain ⟨arrow, pointed, built⟩ := do_eq_ok.1 built
  cases built
  simp [id_textPrimitive labelled, id_arrowShape pointed]

/-- Labels between different parts that are no labels. -/
theorem nodup_around_labels {labels before after : List DrawingPart} (distinct : labels.Nodup)
    (areLabels : ∀ part ∈ labels, part.IsLabel) (others : (before ++ after).Nodup)
    (noLabels : ∀ part ∈ before ++ after, ¬part.IsLabel) :
    (before ++ (labels ++ after)).Nodup := by
  rw [(List.perm_append_comm_assoc before labels after).nodup_iff]
  refine List.nodup_append.2 ⟨distinct, others, ?_⟩
  rintro part label _ other rfl
  exact noLabels part other (areLabels part label)

/-- The parts of axes, some of which may be left out. -/
theorem areParts_assembled {grid labels xEnd yEnd : List (Primitive α)} {lines : Primitive α}
    (grid_ids : grid.map Primitive.id = [] ∨ grid.map Primitive.id = [id ++ "-grid"])
    (drawn : Axes.linesPrimitive v id style = .ok lines)
    (labelled : (if style.labels then Axes.labelPrimitives v id style else pure []) = .ok labels)
    (xEnded : Axes.axisEnd v id style.xName .x = .ok xEnd)
    (yEnded : (if style.ordinates then Axes.axisEnd v id style.yName .y else pure []) = .ok yEnd) :
    AreParts id (grid ++ lines :: (labels ++ xEnd ++ yEnd)) := by
  obtain ⟨gridParts, gridOptional, grid_ids⟩ : ∃ parts : List DrawingPart,
      parts.Sublist [.named .grid] ∧
        grid.map Primitive.id = parts.map fun part => id ++ part.suffix := by
    rcases grid_ids with nothing | one
    · exact ⟨[], List.nil_sublist _, nothing⟩
    · exact ⟨_, List.Sublist.refl _, one⟩
  obtain ⟨labelParts, distinct, areLabels, label_ids⟩ :
      ∃ parts : List DrawingPart, parts.Nodup ∧
        (∀ part ∈ parts, part.IsLabel) ∧ labels.map Primitive.id = parts.map fun part =>
        id ++ part.suffix := by
    split at labelled
    · exact ids_labelPrimitives labelled
    · cases labelled
      exact ⟨[], List.nodup_nil, List.forall_mem_nil _, rfl⟩
  obtain ⟨yParts, yOptional, y_ids⟩ : ∃ parts : List DrawingPart,
      parts.Sublist [.named .ordinateName, .named .ordinateArrow] ∧
        yEnd.map Primitive.id = parts.map fun part => id ++ part.suffix := by
    split at yEnded
    · exact ⟨_, List.Sublist.refl _, ids_axisEnd yEnded⟩
    · cases yEnded
      exact ⟨[], List.nil_sublist _, rfl⟩
  refine ⟨gridParts ++ .self ::
    (labelParts ++ ([.named .abscissaName, .named .abscissaArrow] ++ yParts)), ?_, ?_⟩
  · -- no part comes twice even where none is left out
    have whole : List.Nodup ([DrawingPart.named .grid, .self] ++ (labelParts ++
        ([.named .abscissaName, .named .abscissaArrow] ++
          [.named .ordinateName, .named .ordinateArrow]))) :=
      nodup_around_labels distinct areLabels (by decide) (by simp [DrawingPart.IsLabel])
    have fewer := (List.Sublist.refl labelParts).append
      ((List.Sublist.refl [DrawingPart.named .abscissaName, .named .abscissaArrow]).append
        yOptional)
    exact whole.sublist (gridOptional.append (fewer.cons_cons DrawingPart.self))
  · simp [grid_ids, label_ids, y_ids, ids_axisEnd xEnded, id_linesPrimitive drawn,
      DrawingPart.suffix, PartName.text, Axis.letter]

private theorem areParts_axes (built : axesShape v id style = .ok primitives) :
    AreParts id primitives := by
  obtain ⟨-, grid, gridded, lines, drawn, labels, labelled, xEnd, xEnded, yEnd, yEnded, rfl⟩ :=
    axesShape_eq_ok.1 built
  exact areParts_assembled (ids_gridPieces gridded) drawn labelled xEnded yEnded

/-- The primitives of every shape are different parts of it. -/
theorem Shape.areParts {s : Shape α} (built : s.primitives v id = .ok primitives) :
    AreParts id primitives := by
  cases s with
  | arrowhead tail tip =>
    obtain ⟨p, pointed, rfl⟩ := map_eq_ok.1 built
    exact .singleton (id_arrowShape pointed)
  | line p q toExtremities => exact areParts_line built
  | segment p q marker => exact areParts_segment built
  | path points closed => exact areParts_path built
  | polygon points => exact areParts_polygon built
  | ellipse center rx ry => exact areParts_ellipse built
  | rect p q rx ry =>
    cases built
    exact .singleton rfl
  | text place content position =>
    obtain ⟨p, labelled, rfl⟩ := map_eq_ok.1 built
    exact .singleton (id_textPrimitive labelled)
  | dot center type label => exact areParts_dot built
  | arc start stop radius marker => exact areParts_arc built
  | angleArc vertex radius start stop => exact areParts_angleArc built
  | axes style => exact areParts_axes built

end Shapes

end CurveBoard
