import CurveBoard.Proofs.Board.Returns
import CurveBoard.Proofs.Table

/-!
# What operations do to a board

The operations of a board as commands, and for each of them what it does if it returns. Of a board
only its picture counts: what is shown and what decides about the next drawings, but neither the
canvas nor when something was logged. All that is true of boards after successful operations is
shown from these effects.
-/
namespace CurveBoard

/-- The operations of a board. -/
inductive Command
  | draw (kind : DrawingKind) (sketch : Sketch) (id : Option String)
  | plot (source domain points : Value) (id : Option String) (variableName : Value)
      (config : Option SamplerConfig)
  | update (id : String) (change : Action.PlotChange)
  | delete (id : String)
  | clear
  | resize (width height : Value)

namespace Command

def perform : Command → Action Unit
  | draw kind sketch id => (fun _ => ()) <$> Action.draw kind sketch id
  | plot source domain points id variableName config =>
    (fun _ => ()) <$> Action.plot source domain points id variableName config
  | update id change => Action.update id change
  | delete id => Action.delete id
  | clear => Action.clear
  | resize width height => Action.resize width height

end Command

/-- What a board shows. -/
structure Picture where
  viewport : Viewport Float
  sampler : SamplerConfig
  samplingPoints : Option GivenNumber
  entries : Table (Entry Drawing Float)
  plots : Table Plot
  counters : Table Nat

namespace Picture

def context (p : Picture) : PlotContext := ⟨p.viewport, p.sampler, p.samplingPoints⟩

def put (p : Picture) (id : String) (drawing : Drawing) (primitives : List (Primitive Float)) :
    Picture :=
  { p with entries := p.entries.insert id ⟨drawing, primitives⟩ }

def setPlot (p : Picture) (id : String) (plot : Plot) : Picture :=
  { p with plots := p.plots.insert id plot }

/-- The first number that is free for a kind after the last one given away. -/
def freeNumber (p : Picture) (kind : String) : Nat :=
  Board.firstFree p.entries kind ((p.counters.get? kind).getD 0)

end Picture

def Board.picture (b : Board) : Picture where
  viewport := b.viewport
  sampler := b.sampler
  samplingPoints := b.options.samplingPoints
  entries := b.desk.entries
  plots := b.plots
  counters := b.counters

namespace Board

/-- A board with a plot set under an id. -/
def setPlot (b : Board) (id : String) (plot : Plot) : Board :=
  { b with plots := b.plots.insert id plot }

@[simp] theorem picture_setPlot (b : Board) (id : String) (plot : Plot) :
    (b.setPlot id plot).picture = b.picture.setPlot id plot := rfl

@[simp] theorem setPlot_setPlot (b : Board) (id : String) (old plot : Plot) :
    (b.setPlot id old).setPlot id plot = b.setPlot id plot := by
  simp [setPlot]

/-- Setting a plot to what it is changes nothing. -/
theorem setPlot_eq_self {b : Board} {id : String} {plot : Plot}
    (found : b.plots.get? id = some plot) :
    b.setPlot id plot = b := by
  rw [setPlot, Table.insert_eq_self found]

theorem get?_setPlot_self (b : Board) (id : String) (plot : Plot) :
    (b.setPlot id plot).plots.get? id = some plot :=
  Table.get?_insert_self b.plots id plot

end Board

/-- Whether a use of the workspace yields a value in some workspace. -/
def Yields {α : Type} (use : Worked α) (a : α) : Prop := ∃ w, (use w).1 = .ok a

/-! ### The effects -/

/-- Giving a drawing its id: the caller's, or the next one of its kind. -/
inductive Names (kind : String) (p : Picture) : Option String → String → Picture → Prop
  | given (id : String) : Names kind p (some id) id p
  | next : Names kind p none (Board.numberedId kind (p.freeNumber kind))
      { p with counters := p.counters.insert kind (p.freeNumber kind) }

/-- Drawing something under an id. -/
inductive Draws (id : String) (p : Picture) : Drawing → Picture → Prop
  | shape {kind : DrawingKind} {s : Shape Float} {primitives : List (Primitive Float)}
      (built : s.primitives p.viewport id = .ok primitives) :
      Draws id p (.shape kind s) (p.put id (.shape kind s) primitives)
  | plot {plot : Plot} {dice : Dice} {result : SampledCurve Float}
      (found : p.plots.get? id = some plot) (sampled : plot.sampled p.context dice = .ok result) :
      Draws id p .plot
        ((p.setPlot id { plot with result := some result }).put id .plot
          [Plot.primitive p.context id result])

/-- Drawing one thing after the other. -/
def Redraws : List (String × Entry Drawing Float) → Picture → Picture → Prop
  | [], p, p' => p = p'
  | (id, entry) :: rest, p, p' => ∃ middle, Draws id p entry.drawing middle ∧
    Redraws rest middle p'

/-- The domain of a plot after a change. -/
def domainAfter (given : Value) (old : Option (Float × Float)) :
    Worked (Option (Float × Float)) := fun w =>
  if given.isAbsent then (.ok old, w)
  else if isBoardDefault given then (.ok none, w)
  else
    let (result, w) := readDomain given w
    (result.map some, w)

/-- The count of points of a plot after a change. -/
def pointsAfter (given : Value) (old : Option Int) : Worked (Option Int) := fun w =>
  if given.isAbsent then (.ok old, w) else readPoints given w

/-- Changing the settings of a plot. -/
structure Changes (change : Action.PlotChange) (before after : Plot) : Prop where
  curve : change.curve.getD before.curve = after.curve
  domain : Yields (domainAfter change.domain before.domain) after.domain
  points : Yields (pointsAfter change.points before.points) after.points
  config : (change.config <|> before.config) = after.config
  result : before.result = after.result

/-- What a command does to a picture. -/
inductive Effect (p : Picture) : Command → Picture → Prop
  | draw {kind : DrawingKind} {sketch tupled : Sketch} {s : Shape Float} {id : Option String}
      {name : String}
      {named after : Picture} (tuples : sketch.tupled = .ok tupled)
      (describes : tupled.shape = .ok s)
      (names : Names kind.name p id name named) (noPlot : named.plots.contains name = false)
      (draws : Draws name named (.shape kind s) after) :
      Effect p (.draw kind sketch id) after
  | newPlot {source domain points variableName : Value} {id : Option String}
      {config : Option SamplerConfig} {curve : Curve} {range : Option (Float × Float)}
      {count : Option Int}
      {name : String} {named after : Picture}
      (resolves : Yields (Curve.resolve source variableName) curve)
      (names : Names "plot" p id name named) (noPlot : named.plots.contains name = false)
      (free : id.isSome → named.entries.contains name = false)
      (reads_domain : Yields (readDomain? domain) range)
      (reads_points : Yields (readPoints points) count)
      (draws :
        Draws name (named.setPlot name ⟨curve, range, count, config, none⟩) .plot after) :
      Effect p (.plot source domain points id variableName config) after
  | oldPlot {source domain points variableName : Value} {id : Option String}
      {config : Option SamplerConfig} {curve : Curve} {plot plot' : Plot} {name : String}
      {named after : Picture} (resolves : Yields (Curve.resolve source variableName) curve)
      (names : Names "plot" p id name named) (found : named.plots.get? name = some plot)
      (changes : Changes ⟨some curve, domain, points, config⟩ plot plot')
      (draws : Draws name (named.setPlot name plot') .plot after) :
      Effect p (.plot source domain points id variableName config) after
  | update {id : String} {change : Action.PlotChange} {plot plot' : Plot} {after : Picture}
      (found : p.plots.get? id = some plot) (changes : Changes change plot plot')
      (draws : Draws id (p.setPlot id plot') .plot after) :
      Effect p (.update id change) after
  | delete {id : String} (present : p.entries.contains id = true) :
      Effect p (.delete id) { p with entries := p.entries.erase id, plots := p.plots.erase id }
  | clear : Effect p .clear { p with entries := Table.empty, plots := Table.empty }
  | resize {width height : Value} {x y : Float} {v : Viewport Float} {after : Picture}
      (reads_width : Yields (Action.readLength width) x)
      (reads_height : Yields
        (Action.readLength (height.orElse (.real (x * p.viewport.height / p.viewport.width)))) y)
      (resizes : (p.viewport.resized x y).2 = .ok v)
      (redraws : Redraws p.entries.entries { p with viewport := v } after) :
      Effect p (.resize width height) after

/-! ### What drawing leaves as it is -/

/-- Whether there is the same under an id in two pictures. -/
structure Picture.SameAt (p q : Picture) (id : String) : Prop where
  entry : q.entries.get? id = p.entries.get? id
  plot : q.plots.get? id = p.plots.get? id

namespace Draws

variable {p p' : Picture} {id other : String} {drawing : Drawing}

theorem context (draws : Draws id p drawing p') : p'.context = p.context := by
  cases draws <;> rfl

/-- Drawing one thing does not touch the others. -/
theorem sameAt (draws : Draws id p drawing p') (differs : other ≠ id) : p.SameAt p' other := by
  cases draws with
  | shape built => exact ⟨Table.get?_insert_of_ne differs _, rfl⟩
  | plot found sampled =>
    exact ⟨Table.get?_insert_of_ne differs _, Table.get?_insert_of_ne differs _⟩

end Draws

namespace Redraws

variable {p p' : Picture} {entries : List (String × Entry Drawing Float)}

theorem context (redraws : Redraws entries p p') : p'.context = p.context := by
  induction entries generalizing p with
  | nil =>
    obtain rfl := redraws
    rfl
  | cons first rest ih =>
    obtain ⟨middle, draws, redraws⟩ := redraws
    rw [ih redraws, draws.context]

/-- What is not redrawn stays. -/
theorem sameAt {other : String} (redraws : Redraws entries p p')
    (absent : other ∉ entries.map Prod.fst) :
    p.SameAt p' other := by
  induction entries generalizing p with
  | nil =>
    obtain rfl := redraws
    exact ⟨rfl, rfl⟩
  | cons first rest ih =>
    obtain ⟨middle, draws, redraws⟩ := redraws
    rw [List.map_cons, List.mem_cons, not_or] at absent
    have drawn := draws.sameAt absent.1
    have redrawn := ih redraws absent.2
    exact ⟨redrawn.entry.trans drawn.entry, redrawn.plot.trans drawn.plot⟩

end Redraws

/-! ### The effects of operations that return -/

theorem Plot.build_result (p : Plot) (context : PlotContext) (id : String) (w : Workspace) :
    (p.build context id w).1 = p.sampled context w.takeDice.1 := by
  unfold build
  dsimp only
  split
  next fault found => rw [found]
  next result found => rw [found]

namespace Desk

variable (desk : Desk Canvas Drawing Float)

theorem entries_delete (id : String) : (desk.delete id).entries = desk.entries.erase id := by
  unfold delete
  split
  · rfl
  next absent => exact (Table.erase_eq_self absent).symm

/-- Deleting all drawings leaves none. -/
theorem entries_clear : desk.clear.entries = Table.empty := by
  have left (ids : List String) (desk : Desk Canvas Drawing Float) (id : String) :
      (ids.foldl delete desk).entries.get? id = if id ∈ ids then
      none else desk.entries.get? id := by
    induction ids generalizing desk with
    | nil => simp
    | cons first rest ih =>
      rw [List.foldl_cons, ih, entries_delete]
      by_cases same : id = first
      · simp [same]
      · simp [same, Table.get?_erase_of_ne]
  -- all names are deleted, so whatever is left would have had one of them
  refine Table.eq_empty fun id => ?_
  rw [clear, left]
  split
  · rfl
  next absent => exact Table.get?_eq_none (by simpa [Table.contains] using absent)

end Desk

namespace Action

variable {before after : Scene} {u : Unit} {id : String}

/-- Working on the desk is working on the board's drawings and plots. -/
theorem returns_onDesk
    {use : Builder Stage Drawing Fault Float → Desk Canvas Drawing Float → Stage →
      Except Fault Unit × Desk Canvas Drawing Float × Stage} :
    (onDesk use).Returns before u after ↔
      ∃ desk stage, use (Drawing.build before.board.context) before.board.desk
          ⟨before.board.plots, before.workspace⟩ = (.ok (), desk, stage) ∧
        after = ⟨{ before.board with desk := desk, plots := stage.plots },
          stage.workspace⟩ := by
  simp only [onDesk, returns_bind, returns_get, returns_set, returns_ofExcept]
  constructor
  · rintro ⟨scene, middle, ⟨rfl, rfl⟩, -, middle, rfl, returned, rfl⟩
    exact ⟨_, _, Prod.ext returned rfl, rfl⟩
  · rintro ⟨desk, stage, used, rfl⟩
    refine ⟨before, before, ⟨rfl, rfl⟩, (), _, rfl, ?_⟩
    rw [used]
    exact ⟨rfl, rfl⟩

/-- Building a drawing and putting it on the desk is drawing it. -/
theorem draws_of_upsert {b : Board} {w : Workspace} {drawing : Drawing}
    {desk : Desk Canvas Drawing Float} {stage : Stage}
    (upserted : b.desk.upsert (Drawing.build b.context) id drawing ⟨b.plots, w⟩ =
      (.ok (), desk, stage)) :
    Draws id b.picture drawing { b with desk := desk, plots := stage.plots }.picture := by
  unfold Desk.upsert at upserted
  split at upserted
  · cases upserted
  next primitives stage' built =>
    cases upserted
    unfold Drawing.build at built
    -- a shape leaves the stage as it is, a plot leaves its last result there
    split at built
    next kind s =>
      rw [Prod.mk.injEq, mapError_eq_ok] at built
      obtain ⟨built, rfl⟩ := built
      exact .shape built
    · split at built
      · cases built
      next plot found =>
        split at built
        · cases built
        next result left sampled =>
          cases built
          rw [Prod.ext_iff, Plot.build_result] at sampled
          exact .plot found sampled.1

/-- Redrawing the desk is drawing one thing after the other. -/
theorem redraws_of_redrawFrom {entries : List (String × Entry Drawing Float)} {b : Board}
    {w : Workspace} {desk : Desk Canvas Drawing Float} {stage : Stage}
    (redrawn : b.desk.redrawFrom (Drawing.build b.context) entries ⟨b.plots, w⟩ =
      (.ok (), desk, stage)) :
    Redraws entries b.picture { b with desk := desk, plots := stage.plots }.picture := by
  -- the board in between has the desk and the plots that the first entry has left
  induction entries generalizing b w with
  | nil =>
    cases redrawn
    rfl
  | cons entry rest ih =>
    obtain ⟨id, entry⟩ := entry
    unfold Desk.redrawFrom at redrawn
    split at redrawn
    · cases redrawn
    next desk' stage' upserted =>
      refine ⟨_, draws_of_upsert upserted, ?_⟩
      exact ih (b := { b with desk := desk', plots := stage'.plots }) redrawn

private theorem picture_logRendering (returned : (logRendering id).Returns before u after) :
    after.board.picture = before.board.picture := by
  simp only [logRendering, returns_bind, returns_board, returns_get] at returned
  obtain ⟨b, _, ⟨rfl, rfl⟩, scene, _, ⟨rfl, rfl⟩, returned⟩ := returned
  -- either of the two records may be written, and none of them is part of the picture
  split at returned
  · simp only [returns_bind, returns_modifyBoard, returns_log] at returned
    obtain ⟨_, _, rfl, _, _, rfl, returned⟩ := returned
    split at returned
    · simp only [returns_bind, returns_modifyBoard, returns_log] at returned
      obtain ⟨_, _, rfl, rfl⟩ := returned
      rfl
    · obtain ⟨-, rfl⟩ := returns_pure.1 returned
      rfl
  · split at returned
    · simp only [returns_bind, returns_modifyBoard, returns_log] at returned
      obtain ⟨_, _, rfl, rfl⟩ := returned
      rfl
    · obtain ⟨-, rfl⟩ := returns_pure.1 returned
      rfl

/-- Rendering is drawing the plot. -/
theorem draws_of_render (returned : (render id).Returns before u after) :
    Draws id before.board.picture .plot after.board.picture := by
  simp only [render, returns_bind, returns_onDesk, returns_board] at returned
  obtain ⟨-, middle, ⟨desk, stage, upserted, rfl⟩, b, -, ⟨rfl, rfl⟩, returned⟩ :=
    returned
  have draws := draws_of_upsert upserted
  split at returned
  · rw [picture_logRendering returned]
    exact draws
  · obtain ⟨-, rfl⟩ := returns_pure.1 returned
    exact draws

private theorem names_of_drawingId {kind name : String} {given : Option String}
    (returned : (drawingId kind given).Returns before name after) :
    Names kind before.board.picture given name after.board.picture := by
  cases given with
  | some id =>
    obtain ⟨rfl, rfl⟩ := returns_pure.1 returned
    exact .given id
  | none =>
    simp only [drawingId, returns_bind, returns_board, returns_modifyBoard,
      returns_pure] at returned
    obtain ⟨b, -, ⟨rfl, rfl⟩, -, -, rfl, rfl, rfl⟩ := returned
    exact .next

private theorem effect_draw {kind : DrawingKind} {sketch : Sketch} {given : Option String}
    {name : String} (returned : (draw kind sketch given).Returns before name after) :
    Effect before.board.picture (.draw kind sketch given) after.board.picture := by
  simp only [draw, returns_bind, returns_ofExcept, returns_board] at returned
  obtain ⟨tupled, _, ⟨tuples, rfl⟩, name', middle, named, b, _, ⟨rfl, rfl⟩, returned⟩ :=
    returned
  split at returned
  · simp at returned
  next noPlot =>
    simp only [returns_bind, returns_ofExcept, returns_onDesk, returns_pure] at returned
    obtain ⟨s, _, ⟨describes, rfl⟩, _, _, ⟨desk, stage, upserted, rfl⟩, rfl, rfl⟩ :=
      returned
    exact .draw tuples describes (names_of_drawingId named) (Bool.eq_false_iff.2 noPlot)
      (draws_of_upsert upserted)

/-! ### Changing a plot -/

section Settings

variable {plot : Plot} (found : before.board.plots.get? id = some plot)

include found

private theorem board_modifyPlot {f : Plot → Plot} {w : Workspace}
    (returned : (modifyPlot id f).Returns ⟨before.board, w⟩ u after) :
    after.board = before.board.setPlot id (f plot) := by
  simp only [modifyPlot, returns_modifyBoard, found] at returned
  rw [← returned]
  rfl

theorem board_changeCurve {given : Option Curve}
    (returned : (changeCurve id given).Returns before u after) :
    after.board = before.board.setPlot id { plot with curve := given.getD plot.curve } := by
  cases given with
  | some curve => exact board_modifyPlot found returned
  | none =>
    obtain ⟨-, rfl⟩ := returns_pure.1 returned
    exact (Board.setPlot_eq_self found).symm

private theorem board_changeConfig {given : Option SamplerConfig}
    (returned : (changeConfig id given).Returns before u after) :
    after.board = before.board.setPlot id { plot with config := given <|> plot.config } := by
  cases given with
  | some config => exact board_modifyPlot found returned
  | none =>
    obtain ⟨-, rfl⟩ := returns_pure.1 returned
    exact (Board.setPlot_eq_self found).symm

theorem board_changeDomain {given : Value}
    (returned : (changeDomain id given).Returns before u after) :
    ∃ domain, Yields (domainAfter given plot.domain) domain ∧
      after.board = before.board.setPlot id { plot with domain := domain } := by
  unfold changeDomain at returned
  split at returned
  next absent =>
    obtain ⟨-, rfl⟩ := returns_pure.1 returned
    exact ⟨plot.domain, ⟨before.workspace, by rw [domainAfter, if_pos absent]⟩,
      (Board.setPlot_eq_self found).symm⟩
  next isGiven =>
    split at returned
    next asked =>
      exact ⟨none, ⟨before.workspace, by rw [domainAfter, if_neg isGiven, if_pos asked]⟩,
        board_modifyPlot found returned⟩
    next asked =>
      simp only [returns_bind, returns_ofWorked] at returned
      obtain ⟨domain, middle, ⟨read, rfl⟩, returned⟩ := returned
      have changed := board_modifyPlot found returned
      refine ⟨some domain, ⟨before.workspace, ?_⟩, changed⟩
      rw [domainAfter, if_neg isGiven, if_neg asked]
      exact map_eq_ok.2 ⟨domain, read, rfl⟩

private theorem board_changePoints {given : Value}
    (returned : (changePoints id given).Returns before u after) :
    ∃ points, Yields (pointsAfter given plot.points) points ∧
      after.board = before.board.setPlot id { plot with points := points } := by
  unfold changePoints at returned
  split at returned
  next absent =>
    obtain ⟨-, rfl⟩ := returns_pure.1 returned
    exact ⟨plot.points, ⟨before.workspace, by rw [pointsAfter, if_pos absent]⟩,
      (Board.setPlot_eq_self found).symm⟩
  next isGiven =>
    simp only [returns_bind, returns_ofWorked] at returned
    obtain ⟨points, middle, ⟨read, rfl⟩, returned⟩ := returned
    have changed := board_modifyPlot found returned
    refine ⟨points, ⟨before.workspace, ?_⟩, changed⟩
    rw [pointsAfter, if_neg isGiven]
    exact read

end Settings

theorem found_of_setPlot {plot : Plot} (same : after.board = before.board.setPlot id plot) :
    after.board.plots.get? id = some plot := by
  rw [same, Board.get?_setPlot_self]

/-- All four settings of a plot, one after the other. -/
theorem changes_of_settings {change : PlotChange} {plot : Plot} {curved ranged counted : Scene}
    {u₁ u₂ u₃ u₄ : Unit} (found : before.board.plots.get? id = some plot)
    (curve_set : (changeCurve id change.curve).Returns before u₁ curved)
    (domain_set : (changeDomain id change.domain).Returns curved u₂ ranged)
    (points_set : (changePoints id change.points).Returns ranged u₃ counted)
    (config_set : (changeConfig id change.config).Returns counted u₄ after) :
    ∃ plot', Changes change plot plot' ∧ after.board = before.board.setPlot id plot' := by
  have curve_eq := board_changeCurve found curve_set
  obtain ⟨domain, domain_read, domain_eq⟩ :=
    board_changeDomain (found_of_setPlot curve_eq) domain_set
  obtain ⟨points, points_read, points_eq⟩ :=
    board_changePoints (found_of_setPlot domain_eq) points_set
  have config_eq := board_changeConfig (found_of_setPlot points_eq) config_set
  -- of the four times that the plot was set, only the last one counts
  rw [points_eq, domain_eq, curve_eq] at config_eq
  simp only [Board.setPlot_setPlot] at config_eq
  have changes : Changes change plot ⟨_, _, _, _, _⟩ :=
    ⟨rfl, domain_read, points_read, rfl, rfl⟩
  exact ⟨_, changes, config_eq⟩

private theorem effect_update {change : PlotChange}
    (returned : (update id change).Returns before u after) :
    Effect before.board.picture (.update id change) after.board.picture := by
  simp only [update, returns_bind, returns_board] at returned
  obtain ⟨b, _, ⟨rfl, rfl⟩, returned⟩ := returned
  split at returned
  · simp at returned
  next present =>
    simp only [returns_bind] at returned
    obtain ⟨_, _, curve_set, _, _, domain_set, _, _, points_set, _, _, config_set, rendered⟩ :=
      returned
    obtain ⟨plot, found⟩ := Table.contains_iff.1 (by simpa using present)
    obtain ⟨plot', changes, settings⟩ :=
      changes_of_settings found curve_set domain_set points_set config_set
    have draws := draws_of_render rendered
    rw [settings, Board.picture_setPlot] at draws
    exact .update found changes draws

theorem picture_warnIfDegenerate {curve : Curve}
    (returned : (warnIfDegenerate id curve).Returns before u after) :
    after.board.picture = before.board.picture := by
  simp only [warnIfDegenerate, returns_bind, returns_board] at returned
  obtain ⟨b, _, ⟨rfl, rfl⟩, returned⟩ := returned
  split at returned
  · rw [← returns_modify.1 returned]
  · obtain ⟨-, rfl⟩ := returns_pure.1 returned
    rfl

/-- A caller's id is free or that of a plot. -/
theorem names_of_plotId {given : Option String} {name : String}
    (returned : (plotId given).Returns before name after) :
    Names "plot" before.board.picture given name after.board.picture ∧
      (given.isSome → after.board.plots.contains name = false →
        after.board.desk.entries.contains name = false) := by
  simp only [plotId, returns_bind, returns_board] at returned
  obtain ⟨b, _, ⟨rfl, rfl⟩, returned⟩ := returned
  split at returned
  · exact ⟨names_of_drawingId returned, by simp⟩
  next id =>
    split at returned
    next entry found =>
      split at returned
      next isPlot =>
        obtain ⟨rfl, rfl⟩ := returns_pure.1 returned
        exact ⟨.given id, fun _ noPlot => by rw [isPlot] at noPlot; cases noPlot⟩
      · exact absurd returned not_returns_throw
    next found =>
      obtain ⟨rfl, rfl⟩ := returns_pure.1 returned
      refine ⟨.given id, fun _ _ => ?_⟩
      rw [Table.contains_eq_isSome, found]
      rfl

private theorem effect_plot {source domain points variableName : Value} {given : Option String}
    {config : Option SamplerConfig} {name : String}
    (returned : (plot source domain points given variableName config).Returns before name after) :
    Effect before.board.picture (.plot source domain points given variableName config)
      after.board.picture := by
  simp only [plot, returns_bind, returns_ofWorked, returns_board] at returned
  obtain ⟨curve, _, ⟨resolved, rfl⟩, id, named, ids, b, _, ⟨rfl, rfl⟩, returned⟩ :=
    returned
  obtain ⟨names, free⟩ := names_of_plotId ids
  split at returned
  · simp only [returns_bind, returns_pure] at returned
    -- plotting under the id of a plot is updating it with everything that is given
    obtain ⟨_, _, updated, _, _, warned, rfl, rfl⟩ := returned
    rw [picture_warnIfDegenerate warned]
    cases effect_update updated with
    | update found changes draws => exact .oldPlot ⟨_, resolved⟩ names found changes draws
  next noPlot =>
    simp only [addPlot, returns_bind, returns_pure, returns_ofWorked,
      returns_modifyBoard] at returned
    obtain ⟨_, _, ⟨range, _, ⟨range_read, rfl⟩, count, _, ⟨count_read, rfl⟩, _, _, rfl,
        rendered⟩, _, _, warned, rfl, rfl⟩ := returned
    rw [picture_warnIfDegenerate warned]
    have noPlot' := Bool.eq_false_iff.2 noPlot
    exact .newPlot ⟨_, resolved⟩ names noPlot' (fun given =>
      free given noPlot') ⟨_, range_read⟩ ⟨_, count_read⟩ (draws_of_render rendered)

private theorem effect_delete (returned : (delete id).Returns before u after) :
    Effect before.board.picture (.delete id) after.board.picture := by
  simp only [delete, returns_bind, returns_board] at returned
  obtain ⟨b, _, ⟨rfl, rfl⟩, returned⟩ := returned
  split at returned
  · simp at returned
  next present =>
    rw [returns_modifyBoard] at returned
    obtain ⟨entry, found⟩ := Table.contains_iff.1 (by simpa using present)
    have effect := Effect.delete (p := before.board.picture) (Table.contains_of_get? found)
    rw [← returned]
    simpa only [Board.picture, Desk.entries_delete] using effect

private theorem effect_clear (returned : clear.Returns before u after) :
    Effect before.board.picture .clear after.board.picture := by
  simp only [clear, returns_modifyBoard] at returned
  have effect := Effect.clear (p := before.board.picture)
  rw [← returned]
  simpa only [Board.picture, Board.cleared, Desk.entries_clear] using effect

theorem board_resizeCanvas {width height : Float}
    (returned : (resizeCanvas width height).Returns before u after) :
    after.board = { before.board with desk :=
      ⟨before.board.desk.entries, (before.board.desk.canvas.resize width height).2⟩ } := by
  simp only [resizeCanvas, returns_bind, returns_board, returns_modifyBoard,
    returns_ofExcept] at returned
  obtain ⟨b, _, ⟨rfl, rfl⟩, _, _, rfl, -, rfl⟩ := returned
  rfl

private theorem picture_resizeCanvas {width height : Float}
    (returned : (resizeCanvas width height).Returns before u after) :
    after.board.picture = before.board.picture := by
  rw [board_resizeCanvas returned]
  rfl

private theorem redraws_of_redraw (returned : (onDesk Desk.redraw).Returns before u after) :
    Redraws before.board.picture.entries.entries before.board.picture after.board.picture := by
  obtain ⟨desk, stage, redrawn, rfl⟩ := returns_onDesk.1 returned
  exact redraws_of_redrawFrom redrawn

private theorem effect_resize {width height : Value}
    (returned : (resize width height).Returns before u after) :
    Effect before.board.picture (.resize width height) after.board.picture := by
  simp only [resize, returns_bind, returns_board, returns_ofWorked, returns_modifyBoard,
    returns_log] at returned
  obtain ⟨x, _, ⟨width_read, rfl⟩, _, _, ⟨rfl, rfl⟩, y, _, ⟨height_read, rfl⟩, v, _,
      ⟨framed, rfl⟩, _, _, rfl, _, _, canvas, _, _, redrawn, _, _, ⟨rfl, rfl⟩, _, _, rfl,
      rfl⟩ := returned
  -- the canvas is resized between the viewport and the drawings, and is no part of the picture
  have redraws := redraws_of_redraw redrawn
  rw [picture_resizeCanvas canvas] at redraws
  exact .resize ⟨_, width_read⟩ ⟨_, height_read⟩ (mapError_eq_ok.1 framed) redraws

end Action

theorem Command.effect {command : Command} {before after : Scene} {u : Unit}
    (returned : command.perform.Returns before u after) :
    Effect before.board.picture command after.board.picture := by
  cases command with
  | draw kind sketch id =>
    obtain ⟨name, drawn, -⟩ := Action.returns_map.1 returned
    exact Action.effect_draw drawn
  | plot source domain points id variableName config =>
    obtain ⟨name, plotted, -⟩ := Action.returns_map.1 returned
    exact Action.effect_plot plotted
  | update id change => exact Action.effect_update returned
  | delete id => exact Action.effect_delete returned
  | clear => exact Action.effect_clear returned
  | resize width height => exact Action.effect_resize returned

end CurveBoard
