import CurveBoard.Proofs.Board.Fails
import CurveBoard.Proofs.Board.Outline

/-!
# What failing operations leave behind

An operation that fails keeps what it has changed before. Most operations look at what they are
given first, and then nothing has changed but for a number that has been given away. There are three
exceptions: a new plot stays on the board though nothing is drawn of it, a plot keeps the settings
that were changed before the one at fault, and a frame is changed before the drawings are redrawn,
as far as that goes.
-/
namespace CurveBoard

/-- Whether a use of the workspace fails with a fault in some workspace. -/
def Refuses {α : Type} (use : Worked α) (fault : Fault) : Prop := ∃ w, (use w).1 = .error fault

/-! ### The effects of failures -/

/-- Not being able to draw something under an id. -/
inductive Undrawable (id : String) (p : Picture) : Drawing → Fault → Prop
  | shape {kind : DrawingKind} {s : Shape Float} {fault : ShapeFault Float}
      (refused : s.primitives p.viewport id = .error fault) :
        Undrawable id p (.shape kind s) (.shape fault)
  | missing (absent : p.plots.get? id = none) :
      Undrawable id p .plot (.board (.missingKey (quoted id)))
  | plot {plot : Plot} {dice : Dice} {fault : Fault} (found : p.plots.get? id = some plot)
      (refused : plot.sampled p.context dice = .error fault) : Undrawable id p .plot fault

/-- Changing the settings of a plot up to the one at fault, or all of them if it cannot be drawn
then. -/
inductive Interrupted (change : Action.PlotChange) (context : PlotContext) (fault : Fault)
    (before : Plot) : Plot → Prop
  | domain (refuses : Refuses (domainAfter change.domain before.domain) fault) :
      Interrupted change context fault before
        { before with curve := change.curve.getD before.curve }
  | points {domain : Option (Float × Float)}
      (reads_domain : Yields (domainAfter change.domain before.domain) domain)
      (refuses : Refuses (pointsAfter change.points before.points) fault) :
      Interrupted change context fault before
        { before with curve := change.curve.getD before.curve, domain := domain }
  | drawing {after : Plot} {dice : Dice} (changes : Changes change before after)
      (refused : after.sampled context dice = .error fault) :
        Interrupted change context fault before after

/-- The last result stays, whichever settings have been changed. -/
theorem Interrupted.result {change : Action.PlotChange} {context : PlotContext} {fault : Fault}
    {before after : Plot} (interrupted : Interrupted change context fault before after) :
    after.result = before.result := by
  cases interrupted with
  | domain refuses => rfl
  | points reads_domain refuses => rfl
  | drawing changes refused => exact changes.result.symm

namespace Board

/-- The board after a drawing without an id has been given one. -/
def named (b : Board) (kind : String) : Option String → Board
  | some _ => b
  | none => (b.nextId kind).2

section Named

variable (b : Board) (kind : String) (given : Option String)

@[simp] theorem plots_named : (b.named kind given).plots = b.plots := by cases given <;> rfl

@[simp] theorem desk_named : (b.named kind given).desk = b.desk := by cases given <;> rfl

@[simp] theorem context_named : (b.named kind given).context = b.context := by cases given <;> rfl

end Named

/-- Whether a size has been refused when all there was to look at was the size and the viewport. -/
def RefusesSize (b : Board) (width height : Value) (fault : Fault) : Prop :=
  Refuses (Action.readLength width) fault ∨
    ∃ x, Yields (Action.readLength width) x ∧
      let given := height.orElse (.real (x * b.viewport.height / b.viewport.width))
      (Refuses (Action.readLength given) fault ∨
        ∃ y refused, Yields (Action.readLength given) y ∧
        (b.viewport.resized x y).2 = .error refused ∧
          .viewport refused = fault)

/-- Whether a size asks for a viewport. -/
def AcceptsSize (b : Board) (width height : Value) (v : Viewport Float) : Prop :=
  ∃ x y, Yields (Action.readLength width) x ∧
    Yields (Action.readLength (height.orElse (.real (x * b.viewport.height / b.viewport.width))))
    y ∧ (b.viewport.resized x y).2 = .ok v

/-- The board in another viewport with nothing redrawn. -/
def reframed (b : Board) (v : Viewport Float) : Board :=
  { b with
      viewport := v, desk := { b.desk with canvas := (b.desk.canvas.resize v.width v.height).2 } }

end Board

namespace Action

/-- Draws some of the drawings anew. -/
def redrawing (entries : List (String × Entry Drawing Float)) : Action Unit :=
  onDesk fun build desk stage => desk.redrawFrom build entries stage

end Action

/-- What an operation that fails with a fault leaves behind. -/
inductive Failure (b : Board) (fault : Fault) : Command → Board → Prop
  | refused {command : Command} (noResize : command.isResize = false) : Failure b fault command b
  -- the id may have been made up already
  | undrawn {kind : DrawingKind} {sketch : Sketch} {id : Option String} :
      Failure b fault (.draw kind sketch id) (b.named kind.name id)
  | unread {source domain points variableName : Value} {id : Option String}
      {config : Option SamplerConfig} :
      Failure b fault (.plot source domain points id variableName config) (b.named "plot" id)
  -- the plot has been added, or changed, before it was to be drawn
  | newPlot {source domain points variableName : Value} {id : Option String}
      {config : Option SamplerConfig} {curve : Curve} {range : Option (Float × Float)}
      {count : Option Int}
      {name : String} (names : Names "plot" b.picture id name (b.named "plot" id).picture)
      (noPlot : b.plots.contains name = false)
      (free : id.isSome → b.desk.entries.contains name = false) :
      Failure b fault (.plot source domain points id variableName config)
        ((b.named "plot" id).setPlot name ⟨curve, range, count, config, none⟩)
  | oldPlot {source domain points variableName : Value} {id : Option String}
      {config : Option SamplerConfig} {curve : Curve} {plot plot' : Plot} {name : String}
      (resolves : Yields (Curve.resolve source variableName) curve)
      (names : Names "plot" b.picture id name (b.named "plot" id).picture)
      (found : b.plots.get? name = some plot)
      (interrupted :
        Interrupted ⟨some curve, domain, points, config⟩ b.context fault plot plot') :
      Failure b fault (.plot source domain points id variableName config)
        ((b.named "plot" id).setPlot name plot')
  | update {id : String} {change : Action.PlotChange} {plot plot' : Plot}
      (found : b.plots.get? id = some plot)
      (interrupted : Interrupted change b.context fault plot plot') :
      Failure b fault (.update id change) (b.setPlot id plot')
  -- the size is looked at first, then the canvas is resized, then the drawings are drawn anew
  | size {width height : Value} (refuses : b.RefusesSize width height fault) :
      Failure b fault (.resize width height) b
  | frame {width height : Value} {v : Viewport Float} {side : RefusedSide}
      (accepts : b.AcceptsSize width height v)
      (refused : (b.desk.canvas.resize v.width v.height).1 = .error side)
      (isFault : .side side = fault) :
      Failure b fault (.resize width height) (b.reframed v)
  | redrawing {width height : Value} {v : Viewport Float}
      {done rest : List (String × Entry Drawing Float)}
      {id : String} {entry : Entry Drawing Float} {w w' : Workspace} {after : Board}
      (accepts : b.AcceptsSize width height v)
      (entries : b.desk.entries.entries = done ++ (id, entry) :: rest)
      (redrawn : (Action.redrawing done).Returns ⟨b.reframed v, w⟩ () ⟨after, w'⟩)
      (undrawable : Undrawable id after.picture entry.drawing fault) :
      Failure b fault (.resize width height) after

namespace Desk

variable {κ α δ σ ε : Type} [Surface κ α]

/-- Redrawing that fails has redrawn what comes before some drawing, and that one cannot be
built. -/
theorem redrawFrom_failed {build : Builder σ δ ε α} {entries : List (String × Entry δ α)}
    {desk desk' : Desk κ δ α} {state state' : σ} {fault : ε}
    (failed : desk.redrawFrom build entries state = (.error fault, desk', state')) :
    ∃ done id entry rest middle state₁, entries = done ++ (id, entry) :: rest ∧
      desk.redrawFrom build done state = (.ok (), middle, state₁) ∧
      middle.upsert build id entry.drawing state₁ = (.error fault, desk', state') := by
  induction entries generalizing desk state with
  | nil => cases failed
  | cons first rest ih =>
    obtain ⟨id, entry⟩ := first
    unfold redrawFrom at failed
    split at failed
    next upserted =>
      cases failed
      exact ⟨[], id, entry, rest, desk, state, rfl, rfl, upserted⟩
    next desk₁ state₁ upserted =>
      obtain ⟨done, other, entry', rest', middle, state₂, rfl, redrawn, refused⟩ := ih failed
      refine ⟨(id, entry) :: done, other, entry', rest', middle, state₂, rfl, ?_, refused⟩
      rw [redrawFrom, upserted]
      exact redrawn

end Desk

namespace Action

variable {before after : Scene} {id : String} {fault : Fault}

theorem fails_onDesk
    {use : Builder Stage Drawing Fault Float → Desk Canvas Drawing Float → Stage →
      Except Fault Unit × Desk Canvas Drawing Float × Stage} :
    (onDesk use).Fails before fault after ↔
      ∃ desk stage, use (Drawing.build before.board.context) before.board.desk
          ⟨before.board.plots, before.workspace⟩ = (.error fault, desk, stage) ∧
        after = ⟨{ before.board with desk := desk, plots := stage.plots },
          stage.workspace⟩ := by
  simp only [onDesk, fails_bind, not_fails_get, returns_get, not_fails_set, returns_set,
    fails_ofExcept, false_or]
  constructor
  · rintro ⟨scene, middle, ⟨rfl, rfl⟩, -, middle, rfl, ⟨_, failed, rfl⟩, rfl⟩
    exact ⟨_, _, Prod.ext failed rfl, rfl⟩
  · rintro ⟨desk, stage, used, rfl⟩
    refine ⟨before, before, ⟨rfl, rfl⟩, (), _, rfl, ?_⟩
    rw [used]
    exact ⟨⟨fault, rfl, rfl⟩, rfl⟩

/-- What cannot be built leaves the desk and the plots as they are. -/
theorem undrawable_of_upsert {b : Board} {w : Workspace} {drawing : Drawing}
    {desk : Desk Canvas Drawing Float} {stage : Stage}
    (upserted : b.desk.upsert (Drawing.build b.context) id drawing ⟨b.plots, w⟩ =
      (.error fault, desk, stage)) :
    Undrawable id b.picture drawing fault ∧ desk = b.desk ∧ stage.plots = b.plots := by
  unfold Desk.upsert at upserted
  split at upserted
  next fault' stage' failed =>
    cases upserted
    unfold Drawing.build at failed
    split at failed
    next kind s =>
      rw [Prod.mk.injEq, mapError_eq_error] at failed
      obtain ⟨⟨refused, found, rfl⟩, rfl⟩ := failed
      exact ⟨.shape found, rfl, rfl⟩
    · split at failed
      next absent =>
        cases failed
        exact ⟨.missing absent, rfl, rfl⟩
      next plot found =>
        split at failed
        next left sampled =>
          cases failed
          rw [Prod.ext_iff, Plot.build_result] at sampled
          exact ⟨.plot found sampled.1, rfl, rfl⟩
        · cases failed
  · cases upserted

private theorem not_fails_logRendering : ¬ (logRendering id).Fails before fault after := by
  intro failed
  simp only [logRendering, fails_bind, not_fails_board, not_fails_get, false_or] at failed
  obtain ⟨b, _, -, scene, _, -, failed⟩ := failed
  split at failed
  · simp only [fails_bind, not_fails_modifyBoard, not_fails_log, false_or] at failed
    obtain ⟨_, _, -, _, _, -, failed⟩ := failed
    split at failed
    · simp at failed
    · simp at failed
  · split at failed
    · simp at failed
    · simp at failed

/-- Rendering fails only if there is nothing to render, or its sampling fails. -/
theorem fails_render (failed : (render id).Fails before fault after) :
    Undrawable id before.board.picture .plot fault ∧ after.board = before.board := by
  simp only [render, fails_bind, fails_onDesk, not_fails_board, false_or] at failed
  rcases failed with ⟨desk, stage, upserted, rfl⟩ | ⟨_, _, -, b, _, -, failed⟩
  · obtain ⟨undrawable, rfl, plots⟩ := undrawable_of_upsert upserted
    refine ⟨undrawable, ?_⟩
    rw [plots]
  · split at failed
    · exact absurd failed not_fails_logRendering
    · exact absurd failed not_fails_pure

private theorem board_of_drawingId {kind name : String} {given : Option String}
    (returned : (drawingId kind given).Returns before name after) :
    after.board = before.board.named kind given := by
  cases given with
  | some id =>
    obtain ⟨-, rfl⟩ := returns_pure.1 returned
    rfl
  | none =>
    simp only [drawingId, returns_bind, returns_board, returns_modifyBoard,
      returns_pure] at returned
    obtain ⟨b, -, ⟨rfl, rfl⟩, -, -, rfl, -, rfl⟩ := returned
    rfl

theorem not_fails_drawingId {kind : String} {given : Option String} :
    ¬ (drawingId kind given).Fails before fault after := by
  cases given <;> simp [drawingId]

private theorem failure_draw {kind : DrawingKind} {sketch : Sketch} {given : Option String}
    (failed : (draw kind sketch given).Fails before fault after) :
    Failure before.board fault (.draw kind sketch given) after.board := by
  simp only [draw, fails_bind, fails_ofExcept, returns_ofExcept, not_fails_drawingId,
    not_fails_board, returns_board, false_or] at failed
  rcases failed with ⟨-, rfl⟩ | ⟨tupled, _, ⟨-, rfl⟩, name, named, ids, b, _,
    ⟨rfl, rfl⟩, failed⟩
  · exact .refused rfl
  · -- from here on nothing but the number has changed
    have board := board_of_drawingId ids
    have unchanged : after.board = named.board := by
      split at failed
      · rw [(fails_throw_bind.1 failed).2]
      · simp only [fails_bind, fails_ofExcept, returns_ofExcept, fails_onDesk,
          not_fails_pure, and_false, exists_false, or_false] at failed
        rcases failed with ⟨-, rfl⟩ | ⟨s, _, ⟨-, rfl⟩, desk, stage, upserted, rfl⟩
        · rfl
        · obtain ⟨-, rfl, plots⟩ := undrawable_of_upsert upserted
          rw [plots]
    rw [unchanged, board]
    exact .undrawn

/-! ### Changing a plot -/

private theorem not_fails_modifyPlot {f : Plot → Plot} :
    ¬ (modifyPlot id f).Fails before fault after :=
  not_fails_modifyBoard

private theorem not_fails_changeCurve {given : Option Curve} :
    ¬ (changeCurve id given).Fails before fault after := by
  cases given with
  | some curve => exact not_fails_modifyPlot
  | none => exact not_fails_pure

private theorem not_fails_changeConfig {given : Option SamplerConfig} :
    ¬ (changeConfig id given).Fails before fault after := by
  cases given with
  | some config => exact not_fails_modifyPlot
  | none => exact not_fails_pure

/-- A domain that cannot be read changes nothing. -/
theorem fails_changeDomain {given : Value} (old : Option (Float × Float))
    (failed : (changeDomain id given).Fails before fault after) :
    Refuses (domainAfter given old) fault ∧ after.board = before.board := by
  unfold changeDomain at failed
  split at failed
  · exact absurd failed not_fails_pure
  next isGiven =>
    split at failed
    · exact absurd failed not_fails_modifyPlot
    next asked =>
      simp only [fails_bind, fails_ofWorked, not_fails_modifyPlot, and_false, exists_false,
        or_false] at failed
      obtain ⟨refused, rfl⟩ := failed
      refine ⟨⟨before.workspace, ?_⟩, rfl⟩
      rw [domainAfter, if_neg isGiven, if_neg asked]
      dsimp only
      rw [refused]
      rfl

/-- A count of points that cannot be read changes nothing. -/
theorem fails_changePoints {given : Value} (old : Option Int)
    (failed : (changePoints id given).Fails before fault after) :
    Refuses (pointsAfter given old) fault ∧ after.board = before.board := by
  unfold changePoints at failed
  split at failed
  · exact absurd failed not_fails_pure
  next isGiven =>
    simp only [fails_bind, fails_ofWorked, not_fails_modifyPlot, and_false, exists_false,
      or_false] at failed
    obtain ⟨refused, rfl⟩ := failed
    refine ⟨⟨before.workspace, ?_⟩, rfl⟩
    rw [pointsAfter, if_neg isGiven]
    exact refused

/-- A plot that cannot be drawn after a change has all the settings of the change. -/
theorem interrupted_of_render {change : PlotChange} {plot plot' : Plot} {b : Board}
    (changes : Changes change plot plot') (settings : before.board = b.setPlot id plot')
    (failed : (render id).Fails before fault after) :
    Interrupted change b.context fault plot plot' ∧ after.board = b.setPlot id plot' := by
  obtain ⟨undrawable, unchanged⟩ := fails_render failed
  refine ⟨?_, unchanged.trans settings⟩
  rw [settings] at undrawable
  have present := b.get?_setPlot_self id plot'
  cases undrawable with
  | missing absent =>
    change (b.setPlot id plot').plots.get? id = none at absent
    rw [present] at absent
    cases absent
  | plot found refused =>
    cases found.symm.trans present
    exact .drawing changes refused

private theorem fails_update {change : PlotChange}
    (failed : (update id change).Fails before fault after) :
    after.board = before.board ∨
      ∃ plot plot', before.board.plots.get? id = some plot ∧
        Interrupted change before.board.context fault plot plot' ∧
          after.board = before.board.setPlot id plot' := by
  simp only [update, fails_bind, not_fails_board, returns_board, false_or] at failed
  obtain ⟨b, _, ⟨rfl, rfl⟩, failed⟩ := failed
  split at failed
  · exact .inl (by rw [(fails_throw_bind.1 failed).2])
  next present =>
    obtain ⟨plot, found⟩ := Table.contains_iff.1 (by simpa using present)
    simp only [fails_bind, not_fails_changeCurve, not_fails_changeConfig, false_or] at failed
    obtain ⟨_, curved, curve_set, failed⟩ := failed
    have curve_eq := board_changeCurve found curve_set
    -- the first setting at fault is the domain or the count of points, or the plot cannot be drawn
    rcases failed with at_domain | ⟨_, ranged, domain_set,
      at_points | ⟨_, counted, points_set, _, configured, config_set, at_drawing⟩⟩
    · obtain ⟨refuses, unchanged⟩ := fails_changeDomain plot.domain at_domain
      exact .inr ⟨plot, _, found, .domain refuses, unchanged.trans curve_eq⟩
    · obtain ⟨domain, reads_domain, domain_eq⟩ :=
        board_changeDomain (found_of_setPlot curve_eq) domain_set
      obtain ⟨refuses, unchanged⟩ := fails_changePoints plot.points at_points
      rw [domain_eq, curve_eq, Board.setPlot_setPlot] at unchanged
      exact .inr ⟨plot, _, found, .points reads_domain refuses, unchanged⟩
    · obtain ⟨plot', changes, settings⟩ :=
        changes_of_settings found curve_set domain_set points_set config_set
      obtain ⟨interrupted, unchanged⟩ := interrupted_of_render changes settings at_drawing
      exact .inr ⟨plot, plot', found, interrupted, unchanged⟩

/-! ### Plotting -/

theorem board_of_plotId {given : Option String} {name : String}
    (returned : (plotId given).Returns before name after) :
    after.board = before.board.named "plot" given := by
  simp only [plotId, returns_bind, returns_board] at returned
  obtain ⟨b, _, ⟨rfl, rfl⟩, returned⟩ := returned
  split at returned
  · exact board_of_drawingId returned
  · split at returned
    · split at returned
      · obtain ⟨-, rfl⟩ := returns_pure.1 returned
        rfl
      · exact absurd returned not_returns_throw
    · obtain ⟨-, rfl⟩ := returns_pure.1 returned
      rfl

private theorem fails_plotId {given : Option String}
    (failed : (plotId given).Fails before fault after) :
    after.board = before.board := by
  simp only [plotId, fails_bind, not_fails_board, returns_board, false_or] at failed
  obtain ⟨b, _, ⟨rfl, rfl⟩, failed⟩ := failed
  split at failed
  · exact absurd failed not_fails_drawingId
  · split at failed
    · split at failed
      · exact absurd failed not_fails_pure
      · rw [(fails_throw.1 failed).2]
    · exact absurd failed not_fails_pure

theorem not_fails_warnIfDegenerate {curve : Curve} :
    ¬ (warnIfDegenerate id curve).Fails before fault after := by
  intro failed
  simp only [warnIfDegenerate, fails_bind, not_fails_board, false_or] at failed
  obtain ⟨b, _, -, failed⟩ := failed
  split at failed
  · exact not_fails_modify failed
  · exact not_fails_pure failed

/-- A new plot is put on the board once its settings have been read. -/
theorem fails_addPlot {curve : Curve} {domain points : Value} {config : Option SamplerConfig}
    (failed : (addPlot id curve domain points config).Fails before fault after) :
    after.board = before.board ∨
      ∃ range count, after.board =
        before.board.setPlot id ⟨curve, range, count, config, none⟩ := by
  simp only [addPlot, fails_bind, fails_ofWorked, returns_ofWorked, not_fails_modifyBoard,
    returns_modifyBoard, false_or] at failed
  rcases failed with ⟨-, rfl⟩ | ⟨range, _, ⟨-, rfl⟩, ⟨-, rfl⟩ |
    ⟨count, _, ⟨-, rfl⟩, _, _, rfl, failed⟩⟩
  · exact .inl rfl
  · exact .inl rfl
  · obtain ⟨-, unchanged⟩ := fails_render failed
    exact .inr ⟨range, count, unchanged⟩

private theorem failure_plot {source domain points variableName : Value} {given : Option String}
    {config : Option SamplerConfig}
    (failed : (plot source domain points given variableName config).Fails before fault after) :
    Failure before.board fault (.plot source domain points given variableName config)
      after.board := by
  simp only [plot, fails_bind, fails_ofWorked, returns_ofWorked, not_fails_board, returns_board,
    false_or] at failed
  rcases failed with ⟨-, rfl⟩ | ⟨curve, _, ⟨resolved, rfl⟩,
    unnamed | ⟨name, named, ids, b, _, ⟨rfl, rfl⟩, failed⟩⟩
  · exact .refused rfl
  · rw [fails_plotId unnamed]
    exact .refused rfl
  · obtain ⟨names, free⟩ := names_of_plotId ids
    have board := board_of_plotId ids
    rw [board] at names free
    simp only [Board.plots_named, Board.desk_named] at free
    -- an id that is taken by a plot means an update
    split at failed
    · simp only [fails_bind, not_fails_warnIfDegenerate, not_fails_pure, and_false, exists_false,
        or_false] at failed
      rcases fails_update failed with unchanged | ⟨plot, plot', found, interrupted, changed⟩
      · rw [unchanged, board]
        exact .unread
      · rw [board, Board.plots_named] at found
        rw [board, Board.context_named] at interrupted
        rw [changed, board]
        exact .oldPlot ⟨_, resolved⟩ names found interrupted
    next noPlot =>
      simp only [fails_bind, not_fails_warnIfDegenerate, not_fails_pure, and_false, exists_false,
        or_false] at failed
      have noPlot' := Bool.eq_false_iff.2 noPlot
      rw [board, Board.plots_named] at noPlot'
      rcases fails_addPlot failed with unchanged | ⟨range, count, changed⟩
      · rw [unchanged, board]
        exact .unread
      · rw [changed, board]
        exact .newPlot names noPlot' fun isGiven => free isGiven noPlot'

/-! ### Deleting and resizing -/

private theorem fails_delete (failed : (delete id).Fails before fault after) :
    after.board = before.board := by
  simp only [delete, fails_bind, not_fails_board, returns_board, false_or] at failed
  obtain ⟨b, _, ⟨rfl, rfl⟩, failed⟩ := failed
  split at failed
  · rw [(fails_throw_bind.1 failed).2]
  · exact absurd failed not_fails_modifyBoard

/-- A canvas may have changed although it has refused a side. -/
theorem fails_resizeCanvas {width height : Float}
    (failed : (resizeCanvas width height).Fails before fault after) :
    (∃ side, (before.board.desk.canvas.resize width height).1 = .error side ∧
      .side side = fault) ∧
    after.board = { before.board with desk :=
      ⟨before.board.desk.entries, (before.board.desk.canvas.resize width height).2⟩ } := by
  simp only [resizeCanvas, fails_bind, not_fails_board, returns_board, not_fails_modifyBoard,
    returns_modifyBoard, fails_ofExcept, false_or] at failed
  obtain ⟨b, _, ⟨rfl, rfl⟩, _, _, rfl, isSide, rfl⟩ := failed
  exact ⟨isSide, rfl⟩

/-- A desk is redrawn up to the first drawing that cannot be drawn. -/
theorem fails_redraw (failed : (onDesk Desk.redraw).Fails before fault after) :
    ∃ done id entry rest w, before.board.desk.entries.entries = done ++ (id, entry) :: rest ∧
      (redrawing done).Returns before () ⟨after.board, w⟩ ∧
      Undrawable id after.board.picture entry.drawing fault := by
  obtain ⟨desk, stage, stopped, rfl⟩ := fails_onDesk.1 failed
  obtain ⟨done, id, entry, rest, middle, stage', entries, redrawn, refused⟩ :=
    Desk.redrawFrom_failed stopped
  -- the board in between is the one that is left, since what cannot be drawn changes nothing
  let between : Board := { before.board with desk := middle, plots := stage'.plots }
  obtain ⟨undrawable, rfl, plots⟩ := undrawable_of_upsert (b := between) refused
  rw [plots]
  refine ⟨done, id, entry, rest, stage'.workspace, entries, ?_, undrawable⟩
  exact returns_onDesk.2 ⟨_, _, redrawn, rfl⟩

theorem failure_resize {width height : Value}
    (failed : (resize width height).Fails before fault after) :
    Failure before.board fault (.resize width height) after.board := by
  simp only [resize, fails_bind, fails_ofWorked, returns_ofWorked, not_fails_board, returns_board,
    not_fails_modifyBoard, returns_modifyBoard, not_fails_log, false_or, and_false, exists_false,
    or_false] at failed
  rcases failed with ⟨refused, rfl⟩ | ⟨x, _, ⟨width_read, rfl⟩, _, _,
    ⟨rfl, rfl⟩, failed⟩
  · exact .size (.inl ⟨_, refused⟩)
  · rcases failed with ⟨refused, rfl⟩ | ⟨y, _, ⟨height_read, rfl⟩, failed⟩
    · exact .size (.inr ⟨x, ⟨_, width_read⟩, .inl ⟨_, refused⟩⟩)
    · rcases failed with ⟨refused, rfl⟩ | ⟨v, _, ⟨framed, rfl⟩, _, _, rfl, failed⟩
      · obtain ⟨reason, refused, isFault⟩ := mapError_eq_error.1 refused
        exact .size (.inr ⟨x, ⟨_, width_read⟩,
          .inr ⟨y, reason, ⟨_, height_read⟩, refused, isFault⟩⟩)
      · have accepts : before.board.AcceptsSize width height v :=
          ⟨x, y, ⟨_, width_read⟩, ⟨_, height_read⟩, mapError_eq_ok.1 framed⟩
        -- the viewport is the new one from here on
        rcases failed with canvas | ⟨_, framed', canvas, failed⟩
        · obtain ⟨⟨side, refused, isFault⟩, left⟩ := fails_resizeCanvas canvas
          rw [left]
          exact .frame accepts refused isFault
        · have left := board_resizeCanvas canvas
          obtain ⟨done, id, entry, rest, w, entries, redrawn, undrawable⟩ := fails_redraw failed
          obtain ⟨b, w'⟩ := framed'
          obtain rfl : b = before.board.reframed v := left
          exact .redrawing accepts entries redrawn undrawable

end Action

/-- What a command that fails leaves behind is one of these boards. -/
theorem Command.failure {command : Command} {before after : Scene} {fault : Fault}
    (failed : command.perform.Fails before fault after) :
    Failure before.board fault command after.board := by
  cases command with
  | draw kind sketch id => exact Action.failure_draw (Action.fails_map.1 failed)
  | plot source domain points id variableName config =>
    exact Action.failure_plot (Action.fails_map.1 failed)
  | update id change =>
    rcases Action.fails_update failed with unchanged |
      ⟨plot, plot', found, interrupted, changed⟩
    · rw [unchanged]
      exact .refused rfl
    · rw [changed]
      exact .update found interrupted
  | delete id =>
    rw [Action.fails_delete failed]
    exact .refused rfl
  | clear => exact absurd failed Action.not_fails_modifyBoard
  | resize width height => exact Action.failure_resize failed

end CurveBoard
