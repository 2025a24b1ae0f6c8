import CurveBoard.Proofs.Board.Pairing
import Mathlib.Logic.Relation

/-!
# Commands step by step

A command changes a board one thing after the other, and it may fail after any of them. Whether it
returns or fails, the board that it leaves is reached by the same few steps; deleting and clearing
take a single one of their own. What every step keeps, every session keeps.
-/
namespace CurveBoard

open Relation

namespace Board

/-- A change of a board on the way of a command that takes nothing off. -/
inductive Step (b : Board) : Board → Prop
  | count (counters : Table Nat) : Step b { b with counters := counters }
  | note (lastInfo lastDebug : Float) :
      Step b { b with lastInfo := lastInfo, lastDebug := lastDebug }
  | addPlot {id : String} {curve : Curve} {domain : Option (Float × Float)} {points : Option Int}
      {config : Option SamplerConfig} {given : Value} (reads : Yields (readPoints given) points) :
      Step b (b.setPlot id ⟨curve, domain, points, config, none⟩)
  | setPlot {id : String} {plot plot' : Plot} (found : b.plots.get? id = some plot)
      (result : plot'.result = plot.result)
      (points : plot'.points = plot.points ∨ ∃ given, Yields (readPoints given) plot'.points) :
      Step b (b.setPlot id plot')
  | draw {id : String} {drawing : Drawing} {primitives : List (Primitive Float)} {w : Workspace}
      {stage : Stage}
      (built : Drawing.build b.context id drawing ⟨b.plots, w⟩ = (.ok primitives, stage)) :
      Step b { b with desk := b.desk.put id drawing primitives, plots := stage.plots }
  | frame {width height : Float} {v : Viewport Float}
      (resized : (b.viewport.resized width height).2 = .ok v) :
      Step b { b with viewport := v }
  | canvas (width height : Float) :
      Step b { b with desk := { b.desk with canvas := (b.desk.canvas.resize width height).2 } }

def deleted (b : Board) (id : String) : Board :=
  { b with desk := b.desk.delete id, plots := b.plots.erase id }

/-- The boards that a command may lead to from a board. -/
inductive Leads (b : Board) : Board → Prop
  | steps {b' : Board} (steps : ReflTransGen Step b b') : Leads b b'
  | deleted (id : String) : Leads b (b.deleted id)
  | cleared : Leads b b.cleared

end Board

namespace Action

variable {α β : Type} {before after : Scene} {id : String}

/-- Whether an action gets by steps from a board to the one it leaves, be it that it returns or that
it fails. -/
def Moves (x : Action α) (before : Scene) : Prop :=
  ReflTransGen Board.Step before.board (x.outcome before).2.board

private theorem moves_of {x : Action α}
    (returned : ∀ a after, x.Returns before a after →
      ReflTransGen Board.Step before.board after.board)
    (failed : ∀ fault after, x.Fails before fault after →
      ReflTransGen Board.Step before.board after.board) :
    x.Moves before := by
  unfold Moves
  rcases x.returns_or_fails before with ⟨a, after, outcome⟩ | ⟨fault, after, outcome⟩
  · have moved := returned a after outcome
    rwa [outcome]
  · have moved := failed fault after outcome
    rwa [outcome]

theorem Moves.steps {x : Action α} {a : α} (moves : x.Moves before)
    (returned : x.Returns before a after) :
    ReflTransGen Board.Step before.board after.board := by
  unfold Moves at moves
  rwa [returned] at moves

private theorem moves_bind {x : Action α} {f : α → Action β} (first : x.Moves before)
    (rest : ∀ a middle, x.Returns before a middle → (f a).Moves middle) :
    (x >>= f).Moves before := by
  refine moves_of (fun b after returned => ?_) fun fault after failed => ?_
  · obtain ⟨a, middle, returned, rest_returned⟩ := returns_bind.1 returned
    exact (first.steps returned).trans ((rest a middle returned).steps rest_returned)
  · rcases fails_bind.1 failed with failed | ⟨a, middle, returned, rest_failed⟩
    · unfold Moves at first
      rwa [failed] at first
    · have moved := rest a middle returned
      unfold Moves at moved
      rw [rest_failed] at moved
      exact (first.steps returned).trans moved

@[simp] theorem moves_pure {a : α} : Moves (pure a) before := .refl

@[simp] theorem moves_throw {fault : Fault} : Moves (throw fault : Action α) before := .refl

@[simp] theorem moves_get : Moves get before := .refl

@[simp] theorem moves_board : board.Moves before := .refl

@[simp] theorem moves_log {source : LogSource} {level : LogLevel} {message : String} :
    (log source level message).Moves before := .refl

@[simp] theorem moves_ofExcept {ε : Type} {fault : ε → Fault} {result : Except ε α} :
    (ofExcept fault result).Moves before := by
  cases result <;> exact .refl

@[simp] theorem moves_ofWorked {use : Worked α} : (ofWorked use).Moves before := by
  refine moves_of (fun a after returned => ?_) fun fault after failed => ?_
  · obtain ⟨-, rfl⟩ := returns_ofWorked.1 returned
    exact .refl
  · obtain ⟨-, rfl⟩ := fails_ofWorked.1 failed
    exact .refl

private theorem moves_modifyBoard {f : Board → Board}
    (step : ReflTransGen Board.Step before.board (f before.board)) :
    (modifyBoard f).Moves before := step

/-! ### Drawing -/

/-- Building a shape leaves the plots as they are, and building a plot leaves its result there. -/
theorem build_eq_ok {context : PlotContext} {drawing : Drawing} {stage stage' : Stage}
    {primitives : List (Primitive Float)}
    (built : drawing.build context id stage = (.ok primitives, stage')) :
    (∃ kind s, drawing = .shape kind s ∧ s.primitives context.viewport id = .ok primitives ∧
        stage'.plots = stage.plots) ∨
      ∃ plot result, drawing = .plot ∧ primitives = [Plot.primitive context id result] ∧
        stage.plots.get? id = some plot ∧
          stage'.plots = stage.plots.insert id { plot with result := some result } := by
  unfold Drawing.build at built
  split at built
  next kind s =>
    rw [Prod.mk.injEq, mapError_eq_ok] at built
    obtain ⟨built, rfl⟩ := built
    exact .inl ⟨kind, s, rfl, built, rfl⟩
  · split at built
    · cases built
    next plot found =>
      split at built <;> cases built
      next result left sampled => exact .inr ⟨plot, result, rfl, rfl, found, rfl⟩

/-- Putting a drawing on the desk is one step, or none if it cannot be built. -/
theorem steps_upsert (b : Board) (id : String) (drawing : Drawing) (w : Workspace) :
    let (_, desk, stage) := b.desk.upsert (Drawing.build b.context) id drawing ⟨b.plots, w⟩
    ReflTransGen Board.Step b { b with desk := desk, plots := stage.plots } := by
  rcases upserted : b.desk.upsert (Drawing.build b.context) id drawing ⟨b.plots, w⟩
    with ⟨fault | u, desk, stage⟩
  · obtain ⟨-, rfl, plots⟩ := undrawable_of_upsert upserted
    dsimp only
    rw [plots]
  · unfold Desk.upsert at upserted
    split at upserted <;> cases upserted
    next built => exact .single (.draw built)

private theorem moves_upsert {drawing : Drawing} :
    (onDesk fun build => Desk.upsert build id drawing).Moves before := by
  have steps := steps_upsert before.board id drawing before.workspace
  refine moves_of (fun a after returned => ?_) fun fault after failed => ?_
  · obtain ⟨desk, stage, upserted, rfl⟩ := returns_onDesk.1 returned
    rwa [upserted] at steps
  · obtain ⟨desk, stage, upserted, rfl⟩ := fails_onDesk.1 failed
    rwa [upserted] at steps

private theorem steps_redrawFrom (entries : List (String × Entry Drawing Float)) (b : Board)
    (w : Workspace) :
    let (_, desk, stage) := b.desk.redrawFrom (Drawing.build b.context) entries ⟨b.plots, w⟩
    ReflTransGen Board.Step b { b with desk := desk, plots := stage.plots } := by
  -- redrawing stops at the first drawing that cannot be built
  induction entries generalizing b w with
  | nil => exact .refl
  | cons entry rest ih =>
    obtain ⟨id, entry⟩ := entry
    have first := steps_upsert b id entry.drawing w
    unfold Desk.redrawFrom
    rcases upserted : b.desk.upsert (Drawing.build b.context) id entry.drawing ⟨b.plots, w⟩ with
      ⟨fault | u, desk, stage⟩
    · rwa [upserted] at first
    · rw [upserted] at first
      exact first.trans (ih { b with desk := desk, plots := stage.plots } stage.workspace)

private theorem moves_redraw : (onDesk Desk.redraw).Moves before := by
  have steps := steps_redrawFrom before.board.desk.entries.entries before.board before.workspace
  refine moves_of (fun a after returned => ?_) fun fault after failed => ?_
  · obtain ⟨desk, stage, redrawn, rfl⟩ := returns_onDesk.1 returned
    change before.board.desk.redrawFrom _ _ _ = _ at redrawn
    rwa [redrawn] at steps
  · obtain ⟨desk, stage, redrawn, rfl⟩ := fails_onDesk.1 failed
    change before.board.desk.redrawFrom _ _ _ = _ at redrawn
    rwa [redrawn] at steps

private theorem moves_drawingId {kind : String} {given : Option String} :
    (drawingId kind given).Moves before := by
  cases given with
  | some id => exact .refl
  | none =>
    refine moves_bind moves_board fun b middle returned => ?_
    obtain ⟨rfl, rfl⟩ := returns_board.1 returned
    exact moves_bind (moves_modifyBoard (.single (.count _))) fun _ _ _ => moves_pure

private theorem moves_draw {kind : DrawingKind} {sketch : Sketch} {given : Option String} :
    (draw kind sketch given).Moves before := by
  refine moves_bind moves_ofExcept fun tupled _ _ => moves_bind moves_drawingId fun name _ _ =>
    moves_bind moves_board fun b _ _ => ?_
  split
  · exact moves_bind moves_throw fun _ _ _ => moves_bind moves_ofExcept fun _ _ _ =>
      moves_bind moves_upsert fun _ _ _ => moves_pure
  · exact moves_bind moves_ofExcept fun _ _ _ => moves_bind moves_upsert fun _ _ _ => moves_pure

private theorem moves_logRendering : (logRendering id).Moves before := by
  refine moves_bind moves_board fun b _ _ => moves_bind moves_get fun scene _ _ => ?_
  dsimp only
  -- each of the two records is written or not
  split
  · refine moves_bind (moves_modifyBoard (.single (.note _ _))) fun _ _ _ =>
      moves_bind moves_log fun _ _ _ => ?_
    split
    · exact moves_bind (moves_modifyBoard (.single (.note _ _))) fun _ _ _ => moves_log
    · exact moves_pure
  · split
    · exact moves_bind (moves_modifyBoard (.single (.note _ _))) fun _ _ _ => moves_log
    · exact moves_pure

private theorem moves_render : (render id).Moves before := by
  refine moves_bind moves_upsert fun _ _ _ => moves_bind moves_board fun b _ _ => ?_
  split
  · exact moves_logRendering
  · exact moves_pure

/-! ### Plots -/

private theorem moves_modifyPlot {f : Plot → Plot}
    (result : ∀ plot, (f plot).result = plot.result)
    (points : (∀ plot, (f plot).points = plot.points) ∨
      ∃ given, ∀ plot, Yields (readPoints given) (f plot).points) :
    (modifyPlot id f).Moves before := by
  refine moves_modifyBoard ?_
  cases found : before.board.plots.get? id with
  | none => exact .refl
  | some plot =>
    refine .single (.setPlot found (result plot) ?_)
    rcases points with same | ⟨given, reads⟩
    · exact .inl (same plot)
    · exact .inr ⟨given, reads plot⟩

private theorem moves_changeCurve {given : Option Curve} : (changeCurve id given).Moves before := by
  cases given with
  | some curve => exact moves_modifyPlot (fun _ => rfl) (.inl fun _ => rfl)
  | none => exact moves_pure

private theorem moves_changeConfig {given : Option SamplerConfig} :
    (changeConfig id given).Moves before := by
  cases given with
  | some config => exact moves_modifyPlot (fun _ => rfl) (.inl fun _ => rfl)
  | none => exact moves_pure

private theorem moves_changeDomain {given : Value} : (changeDomain id given).Moves before := by
  unfold changeDomain
  split
  · exact moves_pure
  · split
    · exact moves_modifyPlot (fun _ => rfl) (.inl fun _ => rfl)
    · exact moves_bind moves_ofWorked fun domain _ _ =>
        moves_modifyPlot (fun _ => rfl) (.inl fun _ => rfl)

private theorem moves_changePoints {given : Value} : (changePoints id given).Moves before := by
  unfold changePoints
  split
  · exact moves_pure
  · refine moves_bind moves_ofWorked fun points middle returned => ?_
    obtain ⟨read, -⟩ := returns_ofWorked.1 returned
    exact moves_modifyPlot (fun _ => rfl) (.inr ⟨given, fun _ => ⟨_, read⟩⟩)

private theorem moves_update {change : PlotChange} : (update id change).Moves before := by
  have changes (scene : Scene) : (do
      changeCurve id change.curve
      changeDomain id change.domain
      changePoints id change.points
      changeConfig id change.config
      render id : Action Unit).Moves scene :=
    moves_bind moves_changeCurve fun _ _ _ => moves_bind moves_changeDomain fun _ _ _ =>
      moves_bind moves_changePoints fun _ _ _ =>
        moves_bind moves_changeConfig fun _ _ _ => moves_render
  refine moves_bind moves_board fun b _ _ => ?_
  split
  · exact moves_bind moves_throw fun _ _ _ => changes _
  · exact changes _

private theorem moves_addPlot {curve : Curve} {domain points : Value}
    {config : Option SamplerConfig} :
    (addPlot id curve domain points config).Moves before := by
  refine moves_bind moves_ofWorked fun range _ _ =>
    moves_bind moves_ofWorked fun count middle returned => ?_
  obtain ⟨read, -⟩ := returns_ofWorked.1 returned
  exact moves_bind (moves_modifyBoard (.single (.addPlot ⟨_, read⟩))) fun _ _ _ => moves_render

private theorem moves_plotId {given : Option String} : (plotId given).Moves before := by
  refine moves_bind moves_board fun b _ _ => ?_
  split
  · exact moves_drawingId
  · split
    · split
      · exact moves_pure
      · exact moves_throw
    · exact moves_pure

private theorem moves_warnIfDegenerate {curve : Curve} :
    (warnIfDegenerate id curve).Moves before := by
  refine moves_bind moves_board fun b _ _ => ?_
  dsimp only
  split
  · exact .refl
  · exact moves_pure

private theorem moves_plot {source domain points variableName : Value} {given : Option String}
    {config : Option SamplerConfig} :
    (plot source domain points given variableName config).Moves before := by
  refine moves_bind moves_ofWorked fun curve _ _ => moves_bind moves_plotId fun name _ _ =>
    moves_bind moves_board fun b _ _ => ?_
  split
  · exact moves_bind moves_update fun _ _ _ =>
      moves_bind moves_warnIfDegenerate fun _ _ _ => moves_pure
  · exact moves_bind moves_addPlot fun _ _ _ =>
      moves_bind moves_warnIfDegenerate fun _ _ _ => moves_pure

/-! ### Frames -/

private theorem moves_resizeCanvas {width height : Float} :
    (resizeCanvas width height).Moves before := by
  refine moves_bind moves_board fun b middle returned => ?_
  obtain ⟨rfl, rfl⟩ := returns_board.1 returned
  exact moves_bind (moves_modifyBoard (.single (.canvas width height))) fun _ _ _ => moves_ofExcept

private theorem moves_resize {width height : Value} : (resize width height).Moves before := by
  refine moves_bind moves_ofWorked fun x _ width_read =>
    moves_bind moves_board fun b _ current => ?_
  obtain ⟨-, rfl⟩ := returns_ofWorked.1 width_read
  obtain ⟨rfl, rfl⟩ := returns_board.1 current
  refine moves_bind moves_ofWorked fun y _ height_read =>
    moves_bind moves_ofWorked fun v _ framing => ?_
  obtain ⟨-, rfl⟩ := returns_ofWorked.1 height_read
  obtain ⟨framed, rfl⟩ := returns_ofWorked.1 framing
  exact moves_bind (moves_modifyBoard (.single (.frame (mapError_eq_ok.1 framed)))) fun _ _ _ =>
    moves_bind moves_resizeCanvas fun _ _ _ => moves_bind moves_redraw fun _ _ _ =>
    moves_bind moves_board fun _ _ _ => moves_bind moves_log fun _ _ _ => moves_log

end Action

/-- Whether it returns or fails, a command leads on by these steps. -/
theorem Command.leads (command : Command) (before : Scene) :
    before.board.Leads (command.perform.outcome before).2.board := by
  have moved {α : Type} {x : Action α} (moves : x.Moves before) :
      before.board.Leads (((fun _ => ()) <$> x).outcome before).2.board := by
    rw [map_eq_pure_bind]
    exact .steps (Action.moves_bind moves fun _ _ _ => Action.moves_pure)
  -- an action that fails has moved on as well, so only a deletion needs to be told apart
  cases command with
  | draw kind sketch id => exact moved Action.moves_draw
  | plot source domain points id variableName config => exact moved Action.moves_plot
  | update id change => exact .steps Action.moves_update
  | clear => exact .cleared
  | resize width height => exact .steps Action.moves_resize
  | delete id =>
    cases present : before.board.desk.entries.contains id with
    | true =>
      have returned := Action.returns_delete present before.workspace
      change (Action.delete id).outcome before = _ at returned
      change before.board.Leads ((Action.delete id).outcome before).2.board
      rw [returned]
      exact .deleted id
    | false =>
      have failed := Action.fails_delete_of_absent present before.workspace
      change (Action.delete id).outcome before = _ at failed
      change before.board.Leads ((Action.delete id).outcome before).2.board
      rw [failed]
      exact .steps .refl

/-- What new boards have and every step keeps, all boards have after any commands. -/
theorem Session.invariant {options : BoardOptions} {sampler : SamplerConfig} {P : Board → Prop}
    (created : ∀ id canvas debug w b, (Board.create id options sampler canvas debug w).1 =
      .ok b → P b)
    (step : ∀ b b', b.Step b' → P b → P b') (deleted : ∀ b id, P b → P (b.deleted id))
    (cleared : ∀ b, P b → P b.cleared) {failures : List Command} {b : Board}
    (session : Session options sampler failures b) : P b := by
  have leads {b b' : Board} (leads : b.Leads b') (holds : P b) : P b' := by
    cases leads with
    | steps steps =>
      induction steps with
      | refl => exact holds
      | tail _ last ih => exact step _ _ last ih
    | deleted id => exact deleted _ id holds
    | cleared => exact cleared _ holds
  induction session with
  | created returned => exact created _ _ _ _ _ returned
  | @returned failures command b b' w w' earlier returned ih =>
    have led := command.leads ⟨b, w⟩
    rw [returned] at led
    exact leads led ih
  | @failed failures command b b' w w' fault earlier failed ih =>
    have led := command.leads ⟨b, w⟩
    rw [failed] at led
    exact leads led ih

end CurveBoard
