import CurveBoard.Board.Action
import CurveBoard.Proofs.Except

/-!
# Actions that return

What an action that returns has done is read off from its parts: a sequence returns if every step
does, a step that throws never returns, and everything else says what it makes of the scene.
-/
namespace CurveBoard

namespace Action

/-- What an action makes of a scene. -/
def outcome {α : Type} (x : Action α) (before : Scene) : Except Fault α × Scene := x.run before

/-- Whether an action on a scene returns a value and leaves another scene. -/
def Returns {α : Type} (x : Action α) (before : Scene) (a : α) (after : Scene) : Prop :=
  x.outcome before = (.ok a, after)

section Returns

variable {α β : Type} {before after : Scene}

@[simp] theorem returns_pure {a b : α} :
    Returns (pure a) before b after ↔ a = b ∧ before = after := by
  change (.ok a, before) = ((.ok b, after) : Except Fault α × Scene) ↔ _
  simp

theorem outcome_bind (x : Action α) (f : α → Action β) (before : Scene) :
    (x >>= f).outcome before =
      match x.outcome before with
      | (.ok a, middle) => (f a).outcome middle
      | (.error e, middle) => (.error e, middle) := by
  change (ExceptT.bindCont f (x.outcome before).1).run (x.outcome before).2 = _
  rcases x.outcome before with ⟨_ | a, middle⟩ <;> rfl

@[simp] theorem returns_bind {x : Action α} {f : α → Action β} {b : β} :
    (x >>= f).Returns before b after ↔ ∃ a middle, x.Returns before a middle ∧
      (f a).Returns middle b after := by
  unfold Returns
  rw [outcome_bind]
  rcases x.outcome before with ⟨_ | a, middle⟩ <;> simp [and_assoc]

@[simp] theorem returns_map {x : Action α} {f : α → β} {b : β} :
    (f <$> x).Returns before b after ↔ ∃ a, x.Returns before a after ∧ f a = b := by
  rw [map_eq_pure_bind, returns_bind]
  simp

@[simp] theorem not_returns_throw {fault : Fault} {a : α} :
    ¬ Returns (throw fault) before a after := by
  intro returned
  cases returned

@[simp] theorem returns_get {scene : Scene} :
    Returns get before scene after ↔ before = scene ∧ before = after := by
  change (.ok before, before) = ((.ok scene, after) : Except Fault Scene × Scene) ↔ _
  simp

@[simp] theorem returns_set {scene : Scene} {u : Unit} :
    Returns (set scene) before u after ↔ scene = after := by
  change (.ok (), scene) = ((.ok u, after) : Except Fault Unit × Scene) ↔ _
  simp

@[simp] theorem returns_modify {f : Scene → Scene} {u : Unit} :
    Returns (modify f) before u after ↔ f before = after := by
  change (.ok (), f before) = ((.ok u, after) : Except Fault Unit × Scene) ↔ _
  simp

@[simp] theorem returns_ofExcept {ε : Type} {fault : ε → Fault} {result : Except ε α}
    {a : α} :
    (ofExcept fault result).Returns before a after ↔ result = .ok a ∧ before = after := by
  cases result <;> simp [ofExcept]

@[simp] theorem returns_ofWorked {use : Worked α} {a : α} :
    (ofWorked use).Returns before a after ↔
      (use before.workspace).1 = .ok a ∧
      { before with workspace := (use before.workspace).2 } = after := by
  simp [ofWorked]

@[simp] theorem returns_board {b : Board} :
    board.Returns before b after ↔ before.board = b ∧ before = after := by
  simp [board, and_comm]

@[simp] theorem returns_modifyBoard {f : Board → Board} {u : Unit} :
    (modifyBoard f).Returns before u after ↔ { before with board := f before.board } = after := by
  simp [modifyBoard]

@[simp] theorem returns_log {source : LogSource} {level : LogLevel} {message : String} {u : Unit} :
    (log source level message).Returns before u after ↔
      { before with workspace := before.workspace.log source level message } = after := by
  simp [log]

end Returns

end Action

end CurveBoard
