import CurveBoard.Proofs.Board.Returns

/-!
# Actions that fail

Where an action fails is read off from its parts as well: a sequence fails in its first step, or it
fails in the rest, on what the first step has made of the scene. Steps that only look at the scene
or change it never fail.
-/
namespace CurveBoard

namespace Action

/-- Whether an action on a scene fails and leaves another scene. -/
def Fails {α : Type} (x : Action α) (before : Scene) (fault : Fault) (after : Scene) : Prop :=
  x.outcome before = (.error fault, after)

section Fails

variable {α β : Type} {before after : Scene} {fault : Fault}

/-- An action fails unless it returns. -/
theorem returns_or_fails (x : Action α) (before : Scene) :
    (∃ a after, x.Returns before a after) ∨ ∃ fault after, x.Fails before fault after := by
  unfold Returns Fails
  rcases x.outcome before with ⟨fault | a, after⟩
  · exact .inr ⟨fault, after, rfl⟩
  · exact .inl ⟨a, after, rfl⟩

@[simp] theorem not_fails_pure {a : α} : ¬ Fails (pure a) before fault after := by
  intro failed
  cases failed

@[simp] theorem fails_bind {x : Action α} {f : α → Action β} :
    (x >>= f).Fails before fault after ↔
      x.Fails before fault after ∨ ∃ a middle, x.Returns before a middle ∧
        (f a).Fails middle fault after := by
  unfold Returns Fails
  rw [outcome_bind]
  rcases x.outcome before with ⟨_ | a, middle⟩ <;> simp [and_assoc]

@[simp] theorem fails_map {x : Action α} {f : α → β} :
    (f <$> x).Fails before fault after ↔ x.Fails before fault after := by
  rw [map_eq_pure_bind, fails_bind]
  simp

@[simp] theorem fails_throw {thrown : Fault} :
    Fails (throw thrown : Action α) before fault after ↔ thrown = fault ∧ before = after := by
  change (.error thrown, before) = ((.error fault, after) : Except Fault α × Scene) ↔ _
  simp

/-- Nothing is done after a fault. -/
theorem fails_throw_bind {thrown : Fault} {f : α → Action β} :
    (throw thrown >>= f).Fails before fault after ↔ thrown = fault ∧ before = after := by
  rw [fails_bind, fails_throw]
  simp

@[simp] theorem not_fails_get : ¬ Fails get before fault after := by
  intro failed
  cases failed

@[simp] theorem not_fails_set {scene : Scene} : ¬ Fails (set scene) before fault after := by
  intro failed
  cases failed

@[simp] theorem not_fails_modify {f : Scene → Scene} :
    ¬ Fails (modify f) before fault after := by
  intro failed
  cases failed

@[simp] theorem fails_ofExcept {ε : Type} {toFault : ε → Fault} {result : Except ε α} :
    (ofExcept toFault result).Fails before fault after ↔
      (∃ e, result = .error e ∧ toFault e = fault) ∧ before = after := by
  cases result <;> simp [ofExcept]

@[simp] theorem fails_ofWorked {use : Worked α} :
    (ofWorked use).Fails before fault after ↔
      (use before.workspace).1 = .error fault ∧
        { before with workspace := (use before.workspace).2 } = after := by
  simp [ofWorked]

@[simp] theorem not_fails_board : ¬ board.Fails before fault after := by simp [board]

@[simp] theorem not_fails_modifyBoard {f : Board → Board} :
    ¬ (modifyBoard f).Fails before fault after := by
  simp [modifyBoard]

@[simp] theorem not_fails_log {source : LogSource} {level : LogLevel} {message : String} :
    ¬ (log source level message).Fails before fault after := by
  simp [log]

end Fails

end Action

end CurveBoard
