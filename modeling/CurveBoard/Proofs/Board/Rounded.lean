import CurveBoard.Proofs.Board.Steps
import CurveBoard.Proofs.Shape.Rounded

/-!
# Boards in hundredths of a pixel

What a drawing puts on the canvas has rounded numbers only, and different ids, be it a shape or a
plot, and in whatever viewport. So it is with all that a board has on its desk, whatever has been
done to it.
-/
namespace CurveBoard

variable {context : PlotContext} {id : String} {drawing : Drawing} {stage stage' : Stage}
  {primitives : List (Primitive Float)}

private theorem Plot.isRounded_primitive (context : PlotContext) (id : String)
    (result : SampledCurve Float) :
    (Plot.primitive context id result).IsRounded :=
  Primitive.isRounded_polylines.2 (List.forall_mem_map.2 fun _ _ =>
    isRoundedPath_map_roundedPoint _ _)

theorem Drawing.areRounded (built : drawing.build context id stage = (.ok primitives, stage')) :
    AreRounded primitives := by
  rcases Action.build_eq_ok built with ⟨kind, s, -, shown, -⟩ | ⟨plot, result, -, rfl, -⟩
  · exact s.areRounded shown
  · exact List.forall_mem_singleton.2 (Plot.isRounded_primitive context id result)

theorem Drawing.areParts (built : drawing.build context id stage = (.ok primitives, stage')) :
    AreParts id primitives := by
  rcases Action.build_eq_ok built with ⟨kind, s, -, shown, -⟩ | ⟨plot, result, -, rfl, -⟩
  · exact s.areParts shown
  · exact .singleton rfl

/-- Whatever drawing is built, in whatever viewport: rounding to hundredths leaves every coordinate
of a path, every center, radius and size of its primitives as it is, and no two of them have one
id. -/
theorem Drawing.build_rounded (built : drawing.build context id stage = (.ok primitives, stage')) :
    (∀ p ∈ primitives, p.IsRounded) ∧ (primitives.map Primitive.id).Nodup :=
  ⟨Drawing.areRounded built, (Drawing.areParts built).ids_nodup⟩

/-- The three primitives of a segment that starts with a disc and ends with an arrowhead. -/
theorem Drawing.build_rounded_segment :
    ∃ (context : PlotContext) (drawing : Drawing) (stage stage' : Stage)
        (primitives : List (Primitive Float)),
      drawing.build context "s" stage = (.ok primitives, stage') ∧
        primitives.map Primitive.id = ["s", "s-start", "s-ah"] ∧
          (∀ p ∈ primitives, p.IsRounded) ∧ (primitives.map Primitive.id).Nodup := by
  let window : Viewport Float :=
    ⟨500.0, 500.0, 20.0, ⟨-5.0, 5.0, -5.0, 5.0⟩, 46.0, 46.0, (250.0, 250.0), false, 0.25⟩
  let context : PlotContext := ⟨window, .default, none⟩
  let drawing : Drawing := .shape .segment (.segment (0.0, 0.0) (1.0, 0.3) .dotarrow)
  let stage : Stage := ⟨Table.empty, Workspace.initial⟩
  have names : (drawing.build context "s" stage).1.toOption.map (List.map Primitive.id) =
      some ["s", "s-start", "s-ah"] := by
    decide +kernel
  obtain ⟨primitives, built, ids⟩ := Option.map_eq_some_iff.1 names
  have built' : drawing.build context "s" stage = (.ok primitives, stage) :=
    Prod.ext (toOption_eq_some.1 built) rfl
  exact ⟨context, drawing, stage, stage, primitives, built', ids, Drawing.build_rounded built'⟩

/-- All that a board has on its desk is rounded, and the primitives of one drawing have different
ids. -/
def Board.IsRounded (b : Board) : Prop :=
  ∀ id entry, b.desk.entries.get? id = some entry → AreRounded entry.primitives ∧
    entry.primitiveIds.Nodup

theorem Board.Step.isRounded {b b' : Board} (step : b.Step b') (rounded : b.IsRounded) :
    b'.IsRounded := by
  cases step with
  | @draw id drawing primitives w stage built =>
    intro other entry found
    change (b.desk.entries.insert id ⟨drawing, primitives⟩).get? other = some entry at found
    rw [Table.get?_insert] at found
    split at found
    · cases found
      exact ⟨Drawing.areRounded built, (Drawing.areParts built).ids_nodup⟩
    · exact rounded other entry found
  | _ => exact rounded

/-- Whatever has been done to a board, be it that it returned or that it failed. -/
theorem Session.isRounded {options : BoardOptions} {sampler : SamplerConfig}
    {failures : List Command} {b : Board} (session : Session options sampler failures b) :
    b.IsRounded := by
  refine session.invariant (fun id canvas debug w b returned => ?created)
    (fun b b' step rounded => step.isRounded rounded) (fun b id rounded =>
      ?deleted) fun b rounded => ?cleared
  case created =>
    intro other entry found
    obtain ⟨v, -, -, same⟩ := picture_create returned
    have entries : b.desk.entries = Table.empty := congrArg Picture.entries same
    rw [entries] at found
    cases found
  case deleted =>
    intro other entry found
    change (b.desk.delete id).entries.get? other = some entry at found
    rw [Desk.entries_delete] at found
    by_cases same : other = id
    · rw [same, Table.get?_erase_self] at found
      cases found
    · rw [Table.get?_erase_of_ne same] at found
      exact rounded other entry found
  case cleared =>
    intro other entry found
    change b.desk.clear.entries.get? other = some entry at found
    rw [Desk.entries_clear] at found
    cases found

end CurveBoard
