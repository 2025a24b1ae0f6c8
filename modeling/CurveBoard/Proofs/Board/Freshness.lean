import CurveBoard.Proofs.Board.Effects
import CurveBoard.Proofs.Board.Inputs

/-!
# Boards show what their drawings are

An entry is fresh if building its drawing anew would yield the primitives that it has. Drawing
something makes its entry fresh and leaves the others as they were, so what counts is that every
operation draws whatever it makes stale: a plot whose settings change, and all drawings when the
frame does.
-/
namespace CurveBoard

/-- With a steady curve it does not matter which dice a plot is sampled with. -/
theorem Plot.sampled_dice {p : Plot} (steady : p.curve.Steady) (context : PlotContext)
    (dice dice' : Dice) :
    p.sampled context dice = p.sampled context dice' := by
  have sample (domain : Option (Float × Float)) (points : Nat) (v : Viewport Float)
      (settings : Settings Float) : p.curve.sample dice domain points v settings =
        p.curve.sample dice' domain points v settings := by
    unfold Curve.sample
    split
    next f same =>
      rw [same] at steady
      rw [CompiledFormula.onList_dice steady dice dice']
    next f same =>
      rw [same] at steady
      rw [CompiledFormula.onList_dice steady.1 _ (dice'.part 0),
        CompiledFormula.onList_dice steady.2 _ (dice'.part 1)]
  simp only [sampled, sample]

namespace Picture

variable {p p' : Picture} {id : String} {drawing : Drawing}

/-- Whether the entry of an id shows what building its drawing yields, and the plot's last result
too. -/
def Shows (p : Picture) (id : String) (entry : Entry Drawing Float) : Prop :=
  match entry.drawing with
  | .shape _ s => s.primitives p.viewport id = .ok entry.primitives
  | .plot => ∃ plot result, p.plots.get? id = some plot ∧ plot.result = some result ∧
      (∀ dice, plot.sampled p.context dice = .ok result) ∧
      entry.primitives = [Plot.primitive p.context id result]

/-- Whether there is nothing stale under an id. -/
def FreshAt (p : Picture) (id : String) : Prop :=
  ∀ entry, p.entries.get? id = some entry → p.Shows id entry

/-- Whether no plot calls a random function. -/
def SteadyPlots (p : Picture) : Prop :=
  ∀ id plot, p.plots.get? id = some plot → plot.curve.Steady

/-- Whether nothing is stale, and nothing will be by chance. -/
structure Fresh (p : Picture) : Prop where
  entries : ∀ id, p.FreshAt id
  plots : p.SteadyPlots

/-- What is shown under an id depends on nothing else that is drawn. -/
theorem FreshAt.of_same (fresh : p.FreshAt id) (context : p'.context = p.context)
    (entries : p'.entries.get? id = p.entries.get? id)
    (plots : p'.plots.get? id = p.plots.get? id) :
    p'.FreshAt id := by
  intro entry found
  rw [entries] at found
  have viewport : p'.viewport = p.viewport := congrArg PlotContext.viewport context
  have shows := fresh entry found
  unfold Shows at shows ⊢
  rw [viewport, context, plots]
  exact shows

theorem freshAt_of_absent (absent : p.entries.get? id = none) : p.FreshAt id := by
  intro entry found
  rw [absent] at found
  cases found

theorem SteadyPlots.setPlot (steady : p.SteadyPlots) {plot : Plot} (curve : plot.curve.Steady) :
    (p.setPlot id plot).SteadyPlots := by
  intro other plot' found
  simp only [Picture.setPlot, Table.get?_insert] at found
  split at found
  · cases found
    exact curve
  · exact steady other plot' found

end Picture

namespace Draws

variable {p p' : Picture} {id other : String} {drawing : Drawing}

private theorem steadyPlots (draws : Draws id p drawing p') (steady : p.SteadyPlots) :
    p'.SteadyPlots := by
  cases draws with
  | shape built => exact steady
  | plot found sampled =>
    have curve := steady id _ found
    exact steady.setPlot curve

/-- What has just been drawn is fresh. -/
theorem freshAt_self (draws : Draws id p drawing p') (steady : p.SteadyPlots) : p'.FreshAt id := by
  intro entry found
  cases draws with
  | shape built =>
    rw [Picture.put, Table.get?_insert_self] at found
    cases found
    exact built
  | plot plot_found sampled =>
    rw [Picture.put, Table.get?_insert_self] at found
    cases found
    -- it was sampled with some dice, and any others would have done
    refine ⟨_, _, Table.get?_insert_self _ _ _, rfl, fun dice' => ?_, rfl⟩
    exact (Plot.sampled_dice (steady id _ plot_found) _ dice' _).trans sampled

/-- Drawing one thing does not touch the others. -/
theorem freshAt_other (draws : Draws id p drawing p') (differs : other ≠ id)
    (fresh : p.FreshAt other) :
    p'.FreshAt other := by
  have same := draws.sameAt differs
  exact fresh.of_same draws.context same.entry same.plot

/-- If at most one thing is stale, drawing it makes all fresh. -/
theorem fresh (draws : Draws id p drawing p') (steady : p.SteadyPlots)
    (others : ∀ other, other ≠ id → p.FreshAt other) : p'.Fresh := by
  refine ⟨fun other => ?_, draws.steadyPlots steady⟩
  by_cases same : other = id
  · exact same ▸ draws.freshAt_self steady
  · exact draws.freshAt_other same (others other same)

end Draws

/-- Redrawing makes all fresh that was stale among the entries. -/
theorem Redraws.fresh {entries : List (String × Entry Drawing Float)} {p p' : Picture}
    (redraws : Redraws entries p p') (steady : p.SteadyPlots)
    (others : ∀ id, id ∉ entries.map Prod.fst → p.FreshAt id) : p'.Fresh := by
  -- what is stale is always among the entries that are still to be drawn
  induction entries generalizing p with
  | nil =>
    obtain rfl := redraws
    exact ⟨fun id => others id (by simp), steady⟩
  | cons first rest ih =>
    obtain ⟨id, entry⟩ := first
    obtain ⟨middle, draws, redraws⟩ := redraws
    refine ih redraws (draws.steadyPlots steady) fun other absent => ?_
    by_cases same : other = id
    · exact same ▸ draws.freshAt_self steady
    · exact draws.freshAt_other same (others other (by simp [same, absent]))

/-- Whether no expression that is handed over with a command calls a random function. -/
def Command.Steady : Command → Prop
  | plot source domain points _ _ _ => source.Steady ∧ domain.Steady ∧ points.Steady
  | update _ change =>
    (∀ curve, change.curve = some curve → curve.Steady) ∧ change.domain.Steady ∧
    change.points.Steady
  | resize width height => width.Steady ∧ height.Steady
  | _ => True

theorem Changes.steady {change : Action.PlotChange} {plot plot' : Plot}
    (changes : Changes change plot plot') (old : plot.curve.Steady)
    (new : ∀ curve, change.curve = some curve → curve.Steady) :
    plot'.curve.Steady := by
  rw [← changes.curve]
  cases given : change.curve with
  | none => exact old
  | some curve => exact new curve given

theorem Names.fresh {kind name : String} {given : Option String} {p named : Picture}
    (names : Names kind p given name named) (fresh : p.Fresh) : named.Fresh := by
  cases names with
  | given id => exact fresh
  | next => exact ⟨fun id => (fresh.entries id).of_same rfl rfl rfl, fresh.plots⟩

/-- Setting a plot makes nothing else stale. -/
theorem Picture.Fresh.setPlot {p : Picture} {id other : String} (fresh : p.Fresh) (plot : Plot)
    (differs : other ≠ id) : (p.setPlot id plot).FreshAt other :=
  (fresh.entries other).of_same rfl rfl (Table.get?_insert_of_ne differs _)

/-- No command leaves anything stale. -/
theorem Effect.fresh {p p' : Picture} {command : Command} (effect : Effect p command p')
    (steady : command.Steady) (fresh : p.Fresh) : p'.Fresh := by
  cases effect with
  | draw tuples describes names noPlot draws =>
    -- at most the entry of this id is stale, and it is drawn
    have named := names.fresh fresh
    exact draws.fresh named.plots fun other _ => named.entries other
  | newPlot resolves names noPlot free reads_domain reads_points draws =>
    have named := names.fresh fresh
    obtain ⟨w, resolved⟩ := resolves
    exact draws.fresh (named.plots.setPlot (resolve_steady steady.1 resolved)) fun other differs =>
      named.setPlot _ differs
  | oldPlot resolves names found changes draws =>
    have named := names.fresh fresh
    obtain ⟨w, resolved⟩ := resolves
    have curve := changes.steady (named.plots _ _ found) fun curve same => by
      cases same
      exact resolve_steady steady.1 resolved
    exact draws.fresh (named.plots.setPlot curve) fun other differs => named.setPlot _ differs
  | update found changes draws =>
    have curve := changes.steady (fresh.plots _ _ found) steady.1
    exact draws.fresh (fresh.plots.setPlot curve) fun other differs => fresh.setPlot _ differs
  | @delete id present =>
    refine ⟨fun other => ?_, fun other plot found => ?_⟩
    · by_cases same : other = id
      · exact same ▸ Picture.freshAt_of_absent (Table.get?_erase_self _ _)
      · exact (fresh.entries other).of_same rfl (Table.get?_erase_of_ne same)
          (Table.get?_erase_of_ne same)
    · -- a plot is forgotten with its entry
      by_cases same : other = id
      · rw [same, Table.get?_erase_self] at found
        cases found
      · rw [Table.get?_erase_of_ne same] at found
        exact fresh.plots other plot found
  | clear =>
    exact ⟨fun id => Picture.freshAt_of_absent rfl, fun id plot found => by cases found⟩
  | resize reads_width reads_height resizes redraws =>
    -- in the new frame all is stale, but there is nothing under the ids without an entry
    refine redraws.fresh fresh.plots fun id absent => Picture.freshAt_of_absent ?_
    exact Table.get?_eq_none (by simpa [Table.contains, Table.keys] using absent)

end CurveBoard
