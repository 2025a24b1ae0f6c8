import CurveBoard.Proofs.Board.Freshness
import CurveBoard.Proofs.Viewport

/-!
# What does not depend on the frame

The outline of a picture is all of it that has nothing to do with the size of the frame: what the
viewport asks for in any frame, the drawings without their primitives, and the plots without their
results. Resizing keeps the outline, and what another command makes of it depends on nothing else. A
fresh picture follows from its outline and its frame.
-/
namespace CurveBoard

/-- A plot's settings. -/
def Plot.unsampled (p : Plot) : Plot := { p with result := none }

structure Outline where
  request : Float → Float → ViewportRequest Float
  sampler : SamplerConfig
  samplingPoints : Option GivenNumber
  drawings : Table Drawing
  plots : Table Plot
  counters : Table Nat

def Picture.outline (p : Picture) : Outline where
  request := p.viewport.requestFor
  sampler := p.sampler
  samplingPoints := p.samplingPoints
  drawings := p.entries.mapValues Entry.drawing
  plots := p.plots.mapValues Plot.unsampled
  counters := p.counters

/-! ### The same outline before and after -/

theorem Names.viewport {kind name : String} {given : Option String} {p named : Picture}
    (names : Names kind p given name named) : named.viewport = p.viewport := by
  cases names <;> rfl

theorem Picture.drawn_entries (p : Picture) :
    ∀ entry ∈ p.entries.entries, p.outline.drawings.get? entry.1 = some entry.2.drawing := by
  intro entry member
  rw [outline, Table.get?_mapValues, Table.get?_eq_some_iff.2 member]
  rfl

private theorem Picture.outline_setPlot (p : Picture) (id : String) (plot : Plot) :
    (p.setPlot id plot).outline =
      { p.outline with plots := p.outline.plots.insert id plot.unsampled } := by
  simp only [outline, setPlot, Table.mapValues_insert]

namespace Draws

variable {p p' : Picture} {id : String} {drawing : Drawing}

theorem viewport (draws : Draws id p drawing p') : p'.viewport = p.viewport := by
  cases draws <;> rfl

/-- Sampling a plot does not change its settings. -/
theorem outline (draws : Draws id p drawing p') :
    p'.outline = { p.outline with drawings := p.outline.drawings.insert id drawing } := by
  cases draws with
  | shape built => simp only [Picture.outline, Picture.put, Table.mapValues_insert]
  | @plot plot dice result found sampled =>
    -- without its result the plot is what it was
    have settings : (p.plots.mapValues Plot.unsampled).get? id = some plot.unsampled := by
      rw [Table.get?_mapValues, found]
      rfl
    have same : (p.plots.mapValues Plot.unsampled).insert id plot.unsampled =
        p.plots.mapValues Plot.unsampled := Table.insert_eq_self settings
    simp only [Picture.outline, Picture.put, Picture.setPlot, Table.mapValues_insert]
    exact congrArg (Outline.mk _ _ _ _ · _) same

end Draws

namespace Redraws

variable {p p' : Picture} {entries : List (String × Entry Drawing Float)}

theorem viewport (redraws : Redraws entries p p') : p'.viewport = p.viewport := by
  induction entries generalizing p with
  | nil =>
    obtain rfl := redraws
    rfl
  | cons first rest ih =>
    obtain ⟨middle, draws, redraws⟩ := redraws
    rw [ih redraws, draws.viewport]

/-- Redrawing what is drawn already changes nothing but the primitives. -/
theorem outline (redraws : Redraws entries p p')
    (drawn : ∀ entry ∈ entries, p.outline.drawings.get? entry.1 = some entry.2.drawing) :
    p'.outline = p.outline := by
  induction entries generalizing p with
  | nil =>
    obtain rfl := redraws
    rfl
  | cons first rest ih =>
    obtain ⟨middle, draws, redraws⟩ := redraws
    obtain ⟨first_drawn, rest_drawn⟩ := List.forall_mem_cons.1 drawn
    have same : middle.outline = p.outline := by
      rw [draws.outline, Table.insert_eq_self first_drawn]
    rw [ih redraws (same ▸ rest_drawn), same]

end Redraws

namespace Command

def isResize : Command → Bool
  | resize _ _ => true
  | _ => false

end Command

namespace Effect

variable {p p' q q' : Picture} {command : Command}

/-- Resizing keeps the outline. -/
theorem outline_resize {width height : Value} (effect : Effect p (.resize width height) p')
    (consistent : p.viewport.Consistent) : p'.outline = p.outline := by
  cases effect with
  | @resize _ _ x y v _ reads_width reads_height resizes redraws =>
    obtain ⟨request, -, -⟩ := Viewport.requestFor_resized consistent resizes
    have same : { p with viewport := v }.outline = p.outline :=
      congrArg (Outline.mk · _ _ _ _ _) request
    -- all that is redrawn are the entries of the picture
    rw [redraws.outline (Picture.drawn_entries { p with viewport := v }), same]

/-- A height that is given is taken as it is, and only a missing one follows from the width. -/
theorem frame {width height : Value} (effect : Effect p (.resize width height) p')
    (consistent : p.viewport.Consistent) (explicit : height.isAbsent = false) :
    Yields (Action.readLength width) p'.viewport.width ∧
      Yields (Action.readLength height) p'.viewport.height := by
  cases effect with
  | resize reads_width reads_height resizes redraws =>
    obtain ⟨-, width_eq, height_eq⟩ := Viewport.requestFor_resized consistent resizes
    rw [redraws.viewport, width_eq, height_eq]
    rw [Value.orElse, explicit] at reads_height
    exact ⟨reads_width, reads_height⟩

/-- Nothing else changes the viewport. -/
theorem viewport (effect : Effect p command p') (noResize : command.isResize = false) :
    p'.viewport = p.viewport := by
  cases effect with
  | draw tuples describes names noPlot draws => rw [draws.viewport, names.viewport]
  | newPlot resolves names noPlot free reads_domain reads_points draws =>
    rw [draws.viewport, Picture.setPlot, names.viewport]
  | oldPlot resolves names found changes draws =>
    rw [draws.viewport, Picture.setPlot, names.viewport]
  | update found changes draws => rw [draws.viewport, Picture.setPlot]
  | delete present => rfl
  | clear => rfl
  | resize reads_width reads_height resizes redraws => cases noResize

theorem consistent (effect : Effect p command p') (consistent : p.viewport.Consistent) :
    p'.viewport.Consistent := by
  cases noResize : command.isResize with
  | false => exact effect.viewport noResize ▸ consistent
  | true =>
    cases effect with
    | resize reads_width reads_height resizes redraws =>
      rw [redraws.viewport]
      exact Viewport.create_consistent resizes
    | _ => cases noResize

end Effect

/-! ### The same outline after the same command -/

theorem Yields.unique {α : Type} {use : Worked α} {a b : α} (yields : Yields use a)
    (unvarying : Unvarying use) (yields' : Yields use b) : a = b := by
  obtain ⟨w, found⟩ := yields
  obtain ⟨w', found'⟩ := yields'
  exact Except.ok.inj (found.symm.trans ((unvarying w w').trans found'))

private theorem unvarying_domainAfter {given : Value} (steady : given.Steady)
    (old : Option (Float × Float)) :
    Unvarying (domainAfter given old) := by
  intro w w'
  unfold domainAfter
  split
  · rfl
  · split
    · rfl
    · exact (unvarying_readDomain steady).map (Except.map some) w w'

private theorem unvarying_pointsAfter {given : Value} (steady : given.Steady) (old : Option Int) :
    Unvarying (pointsAfter given old) := by
  intro w w'
  unfold pointsAfter
  split
  · rfl
  · exact unvarying_readPoints steady w w'

private theorem Changes.unsampled_eq {change : Action.PlotChange} {a a' b b' : Plot}
    (changes : Changes change a a') (changes' : Changes change b b') (domain : change.domain.Steady)
    (points : change.points.Steady) (same : a.unsampled = b.unsampled) :
    a'.unsampled = b'.unsampled := by
  simp only [Plot.unsampled, Plot.mk.injEq, and_true] at same ⊢
  obtain ⟨curve_eq, domain_eq, points_eq, config_eq⟩ := same
  refine ⟨?_, ?_, ?_, ?_⟩
  · rw [← changes.curve, ← changes'.curve, curve_eq]
  · have after := changes'.domain
    rw [← domain_eq] at after
    exact changes.domain.unique (unvarying_domainAfter domain a.domain) after
  · have after := changes'.points
    rw [← points_eq] at after
    exact changes.points.unique (unvarying_pointsAfter points a.points) after
  · rw [← changes.config, ← changes'.config, config_eq]

namespace Picture

variable {p q : Picture} (same : p.outline = q.outline)

include same

private theorem contains_of_outline (id : String) :
    p.entries.contains id = q.entries.contains id := by
  have drawings := congrArg Outline.drawings same
  rw [← Table.contains_mapValues Entry.drawing p.entries,
    ← Table.contains_mapValues Entry.drawing q.entries]
  exact congrArg (Table.contains · id) drawings

private theorem size_of_outline : p.entries.size = q.entries.size := by
  have drawings := congrArg Outline.drawings same
  rw [← Table.size_mapValues Entry.drawing p.entries,
    ← Table.size_mapValues Entry.drawing q.entries]
  exact congrArg Table.size drawings

private theorem containsPlot_of_outline (id : String) :
    p.plots.contains id = q.plots.contains id := by
  have plots := congrArg Outline.plots same
  rw [← Table.contains_mapValues Plot.unsampled p.plots,
    ← Table.contains_mapValues Plot.unsampled q.plots]
  exact congrArg (Table.contains · id) plots

private theorem unsampled_of_outline {id : String} {plot plot' : Plot}
    (found : p.plots.get? id = some plot) (found' : q.plots.get? id = some plot') :
    plot.unsampled = plot'.unsampled := by
  have plots := congrArg (Table.get? · id) (congrArg Outline.plots same)
  simpa [outline, found, found'] using plots

private theorem freeNumber_of_outline (kind : String) : p.freeNumber kind = q.freeNumber kind := by
  have counters : p.counters = q.counters := congrArg Outline.counters same
  simp only [freeNumber, Board.firstFree, size_of_outline same, contains_of_outline same, counters]

end Picture

/-- The same id is given where the outlines are the same. -/
theorem Names.outline_eq {kind name name' : String} {given : Option String}
    {p named q named' : Picture} (names : Names kind p given name named)
    (names' : Names kind q given name' named') (same : p.outline = q.outline) :
    name = name' ∧ named.outline = named'.outline := by
  cases names with
  | given id =>
    cases names' with
    | given id => exact ⟨rfl, same⟩
  | next =>
    cases names' with
    | next =>
      have number := Picture.freeNumber_of_outline same kind
      have counters : p.counters = q.counters := congrArg Outline.counters same
      refine ⟨by rw [number], ?_⟩
      simp only [Picture.outline, Outline.mk.injEq] at same ⊢
      obtain ⟨request, sampler, points, drawings, plots, -⟩ := same
      exact ⟨request, sampler, points, drawings, plots, by rw [number, counters]⟩

/-- Setting the same plot to the same settings. -/
theorem Picture.outline_setPlot_eq {p q : Picture} {id : String} {plot plot' : Plot}
    (same : p.outline = q.outline) (settings : plot.unsampled = plot'.unsampled) :
    (p.setPlot id plot).outline = (q.setPlot id plot').outline := by
  rw [outline_setPlot, outline_setPlot, same, settings]

/-- Drawing the same thing. -/
theorem Draws.outline_eq {p p' q q' : Picture} {id : String} {drawing : Drawing}
    (draws : Draws id p drawing p') (draws' : Draws id q drawing q')
    (same : p.outline = q.outline) : p'.outline = q'.outline := by
  rw [draws.outline, draws'.outline, same]

/-- What a command other than resizing makes of an outline depends on the outline only. -/
theorem Effect.outline_eq {p p' q q' : Picture} {command : Command} (effect : Effect p command p')
    (effect' : Effect q command q') (steady : command.Steady) (noResize : command.isResize = false)
    (same : p.outline = q.outline) : p'.outline = q'.outline := by
  cases effect with
  | draw tuples describes names noPlot draws =>
    cases effect' with
    | draw tuples' describes' names' noPlot' draws' =>
      cases tuples.symm.trans tuples'
      cases describes.symm.trans describes'
      obtain ⟨rfl, named⟩ := names.outline_eq names' same
      exact draws.outline_eq draws' named
  | newPlot resolves names noPlot free reads_domain reads_points draws =>
    cases effect' with
    | newPlot resolves' names' noPlot' free' reads_domain' reads_points' draws' =>
      obtain ⟨rfl, named⟩ := names.outline_eq names' same
      cases resolves.unique (unvarying_resolve _ _) resolves'
      cases reads_domain.unique (unvarying_readDomain? steady.2.1) reads_domain'
      cases reads_points.unique (unvarying_readPoints steady.2.2) reads_points'
      exact draws.outline_eq draws' (Picture.outline_setPlot_eq named rfl)
    | oldPlot resolves' names' found' changes' draws' =>
      -- with the same outline there is a plot of this id in both pictures or in none
      obtain ⟨rfl, named⟩ := names.outline_eq names' same
      rw [Picture.containsPlot_of_outline named, Table.contains_of_get? found'] at noPlot
      cases noPlot
  | oldPlot resolves names found changes draws =>
    cases effect' with
    | newPlot resolves' names' noPlot' free' reads_domain' reads_points' draws' =>
      obtain ⟨rfl, named⟩ := names.outline_eq names' same
      rw [← Picture.containsPlot_of_outline named, Table.contains_of_get? found] at noPlot'
      cases noPlot'
    | oldPlot resolves' names' found' changes' draws' =>
      obtain ⟨rfl, named⟩ := names.outline_eq names' same
      cases resolves.unique (unvarying_resolve _ _) resolves'
      have settings := changes.unsampled_eq changes' steady.2.1 steady.2.2
        (Picture.unsampled_of_outline named found found')
      exact draws.outline_eq draws' (Picture.outline_setPlot_eq named settings)
  | update found changes draws =>
    cases effect' with
    | update found' changes' draws' =>
      have settings := changes.unsampled_eq changes' steady.2.1 steady.2.2
        (Picture.unsampled_of_outline same found found')
      exact draws.outline_eq draws' (Picture.outline_setPlot_eq same settings)
  | delete present =>
    cases effect' with
    | delete present' =>
      simp only [Picture.outline, Table.mapValues_erase]
      simp only [Picture.outline, Outline.mk.injEq] at same
      obtain ⟨request, sampler, points, drawings, plots, counters⟩ := same
      rw [request, sampler, points, drawings, plots, counters]
  | clear =>
    cases effect' with
    | clear =>
      simp only [Picture.outline, Outline.mk.injEq] at same ⊢
      obtain ⟨request, sampler, points, -, -, counters⟩ := same
      exact ⟨request, sampler, points, trivial, trivial, counters⟩
  | resize reads_width reads_height resizes redraws => cases noResize

/-- What is shown under an id follows from the drawing, the viewport and the settings of a plot. -/
theorem Picture.Shows.unique {p q : Picture} {id : String} {entry entry' : Entry Drawing Float}
    (shows : p.Shows id entry) (shows' : q.Shows id entry')
    (drawing : entry.drawing = entry'.drawing) (context : p.context = q.context)
    (settings : ∀ plot plot', p.plots.get? id = some plot → q.plots.get? id = some plot' →
      plot.unsampled = plot'.unsampled) : entry = entry' := by
  obtain ⟨shown, primitives⟩ := entry
  obtain ⟨shown', primitives'⟩ := entry'
  obtain rfl : shown = shown' := drawing
  have viewport : p.viewport = q.viewport := congrArg PlotContext.viewport context
  cases shown with
  | shape kind s =>
    change s.primitives p.viewport id = .ok primitives at shows
    change s.primitives q.viewport id = .ok primitives' at shows'
    rw [viewport, shows'] at shows
    cases shows
    rfl
  | plot =>
    obtain ⟨plot, result, found, -, sampled, rfl⟩ := shows
    obtain ⟨plot', result', found', -, sampled', rfl⟩ := shows'
    -- sampling looks at the settings only
    have same (dice : Dice) : plot.sampled p.context dice = plot'.sampled q.context dice := by
      change plot.unsampled.sampled p.context dice = plot'.unsampled.sampled q.context dice
      rw [settings plot plot' found found', context]
    have results : result = result' :=
      Except.ok.inj ((sampled ⟨0⟩).symm.trans ((same ⟨0⟩).trans (sampled' ⟨0⟩)))
    rw [results, context]

/-- The entries of a fresh picture follow from its outline and its viewport. -/
theorem Picture.Fresh.unique {p q : Picture} (fresh : p.Fresh) (fresh' : q.Fresh)
    (outline : p.outline = q.outline) (viewport : p.viewport = q.viewport) :
    p.entries = q.entries := by
  have context : p.context = q.context := by
    have sampler : p.sampler = q.sampler := congrArg Outline.sampler outline
    have points : p.samplingPoints = q.samplingPoints := congrArg Outline.samplingPoints outline
    rw [Picture.context, Picture.context, viewport, sampler, points]
  have drawings := congrArg Outline.drawings outline
  -- the names are those of the drawings in both, and under each name stands what its drawing shows
  refine Table.ext_get? ?_ fun id => ?_
  · have names := congrArg Table.keys drawings
    simpa [Picture.outline] using names
  · have drawing := congrArg (Table.get? · id) drawings
    simp only [Picture.outline, Table.get?_mapValues] at drawing
    cases found : p.entries.get? id with
    | none =>
      rw [found, Option.map_none, eq_comm, Option.map_eq_none_iff] at drawing
      rw [drawing]
    | some entry =>
      rw [found, Option.map_some, eq_comm, Option.map_eq_some_iff] at drawing
      obtain ⟨entry', found', same⟩ := drawing
      rw [found']
      refine congrArg some ((fresh.entries id entry found).unique
        (fresh'.entries id entry' found') same.symm
        context fun plot plot' plot_found plot_found' => ?_)
      exact Picture.unsampled_of_outline outline plot_found plot_found'

end CurveBoard
