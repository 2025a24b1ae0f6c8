import CurveBoard.Proofs.Binary
import CurveBoard.Proofs.Board.Steps
import CurveBoard.Proofs.Formula.Transfer
import CurveBoard.Proofs.Nested

/-!
# Plots made again from their snapshots

A snapshot keeps the text of a curve, its variable, the domain and the count of points. Plotting
them on a fresh board in the same frame makes the plot again, but for a config of its own, which no
snapshot keeps: the plot is sampled as the board says. The text is read as the formula it was read
as before; the variable of a curve in a parameter is always said to be the same, so only curves in
that one can be read again.
-/
namespace CurveBoard

/-! ### Numbers -/

/-- Whether an integer is a count of points that a number has been read as. -/
def IsCount (n : Int) : Prop := 0 < n ∧ ∃ x b, Binary.ofFloat? x = some b ∧ b.truncate = n

private theorem settle_whole {lossy : Bool} {re im : Float} {number : Number}
    (settled : settle .whole lossy re im = .ok number) :
    ∃ b, Binary.ofFloat? re = some b ∧ number = .whole b.truncate := by
  unfold settle at settled
  split at settled
  · cases settled
  · dsimp only at settled
    split at settled
    · cases settled
    next b found =>
      split at settled <;> cases settled
      exact ⟨b, found, rfl⟩

/-- A whole number is always the integer part of a double. -/
theorem convert_whole {lossy : Bool} {given : Value} {w : Workspace} {number : Number}
    (converted : (convert .whole lossy given w).1 = .ok number) :
    ∃ x b, Binary.ofFloat? x = some b ∧ number = .whole b.truncate := by
  unfold convert at converted
  split at converted
  next s =>
    dsimp only at converted
    split at converted
    · cases converted
    · split at converted
      next number' found =>
        cases converted
        obtain ⟨x, -, settled⟩ := Option.bind_eq_some_iff.1 found
        exact ⟨x, settle_whole (toOption_eq_some.1 settled)⟩
      · -- a text that is no numeral is read as a formula, and its value is settled
        obtain ⟨c, dice, -, -, settled⟩ := settleFormula_eq_ok converted
        exact ⟨_, settle_whole settled⟩
  · exact ⟨_, settle_whole converted⟩
  · split at converted
    · split at converted
      · dsimp only at converted
        exact ⟨_, settle_whole converted⟩
      · cases converted
    · cases converted

private theorem isCount_of_readPoints {given : Value} {n : Int}
    (reads : Yields (readPoints given) (some n)) :
    IsCount n := by
  obtain ⟨w, read⟩ := reads
  unfold readPoints at read
  split at read
  · cases read
  · split at read
    · cases read
    next m left converted =>
      split at read <;> cases read
      next positive =>
        refine ⟨by omega, ?_⟩
        -- what is read as a whole number is the integer part of a double
        have whole := congrArg Prod.fst converted
        unfold convertWhole at whole
        split at whole
        next m' left' found =>
          obtain ⟨x, b, parts, same⟩ := convert_whole (congrArg Prod.fst found)
          cases same
          cases whole
          exact ⟨x, b, parts, rfl⟩
        next x left' found =>
          obtain ⟨x, b, parts, same⟩ := convert_whole (congrArg Prod.fst found)
          cases same
        · cases whole

/-- A count of points that is given again is read as itself. -/
theorem readPoints_whole {n : Int} (count : IsCount n) (w : Workspace) :
    (readPoints (.whole n) w).1 = .ok (some n) := by
  obtain ⟨positive, x, b, found, rfl⟩ := count
  obtain ⟨y, b', real, parts, same⟩ := realOfInteger_truncate found
  have settled : settle .whole true y 0.0 = .ok (.whole b.truncate) := by simp [settle, parts, same]
  have converted : convert .whole true (.whole b.truncate) w = (.ok (.whole b.truncate), w) := by
    simp [convert, Value.number?, Number.toReal, real, settled]
  have whole : convertWhole (.whole b.truncate) w = (.ok b.truncate, w) := by
    rw [convertWhole, converted]
  rw [readPoints, if_neg (by simp [Value.isAbsent, isBoardDefault]), whole]
  dsimp only
  rw [if_neg (by omega)]

private theorem convertReal_real (x : Float) (w : Workspace) :
    convertReal (.real x) w = (.ok x, w) := by
  rw [convertReal, convert_real, settle_real]

private theorem readDomain_pair (domain : Float × Float) (w : Workspace) :
    (readDomain (.tuple [.real domain.1, .real domain.2]) w).1 = .ok domain := by
  unfold readDomain Value.items
  dsimp only
  rw [convertReal_real]
  dsimp only
  rw [convertReal_real]

/-- A domain that is given again, or left out again, is read as itself. -/
theorem readDomain?_again (domain : Option (Float × Float)) (w : Workspace) :
    (readDomain? (domain.elim .absent fun ends => .tuple [.real ends.1, .real ends.2]) w).1 =
      .ok domain := by
  cases domain with
  | none => rfl
  | some ends => exact map_eq_ok.2 ⟨ends, readDomain_pair ends w, rfl⟩

/-! ### Curves -/

/-- Whether a formula is in a variable, or in none. -/
def CompiledFormula.IsIn (f : CompiledFormula) (name : String) : Prop :=
  f.variableName = name ∨ f.isConstant = true

namespace Curve

/-- Whether a curve is in the variable that is said to be its own. -/
def IsNamed : Curve → Prop
  | graph f => isVariableName f.variableName = true
  | parametric p => p.abscissa.IsIn "t" ∧ p.ordinate.IsIn "t"

/-- Whether two curves are shown and sampled in the same way. -/
structure Alike (curve curve' : Curve) : Prop where
  source : curve'.source = curve.source
  rewritten : curve'.rewritten = curve.rewritten
  variableName : curve'.variableName = curve.variableName
  mode : curve'.mode = curve.mode
  sample : curve'.sample = curve.sample

end Curve

/-- The text of a coordinate is read as the same formula again. -/
theorem compileText_coordinate {f : CompiledFormula} (named : f.IsIn "t") :
    ∃ f' : CompiledFormula, f'.source = f.source ∧ f'.formula = f.formula ∧
      ∀ w, (compileText (.text f.source) (.text "t") w).1 = .ok f' := by
  have parsed : Formula.parse ["t"] f.source = .ok f.formula := by
    rcases named with same | isConstant
    · exact same ▸ f.read
    · exact Formula.parse_of_isConstant f.read isConstant fun c => by cases c <;> decide
  refine ⟨⟨f.source, "t", f.formula, parsed⟩, rfl, rfl, fun w => ?_⟩
  rw [compileText_text, if_pos (by decide +kernel), compileAnew_of_parse parsed]
  rfl

/-- The text of a curve is taken for the curve again. -/
theorem Curve.resolve_source {curve : Curve} (named : curve.IsNamed) :
    ∃ curve', curve.Alike curve' ∧
      ∀ w, (Curve.resolve curve.source (.text curve.variableName) w).1 = .ok curve' := by
  cases curve with
  | graph f =>
    refine ⟨graph f, ⟨rfl, rfl, rfl, rfl, rfl⟩, fun w => ?_⟩
    have name : isVariableName f.variableName = true := named
    have given : (Value.text f.variableName).isTrue = true := by
      simp only [isVariableName, Bool.and_eq_true] at name
      exact name.1
    simp only [resolve, source, variableName, given, if_true]
    rw [compileText_text, if_pos name, f.compileAnew_eq]
    rfl
  | parametric p =>
    obtain ⟨x, x_source, x_formula, x_compiled⟩ := compileText_coordinate named.1
    obtain ⟨y, y_source, y_formula, y_compiled⟩ := compileText_coordinate named.2
    refine ⟨parametric ⟨x, y⟩, ?_, fun w => ?_⟩
    · constructor
      · simp [source, x_source, y_source]
      · simp [rewritten, x_formula, y_formula]
      · rfl
      · rfl
      · -- the values follow from the trees
        funext dice domain points v settings
        have x_values (dice : Dice) : x.onList dice = p.abscissa.onList dice := by
          funext xs
          rw [CompiledFormula.onList, CompiledFormula.onArray?, CompiledFormula.tree, x_formula]
          rfl
        have y_values (dice : Dice) : y.onList dice = p.ordinate.onList dice := by
          funext xs
          rw [CompiledFormula.onList, CompiledFormula.onArray?, CompiledFormula.tree, y_formula]
          rfl
        simp only [sample, x_values, y_values]
    · obtain ⟨x_result, left, x_found⟩ : ∃ result left,
          compileText (.text p.abscissa.source) (.text "t") w =
            (result, left) := ⟨_, _, rfl⟩
      obtain ⟨y_result, left', y_found⟩ : ∃ result left',
          compileText (.text p.ordinate.source) (.text "t") left =
            (result, left') := ⟨_, _, rfl⟩
      have x_ok : x_result = .ok x := by rw [← x_compiled w, x_found]
      have y_ok : y_result = .ok y := by rw [← y_compiled left, y_found]
      have both :
          compileParametric (.text p.abscissa.source) (.text p.ordinate.source) (.text "t") w =
            (.ok ⟨x, y⟩, left') := by
        unfold compileParametric compileComponent
        dsimp only
        rw [x_found, x_ok]
        dsimp only
        rw [y_found, y_ok]
      have name : (Value.text "t").orElseTrue (.text "t") = .text "t" := by
        unfold Value.orElseTrue
        split <;> rfl
      unfold resolve source
      dsimp only [variableName]
      rw [name, both]
      rfl

/-! ### Boards -/

/-- What a board keeps of the settings that it was made with. -/
structure Board.MadeFor (options : BoardOptions) (sampler : SamplerConfig) (b : Board) : Prop where
  sampler_eq : b.sampler = sampler
  samplingPoints_eq : b.options.samplingPoints = options.samplingPoints
  consistent : b.viewport.Consistent
  request : ∃ v, Yields (viewportFor options sampler) v ∧ b.viewport.requestFor = v.requestFor
  counts : ∀ id plot n, b.plots.get? id = some plot → plot.points = some n → IsCount n

section MadeFor

variable {options : BoardOptions} {sampler : SamplerConfig} {b b' : Board}

/-- Setting a plot to one with a count that has been read. -/
theorem Board.counts_insert {id : String} {plot : Plot}
    (counts : ∀ id plot n, b.plots.get? id = some plot → plot.points = some n → IsCount n)
    (count : ∀ n, plot.points = some n → IsCount n) :
    ∀ other plot' n, (b.plots.insert id plot).get? other = some plot' →
      plot'.points = some n → IsCount n := by
  intro other plot' n found points
  rw [Table.get?_insert] at found
  split at found
  · cases found
    exact count n points
  · exact counts other plot' n found points

private theorem Board.Step.madeFor (step : b.Step b') (made : b.MadeFor options sampler) :
    b'.MadeFor options sampler := by
  obtain ⟨sampler_eq, points_eq, consistent, request, counts⟩ := made
  cases step with
  | count counters => exact ⟨sampler_eq, points_eq, consistent, request, counts⟩
  | note lastInfo lastDebug => exact ⟨sampler_eq, points_eq, consistent, request, counts⟩
  | canvas width height => exact ⟨sampler_eq, points_eq, consistent, request, counts⟩
  | addPlot reads =>
    refine ⟨sampler_eq, points_eq, consistent, request,
      Board.counts_insert counts fun n same => ?_⟩
    cases same
    exact isCount_of_readPoints reads
  | setPlot found result points =>
    refine ⟨sampler_eq, points_eq, consistent, request,
      Board.counts_insert counts fun n same => ?_⟩
    rcases points with kept | ⟨given, reads⟩
    · exact counts _ _ n found (kept.symm.trans same)
    · exact isCount_of_readPoints (same ▸ reads)
  | draw built =>
    -- a plot that is drawn keeps the count that it has
    refine ⟨sampler_eq, points_eq, consistent, request, ?_⟩
    rcases Action.build_eq_ok built with ⟨kind, s, -, -, same⟩ |
      ⟨plot, result, -, -, found, same⟩
    · exact same ▸ counts
    · exact same ▸ Board.counts_insert counts fun n points => counts _ plot n found points
  | frame resized =>
    obtain ⟨v, yields, same⟩ := request
    obtain ⟨kept, -, -⟩ := Viewport.requestFor_resized consistent resized
    exact ⟨sampler_eq, points_eq, Viewport.create_consistent resized,
      ⟨v, yields, kept.trans same⟩, counts⟩

/-- After any commands a board still has the settings that it was made with. -/
theorem Session.madeFor {failures : List Command} (session : Session options sampler failures b) :
    b.MadeFor options sampler := by
  refine session.invariant (fun id canvas debug w b returned => ?created) (fun b b' step made =>
    step.madeFor made) (fun b id made => ?deleted) fun b made => ?cleared
  case created =>
    obtain ⟨v, yields, consistent, same⟩ := picture_create returned
    refine ⟨congrArg Picture.sampler same, congrArg Picture.samplingPoints same, ?_,
      ⟨v, yields, ?_⟩, ?_⟩
    · obtain rfl : b.viewport = v := congrArg Picture.viewport same
      exact consistent
    · exact congrArg (fun p => p.viewport.requestFor) same
    · intro id plot n found
      have plots : b.plots = Table.empty := congrArg Picture.plots same
      rw [plots] at found
      cases found
  case deleted =>
    refine ⟨made.sampler_eq, made.samplingPoints_eq, made.consistent, made.request,
      fun other plot n found => ?_⟩
    change (b.plots.erase id).get? other = some plot at found
    by_cases same : other = id
    · rw [same, Table.get?_erase_self] at found
      cases found
    · rw [Table.get?_erase_of_ne same] at found
      exact made.counts other plot n found
  case cleared =>
    exact ⟨made.sampler_eq, made.samplingPoints_eq, made.consistent, made.request,
      fun id plot n found => by cases found⟩

/-- What a viewport asks for has nothing to do with the size of the frame in the options. -/
theorem requestFor_of_viewportFor {width height : Float} {v v' : Viewport Float}
    (window : options.window.Steady) (yields : Yields (viewportFor options sampler) v)
    (yields' : Yields (viewportFor { options with width := width, height := height } sampler) v') :
    v.requestFor = v'.requestFor := by
  obtain ⟨w, framed⟩ := yields
  obtain ⟨w', framed'⟩ := yields'
  obtain ⟨ends, left, left', read, read'⟩ := (unvarying_readWindow window).agree w w'
  unfold viewportFor at framed framed'
  rw [read] at framed
  rw [read'] at framed'
  cases ends with
  | error fault => cases framed
  | ok ends =>
    obtain ⟨overscan, found, framed⟩ := Framing.reading_eq_ok.1 framed
    obtain ⟨overscan', found', framed'⟩ := Framing.reading_eq_ok.1 framed'
    obtain rfl := Except.ok.inj (found.symm.trans found')
    exact Viewport.requestFor_eq_of_create (mapError_eq_ok.1 framed) (mapError_eq_ok.1 framed')

/-- Boards with the same settings that have come to frames of the same size. -/
theorem Board.MadeFor.viewport_eq {width height : Float} (made : b.MadeFor options sampler)
    (made' : b'.MadeFor { options with width := width, height := height } sampler)
    (window : options.window.Steady) (same_width : b'.viewport.width = b.viewport.width)
    (same_height : b'.viewport.height = b.viewport.height) :
    b'.viewport = b.viewport := by
  obtain ⟨v, yields, request⟩ := made.request
  obtain ⟨v', yields', request'⟩ := made'.request
  refine made'.consistent.unique made.consistent ?_ same_width same_height
  rw [request, request', requestFor_of_viewportFor window yields yields']

/-- Plots are sampled alike on boards with the same settings in the same frame. -/
theorem Board.MadeFor.context_eq {width height : Float} (made : b.MadeFor options sampler)
    (made' : b'.MadeFor { options with width := width, height := height } sampler)
    (viewport : b'.viewport = b.viewport) : b'.context = b.context := by
  unfold Board.context
  rw [viewport, made.sampler_eq, made'.sampler_eq, made.samplingPoints_eq, made'.samplingPoints_eq]

end MadeFor

/-- Nothing is on a board that has only been resized. -/
theorem History.bare {options : BoardOptions} {sampler : SamplerConfig} {commands : List Command}
    {b : Board} (history : History options sampler commands b)
    (resizes : ∀ command ∈ commands, command.isResize = true) :
    b.plots = Table.empty ∧ b.desk.entries = Table.empty := by
  induction history with
  | created returned =>
    obtain ⟨v, -, -, same⟩ := picture_create returned
    exact ⟨congrArg Picture.plots same, congrArg Picture.entries same⟩
  | @performed commands command b b' w w' earlier returned ih =>
    obtain ⟨isResize, others⟩ := List.forall_mem_cons.1 resizes
    obtain ⟨plots, entries⟩ := ih others
    have effect := Command.effect returned
    cases command with
    | resize width height =>
      -- there is nothing to draw again
      cases effect with
      | @resize _ _ x y v after reads_width reads_height resizes redraws =>
        have nothing : b.picture.entries.entries = [] := congrArg Table.entries entries
        dsimp only at redraws
        rw [nothing] at redraws
        have same : { b.picture with viewport := v } = b'.picture := redraws
        exact ⟨(congrArg Picture.plots same).symm.trans plots,
          (congrArg Picture.entries same).symm.trans entries⟩
    | _ => cases isResize

/-! ### Plotting again -/

namespace Action

/-- Rendering a plot that is there keeps its result. -/
theorem result_of_render {id : String} {plot : Plot} {before after : Scene} {u : Unit}
    (found : before.board.plots.get? id = some plot)
    (returned : (render id).Returns before u after) :
    ∃ dice result, plot.sampled before.board.context dice = .ok result ∧
      after.board.plots.get? id = some { plot with result := some result } := by
  have draws := draws_of_render returned
  generalize shown : after.board.picture = p at draws
  cases draws with
  | @plot plot' dice result found' sampled =>
    cases found.symm.trans found'
    refine ⟨dice, result, sampled, ?_⟩
    change after.board.picture.plots.get? id = _
    rw [shown]
    exact Table.get?_insert_self _ _ _

section BareBoard

variable {source domain points variableName : Value} {config : Option SamplerConfig}
  {before after : Scene}
  {curve : Curve} {range : Option (Float × Float)} {count : Option Int}
  (bare : before.board.plots = Table.empty)
  (resolves : ∀ w, (Curve.resolve source variableName w).1 = .ok curve)
  (reads_domain : ∀ w, (readDomain? domain w).1 = .ok range)
  (reads_points : ∀ w, (readPoints points w).1 = .ok count)

include bare in
private theorem noPlot_of_bare (id : String) :
    ¬ (before.board.named "plot" none).plots.contains id = true := by
  rw [Board.plots_named, bare]
  exact Bool.false_ne_true

include bare resolves reads_domain reads_points

/-- Plotting a curve on a board without plots takes what is given, and samples it. -/
theorem sampled_of_returns_plot {name : String}
    (returned : (plot source domain points none variableName config).Returns before name after) :
    ∃ dice result,
      after.board.plots.get? name = some ⟨curve, range, count, config, some result⟩ ∧
        Plot.sampled ⟨curve, range, count, config, none⟩ before.board.context dice =
          .ok result := by
  simp only [plot, returns_bind, returns_ofWorked, returns_board] at returned
  obtain ⟨_, _, ⟨resolved, rfl⟩, id, named, ids, _, _, ⟨rfl, rfl⟩, steps⟩ := returned
  have board := board_of_plotId ids
  rw [board, if_neg (noPlot_of_bare bare id)] at steps
  simp only [addPlot, returns_bind, returns_pure, returns_ofWorked, returns_modifyBoard] at steps
  obtain ⟨_, rendered, ⟨_, _, ⟨range_read, rfl⟩, _, _, ⟨count_read, rfl⟩, _, _, rfl,
      rendering⟩, _, shown, warned, rfl, rfl⟩ := steps
  cases (resolves _).symm.trans resolved
  cases (reads_domain _).symm.trans range_read
  cases (reads_points _).symm.trans count_read
  obtain ⟨dice, result, sampled, found⟩ :=
    result_of_render (Board.get?_setPlot_self _ _ _) rendering
  -- a warning about a degenerate curve changes no plot
  have kept : shown.board.plots = rendered.board.plots :=
    congrArg Picture.plots (picture_warnIfDegenerate warned)
  have context : named.board.context = before.board.context := by rw [board, Board.context_named]
  exact ⟨dice, result, kept ▸ found, context ▸ sampled⟩

/-- If it fails, sampling has failed. -/
theorem refused_of_fails_plot {fault : Fault}
    (failed : (plot source domain points none variableName config).Fails before fault after) :
    ∃ dice, Plot.sampled ⟨curve, range, count, config, none⟩ before.board.context dice =
      .error fault := by
  simp only [plot, fails_bind, fails_ofWorked, returns_ofWorked, not_fails_board,
    returns_board, false_or, resolves, reduceCtorEq, false_and] at failed
  obtain ⟨_, _, ⟨resolved, rfl⟩,
    unnamed | ⟨id, named, ids, _, _, ⟨rfl, rfl⟩, steps⟩⟩ := failed
  · simp [plotId, not_fails_drawingId] at unnamed
  · have board := board_of_plotId ids
    -- the id is new, so the plot is added, not updated
    rw [board, if_neg (noPlot_of_bare bare id)] at steps
    cases resolved
    simp only [fails_bind, not_fails_warnIfDegenerate, not_fails_pure, and_false, exists_false,
      or_false, addPlot, fails_ofWorked, returns_ofWorked, not_fails_modifyBoard,
      returns_modifyBoard, false_or, reads_domain, reads_points, reduceCtorEq, false_and] at steps
    obtain ⟨_, _, ⟨range_read, rfl⟩, _, _, ⟨count_read, rfl⟩, _, _, rfl, rendering⟩ :=
      steps
    cases range_read
    cases count_read
    obtain ⟨undrawable, -⟩ := fails_render rendering
    have set := Board.get?_setPlot_self named.board id ⟨curve, range, count, config, none⟩
    cases undrawable with
    | missing absent => cases absent.symm.trans set
    | plot found refused =>
      cases found.symm.trans set
      have context : named.board.context = before.board.context := by
        rw [board, Board.context_named]
      change Plot.sampled _ named.board.context _ = _ at refused
      rw [context] at refused
      exact ⟨_, refused⟩

/-- So plotting on such a board returns or fails as sampling does. -/
theorem plot_cases (config : Option SamplerConfig) :
    (∃ name after dice result, (plot source domain points none variableName config).Returns
      before name after ∧
        after.board.plots.get? name = some ⟨curve, range, count, config, some result⟩ ∧
        Plot.sampled ⟨curve, range, count, config, none⟩ before.board.context dice =
          .ok result) ∨
      ∃ fault after dice,
        (plot source domain points none variableName config).Fails before fault after ∧
          Plot.sampled ⟨curve, range, count, config, none⟩ before.board.context dice =
            .error fault := by
  rcases (plot source domain points none variableName config).returns_or_fails before with
    ⟨name, after, returned⟩ | ⟨fault, after, failed⟩
  · obtain ⟨dice, result, found, sampled⟩ :=
      sampled_of_returns_plot bare resolves reads_domain reads_points returned
    exact .inl ⟨name, after, dice, result, returned, found, sampled⟩
  · obtain ⟨dice, refused⟩ :=
      refused_of_fails_plot bare resolves reads_domain reads_points failed
    exact .inr ⟨fault, after, dice, failed, refused⟩

end BareBoard

end Action

/-- Plots what a snapshot says on a board, under the next id. -/
def PlotSnapshot.replay (s : PlotSnapshot) : Action String :=
  Action.plot s.source (s.domain.elim .absent fun ends => .tuple [.real ends.1, .real ends.2])
    (s.points.elim .absent .whole) none (.text s.variableName) none

namespace Plot

/-- Whether plotting what the snapshot of a plot says yields a plot with the same result and the
same snapshot but for the id. -/
def IsRemade (plot : Plot) (id : String) (before : Scene) : Prop :=
  ∃ name plot' after, (PlotSnapshot.ofPlot id plot).replay.Returns before name after ∧
    after.board.plots.get? name = some plot' ∧ plot'.result = plot.result ∧
    PlotSnapshot.ofPlot name plot' = { PlotSnapshot.ofPlot id plot with id := name }

/-- A plot that is sampled as the board says. -/
def standard (plot : Plot) : Plot := { plot with config := none }

private theorem sampled_standard {plot : Plot} {context : PlotContext} {dice : Dice}
    (as_board : plot.config.getD context.sampler = context.sampler) :
    plot.standard.sampled context dice = plot.sampled context dice := by
  have config : plot.standard.effectiveConfig context = plot.effectiveConfig context :=
    as_board.symm
  unfold sampled effectivePoints
  rw [config]
  rfl

/-- Plotting what the snapshot of a plot says on a board without plots is sampling it in the board's
way. -/
theorem replay_cases {plot : Plot} (steady : plot.curve.Steady) (named : plot.curve.IsNamed)
    (count : ∀ n, plot.points = some n → IsCount n) (before : Scene)
    (bare : before.board.plots = Table.empty) (id : String) (dice : Dice) :
    match plot.standard.sampled before.board.context dice with
    | .ok result => IsRemade { plot.standard with result := some result } id before
    | .error fault => ∃ after, (PlotSnapshot.ofPlot id plot).replay.Fails before fault after := by
  obtain ⟨curve, alike, resolves⟩ := Curve.resolve_source named
  have reads_points (w : Workspace) : (readPoints (plot.points.elim .absent .whole) w).1 =
      .ok plot.points := by
    cases same : plot.points with
    | none => rfl
    | some n => exact readPoints_whole (count n same) w
  have alike_sampled (dice' : Dice) :
      Plot.sampled ⟨curve, plot.domain, plot.points, none, none⟩ before.board.context dice' =
        plot.standard.sampled before.board.context dice := by
    rw [← plot.standard.sampled_dice steady before.board.context dice' dice]
    unfold sampled effectivePoints effectiveConfig standard
    dsimp only
    rw [alike.sample, alike.mode]
  rcases Action.plot_cases bare resolves (readDomain?_again plot.domain) reads_points none with
    ⟨name, after, dice', result, returned, found, sampled⟩ |
      ⟨fault, after, dice', failed, refused⟩
  · rw [← alike_sampled dice', sampled]
    refine ⟨name, _, after, returned, found, rfl, ?_⟩
    simp [PlotSnapshot.ofPlot, standard, alike.source, alike.rewritten, alike.variableName]
  · rw [← alike_sampled dice', refused]
    exact ⟨after, failed⟩

/-- On a fresh board of the same settings in a frame of the same size, plotting what the snapshot of
a plot says makes the plot again, if its last sampling is up to date and it was done as the board
says. A config of its own is lost: what is made then, or fails to be, is the plot without it. -/
theorem isRemade {options : BoardOptions} {sampler : SamplerConfig}
    {failures resizes : List Command} {b b₀ : Board} {id : String} {plot : Plot}
    {result : SampledCurve Float} {dice : Dice} {width height : Float}
    (session : Session options sampler failures b) (window : options.window.Steady)
    (found : b.plots.get? id = some plot) (recorded : plot.result = some result)
    (current : plot.sampled b.context dice = .ok result) (steady : plot.curve.Steady)
    (named : plot.curve.IsNamed)
    (history : History { options with width := width, height := height } sampler resizes b₀)
    (resized : ∀ command ∈ resizes, command.isResize = true)
    (same_width : b₀.viewport.width = b.viewport.width)
    (same_height : b₀.viewport.height = b.viewport.height) (w : Workspace) :
    (plot.config.getD sampler = sampler → plot.IsRemade id ⟨b₀, w⟩) ∧
      match plot.standard.sampled b.context dice with
      | .ok result => IsRemade { plot.standard with result := some result } id ⟨b₀, w⟩
      | .error fault =>
        ∃ after, (PlotSnapshot.ofPlot id plot).replay.Fails ⟨b₀, w⟩ fault after := by
  have made := session.madeFor
  have made₀ := (Session.of_history history).madeFor
  have context : b₀.context = b.context :=
    made.context_eq made₀ (made.viewport_eq made₀ window same_width same_height)
  have cases := replay_cases steady named (made.counts id plot · found) ⟨b₀, w⟩
    (history.bare resized).1 id dice
  rw [context] at cases
  refine ⟨fun config => ?_, cases⟩
  have as_board : plot.config.getD b.context.sampler = b.context.sampler := by
    change plot.config.getD b.sampler = b.sampler
    rwa [made.sampler_eq]
  rw [sampled_standard as_board, current] at cases
  obtain ⟨name, plot', after, returned, found', same_result, same_snapshot⟩ := cases
  have same : PlotSnapshot.ofPlot id { plot.standard with result := some result } =
    PlotSnapshot.ofPlot id plot := by
    simp [PlotSnapshot.ofPlot, standard, recorded]
  rw [same] at returned same_snapshot
  exact ⟨name, plot', after, returned, found', same_result.trans recorded.symm, same_snapshot⟩

end Plot

/-! ### A plot far to the right -/

/-- Samples two points, also where the window ends. -/
def SamplerConfig.farReaching : SamplerConfig :=
  { default with
    microSteps := .ofNumber (.whole 1), overscan := .ofNumber (.whole 10),
      drawBeyondX := .truth true }

namespace Plot

/-- The identity to the right of the window. -/
def farAway (config : Option SamplerConfig) : Plot :=
  ⟨.graph .identity, some (10.0, 20.0), some 1, config, none⟩

end Plot

private theorem CompiledFormula.onList_identity (dice : Dice) (xs : List Float) :
    identity.onList dice xs = xs := by
  have tree : identity.tree = .free ['x'] := by
    simp [CompiledFormula.tree, identity, Derivation.tree]
  have answered : identity.onArray? dice (.ofList xs) = some (.ofList xs) := by
    rw [onArray?, tree, Tree.evaluate?]
    rfl
  rw [onList, answered, Option.map_some, Option.getD_some, Nested.entries_ofList]

/-- Samples the identity without its formula. -/
def PlotContext.sampleFarAway (context : PlotContext) (config : Option SamplerConfig) :
    Except Fault (SampledCurve Float) :=
  ((config.getD context.sampler).sample .explicit fun settings =>
    (sampleExplicit (fun xs => xs) (some (10.0, 20.0)) 1 context.viewport settings).mapError
      .arithmetic).mapError .argument

private theorem Plot.sampled_farAway (config : Option SamplerConfig) (context : PlotContext)
    (dice : Dice) :
    (farAway config).sampled context dice = context.sampleFarAway config := by
  have values : CompiledFormula.identity.onList dice = fun xs => xs := by
    funext xs
    exact CompiledFormula.onList_identity dice xs
  have sample (settings : Settings Float) :
      (farAway config).curve.sample dice (some (10.0, 20.0)) 1 context.viewport settings =
        sampleExplicit (fun xs => xs) (some (10.0, 20.0)) 1 context.viewport settings := by
    rw [← values]
    rfl
  unfold PlotContext.sampleFarAway
  simp only [← sample]
  rfl

/-- Plots the identity to the right of the window. -/
def Command.plotFarAway (config : Option SamplerConfig) : Command :=
  .plot (.formula .identity) (.tuple [.real 10.0, .real 20.0]) (.whole 1) none .absent config

private theorem isCount_one : IsCount 1 :=
  ⟨by decide, 1.0, ⟨false, 2 ^ 52, -52⟩, by decide +kernel, by decide +kernel⟩

private theorem History.exists_plotFarAway (sampler : SamplerConfig) (config : Option SamplerConfig)
    (kept lost : Nat)
    (run : (replay .square sampler []).bind (fun scene =>
      (scene.board.context.sampleFarAway config).toOption.bind fun result =>
        (scene.board.context.sampleFarAway none).toOption.map fun standard =>
          (result.pointCount, standard.pointCount)) = some (kept, lost)) :
    ∃ (b b₀ : Board) (id : String) (result standard : SampledCurve Float),
      History .square sampler [.plotFarAway config] b ∧ History .square sampler [] b₀ ∧
        b₀.viewport = b.viewport ∧ b.plots.get? id =
          some { Plot.farAway config with result := some result } ∧
        b.context.sampleFarAway config = .ok result ∧
        b.context.sampleFarAway none = .ok standard ∧
        result.pointCount = kept ∧ standard.pointCount = lost := by
  obtain ⟨scene, replayed, counted⟩ := Option.bind_eq_some_iff.1 run
  obtain ⟨result, sampled, counted⟩ := Option.bind_eq_some_iff.1 counted
  obtain ⟨standard, standard_sampled, counts⟩ := Option.map_eq_some_iff.1 counted
  rw [Prod.mk.injEq] at counts
  have history₀ := of_replay replayed
  have plotting := Action.plot_cases (history₀.bare (by simp)).1
    (fun w => (rfl : (Curve.resolve (.formula .identity) .absent w).1 = _))
    (readDomain?_again (some (10.0, 20.0))) (readPoints_whole isCount_one) config
  rcases plotting with ⟨name, after, dice, result', returned, found, yields⟩ |
    ⟨fault, after, dice, -, refused⟩
  · change (Plot.farAway config).sampled scene.board.context dice = .ok result' at yields
    rw [Plot.sampled_farAway, toOption_eq_some.1 sampled] at yields
    cases yields
    have performed : (Command.plotFarAway config).perform.Returns scene () after :=
      Action.returns_map.2 ⟨name, returned, rfl⟩
    have history : History .square sampler [.plotFarAway config] after.board :=
      .performed history₀ performed
    have viewport : after.board.viewport = scene.board.viewport :=
      (Command.effect performed).viewport rfl
    have context : after.board.context = scene.board.context :=
      (Session.of_history history₀).madeFor.context_eq
        (Session.of_history history).madeFor viewport
    refine ⟨after.board, scene.board, name, result, standard, history, history₀, viewport.symm,
      found, ?_, ?_, counts⟩
    · rw [context, toOption_eq_some.1 sampled]
    · rw [context, toOption_eq_some.1 standard_sampled]
  · -- it cannot have failed, since the curve can be sampled
    change (Plot.farAway config).sampled scene.board.context dice = .error fault at refused
    rw [Plot.sampled_farAway, toOption_eq_some.1 sampled] at refused
    cases refused

private theorem Curve.steady_identity : (graph .identity).Steady := by
  simp [Curve.Steady, CompiledFormula.tree, CompiledFormula.identity, Derivation.tree]

private theorem Curve.isNamed_identity : (graph .identity).IsNamed := by
  change isVariableName "x" = true
  decide

namespace Plot

/-- A config of the plot's own is nowhere in its snapshot. -/
theorem not_isRemade :
    ¬ ∀ (options : BoardOptions) (sampler : SamplerConfig) (commands resizes : List Command)
        (b b₀ : Board) (id : String) (plot : Plot) (result : SampledCurve Float) (dice : Dice)
        (width height : Float) (w : Workspace),
      History options sampler commands b → options.window.Steady →
      b.plots.get? id = some plot → plot.result = some result →
      plot.sampled b.context dice = .ok result → plot.curve.Steady → plot.curve.IsNamed →
      History { options with width := width, height := height } sampler resizes b₀ →
      (∀ command ∈ resizes, command.isResize = true) →
      b₀.viewport.width = b.viewport.width → b₀.viewport.height = b.viewport.height →
        ∃ name plot' after,
          (PlotSnapshot.ofPlot id plot).replay.Returns ⟨b₀, w⟩ name after ∧
            after.board.plots.get? name = some plot' ∧
            plot'.result.map SampledCurve.polylines = plot.result.map SampledCurve.polylines ∧
            PlotSnapshot.ofPlot name plot' = { PlotSnapshot.ofPlot id plot with id := name } := by
  intro all
  obtain ⟨b, b₀, id, result, standard, history, history₀, viewport, found, sampled,
      standard_sampled, two, nothing⟩ :=
    History.exists_plotFarAway .default (some .farReaching) 2 0 (by decide +kernel)
  let plot : Plot := { farAway (some .farReaching) with result := some result }
  have current : plot.sampled b.context ⟨0⟩ = .ok result :=
    (sampled_farAway _ b.context ⟨0⟩).trans sampled
  obtain ⟨name, made, after, returned, made_found, -, snapshot⟩ :=
    all .square .default _ [] b b₀ id plot result ⟨0⟩ 500.0 500.0 Workspace.initial history
      BoardOptions.steady_square found rfl current Curve.steady_identity Curve.isNamed_identity
        history₀ (by simp)
      (congrArg Viewport.width viewport) (congrArg Viewport.height viewport)
  -- without its config there is nothing to see of the plot
  have context : b₀.context = b.context :=
    (Session.of_history history).madeFor.context_eq (Session.of_history history₀).madeFor viewport
  have count (n : Int) (same : plot.points = some n) : IsCount n := by
    cases same
    exact isCount_one
  have cases := replay_cases Curve.steady_identity Curve.isNamed_identity count ⟨b₀,
    Workspace.initial⟩ (history₀.bare (by simp)).1 id ⟨0⟩
  have standard_current : plot.standard.sampled b.context ⟨0⟩ = .ok standard :=
    (sampled_farAway none b.context ⟨0⟩).trans standard_sampled
  rw [context, standard_current] at cases
  obtain ⟨name', made', after', returned', made_found', standard_result, -⟩ := cases
  cases returned.symm.trans returned'
  cases made_found.symm.trans made_found'
  have counts := congrArg PlotSnapshot.pointCount snapshot
  simp [PlotSnapshot.ofPlot, standard_result, plot, two, nothing] at counts

/-- A plot that is sampled as the board says is made again, with two points. -/
theorem isRemade_farAway :
    ∃ (b b₀ : Board) (id : String) (plot : Plot) (result : SampledCurve Float) (dice : Dice),
      Session .square .farReaching [] b ∧ b.plots.get? id = some plot ∧
        plot.result = some result ∧ plot.sampled b.context dice = .ok result ∧
        plot.curve.Steady ∧ plot.curve.IsNamed ∧
        History { BoardOptions.square with width := 500.0, height := 500.0 }
          .farReaching [] b₀ ∧
        b₀.viewport.width = b.viewport.width ∧ b₀.viewport.height = b.viewport.height ∧
        result.pointCount = 2 ∧
        plot.IsRemade id ⟨b₀, Workspace.initial⟩ := by
  obtain ⟨b, b₀, id, result, standard, history, history₀, viewport, found, sampled,
      -, two, -⟩ :=
    History.exists_plotFarAway .farReaching none 2 2 (by decide +kernel)
  let plot : Plot := { farAway none with result := some result }
  have current : plot.sampled b.context ⟨0⟩ = .ok result :=
    (sampled_farAway _ b.context ⟨0⟩).trans sampled
  have width := congrArg Viewport.width viewport
  have height := congrArg Viewport.height viewport
  have session := Session.of_history history
  have fresh :
      History { BoardOptions.square with width := 500.0, height := 500.0 } .farReaching [] b₀ :=
    history₀
  obtain ⟨as_board, -⟩ :=
    isRemade session BoardOptions.steady_square found rfl current Curve.steady_identity
    Curve.isNamed_identity fresh (by simp) width height Workspace.initial
  exact ⟨b, b₀, id, plot, result, ⟨0⟩, session, found, rfl, current, Curve.steady_identity,
    Curve.isNamed_identity, fresh, width, height, two, as_board rfl⟩

end Plot

end CurveBoard
