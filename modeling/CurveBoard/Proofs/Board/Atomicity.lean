import CurveBoard.Proofs.Board.Failures
import CurveBoard.Proofs.Board.Histories

/-!
# How far operations are atomic

An operation is atomic if it leaves the board as it was whenever it fails. Updating a plot is not:
the result and all that is drawn stay, but so do the settings that were changed before the one at
fault, and the next time the plot is drawn, it is drawn with them. Resizing is atomic as long as the
size itself is refused. Once it has been accepted, the frame is the new one; the drawings before the
first one that cannot be built in it are built for the new frame then, and the others still are what
they were in the old one.
-/
namespace CurveBoard

/-! ### Attempts on boards with a history -/

namespace History

variable {options : BoardOptions} {sampler : SamplerConfig} {commands : List Command}
  {command : Command}

/-- The scene that commands have made on a new board, and what another command leaves of it when it
fails. -/
def attempt (options : BoardOptions) (sampler : SamplerConfig) (commands : List Command)
    (command : Command) :
    Option (Scene × Scene) :=
  (replay options sampler commands).bind fun before =>
    match command.perform.outcome before with
    | (.error _, after) => some (before, after)
    | (.ok _, _) => none

theorem of_attempt {before after : Scene}
    (attempted : attempt options sampler commands command = some (before, after)) :
    History options sampler commands before.board ∧
    ∃ fault, command.perform.Fails before fault after := by
  obtain ⟨scene, replayed, left⟩ := Option.bind_eq_some_iff.1 attempted
  split at left <;> cases left
  next fault failed => exact ⟨of_replay replayed, fault, failed⟩

end History

/-- Plots the identity where there is nothing to see of it. -/
def Command.emptyPlot (id : String) : Command :=
  .plot (.formula .identity) (.tuple [.whole 0, .whole 0]) .absent (some id) .absent none

/-- Draws a dot at the origin. -/
def Command.originDot (id : String) : Command :=
  .draw .dot (.dot (.tuple [.whole 0, .whole 0]) (.text "closed") .absent .absent) (some id)

/-- Draws a segment with an arrow that points at a disc, for which there is little room. -/
def Command.shortArrow (id : String) : Command :=
  .draw .segment (.segment (.tuple [.whole 0, .whole 0]) (.tuple [.whole 1, .whole 0])
    (.text "arrowdot")) (some id)

/-- Gives a plot another curve and no points. -/
def Command.pointlessUpdate (id : String) : Command :=
  .update id ⟨some (.parametric ⟨.identity, .identity⟩), .absent, .whole 0, none⟩

/-! ### Updating a plot -/

namespace Command

/-- What a command asks of the plot that has an id, be it an update or another plot under the same
id. -/
inductive Asks (id : String) : Command → Action.PlotChange → Prop
  | update {change : Action.PlotChange} : Asks id (.update id change) change
  | plot {source domain points variableName : Value} {config : Option SamplerConfig} {curve : Curve}
      (resolves : Yields (Curve.resolve source variableName) curve) :
      Asks id (.plot source domain points (some id) variableName config) ⟨some curve, domain,
        points, config⟩

/-- Whether a command is about the plot that has an id. -/
def addresses (id : String) : Command → Bool
  | update other _ => other == id
  | plot _ _ _ given _ _ => given == some id
  | _ => false

end Command

namespace Board

/-- A board is the same after a plot has been set only if the plot is. -/
theorem setPlot_eq_self_iff {b : Board} {id : String} {plot plot' : Plot}
    (found : b.plots.get? id = some plot) :
    b.setPlot id plot' = b ↔ plot' = plot := by
  constructor
  · intro same
    have present := b.get?_setPlot_self id plot'
    rw [same, found] at present
    exact (Option.some.inj present).symm
  · rintro rfl
    exact setPlot_eq_self found

end Board

/-- An update that fails changes at most the settings of its plot, and those in their order up to
the one at fault. -/
theorem Failure.interrupted {b b' : Board} {id : String} {plot : Plot} {command : Command}
    {fault : Fault} (failure : Failure b fault command b') (addressed : command.addresses id = true)
    (found : b.plots.get? id = some plot) :
    b' = b ∨ ∃ plot' change, b' = b.setPlot id plot' ∧ command.Asks id change ∧
      Interrupted change b.context fault plot plot' := by
  cases failure with
  | refused noResize => exact .inl rfl
  | undrawn => cases addressed
  | unread =>
    obtain rfl := beq_iff_eq.1 addressed
    exact .inl rfl
  | newPlot names noPlot free =>
    obtain rfl := beq_iff_eq.1 addressed
    cases names with
    | given id =>
      rw [Table.contains_of_get? found] at noPlot
      cases noPlot
  | oldPlot resolves names found' interrupted =>
    obtain rfl := beq_iff_eq.1 addressed
    -- the id is given, so it is that of the plot that is there
    cases names with
    | given id =>
      cases found.symm.trans found'
      exact .inr ⟨_, _, rfl, .plot resolves, interrupted⟩
  | update found' interrupted =>
    obtain rfl := beq_iff_eq.1 addressed
    cases found.symm.trans found'
    exact .inr ⟨_, _, rfl, .update, interrupted⟩
  | size refuses => cases addressed
  | frame accepts refused isFault => cases addressed
  | redrawing accepts entries redrawn undrawable => cases addressed

/-- If a command about a plot fails, the board is what it was but for settings of that plot. The
plot's last result stays, and its settings are the old ones or those that the command has changed
before it failed. -/
theorem Command.setPlot_of_fails {b b' : Board} {w w' : Workspace} {id : String} {plot : Plot}
    {command : Command} {fault : Fault} (found : b.plots.get? id = some plot)
    (addressed : command.addresses id = true)
    (failed : command.perform.Fails ⟨b, w⟩ fault ⟨b', w'⟩) :
    ∃ plot', b' = b.setPlot id plot' ∧ plot'.result = plot.result ∧
      (b' = b ↔ plot' = plot) ∧ (plot' = plot ∨ ∃ change, command.Asks id change ∧
        Interrupted change b.context fault plot plot') := by
  rcases (Command.failure failed).interrupted addressed found with unchanged |
    ⟨plot', change, changed, asks, interrupted⟩
  · have same := unchanged.trans (Board.setPlot_eq_self found).symm
    exact ⟨plot, same, rfl, iff_of_true unchanged rfl, .inl rfl⟩
  · obtain rfl : b' = b.setPlot id plot' := changed
    exact ⟨plot', rfl, interrupted.result, Board.setPlot_eq_self_iff found,
      .inr ⟨change, asks, interrupted⟩⟩

/-- The curve of a plot has been changed before there turn out to be no points. -/
theorem History.exists_halfway_update :
    ∃ (b b' : Board) (w w' : Workspace) (plot : Plot) (fault : Fault),
      History .square .default [.emptyPlot "p"] b ∧ b.plots.get? "p" = some plot ∧
        (Command.pointlessUpdate "p").perform.Fails ⟨b, w⟩ fault ⟨b', w'⟩ ∧
        b'.plots.get? "p" ≠ some plot := by
  let variableIn (scene : Scene) : Option String :=
    (scene.board.plots.get? "p").map (·.curve.variableName)
  have run : (attempt .square .default [.emptyPlot "p"] (.pointlessUpdate "p")).map
      (fun scenes => (variableIn scenes.1, variableIn scenes.2)) = some (some "x", some "t") := by
    decide +kernel
  obtain ⟨⟨before, after⟩, attempted, names⟩ := Option.map_eq_some_iff.1 run
  obtain ⟨history, fault, failed⟩ := of_attempt attempted
  rw [Prod.mk.injEq] at names
  obtain ⟨old, found, old_name⟩ := Option.map_eq_some_iff.1 names.1
  obtain ⟨new, found', new_name⟩ := Option.map_eq_some_iff.1 names.2
  refine ⟨before.board, after.board, before.workspace, after.workspace, old, fault, history,
    found, failed, ?_⟩
  rw [found']
  rintro ⟨⟩
  exact absurd (old_name.symm.trans new_name) (by decide)

/-- Of an update with another curve and no points the curve is kept. -/
theorem Command.setPlot_of_fails_halfway :
    ∃ (b b' : Board) (w w' : Workspace) (plot plot' : Plot) (change : Action.PlotChange)
        (fault : Fault),
      b.plots.get? "p" = some plot ∧ (pointlessUpdate "p").addresses "p" = true ∧
        (pointlessUpdate "p").perform.Fails ⟨b, w⟩ fault ⟨b', w'⟩ ∧
        b' = b.setPlot "p" plot' ∧
          plot'.result = plot.result ∧ plot' ≠ plot ∧
          (pointlessUpdate "p").Asks "p" change ∧
            Interrupted change b.context fault plot plot' := by
  obtain ⟨b, b', w, w', plot, fault, -, found, failed, changed⟩ := History.exists_halfway_update
  have addressed : (pointlessUpdate "p").addresses "p" = true := by decide
  obtain ⟨plot', same, result, -, settings⟩ := setPlot_of_fails found addressed failed
  have differs : plot' ≠ plot := by
    rintro rfl
    exact changed (same ▸ b.get?_setPlot_self "p" plot')
  obtain ⟨change, asks, interrupted⟩ := settings.resolve_left differs
  exact ⟨b, b', w, w', plot, plot', change, fault, found, addressed, failed, same, result,
    differs, asks, interrupted⟩

/-- A plot may be another one after an update that has failed. -/
theorem Command.not_atomic_update :
    ¬ ∀ (options : BoardOptions) (sampler : SamplerConfig) (commands : List Command)
        (b b' : Board) (w w' : Workspace) (id : String) (plot : Plot) (command : Command)
        (fault : Fault),
      History options sampler commands b → b.plots.get? id = some plot →
      command.addresses id = true →
        command.perform.Fails ⟨b, w⟩ fault ⟨b', w'⟩ → b'.plots.get? id = some plot := by
  intro atomic
  obtain ⟨b, b', w, w', plot, fault, history, found, failed, changed⟩ :=
    History.exists_halfway_update
  exact changed (atomic _ _ _ b b' w w' "p" plot _ fault history found (by decide) failed)

/-! ### Redrawing in a new frame -/

/-- Whether an entry of an id has been built for the frame of a picture. -/
inductive Built (id : String) (p : Picture) : Entry Drawing Float → Prop
  | shape {kind : DrawingKind} {s : Shape Float} {primitives : List (Primitive Float)}
      (built : s.primitives p.viewport id = .ok primitives) :
        Built id p ⟨.shape kind s, primitives⟩
  | plot {plot : Plot} {dice : Dice} {result : SampledCurve Float}
      (found : p.plots.get? id = some plot)
      (recorded : plot.result = some result) (sampled : plot.sampled p.context dice = .ok result) :
      Built id p ⟨.plot, [Plot.primitive p.context id result]⟩

/-- Whether a picture shows a drawing under an id as it is built for its frame. -/
def Picture.ShowsBuilt (p : Picture) (id : String) (drawing : Drawing) : Prop :=
  ∃ primitives, p.entries.get? id = some ⟨drawing, primitives⟩ ∧
    Built id p ⟨drawing, primitives⟩

section SameAt

variable {p q : Picture} {id : String} {drawing : Drawing} (context : q.context = p.context)
  (same : p.SameAt q id)

include context same

theorem Built.of_sameAt {entry : Entry Drawing Float} (built : Built id p entry) :
    Built id q entry := by
  have viewport : q.viewport = p.viewport := congrArg PlotContext.viewport context
  cases built with
  | shape built =>
    rw [← viewport] at built
    exact .shape built
  | plot found recorded sampled =>
    rw [← context] at sampled ⊢
    exact .plot (same.plot.trans found) recorded sampled

theorem Picture.ShowsBuilt.of_sameAt (shows : p.ShowsBuilt id drawing) :
    q.ShowsBuilt id drawing := by
  obtain ⟨primitives, found, built⟩ := shows
  exact ⟨primitives, same.entry.trans found, built.of_sameAt context same⟩

theorem Undrawable.of_sameAt {fault : Fault} (undrawable : Undrawable id q drawing fault) :
    Undrawable id p drawing fault := by
  have viewport : q.viewport = p.viewport := congrArg PlotContext.viewport context
  cases undrawable with
  | shape refused =>
    rw [viewport] at refused
    exact .shape refused
  | missing absent => exact .missing (same.plot.symm.trans absent)
  | plot found refused =>
    rw [context] at refused
    exact .plot (same.plot.symm.trans found) refused

end SameAt

private theorem Draws.showsBuilt {p p' : Picture} {id : String} {drawing : Drawing}
    (draws : Draws id p drawing p') :
    p'.ShowsBuilt id drawing := by
  cases draws with
  | shape built => exact ⟨_, Table.get?_insert_self _ _ _, .shape built⟩
  | plot found sampled =>
    exact ⟨_, Table.get?_insert_self _ _ _, .plot (Table.get?_insert_self _ _ _) rfl sampled⟩

/-- All that is redrawn is built for the frame in the end, since no id comes twice. -/
theorem Redraws.showsBuilt {entries : List (String × Entry Drawing Float)} {p p' : Picture}
    (redraws : Redraws entries p p') (distinct : (entries.map Prod.fst).Nodup) :
    ∀ redrawn ∈ entries, p'.ShowsBuilt redrawn.1 redrawn.2.drawing := by
  induction entries generalizing p with
  | nil => simp
  | cons first rest ih =>
    obtain ⟨middle, draws, redraws⟩ := redraws
    rw [List.map_cons, List.nodup_cons] at distinct
    refine List.forall_mem_cons.2 ⟨?_, ih redraws distinct.2⟩
    exact draws.showsBuilt.of_sameAt redraws.context (redraws.sameAt distinct.1)

namespace Action

theorem redraws_of_redrawing {entries : List (String × Entry Drawing Float)} {before after : Scene}
    {u : Unit} (returned : (redrawing entries).Returns before u after) :
    Redraws entries before.board.picture after.board.picture := by
  obtain ⟨desk, stage, redrawn, rfl⟩ := returns_onDesk.1 returned
  exact redraws_of_redrawFrom redrawn

end Action

/-- What is left of a board if some drawings have been redrawn in a new frame and the next one could
not be. -/
structure HalfRedrawn (b : Board) (v : Viewport Float)
    (redrawn : List (String × Entry Drawing Float)) (id : String) (entry : Entry Drawing Float)
    (rest : List (String × Entry Drawing Float)) (fault : Fault) (b' : Board) : Prop where
  entries : b.desk.entries.entries = redrawn ++ (id, entry) :: rest
  refused : Undrawable id (b.reframed v).picture entry.drawing fault
  returned : ∃ w w', (Action.redrawing redrawn).Returns ⟨b.reframed v, w⟩ () ⟨b', w'⟩
  viewport : b'.viewport = v
  built : ∀ first ∈ redrawn, b'.picture.ShowsBuilt first.1 first.2.drawing
  kept : ∀ other, other ∉ redrawn.map Prod.fst → b.picture.SameAt b'.picture other

private theorem halfRedrawn_of_redrawing {b b' : Board} {v : Viewport Float} {w w' : Workspace}
    {redrawn rest : List (String × Entry Drawing Float)} {id : String}
    {entry : Entry Drawing Float} {fault : Fault}
    (entries : b.desk.entries.entries = redrawn ++ (id, entry) :: rest)
    (returned : (Action.redrawing redrawn).Returns ⟨b.reframed v, w⟩ () ⟨b', w'⟩)
    (undrawable : Undrawable id b'.picture entry.drawing fault) :
    HalfRedrawn b v redrawn id entry rest fault b' := by
  have redraws := Action.redraws_of_redrawing returned
  have names := b.desk.entries.distinct
  rw [entries, List.map_append, List.map_cons, List.nodup_append] at names
  obtain ⟨distinct, -, disjoint⟩ := names
  have absent : id ∉ redrawn.map Prod.fst :=
    fun member => disjoint id member id List.mem_cons_self rfl
  refine ⟨entries, ?_, ⟨w, w', returned⟩, ?_, ?_, fun other untouched => ?_⟩
  · -- what has been redrawn makes no difference to what cannot be
    exact undrawable.of_sameAt redraws.context (redraws.sameAt absent)
  · exact congrArg PlotContext.viewport redraws.context
  · exact redraws.showsBuilt distinct
  · have same := redraws.sameAt untouched
    exact ⟨same.entry, same.plot⟩

/-- If resizing fails then either the size was refused, and nothing has changed; or the frame is the
new one. Then the canvas has refused the size, and nothing has been redrawn; or some drawing cannot
be built in the new frame, the ones before it have been redrawn, and the others are what they
were. -/
theorem Action.reframed_of_fails {b b' : Board} {w w' : Workspace} {width height : Value}
    {fault : Fault} (failed : (resize width height).Fails ⟨b, w⟩ fault ⟨b', w'⟩) :
    (b.RefusesSize width height fault ∧ b' = b) ∨
      ∃ v, b.AcceptsSize width height v ∧
        ((∃ side, (b.desk.canvas.resize v.width v.height).1 = .error side ∧
          .side side = fault ∧ b' = b.reframed v) ∨
            ∃ redrawn id entry rest, HalfRedrawn b v redrawn id entry rest fault b') := by
  have failure := failure_resize failed
  cases failure with
  | refused noResize => cases noResize
  | size refuses => exact .inl ⟨refuses, rfl⟩
  | frame accepts refused isFault =>
    exact .inr ⟨_, accepts, .inl ⟨_, refused, isFault, rfl⟩⟩
  | redrawing accepts entries returned undrawable =>
    exact .inr ⟨_, accepts,
      .inr ⟨_, _, _, _, halfRedrawn_of_redrawing entries returned undrawable⟩⟩

/-- In a smaller frame the dot has been redrawn before there turns out to be no room for the
arrow. -/
theorem History.exists_halfway_resize :
    ∃ (b b' : Board) (w w' : Workspace) (fault : Fault),
      History .square .default [.shortArrow "arrow", .originDot "dot"] b ∧
        (Action.resize (.whole 120) (.whole 120)).Fails ⟨b, w⟩ fault ⟨b', w'⟩ ∧
          b'.viewport ≠ b.viewport ∧ b'.desk.entries ≠ b.desk.entries := by
  -- the run is told apart by a width and by the center of the dot
  let isWide (v : Viewport Float) : Bool := v.width == 500.0
  let isCentered (entries : Table (Entry Drawing Float)) : Option Bool :=
    (entries.get? "dot").bind fun entry =>
      (entry.primitives.head?.bind Primitive.center).map (·.1 == 250.0)
  have run : (attempt .square .default [.shortArrow "arrow", .originDot "dot"]
      (.resize (.whole 120) (.whole 120))).map (fun scenes =>
        ((isWide scenes.1.board.viewport, isWide scenes.2.board.viewport),
          isCentered scenes.1.board.desk.entries, isCentered scenes.2.board.desk.entries)) =
            some ((true, false), some true, some false) := by
    decide +kernel
  obtain ⟨⟨before, after⟩, attempted, measures⟩ := Option.map_eq_some_iff.1 run
  obtain ⟨history, fault, failed⟩ := of_attempt attempted
  simp only [Prod.mk.injEq] at measures
  obtain ⟨⟨wide, narrow⟩, centered, moved⟩ := measures
  refine ⟨before.board, after.board, before.workspace, after.workspace, fault, history,
    failed, ?_, ?_⟩
  · intro same
    rw [same, wide] at narrow
    cases narrow
  · intro same
    rw [same, centered] at moved
    cases moved

/-- Resizing that has got as far as the arrow. -/
theorem Action.reframed_of_fails_halfway :
    ∃ (b b' : Board) (w w' : Workspace) (fault : Fault),
      (resize (.whole 120) (.whole 120)).Fails ⟨b, w⟩ fault ⟨b', w'⟩ ∧
        ∃ v, b.AcceptsSize (.whole 120) (.whole 120) v ∧
          ((∃ side, (b.desk.canvas.resize v.width v.height).1 = .error side ∧
            .side side = fault ∧
            b' = b.reframed v) ∨
            ∃ redrawn id entry rest, HalfRedrawn b v redrawn id entry rest fault b') := by
  obtain ⟨b, b', w, w', fault, -, failed, differs, -⟩ := History.exists_halfway_resize
  have left := (reframed_of_fails failed).resolve_left fun refused =>
    differs (congrArg Board.viewport refused.2)
  exact ⟨b, b', w, w', fault, failed, left⟩

/-- Neither the frame nor the entries have to be what they were after a resizing that has failed. -/
theorem Action.not_atomic_resize :
    ¬ ∀ (options : BoardOptions) (sampler : SamplerConfig) (commands : List Command)
        (b b' : Board) (w w' : Workspace) (width height : Value) (fault : Fault),
      History options sampler commands b →
      (resize width height).Fails ⟨b, w⟩ fault ⟨b', w'⟩ →
        b'.viewport = b.viewport ∨ b'.desk.entries = b.desk.entries := by
  intro atomic
  obtain ⟨b, b', w, w', fault, history, failed, frame, entries⟩ := History.exists_halfway_resize
  rcases atomic _ _ _ b b' w w' _ _ fault history failed with same | same
  · exact frame same
  · exact entries same

end CurveBoard
