import CurveBoard.Proofs.Board.Outline

/-!
# Histories of boards

A history is a board with the commands that have made it what it is, the latest first. Every command
meets the workspace as it happens to be, for other boards use it too. If no expression calls a
random function then after every history all entries are fresh, and which frames there have been on
the way does not matter: the entries follow from the other commands and the frame at the end.
-/
namespace CurveBoard

/-- Boards with given settings, and the commands that have returned on them. -/
inductive History (options : BoardOptions) (sampler : SamplerConfig) :
    List Command → Board → Prop
  | created {id : String} {canvas : Canvas} {debug : Bool} {w : Workspace} {b : Board}
      (returned : (Board.create id options sampler canvas debug w).1 = .ok b) :
        History options sampler [] b
  | performed {commands : List Command} {command : Command} {b b' : Board} {w w' : Workspace}
      (earlier : History options sampler commands b)
      (returned : command.perform.Returns ⟨b, w⟩ () ⟨b', w'⟩) :
      History options sampler (command :: commands) b'

/-- Whether every entry shows what building its drawing yields, whatever the workspace, and every
plot on the desk has been sampled with the settings it has. -/
structure Board.Fresh (b : Board) : Prop where
  built : ∀ id entry, b.desk.entries.get? id = some entry →
    ∀ w, (Drawing.build b.context id entry.drawing ⟨b.plots, w⟩).1 = .ok entry.primitives
  sampled : ∀ id entry, b.desk.entries.get? id = some entry → entry.drawing = .plot →
    ∃ plot result, b.plots.get? id = some plot ∧ plot.result = some result ∧
      ∀ dice, plot.sampled b.context dice = .ok result

private theorem Board.fresh_of_picture {b : Board} (fresh : b.picture.Fresh) : b.Fresh := by
  constructor
  · intro id entry found w
    have shows := fresh.entries id entry found
    obtain ⟨drawing, primitives⟩ := entry
    cases drawing with
    | shape kind s =>
      change s.primitives b.viewport id = .ok primitives at shows
      exact mapError_eq_ok.2 shows
    | plot =>
      obtain ⟨plot, result, plot_found, -, sampled, rfl⟩ := shows
      change b.plots.get? id = some plot at plot_found
      -- the result was sampled in some workspace, and would be the same in any other
      have built : (plot.build b.context id w).1 = .ok result :=
        (plot.build_result _ id w).trans (sampled _)
      unfold Drawing.build
      dsimp only
      rw [plot_found]
      dsimp only
      split
      next fault left failed =>
        rw [failed] at built
        cases built
      next result' left returned =>
        rw [returned] at built
        cases built
        rfl
  · intro id entry found isPlot
    have shows := fresh.entries id entry found
    rw [Picture.Shows, isPlot] at shows
    obtain ⟨plot, result, plot_found, recorded, sampled, -⟩ := shows
    exact ⟨plot, result, plot_found, recorded, sampled⟩

namespace Command

/-- The size of the frame that a command asks for. -/
def frame? : Command → Option (Value × Value)
  | resize width height => some (width, height)
  | _ => none

end Command

private theorem consistent_of_viewportFor {options : BoardOptions} {sampler : SamplerConfig}
    {v : Viewport Float} (yields : Yields (viewportFor options sampler) v) : v.Consistent := by
  obtain ⟨w, framed⟩ := yields
  unfold viewportFor at framed
  split at framed
  · cases framed
  · obtain ⟨overscan, -, framed⟩ := Framing.reading_eq_ok.1 framed
    exact Viewport.create_consistent (mapError_eq_ok.1 framed)

/-- A new board has a consistent viewport and nothing to show. -/
theorem picture_create {id : String} {options : BoardOptions} {sampler : SamplerConfig}
    {canvas : Canvas} {debug : Bool} {w : Workspace} {b : Board}
    (returned : (Board.create id options sampler canvas debug w).1 = .ok b) :
    ∃ v, Yields (viewportFor options sampler) v ∧ v.Consistent ∧
      b.picture = ⟨v, sampler, options.samplingPoints, Table.empty, Table.empty,
        Table.empty⟩ := by
  unfold Board.create at returned
  split at returned
  · cases returned
  next v left framed =>
    cases returned
    have yields : Yields (viewportFor options sampler) v := ⟨w, congrArg Prod.fst framed⟩
    exact ⟨v, yields, consistent_of_viewportFor yields, rfl⟩

/-- The formula that is nothing but its variable. -/
def CompiledFormula.identity : CompiledFormula :=
  ⟨"x", "x", _, Formula.parse_of_derivation
    (.sum (.product (.unsigned (.factorial (.bare
      (.variable ['x'] (by decide : ['x'] ∈ ["x"].map String.toList) (by decide))) 0))
        .noFactor) .noTerm)
    (by decide +kernel : scan "x".toList = .ok [⟨.name ['x'], 0⟩])
    (by simp [spelledOut, spellInverses, spellProducts, spellLogarithm, Token.inverse?,
      inverseSuffixLength, Derivation.word])⟩

/-- A square frame around the origin, with nothing else set. -/
def BoardOptions.square : BoardOptions :=
  ⟨500.0, 500.0, 20.0, ⟨.whole (-5), .whole 5, .whole (-5), .absent⟩, none⟩

theorem BoardOptions.steady_square : square.window.Steady := by
  constructor <;> simp [square, Value.Steady]

namespace History

variable {options : BoardOptions} {sampler : SamplerConfig} {commands commands' : List Command}
  {b b' : Board}

theorem consistent (history : History options sampler commands b) : b.viewport.Consistent := by
  induction history with
  | created returned =>
    obtain ⟨v, -, consistent, same⟩ := picture_create returned
    obtain rfl := congrArg Picture.viewport same
    exact consistent
  | performed earlier returned ih => exact (Command.effect returned).consistent ih

theorem fresh (history : History options sampler commands b)
    (steady : ∀ command ∈ commands, command.Steady) :
    b.picture.Fresh := by
  induction history with
  | created returned =>
    obtain ⟨v, -, -, same⟩ := picture_create returned
    rw [same]
    exact ⟨fun id => Picture.freshAt_of_absent rfl, fun id plot found => by cases found⟩
  | performed earlier returned ih =>
    obtain ⟨last, before⟩ := List.forall_mem_cons.1 steady
    exact (Command.effect returned).fresh last (ih before)

/-- The outlines that commands other than resizing can lead to. -/
inductive Outlined (options : BoardOptions) (sampler : SamplerConfig) :
    List Command → Outline → Prop
  | created {v : Viewport Float} (yields : Yields (viewportFor options sampler) v) :
      Outlined options sampler []
        ⟨v.requestFor, sampler, options.samplingPoints, Table.empty, Table.empty, Table.empty⟩
  | performed {commands : List Command} {command : Command} {p p' : Picture}
      (earlier : Outlined options sampler commands p.outline) (noResize : command.isResize = false)
      (effect : Effect p command p') : Outlined options sampler (command :: commands) p'.outline

/-- Resizing leaves no trace in the outline. -/
theorem outlined (history : History options sampler commands b) :
    Outlined options sampler (commands.filter (!·.isResize)) b.picture.outline := by
  induction history with
  | created returned =>
    obtain ⟨v, yields, -, same⟩ := picture_create returned
    rw [same]
    exact .created yields
  | @performed commands command b b' w w' earlier returned ih =>
    have effect := Command.effect returned
    cases kept : command.isResize with
    | false =>
      rw [List.filter_cons_of_pos (by simp [kept])]
      exact .performed ih kept effect
    | true =>
      -- the outline is kept, and so is the list of the other commands
      rw [List.filter_cons_of_neg (by simp [kept])]
      cases command with
      | resize width height =>
        have same := effect.outline_resize earlier.consistent
        change b'.picture.outline = b.picture.outline at same
        rw [same]
        exact ih
      | _ => cases kept

theorem Outlined.unique {o o' : Outline} (outlined : Outlined options sampler commands o)
    (outlined' : Outlined options sampler commands o') (window : options.window.Steady)
    (steady : ∀ command ∈ commands, command.Steady) : o = o' := by
  induction outlined generalizing o' with
  | created yields =>
    cases outlined' with
    | created yields' => rw [yields.unique (unvarying_viewportFor sampler window) yields']
  | performed earlier noResize effect ih =>
    cases outlined' with
    | performed earlier' _ effect' =>
      obtain ⟨last, before⟩ := List.forall_mem_cons.1 steady
      exact effect.outline_eq effect' last noResize (ih earlier' before)

/-- The frame is the one that was asked for last. -/
theorem frame {width height : Value} (history : History options sampler commands b)
    (last : commands.findSome? Command.frame? = some (width, height))
    (explicit : height.isAbsent = false) :
    Yields (Action.readLength width) b.viewport.width ∧
      Yields (Action.readLength height) b.viewport.height := by
  induction history with
  | created returned => cases last
  | @performed commands command b b' w w' earlier returned ih =>
    have effect := Command.effect returned
    cases command with
    | resize width height =>
      cases last
      exact effect.frame earlier.consistent explicit
    | _ =>
      have viewport : b'.viewport = b.viewport := effect.viewport rfl
      rw [viewport]
      exact ih last

private theorem steady_of_frame {width height : Value}
    (steady : ∀ command ∈ commands, command.Steady)
    (last : commands.findSome? Command.frame? = some (width, height)) :
    width.Steady ∧ height.Steady := by
  obtain ⟨command, member, found⟩ := List.exists_of_findSome?_eq_some last
  have command_steady := steady command member
  cases command with
  | resize width height =>
    cases found
    exact command_steady
  | _ => cases found

/-- Whether two boards end up in frames of the same size, maybe since the last one asked for is the
same. -/
inductive SameFrame (commands commands' : List Command) (b b' : Board) : Prop
  | size (width : b.viewport.width = b'.viewport.width)
      (height : b.viewport.height = b'.viewport.height)
  | asked {width height : Value} (explicit : height.isAbsent = false)
      (last : commands.findSome? Command.frame? = some (width, height))
      (last' : commands'.findSome? Command.frame? = some (width, height))

theorem SameFrame.sizes (same : SameFrame commands commands' b b')
    (history : History options sampler commands b) (history' : History options sampler commands' b')
    (steady : ∀ command ∈ commands, command.Steady) :
    b.viewport.width = b'.viewport.width ∧ b.viewport.height = b'.viewport.height := by
  cases same with
  | size width height => exact ⟨width, height⟩
  | asked explicit last last' =>
    obtain ⟨width, height⟩ := history.frame last explicit
    obtain ⟨width', height'⟩ := history'.frame last' explicit
    obtain ⟨width_steady, height_steady⟩ := steady_of_frame steady last
    exact ⟨width.unique (unvarying_readLength width_steady) width',
      height.unique (unvarying_readLength height_steady) height'⟩

/-- After every history, and so after each of its commands, all entries are fresh. They are the same
as after any other history with the same commands but for resizing, if the frame is the same in the
end. -/
theorem fresh_and_determined (history : History options sampler commands b)
    (steady : ∀ command ∈ commands, command.Steady) :
    b.Fresh ∧
      ∀ commands' b', History options sampler commands' b' →
        options.window.Steady → (∀ command ∈ commands', command.Steady) →
        commands.filter (!·.isResize) = commands'.filter (!·.isResize) →
        SameFrame commands commands' b b' → b.desk.entries = b'.desk.entries := by
  have fresh := history.fresh steady
  -- the outlines come from the same commands, and with the frame they tell the viewports and the
  -- entries
  refine ⟨Board.fresh_of_picture fresh,
    fun commands' b' history' window steady' kept frame => ?_⟩
  have outline : b.picture.outline = b'.picture.outline := by
    have outlined := history.outlined
    rw [kept] at outlined
    exact outlined.unique history'.outlined window fun command member =>
      steady' command (List.mem_of_mem_filter member)
  obtain ⟨width, height⟩ := frame.sizes history history' steady
  have request := congrArg Outline.request outline
  have viewport := history.consistent.unique history'.consistent request width height
  exact fresh.unique (history'.fresh steady') outline viewport

/-- Performs commands on a new board in a new workspace, if all of them return. -/
def replay (options : BoardOptions) (sampler : SamplerConfig) : List Command → Option Scene
  | [] =>
    match Board.create "board" options sampler (.store Store.empty) false Workspace.initial with
    | (.ok b, w) => some ⟨b, w⟩
    | (.error _, _) => none
  | command :: earlier =>
    (replay options sampler earlier).bind fun scene =>
      match command.perform.outcome scene with
      | (.ok _, after) => some after
      | (.error _, _) => none

theorem of_replay {scene : Scene} (replayed : replay options sampler commands = some scene) :
    History options sampler commands scene.board := by
  induction commands generalizing scene with
  | nil =>
    unfold replay at replayed
    split at replayed <;> cases replayed
    next b w made => exact .created (congrArg Prod.fst made)
  | cons command earlier ih =>
    obtain ⟨before, replayed, performed⟩ := Option.bind_eq_some_iff.1 replayed
    split at performed <;> cases performed
    next returned => exact .performed (ih replayed) returned

/-- A dot and a plot of the identity with three points, in one frame or in three. -/
theorem fresh_and_determined_reframed :
    ∃ (dot plot : Command) (b b' : Board),
      History .square .default [.resize (.whole 600) (.whole 400), plot, dot] b ∧
      History .square .default
        [.resize (.whole 600) (.whole 400), plot, .resize (.whole 300) .absent, dot,
          .resize (.whole 90) (.real 70.5)] b' ∧
      b.Fresh ∧ b.desk.entries = b'.desk.entries ∧ b.desk.entries.size = 2 ∧
      b.plots.values.map (·.result.map (·.pointCount)) = [some 3] := by
  let dot : Command := .draw .dot
    (.dot (.tuple [.whole 0, .whole 1]) (.text "closed") .absent (.text "north")) (some "origin")
  let plot : Command :=
    .plot (.formula .identity) (.tuple [.whole 0, .whole 1]) (.whole 2) none (.text "x") none
  have dot_steady : dot.Steady := trivial
  have plot_steady : plot.Steady := by
    simp [Command.Steady, Value.Steady, Value.AllSteady, CompiledFormula.tree,
      Derivation.tree, plot, CompiledFormula.identity]
  have frame_steady (width height : Value) :
      (Command.resize width height).Steady ↔ width.Steady ∧ height.Steady := Iff.rfl
  have performed (commands : List Command)
      (shown : (replay .square .default commands).map (fun scene => (scene.board.desk.entries.size,
        scene.board.plots.values.map (·.result.map (·.pointCount)))) = some (2, [some 3])) :
      ∃ b, History .square .default commands b ∧ b.desk.entries.size = 2 ∧
        b.plots.values.map (·.result.map (·.pointCount)) = [some 3] := by
    obtain ⟨scene, replayed, shown⟩ := Option.map_eq_some_iff.1 shown
    exact ⟨scene.board, of_replay replayed, Prod.mk.injEq .. ▸ shown⟩
  obtain ⟨b, history, sizes⟩ :=
    performed [.resize (.whole 600) (.whole 400), plot, dot] (by decide +kernel)
  obtain ⟨b', history', -⟩ := performed [.resize (.whole 600) (.whole 400), plot,
    .resize (.whole 300) .absent, dot, .resize (.whole 90) (.real 70.5)] (by decide +kernel)
  obtain ⟨fresh, determined⟩ := history.fresh_and_determined (by
    simp [dot_steady, plot_steady, frame_steady, Value.Steady])
  refine ⟨dot, plot, b, b', history, history', fresh, ?_, sizes⟩
  refine determined _ _ history' BoardOptions.steady_square
    (by simp [dot_steady, plot_steady, frame_steady, Value.Steady]) rfl ?_
  exact .asked rfl rfl rfl

end History

end CurveBoard
