import CurveBoard.Proofs.Board.Pairing

/-!
# Made-up ids

A board that makes up an id looks for the first free number after the last one that it has given to
a drawing of the kind, and remembers it. Drawings come and go, and callers may have taken any ids,
but the numbers that are remembered only grow. An id tells its kind and its number. So an id that
has been made up is not made up again, whatever has become of the drawing that it was made up for.
-/
namespace CurveBoard

namespace Board

/-- The last number that was given to a drawing of a kind. -/
def lastNumber (b : Board) (kind : String) : Nat := (b.counters.get? kind).getD 0

/-- The number that is looked for is the first free one. -/
theorem isLeast_freeNumber (b : Board) (kind : String) :
    IsLeast {n | b.lastNumber kind < n ∧ b.desk.entries.contains (numberedId kind n) = false}
      (b.freeNumber kind (b.lastNumber kind)) :=
  isLeast_firstFree b.desk.entries kind (b.lastNumber kind)

private theorem lastNumber_nextId_self (b : Board) (kind : String) :
    (b.nextId kind).2.lastNumber kind = b.freeNumber kind (b.lastNumber kind) := by
  change ((b.counters.insert kind _).get? kind).getD 0 = _
  rw [Table.get?_insert_self]
  rfl

private theorem lastNumber_nextId_of_ne (b : Board) {kind other : String}
    (differs : other ≠ kind) :
    (b.nextId kind).2.lastNumber other = b.lastNumber other := by
  change ((b.counters.insert kind _).get? other).getD 0 = _
  rw [Table.get?_insert_of_ne differs]
  rfl

/-- Numbers that are remembered grow. -/
theorem lastNumber_le_nextId (b : Board) (kind other : String) :
    b.lastNumber other ≤ (b.nextId kind).2.lastNumber other := by
  by_cases same : other = kind
  · subst same
    rw [lastNumber_nextId_self]
    exact (b.isLeast_freeNumber other).1.1.le
  · rw [lastNumber_nextId_of_ne b same]

end Board

/-! ### Which commands make up an id -/

namespace Command

/-- Whether a command draws something and gives it no id. -/
def isUnnamed : Command → Bool
  | draw _ _ none => true
  | plot _ _ _ none _ _ => true
  | _ => false

/-- The command with an id for what it draws. -/
def withId (id : String) : Command → Command
  | draw kind sketch _ => draw kind sketch (some id)
  | plot source domain points _ variableName config =>
    plot source domain points (some id) variableName config
  | command => command

/-- The kind of drawing that a command makes up an id for. It comes to that when it has read what is
to be drawn. -/
def unnamedKind? (command : Command) (before : Scene) : Option String :=
  match command with
  | draw kind sketch none => sketch.tupled.toOption.map fun _ => kind.name
  | plot source _ _ none variableName _ =>
    (Curve.resolve source variableName before.workspace).1.toOption.map fun _ => "plot"
  | _ => none

/-- The id that a command makes up. -/
def madeUp? (command : Command) (before : Scene) : Option String :=
  (command.unnamedKind? before).map fun kind => (before.board.nextId kind).1

end Command

/-! ### Numbers that commands give away -/

theorem Draws.counters {id : String} {drawing : Drawing} {p p' : Picture}
    (draws : Draws id p drawing p') :
    p'.counters = p.counters := by
  cases draws <;> rfl

theorem Redraws.counters {entries : List (String × Entry Drawing Float)} {p p' : Picture}
    (redraws : Redraws entries p p') : p'.counters = p.counters := by
  induction entries generalizing p with
  | nil =>
    obtain rfl := redraws
    rfl
  | cons entry rest ih =>
    obtain ⟨middle, draws, redraws⟩ := redraws
    rw [ih redraws, draws.counters]

/-- A command that makes up no id gives no number away if it returns. -/
theorem Effect.counters {p p' : Picture} {command : Command} (effect : Effect p command p')
    (named : command.isUnnamed = false) : p'.counters = p.counters := by
  cases effect with
  | draw tuples describes names noPlot draws =>
    cases names with
    | given => exact draws.counters
    | next => cases named
  | newPlot resolves names noPlot free reads_domain reads_points draws =>
    cases names with
    | given => exact draws.counters
    | next => cases named
  | oldPlot resolves names found changes draws =>
    cases names with
    | given => exact draws.counters
    | next => cases named
  | update found changes draws => exact draws.counters
  | delete present => rfl
  | clear => rfl
  | resize reads_width reads_height resizes redraws => exact redraws.counters

/-- It gives none away if it fails, either. -/
theorem Failure.counters {b b' : Board} {command : Command} {fault : Fault}
    (failure : Failure b fault command b') (named : command.isUnnamed = false) :
    b'.counters = b.counters := by
  have given {kind : String} {id : Option String}
      (some : id.isSome) : (b.named kind id).counters = b.counters := by
    cases id with
    | some id => rfl
    | none => cases some
  -- no case is left in which an id has to be made up
  cases failure with
  | refused noResize => rfl
  | @undrawn _ _ id =>
    cases id with
    | some id => rfl
    | none => cases named
  | @unread _ _ _ _ id =>
    cases id with
    | some id => rfl
    | none => cases named
  | @newPlot _ _ _ _ id _ _ _ _ _ names noPlot free =>
    cases id with
    | some id => rfl
    | none => cases named
  | @oldPlot _ _ _ _ id _ _ _ _ _ resolves names found interrupted =>
    cases id with
    | some id => rfl
    | none => cases named
  | update found interrupted => rfl
  | size refuses => rfl
  | frame accepts refused isFault => rfl
  | redrawing accepts entries redrawn undrawable =>
    exact (Action.redraws_of_redrawing redrawn).counters

namespace Command

variable {command : Command} {b : Board} {w : Workspace} {kind : String}

private theorem counters_of_named (named : command.isUnnamed = false) (before : Scene) :
    (command.perform.outcome before).2.board.counters = before.board.counters := by
  rcases command.perform.returns_or_fails before with ⟨u, after, returned⟩ |
    ⟨fault, after, failed⟩
  · have same := (Command.effect returned).counters named
    rwa [returned]
  · have same := (Command.failure failed).counters named
    rwa [failed]

end Command

namespace Action

private theorem outcome_ofWorked {α : Type} (use : Worked α) (before : Scene) :
    (ofWorked use).outcome before =
      ((use before.workspace).1, { before with workspace := (use before.workspace).2 }) := by
  change (ofExcept id (use before.workspace).1).outcome _ = _
  cases (use before.workspace).1 <;> rfl

private theorem outcome_draw_none {sketch tupled : Sketch} (read : sketch.tupled = .ok tupled)
    (kind : DrawingKind) (b : Board) (w : Workspace) :
    (draw kind sketch none).outcome ⟨b, w⟩ =
      (draw kind sketch (some (b.nextId kind.name).1)).outcome ⟨(b.nextId kind.name).2, w⟩ := by
  unfold draw
  rw [read]
  rfl

/-- A free id is the id of a new plot. -/
theorem outcome_plotId_of_free {b : Board} {id : String} (free : b.desk.entries.contains id = false)
    (w : Workspace) :
    (plotId (some id)).outcome ⟨b, w⟩ = (.ok id, ⟨b, w⟩) := by
  have looked : board.outcome ⟨b, w⟩ = (.ok b, ⟨b, w⟩) := rfl
  simp only [plotId, outcome_bind, looked, Table.get?_eq_none free]
  rfl

private theorem outcome_plot_none {source variableName : Value} {curve : Curve} {w : Workspace}
    (resolved : (Curve.resolve source variableName w).1 = .ok curve) (domain points : Value)
    (config : Option SamplerConfig) (b : Board) :
    (plot source domain points none variableName config).outcome ⟨b, w⟩ =
      (plot source domain points (some (b.nextId "plot").1) variableName config).outcome
        ⟨(b.nextId "plot").2, w⟩ := by
  have free : (b.nextId "plot").2.desk.entries.contains (b.nextId "plot").1 = false :=
    b.picture.contains_freeNumber "plot"
  unfold plot
  simp only [outcome_bind, outcome_ofWorked, resolved, outcome_plotId_of_free free]
  rfl

private theorem name_of_drawingId_none {kind name : String} {before after : Scene}
    (returned : (drawingId kind none).Returns before name after) :
    name = (before.board.nextId kind).1 := by
  simp only [drawingId, returns_bind, returns_board, returns_modifyBoard, returns_pure] at returned
  obtain ⟨b, -, ⟨rfl, rfl⟩, -, -, rfl, rfl, rfl⟩ := returned
  rfl

/-- A shape that is drawn without an id has got the next one. -/
theorem name_of_draw_none {kind : DrawingKind} {sketch : Sketch} {name : String}
    {before after : Scene} (returned : (draw kind sketch none).Returns before name after) :
    (Command.draw kind sketch none).madeUp? before = some name := by
  simp only [draw, returns_bind, returns_ofExcept, returns_board] at returned
  obtain ⟨tupled, _, ⟨tuples, rfl⟩, made, middle, named, b, _, ⟨rfl, rfl⟩, returned⟩ :=
    returned
  have unnamed : (Command.draw kind sketch none).unnamedKind? before = some kind.name :=
    Option.map_eq_some_iff.2 ⟨tupled, toOption_eq_some.2 tuples, rfl⟩
  have same : made = name := by
    split at returned
    · simp at returned
    · simp only [returns_bind, returns_pure] at returned
      obtain ⟨_, _, -, _, _, -, same, -⟩ := returned
      exact same
  rw [Command.madeUp?, unnamed, ← same, name_of_drawingId_none named]
  rfl

/-- So has a plot. -/
theorem name_of_plot_none {source domain points variableName : Value}
    {config : Option SamplerConfig} {name : String} {before after : Scene}
    (returned : (plot source domain points none variableName config).Returns before name after) :
    (Command.plot source domain points none variableName config).madeUp? before = some name := by
  simp only [plot, returns_bind, returns_ofWorked, returns_board] at returned
  obtain ⟨curve, _, ⟨resolved, rfl⟩, made, middle, named, b, _, ⟨rfl, rfl⟩, returned⟩ :=
    returned
  have unnamed : (Command.plot source domain points none variableName config).unnamedKind? before =
      some "plot" :=
    Option.map_eq_some_iff.2 ⟨curve, toOption_eq_some.2 resolved, rfl⟩
  simp only [plotId, returns_bind, returns_board] at named
  obtain ⟨b, _, ⟨rfl, rfl⟩, named⟩ := named
  have same : made = name := by
    split at returned
    · simp only [returns_bind, returns_pure] at returned
      obtain ⟨_, _, -, _, _, -, same, -⟩ := returned
      exact same
    · simp only [returns_bind, returns_pure] at returned
      obtain ⟨_, _, -, _, _, -, same, -⟩ := returned
      exact same
  rw [Command.madeUp?, unnamed, ← same, name_of_drawingId_none named]
  rfl

end Action

namespace Command

variable {command : Command} {b : Board} {w : Workspace} {kind : String}

/-- A command makes up an id and then does what it would do with this id, on the board that
remembers the number. -/
theorem outcome_of_unnamed (unnamed : command.unnamedKind? ⟨b, w⟩ = some kind) :
    command.perform.outcome ⟨b, w⟩ =
      (command.withId (b.nextId kind).1).perform.outcome ⟨(b.nextId kind).2, w⟩ := by
  cases command with
  | draw drawn sketch id =>
    cases id with
    | some id => cases unnamed
    | none =>
      obtain ⟨tupled, read, rfl⟩ := Option.map_eq_some_iff.1 unnamed
      have read := toOption_eq_some.1 read
      simp only [perform, withId, map_eq_pure_bind, Action.outcome_bind,
        Action.outcome_draw_none read]
  | plot source domain points id variableName config =>
    cases id with
    | some id => cases unnamed
    | none =>
      obtain ⟨curve, resolved, rfl⟩ := Option.map_eq_some_iff.1 unnamed
      have resolved := toOption_eq_some.1 resolved
      simp only [perform, withId, map_eq_pure_bind, Action.outcome_bind,
        Action.outcome_plot_none resolved]
  | _ => cases unnamed

private theorem isUnnamed_withId (command : Command) (id : String) :
    (command.withId id).isUnnamed = false := by
  cases command <;> rfl

/-- A command that comes to no id fails before it has changed the board. -/
theorem board_of_unread (unnamed : command.isUnnamed = true)
    (unread : command.unnamedKind? ⟨b, w⟩ = none) :
    (command.perform.outcome ⟨b, w⟩).2.board = b := by
  -- where its values can be read, the command does come to an id
  cases command with
  | draw drawn sketch id =>
    cases id with
    | some id => cases unnamed
    | none =>
      simp only [perform, map_eq_pure_bind, Action.outcome_bind, Action.draw]
      cases read : sketch.tupled with
      | error fault => rfl
      | ok tupled =>
        have read : (draw drawn sketch none).unnamedKind? ⟨b, w⟩ = some drawn.name :=
          Option.map_eq_some_iff.2 ⟨tupled, toOption_eq_some.2 read, rfl⟩
        cases read.symm.trans unread
  | plot source domain points id variableName config =>
    cases id with
    | some id => cases unnamed
    | none =>
      simp only [perform, map_eq_pure_bind, Action.outcome_bind, Action.plot,
        Action.outcome_ofWorked]
      cases resolved : (Curve.resolve source variableName w).1 with
      | error fault => rfl
      | ok curve =>
        have read : (plot source domain points none variableName config).unnamedKind? ⟨b, w⟩ =
            some "plot" :=
          Option.map_eq_some_iff.2 ⟨curve, toOption_eq_some.2 resolved, rfl⟩
        cases read.symm.trans unread
  | _ => cases unnamed

/-- Which numbers a command gives away: the one that it makes up an id of, if it comes to that,
whether it returns or fails. -/
theorem counters_outcome (command : Command) (before : Scene) :
    (command.perform.outcome before).2.board.counters =
      ((command.unnamedKind? before).elim before.board fun kind =>
        (before.board.nextId kind).2).counters := by
  obtain ⟨b, w⟩ := before
  cases unnamed : command.unnamedKind? ⟨b, w⟩ with
  | some kind =>
    rw [outcome_of_unnamed unnamed, counters_of_named (isUnnamed_withId command _)]
    rfl
  | none =>
    cases named : command.isUnnamed with
    | false => exact counters_of_named named _
    | true => rw [board_of_unread named unnamed]; rfl

end Command

/-! ### Runs -/

/-- Boards with given settings after any commands, whether these have returned or failed, with the
ids that the board has made up on the way, the latest first. -/
inductive Numbering (options : BoardOptions) (sampler : SamplerConfig) :
    List String → Board → Prop
  | created {id : String} {canvas : Canvas} {debug : Bool} {w : Workspace} {b : Board}
      (returned : (Board.create id options sampler canvas debug w).1 = .ok b) :
        Numbering options sampler [] b
  | performed {ids : List String} {b : Board} (earlier : Numbering options sampler ids b)
      (command : Command) (w : Workspace) :
      Numbering options sampler ((command.madeUp? ⟨b, w⟩).toList ++ ids)
        (command.perform.outcome ⟨b, w⟩).2.board

namespace Board

/-- The ids have numbers up to the last ones given away. -/
def Covers (b : Board) (ids : List String) : Prop :=
  ∀ id ∈ ids, ∃ kind n, id = numberedId kind n ∧ n ≤ b.lastNumber kind

variable {b : Board} {ids : List String}

private theorem Covers.nextId_notMem (covers : b.Covers ids) (kind : String) :
    (b.nextId kind).1 ∉ ids := by
  intro member
  obtain ⟨other, n, same, small⟩ := covers _ member
  obtain ⟨rfl, rfl⟩ := numberedId_inj same
  exact absurd (b.isLeast_freeNumber kind).1.1 (not_lt.2 small)

/-- What a board with ids made up before finds as the next id of a kind: the search ends at the
first free number after the last one, and the id is that of no drawing and was not made up
before. -/
structure NextIsNew (b : Board) (ids : List String) (kind : String) : Prop where
  first : IsLeast {n | b.lastNumber kind < n ∧
    b.desk.entries.contains (numberedId kind n) = false} (b.freeNumber kind (b.lastNumber kind))
  numbered : (b.nextId kind).1 = numberedId kind (b.freeNumber kind (b.lastNumber kind))
  free : b.desk.entries.contains (b.nextId kind).1 = false
  new : (b.nextId kind).1 ∉ ids

private theorem Covers.nextIsNew (covers : b.Covers ids) (kind : String) :
    b.NextIsNew ids kind where
  first := b.isLeast_freeNumber kind
  numbered := rfl
  free := (b.isLeast_freeNumber kind).1.2
  new := covers.nextId_notMem kind

theorem Covers.nextId (covers : b.Covers ids) (kind : String) :
    (b.nextId kind).2.Covers ((b.nextId kind).1 :: ids) := by
  intro id member
  rcases List.mem_cons.1 member with rfl | member
  · exact ⟨kind, _, rfl, (b.lastNumber_nextId_self kind).ge⟩
  · obtain ⟨other, n, same, small⟩ := covers id member
    exact ⟨other, n, same, small.trans (b.lastNumber_le_nextId kind other)⟩

private theorem Covers.of_counters {b' : Board} (covers : b.Covers ids)
    (same : b'.counters = b.counters) :
    b'.Covers ids := by
  unfold Covers lastNumber
  rw [same]
  exact covers

end Board

/-- A command adds to the ids what it makes up, which is new. -/
theorem Command.covers_outcome {ids : List String} {before : Scene}
    (covers : before.board.Covers ids) (distinct : ids.Nodup) (command : Command) :
    (command.perform.outcome before).2.board.Covers ((command.madeUp? before).toList ++ ids) ∧
      ((command.madeUp? before).toList ++ ids).Nodup := by
  have counters := command.counters_outcome before
  unfold madeUp?
  cases unnamed : command.unnamedKind? before with
  | none =>
    rw [unnamed] at counters
    exact ⟨covers.of_counters counters, distinct⟩
  | some kind =>
    rw [unnamed] at counters
    exact ⟨(covers.nextId kind).of_counters counters,
      List.nodup_cons.2 ⟨covers.nextId_notMem kind, distinct⟩⟩

namespace Numbering

variable {options : BoardOptions} {sampler : SamplerConfig} {ids : List String} {b : Board}

theorem covers (numbering : Numbering options sampler ids b) : b.Covers ids ∧ ids.Nodup := by
  induction numbering with
  | created returned => exact ⟨nofun, List.nodup_nil⟩
  | performed earlier command w ih => exact command.covers_outcome ih.1 ih.2

/-- A session has its ids made up. -/
theorem of_session {failures : List Command} (session : Session options sampler failures b) :
    ∃ ids, Numbering options sampler ids b := by
  induction session with
  | created returned => exact ⟨[], .created returned⟩
  | @returned failures command b b' w w' earlier returned ih =>
    obtain ⟨ids, numbering⟩ := ih
    have after := numbering.performed command w
    rw [returned] at after
    exact ⟨_, after⟩
  | @failed failures command b b' w w' fault earlier failed ih =>
    obtain ⟨ids, numbering⟩ := ih
    have after := numbering.performed command w
    rw [failed] at after
    exact ⟨_, after⟩

/-- Ids that a board has made up are never made up again. After any commands, the search for the
next id of any kind ends, at an id that no drawing has and that was made up before for no drawing of
whatever kind. What is drawn without an id has got the next one. -/
theorem made_up_once (numbering : Numbering options sampler ids b) :
    ids.Nodup ∧ (∀ kind, b.NextIsNew ids kind) ∧
      (∀ (command : Command) w name, command.madeUp? ⟨b, w⟩ = some name →
        ∃ kind, name = (b.nextId kind).1) ∧
      (∀ kind sketch w name after,
        (Action.draw kind sketch none).Returns ⟨b, w⟩ name after →
          (Command.draw kind sketch none).madeUp? ⟨b, w⟩ = some name) ∧
      ∀ source domain points variableName config w name after,
        (Action.plot source domain points none variableName config).Returns
            ⟨b, w⟩ name after →
          (Command.plot source domain points none variableName config).madeUp? ⟨b, w⟩ =
            some name := by
  obtain ⟨covers, distinct⟩ := numbering.covers
  refine ⟨distinct, covers.nextIsNew, fun command w name madeUp => ?_, fun _ _ _ _ _ =>
    Action.name_of_draw_none, fun _ _ _ _ _ _ _ _ => Action.name_of_plot_none⟩
  obtain ⟨kind, -, rfl⟩ := Option.map_eq_some_iff.1 madeUp
  exact ⟨kind, rfl⟩

/-- Performs a command in a new workspace, and adds the id that is made up to the others. -/
def record (numbered : List String × Board) (command : Command) : List String × Board :=
  ((command.madeUp? ⟨numbered.2, Workspace.initial⟩).toList ++ numbered.1,
    (command.perform.outcome ⟨numbered.2, Workspace.initial⟩).2.board)

private theorem of_records (numbering : Numbering options sampler ids b) (commands : List Command) :
    Numbering options sampler (commands.foldl record (ids, b)).1
      (commands.foldl record (ids, b)).2 := by
  induction commands generalizing ids b with
  | nil => exact numbering
  | cons command rest ih => exact ih (numbering.performed command Workspace.initial)

/-- A dot that is deleted, a plot that fails and a caller's id that looks made up leave the third
number to the next dot. -/
theorem made_up_once_deleted :
    ∃ b : Board, Numbering .square .default ["dot-3", "plot-1", "dot-1"] b ∧
      b.desk.entries.keys = ["dot-2", "dot-3"] ∧
        b.NextIsNew ["dot-3", "plot-1", "dot-1"] "dot" := by
  let dot (id : Option String) : Command :=
    .draw .dot (.dot (.tuple [.whole 0, .whole 0]) (.text "closed") .absent .absent) id
  let noPoints : Command :=
    .plot (.formula .identity) (.tuple [.whole 0, .whole 0]) (.whole 0) none .absent none
  let commands : List Command := [dot none, noPoints, .delete "dot-1", dot (some "dot-2"), dot none]
  have run : (History.replay .square .default []).map (fun scene =>
      ((commands.foldl record ([], scene.board)).1,
        (commands.foldl record ([], scene.board)).2.desk.entries.keys)) =
        some (["dot-3", "plot-1", "dot-1"], ["dot-2", "dot-3"]) := by
    decide +kernel
  obtain ⟨scene, replayed, recorded⟩ := Option.map_eq_some_iff.1 run
  obtain ⟨ids, keys⟩ := Prod.mk.inj recorded
  have start : Numbering .square .default [] scene.board := by
    cases History.of_replay replayed with
    | created returned => exact .created returned
  have numbering := start.of_records commands
  rw [ids] at numbering
  obtain ⟨-, next, -⟩ := numbering.made_up_once
  exact ⟨_, numbering, keys, next "dot"⟩

end Numbering

end CurveBoard
