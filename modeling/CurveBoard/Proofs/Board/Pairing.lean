import CurveBoard.Board.Snapshot
import CurveBoard.Proofs.Board.Atomicity
import CurveBoard.Proofs.Board.Naming

/-!
# Plots and their drawings

A board keeps its plots apart from the drawings on its desk, under the same ids. The two tables go
together but for plots that have never been drawn: such a plot has no result, and no drawing has its
id. It comes from a plot that could not be drawn when it was new, and stays on the board since only
what is drawn can be deleted. This is so after any commands, whether they have returned or failed.
-/
namespace CurveBoard

/-- What there may be under an id on the desk and among the plots; a plot that has never been drawn
only if not all of them have to be. -/
inductive Paired (complete : Bool) : Option (Entry Drawing Float) → Option Plot → Prop
  | absent : Paired complete none none
  | shape {kind : DrawingKind} {s : Shape Float} {primitives : List (Primitive Float)} :
      Paired complete (some ⟨.shape kind s, primitives⟩) none
  | plot {primitives : List (Primitive Float)} {plot : Plot} (sampled : plot.result.isSome) :
      Paired complete (some ⟨.plot, primitives⟩) (some plot)
  | undrawn {plot : Plot} (incomplete : complete = false) (unsampled : plot.result = none) :
      Paired complete none (some plot)

namespace Paired

variable {complete : Bool} {entry : Option (Entry Drawing Float)} {plot plot' : Plot}
  {plot? : Option Plot}

private theorem weaken (paired : Paired complete entry plot?) : Paired false entry plot? := by
  cases paired with
  | absent => exact .absent
  | shape => exact .shape
  | plot sampled => exact .plot sampled
  | undrawn incomplete unsampled => exact .undrawn rfl unsampled

/-- Where a shape is drawn there is no plot. -/
theorem noPlot {kind : DrawingKind} {s : Shape Float} (paired : Paired complete entry plot?)
    (drawn : entry.map Entry.drawing = some (.shape kind s)) : plot? = none := by
  cases paired with
  | absent => rfl
  | shape => rfl
  | plot sampled => cases drawn
  | undrawn incomplete unsampled => cases drawn

/-- A plot is drawn if and only if it has a result. -/
theorem drawn_iff (paired : Paired complete entry plot?) :
    (∃ primitives, entry = some ⟨.plot, primitives⟩) ↔
      ∃ plot, plot? = some plot ∧ plot.result.isSome = true := by
  cases paired with
  | absent => simp
  | shape => simp
  | plot sampled => simp [sampled]
  | undrawn incomplete unsampled => simp [unsampled]

private theorem absent_of_unsampled (paired : Paired complete entry (some plot))
    (unsampled : plot.result = none) :
    entry = none := by
  cases paired with
  | plot sampled =>
    rw [unsampled] at sampled
    cases sampled
  | undrawn incomplete unsampled => rfl

private theorem sampled_of_complete (paired : Paired true entry (some plot)) :
    plot.result.isSome = true := by
  cases paired with
  | plot sampled => exact sampled
  | undrawn incomplete unsampled => cases incomplete

/-- Other settings of a plot make no difference. -/
theorem of_result (paired : Paired complete entry (some plot)) (same : plot'.result = plot.result) :
    Paired complete entry (some plot') := by
  cases paired with
  | plot sampled => exact .plot (same ▸ sampled)
  | undrawn incomplete unsampled => exact .undrawn incomplete (same.trans unsampled)

end Paired

namespace Picture

variable {complete : Bool} {p q : Picture} {id : String}

def PairedAt (p : Picture) (complete : Bool) (id : String) : Prop :=
  Paired complete (p.entries.get? id) (p.plots.get? id)

theorem PairedAt.of_sameAt (paired : p.PairedAt complete id) (same : p.SameAt q id) :
    q.PairedAt complete id := by
  unfold PairedAt
  rw [same.entry, same.plot]
  exact paired

private theorem sameAt_setPlot {other : String} (differs : other ≠ id) (plot : Plot) :
    p.SameAt (p.setPlot id plot) other :=
  ⟨rfl, Table.get?_insert_of_ne differs _⟩

end Picture

/-! ### What commands that return keep -/

section Effects

variable {complete : Bool}

/-- If everything but one id is in order, drawing something under it puts everything in order. A
shape must not take the place of a plot. -/
theorem Draws.pairedAt {p p' : Picture} {id : String} {drawing : Drawing}
    (draws : Draws id p drawing p') (others : ∀ other, other ≠ id → p.PairedAt complete other)
    (noPlot : ∀ kind s, drawing = .shape kind s → p.plots.get? id = none) (other : String) :
    p'.PairedAt complete other := by
  by_cases same : other = id
  · subst same
    unfold Picture.PairedAt
    cases draws with
    | shape built =>
      rw [Picture.put, Table.get?_insert_self, noPlot _ _ rfl]
      exact .shape
    | plot found sampled =>
      rw [Picture.put, Picture.setPlot, Table.get?_insert_self, Table.get?_insert_self]
      exact .plot rfl
  · exact (others other same).of_sameAt (draws.sameAt same)

/-- Drawing a plot anew after it has been set. -/
theorem Draws.pairedAt_setPlot {p p' : Picture} {id : String} {plot : Plot}
    (draws : Draws id (p.setPlot id plot) .plot p') (paired : ∀ id, p.PairedAt complete id)
    (other : String) :
    p'.PairedAt complete other := by
  refine draws.pairedAt (fun other differs => ?_) (fun kind s isShape => ?_) other
  · exact (paired other).of_sameAt (Picture.sameAt_setPlot differs plot)
  · cases isShape

private theorem Redraws.pairedAt {entries : List (String × Entry Drawing Float)} {p p' : Picture}
    (redraws : Redraws entries p p')
    (drawn : ∀ entry ∈ entries, p.outline.drawings.get? entry.1 = some entry.2.drawing)
    (paired : ∀ id, p.PairedAt complete id) (id : String) : p'.PairedAt complete id := by
  induction entries generalizing p with
  | nil =>
    obtain rfl := redraws
    exact paired id
  | cons first rest ih =>
    obtain ⟨middle, draws, redraws⟩ := redraws
    obtain ⟨first_drawn, rest_drawn⟩ := List.forall_mem_cons.1 drawn
    -- the same drawings are to be drawn in between
    have same : middle.outline = p.outline := by
      rw [draws.outline, Table.insert_eq_self first_drawn]
    have noPlot (kind : DrawingKind) (s : Shape Float) (isShape : first.2.drawing = .shape kind s) :
        p.plots.get? first.1 = none := by
      rw [isShape, Picture.outline, Table.get?_mapValues] at first_drawn
      exact (paired first.1).noPlot first_drawn
    exact ih redraws (same ▸ rest_drawn) (draws.pairedAt (fun other _ => paired other) noPlot)

private theorem Names.pairedAt {kind name : String} {given : Option String} {p named : Picture}
    (names : Names kind p given name named) (paired : ∀ id, p.PairedAt complete id)
    (id : String) :
    named.PairedAt complete id := by
  cases names <;> exact paired id

private theorem Effect.pairedAt {p p' : Picture} {command : Command} (effect : Effect p command p')
    (paired : ∀ id, p.PairedAt complete id) (id : String) : p'.PairedAt complete id := by
  cases effect with
  | draw tuples describes names noPlot draws =>
    have named := names.pairedAt paired
    exact draws.pairedAt (fun other _ => named other) (fun _ _ _ => Table.get?_eq_none noPlot) id
  | newPlot resolves names noPlot free reads_domain reads_points draws =>
    exact draws.pairedAt_setPlot (names.pairedAt paired) id
  | oldPlot resolves names found changes draws =>
    exact draws.pairedAt_setPlot (names.pairedAt paired) id
  | update found changes draws =>
    exact draws.pairedAt_setPlot paired id
  | @delete deleted present =>
    by_cases same : id = deleted
    · subst same
      unfold Picture.PairedAt
      rw [Table.get?_erase_self, Table.get?_erase_self]
      exact .absent
    · exact (paired id).of_sameAt ⟨Table.get?_erase_of_ne same, Table.get?_erase_of_ne same⟩
  | clear => exact .absent
  | resize reads_width reads_height resizes redraws =>
    exact redraws.pairedAt (Picture.drawn_entries { p with viewport := _ }) paired id

/-! ### What commands that fail keep -/

/-- Whether a command plots a curve. -/
def Command.isPlot : Command → Bool
  | plot _ _ _ _ _ _ => true
  | _ => false

/-- Setting a plot to one with the same result. -/
theorem Picture.pairedAt_setPlot {p : Picture} {id : String} {plot plot' : Plot}
    (found : p.plots.get? id = some plot) (same : plot'.result = plot.result)
    (paired : ∀ id, p.PairedAt complete id) (other : String) :
    (p.setPlot id plot').PairedAt complete other := by
  by_cases isSet : other = id
  · subst isSet
    have before := paired other
    unfold PairedAt at before ⊢
    rw [found] at before
    rw [setPlot, Table.get?_insert_self]
    exact before.of_result same
  · exact (paired other).of_sameAt (sameAt_setPlot isSet plot')

/-- Plotting is the only command that may leave a plot that has never been drawn. -/
theorem Failure.pairedAt {b b' : Board} {command : Command} {fault : Fault}
    (failure : Failure b fault command b') (allowed : command.isPlot = true → complete = false)
    (paired : ∀ id, b.picture.PairedAt complete id) (id : String) :
    b'.picture.PairedAt complete id := by
  have named (kind : String) (given : Option String) (id : String) :
      (b.named kind given).picture.PairedAt complete id := by
    cases given <;> exact paired id
  cases failure with
  | refused noResize => exact paired id
  | undrawn => exact named _ _ id
  | unread => exact named _ _ id
  | @newPlot _ _ _ _ given _ curve range count name names noPlot free =>
    by_cases same : id = name
    · subst same
      -- nothing is drawn under the id of the new plot
      have unused : b.desk.entries.get? id = none := by
        cases given with
        | some given => exact Table.get?_eq_none (free rfl)
        | none => exact Table.get?_eq_none names.free
      unfold Picture.PairedAt
      rw [Board.picture_setPlot, Picture.setPlot, Table.get?_insert_self]
      change Paired complete ((b.named "plot" given).desk.entries.get? id) _
      rw [Board.desk_named, unused]
      exact .undrawn (allowed rfl) rfl
    · exact (named _ _ id).of_sameAt (Picture.sameAt_setPlot same _)
  | oldPlot resolves names found interrupted =>
    refine Picture.pairedAt_setPlot ?_ interrupted.result (named _ _) id
    exact (congrArg (Table.get? · _) (Board.plots_named b _ _)).trans found
  | update found interrupted => exact Picture.pairedAt_setPlot found interrupted.result paired id
  | size refuses => exact paired id
  | frame accepts refused isFault => exact paired id
  | @redrawing _ _ v done rest _ _ _ _ _ accepts entries returned undrawable =>
    refine (Action.redraws_of_redrawing returned).pairedAt (fun entry member => ?_) paired id
    refine Picture.drawn_entries (b.reframed v).picture entry ?_
    change entry ∈ b.desk.entries.entries
    rw [entries]
    exact List.mem_append_left _ member

end Effects

/-! ### Whole sessions -/

/-- Boards with given settings after any commands, and those of the commands that have failed, the
latest first. -/
inductive Session (options : BoardOptions) (sampler : SamplerConfig) :
    List Command → Board → Prop
  | created {id : String} {canvas : Canvas} {debug : Bool} {w : Workspace} {b : Board}
      (returned : (Board.create id options sampler canvas debug w).1 = .ok b) :
        Session options sampler [] b
  | returned {failures : List Command} {command : Command} {b b' : Board} {w w' : Workspace}
      (earlier : Session options sampler failures b)
      (returned : command.perform.Returns ⟨b, w⟩ () ⟨b', w'⟩) :
      Session options sampler failures b'
  | failed {failures : List Command} {command : Command} {b b' : Board} {w w' : Workspace}
      {fault : Fault}
      (earlier : Session options sampler failures b)
      (failed : command.perform.Fails ⟨b, w⟩ fault ⟨b', w'⟩) :
      Session options sampler (command :: failures) b'

namespace Session

variable {options : BoardOptions} {sampler : SamplerConfig}

/-- A history is a session in which nothing has failed. -/
theorem of_history {commands : List Command} {b : Board}
    (history : History options sampler commands b) :
    Session options sampler [] b := by
  induction history with
  | created returned => exact .created returned
  | performed earlier returned ih => exact .returned ih returned

/-- Every command leads on, be it that it returns or that it fails. -/
theorem exists_outcome {failures : List Command} {b : Board}
    (session : Session options sampler failures b) (command : Command) (w : Workspace) :
    ∃ failures',
      Session options sampler failures' (command.perform.outcome ⟨b, w⟩).2.board := by
  rcases command.perform.returns_or_fails ⟨b, w⟩ with ⟨u, after, returned⟩ |
    ⟨fault, after, failed⟩
  · refine ⟨failures, ?_⟩
    rw [returned]
    exact .returned session returned
  · refine ⟨command :: failures, ?_⟩
    rw [failed]
    exact .failed session failed

theorem of_attempt {commands : List Command} {command : Command} {before after : Scene}
    (attempted : History.attempt options sampler commands command = some (before, after)) :
    Session options sampler [command] after.board := by
  obtain ⟨history, fault, failed⟩ := History.of_attempt attempted
  exact .failed (of_history history) failed

end Session

/-- Every id is in order after any commands, and if no plotting has failed, every plot has been
drawn. -/
theorem Session.pairedAt {options : BoardOptions} {sampler : SamplerConfig}
    {failures : List Command} {b : Board} (session : Session options sampler failures b)
    (id : String) :
    b.picture.PairedAt (failures.all (!·.isPlot)) id := by
  induction session generalizing id with
  | created returned =>
    obtain ⟨v, -, -, same⟩ := picture_create returned
    rw [same]
    exact .absent
  | returned earlier returned ih => exact (Command.effect returned).pairedAt ih id
  | @failed failures command b b' w w' fault earlier failed ih =>
    have failure := Command.failure failed
    rw [List.all_cons]
    cases plots : command.isPlot with
    | false => exact failure.pairedAt (fun isPlot => by rw [plots] at isPlot; cases isPlot) ih id
    | true => exact failure.pairedAt (fun _ => rfl) (fun id => (ih id).weaken) id

namespace Action

variable {b : Board} {id : String}

/-- All that is on the desk can be deleted. -/
theorem returns_delete (present : b.desk.entries.contains id = true) (w : Workspace) :
    (delete id).Returns ⟨b, w⟩ ()
      ⟨{ b with desk := b.desk.delete id, plots := b.plots.erase id }, w⟩ := by
  simp only [delete, returns_bind, returns_board]
  refine ⟨b, ⟨b, w⟩, ⟨rfl, rfl⟩, ?_⟩
  rw [if_neg (by simp [present]), returns_modifyBoard]

/-- What is not on the desk cannot be deleted, even if there is a plot of its id. -/
theorem fails_delete_of_absent (absent : b.desk.entries.contains id = false) (w : Workspace) :
    (delete id).Fails ⟨b, w⟩ (.board (.unknownDrawing (quoted id))) ⟨b, w⟩ := by
  simp only [delete, fails_bind, not_fails_board, returns_board, false_or]
  refine ⟨b, ⟨b, w⟩, ⟨rfl, rfl⟩, ?_⟩
  rw [if_pos (by simp [absent]), fails_throw_bind]
  exact ⟨rfl, rfl⟩

end Action

namespace BoardSnapshot

/-- The ids that a snapshot lists. -/
def ids (s : BoardSnapshot) : List String :=
  s.plots.map PlotSnapshot.id ++ s.drawings.map DrawingSnapshot.id

/-- Listed are the ids of the plots and those of the other drawings. -/
theorem ids_ofBoard (b : Board) :
    (ofBoard b).ids = b.plots.keys ++
      (b.desk.entries.entries.filter fun entry => !entry.2.drawing.isPlot).map Prod.fst := by
  simp only [ids, ofBoard, List.map_map, Table.keys]
  rfl

private theorem mem_ids {b : Board} {id : String} :
    id ∈ (ofBoard b).ids ↔ b.plots.contains id = true ∨
      ∃ entry, b.desk.entries.get? id = some entry ∧ entry.drawing.isPlot = false := by
  rw [ids_ofBoard, List.mem_append, Table.contains, List.contains_iff_mem]
  refine or_congr Iff.rfl ?_
  simp only [List.mem_map, List.mem_filter, Table.get?_eq_some_iff, Bool.not_eq_true']
  constructor
  · rintro ⟨⟨name, entry⟩, ⟨member, noPlot⟩, rfl⟩
    exact ⟨entry, member, noPlot⟩
  · rintro ⟨entry, member, noPlot⟩
    exact ⟨(id, entry), ⟨member, noPlot⟩, rfl⟩

end BoardSnapshot

namespace Board

/-- How the plots of a board and the drawings on its desk go together. -/
structure PlotsPaired (b : Board) : Prop where
  drawn : ∀ id, (∃ primitives, b.desk.entries.get? id = some ⟨.plot, primitives⟩) ↔
    ∃ plot, b.plots.get? id = some plot ∧ plot.result.isSome = true
  apart : ∀ id kind s primitives, b.desk.entries.get? id =
    some ⟨.shape kind s, primitives⟩ →
    b.plots.get? id = none
  deletable : ∀ id plot, b.plots.get? id = some plot → plot.result.isSome = true →
    ∀ w, ∃ after, (Action.delete id).Returns ⟨b, w⟩ () after
  undeletable : ∀ id plot, b.plots.get? id = some plot → plot.result = none →
    ∀ w, (Action.delete id).Fails ⟨b, w⟩ (.board (.unknownDrawing (quoted id))) ⟨b, w⟩
  listed_once : (BoardSnapshot.ofBoard b).ids.Nodup
  listed : ∀ id, id ∈ (BoardSnapshot.ofBoard b).ids ↔
    b.desk.entries.contains id = true ∨ ∃ plot, b.plots.get? id = some plot ∧
    plot.result = none

variable {complete : Bool} {b : Board} (paired : ∀ id, b.picture.PairedAt complete id)

include paired

private theorem contains_of_sampled {id : String} {plot : Plot}
    (found : b.plots.get? id = some plot) (sampled : plot.result.isSome = true) :
    b.desk.entries.contains id = true := by
  obtain ⟨primitives, drawn⟩ := (paired id).drawn_iff.2 ⟨plot, found, sampled⟩
  exact Table.contains_of_get? drawn

private theorem noPlot_of_shape {id : String} {entry : Entry Drawing Float}
    (found : b.desk.entries.get? id = some entry) (isShape : entry.drawing.isPlot = false) :
    b.plots.get? id = none := by
  cases drawing : entry.drawing with
  | shape kind s =>
    have drawn : (b.desk.entries.get? id).map Entry.drawing = some (.shape kind s) := by
      rw [found, Option.map_some, drawing]
    exact (paired id).noPlot drawn
  | plot =>
    rw [drawing] at isShape
    cases isShape

private theorem nodup_ids : (BoardSnapshot.ofBoard b).ids.Nodup := by
  rw [BoardSnapshot.ids_ofBoard, List.nodup_append]
  refine ⟨b.plots.distinct, (List.filter_sublist.map Prod.fst).nodup b.desk.entries.distinct,
    ?_⟩
  rintro id plotted _ drawn rfl
  -- a drawing that is listed apart from the plots is a shape
  obtain ⟨⟨id, entry⟩, kept, rfl⟩ := List.mem_map.1 drawn
  obtain ⟨member, isShape⟩ := List.mem_filter.1 kept
  have absent := noPlot_of_shape paired (Table.get?_eq_some_iff.2 member) (by simpa using isShape)
  obtain ⟨plot, found⟩ := Table.contains_iff.1 (List.contains_iff_mem.2 plotted)
  rw [absent] at found
  cases found

theorem mem_ids_iff (id : String) : id ∈ (BoardSnapshot.ofBoard b).ids ↔
    b.desk.entries.contains id = true ∨ ∃ plot, b.plots.get? id = some plot ∧
      plot.result = none := by
  rw [BoardSnapshot.mem_ids]
  constructor
  · rintro (plotted | ⟨entry, found, -⟩)
    · obtain ⟨plot, found⟩ := Table.contains_iff.1 plotted
      cases result : plot.result with
      | none => exact .inr ⟨plot, found, result⟩
      | some sampled => exact .inl (contains_of_sampled paired found (by rw [result]; rfl))
    · exact .inl (Table.contains_of_get? found)
  · rintro (present | ⟨plot, found, -⟩)
    · obtain ⟨⟨drawing, primitives⟩, found⟩ := Table.contains_iff.1 present
      cases drawing with
      | shape kind s => exact .inr ⟨_, found, rfl⟩
      | plot =>
        obtain ⟨plot, plot_found, -⟩ := (paired id).drawn_iff.1 ⟨primitives, found⟩
        exact .inl (Table.contains_of_get? plot_found)
    · exact .inl (Table.contains_of_get? found)

private theorem plotsPaired : b.PlotsPaired where
  drawn id := (paired id).drawn_iff
  apart _ _ _ _ found := noPlot_of_shape paired found rfl
  deletable _ _ found sampled w :=
    ⟨_, Action.returns_delete (contains_of_sampled paired found sampled) w⟩
  undeletable id plot found unsampled w := by
    have at_id : Paired complete (b.desk.entries.get? id) (b.plots.get? id) := paired id
    rw [found] at at_id
    have absent := at_id.absent_of_unsampled unsampled
    exact Action.fails_delete_of_absent (by rw [Table.contains_eq_isSome, absent]; rfl) w
  listed_once := nodup_ids paired
  listed id := mem_ids_iff paired id

end Board

/-- After any commands on a board, whether they have returned or failed, the plots that have a
result are those that are drawn: they can be deleted, they are no other drawings, and a snapshot
lists every id once. As long as plotting has not failed, there are no other plots. -/
theorem Session.plots_paired {options : BoardOptions} {sampler : SamplerConfig}
    {failures : List Command} {b : Board} (session : Session options sampler failures b) :
    b.PlotsPaired ∧ ((∀ command ∈ failures, command.isPlot = false) →
      ∀ id, b.plots.contains id = true ↔ ∃ primitives,
        b.desk.entries.get? id = some ⟨.plot, primitives⟩) := by
  have paired := session.pairedAt
  refine ⟨Board.plotsPaired paired, fun noPlotting id => ?_⟩
  have complete : failures.all (!·.isPlot) = true :=
    List.all_eq_true.2 fun command member => by simp [noPlotting command member]
  rw [complete] at paired
  constructor
  · intro plotted
    obtain ⟨plot, found⟩ := Table.contains_iff.1 plotted
    have at_id : Paired true (b.desk.entries.get? id) (b.plots.get? id) := paired id
    rw [found] at at_id
    exact (paired id).drawn_iff.2 ⟨plot, found, at_id.sampled_of_complete⟩
  · intro drawn
    obtain ⟨plot, found, -⟩ := (paired id).drawn_iff.1 drawn
    exact Table.contains_of_get? found

namespace Session

/-- A dot cannot take the place of a plot. -/
theorem plots_paired_replaced :
    ∃ b : Board, Session .square .default [.originDot "p"] b ∧ b.plots.size = 1 ∧
      b.PlotsPaired ∧
        ∀ id, b.plots.contains id = true ↔ ∃ primitives,
          b.desk.entries.get? id = some ⟨.plot, primitives⟩ := by
  have run : (History.attempt .square .default [.emptyPlot "p"] (.originDot "p")).map
      (fun scenes => scenes.2.board.plots.size) = some 1 := by
    decide +kernel
  obtain ⟨⟨before, after⟩, attempted, single⟩ := Option.map_eq_some_iff.1 run
  have session := of_attempt attempted
  obtain ⟨paired, all⟩ := session.plots_paired
  exact ⟨after.board, session, single, paired,
    all (by simp [Command.isPlot, Command.originDot])⟩

/-- Half a point is too few for a plot, but a board takes it as a setting. -/
theorem exists_undrawn :
    ∃ (fields : Fields) (options : BoardOptions) (failures : List Command) (b : Board)
        (plot : Plot),
      BoardOptions.ofFields fields = .ok options ∧ Session options .default failures b ∧
        b.plots.get? "p" = some plot ∧ plot.result = none := by
  let fields : Fields := [("sampling_points", .real 0.5)]
  have run : ((BoardOptions.ofFields fields).toOption.bind fun options =>
      (History.attempt options .default [] (.emptyPlot "p")).map fun scenes =>
        (scenes.2.board.plots.get? "p").map (·.result.isNone)) = some (some true) := by
    decide +kernel
  obtain ⟨options, accepted, run⟩ := Option.bind_eq_some_iff.1 run
  obtain ⟨⟨before, after⟩, attempted, left⟩ := Option.map_eq_some_iff.1 run
  obtain ⟨p, found, unsampled⟩ := Option.map_eq_some_iff.1 left
  have made : BoardOptions.ofFields fields = .ok options := by
    cases given : BoardOptions.ofFields fields with
    | error fault =>
      rw [given] at accepted
      cases accepted
    | ok made =>
      rw [given] at accepted
      rw [Option.some.inj accepted]
  exact ⟨fields, options, [.emptyPlot "p"], after.board, p, made, of_attempt attempted, found,
    Option.isNone_iff_eq_none.1 unsampled⟩

/-- There may be a plot that is not drawn and cannot be deleted. -/
theorem not_all_drawn :
    ¬ ∀ (fields : Fields) (options : BoardOptions) (failures : List Command) (b : Board),
      BoardOptions.ofFields fields = .ok options → Session options .default failures b →
        (∀ id, b.plots.contains id = true ↔
          ∃ primitives, b.desk.entries.get? id = some ⟨.plot, primitives⟩) ∨
            ∀ id w, b.plots.contains id = true →
            ∃ after, (Action.delete id).Returns ⟨b, w⟩ () after := by
  intro all
  obtain ⟨fields, options, failures, b, plot, accepted, session, found, unsampled⟩ :=
    exists_undrawn
  have paired := Board.plotsPaired session.pairedAt
  have plotted := Table.contains_of_get? found
  rcases all fields options failures b accepted session with drawn | deletable
  · obtain ⟨plot', found', sampled⟩ := (paired.drawn "p").1 ((drawn "p").1 plotted)
    cases found.symm.trans found'
    rw [unsampled] at sampled
    cases sampled
  · obtain ⟨after, returned⟩ := deletable "p" Workspace.initial plotted
    have failed := paired.undeletable "p" plot found unsampled Workspace.initial
    cases returned.symm.trans failed

end Session

end CurveBoard
