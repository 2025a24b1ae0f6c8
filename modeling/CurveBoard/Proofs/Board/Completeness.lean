import CurveBoard.Proofs.Board.Steps
import CurveBoard.Proofs.Desk
import CurveBoard.Proofs.Shape.Parts
import Mathlib.Data.List.Infix

/-!
# Drawings are complete

A board is complete if every primitive of every drawing is on the canvas. The canvas knows
primitives by their ids alone, and the parts of a drawing have its id with a suffix. So a drawing
with such an id gets in the way of the other one: it takes the place of its part, and takes it off
when it is deleted. As long as no id on a board is the id of a part of another drawing, drawings do
not touch each other and every board is complete.
-/
namespace CurveBoard

namespace Store

variable {α : Type} {s : Store α} {primitives : List (Primitive α)} {ids : List String}
  {key : String}
  {p : Primitive α}

private theorem get?_deleted (absent : key ∉ ids) :
    (ids.foldl Surface.delete s).primitives.get? key = s.primitives.get? key := by
  induction ids generalizing s with
  | nil => rfl
  | cons first rest ih =>
    rw [List.mem_cons, not_or] at absent
    exact (ih absent.2).trans (Table.get?_erase_of_ne absent.1)

private theorem get?_upserted_other (absent : key ∉ primitives.map Primitive.id) :
    (primitives.foldl Surface.upsert s).primitives.get? key = s.primitives.get? key := by
  induction primitives generalizing s with
  | nil => rfl
  | cons first rest ih =>
    rw [List.map_cons, List.mem_cons, not_or] at absent
    exact (ih absent.2).trans (Table.get?_insert_of_ne absent.1 first)

/-- Primitives with different ids are all there after they have been written. -/
theorem get?_upserted (distinct : (primitives.map Primitive.id).Nodup) (member : p ∈ primitives) :
    (primitives.foldl Surface.upsert s).primitives.get? p.id = some p := by
  induction primitives generalizing s with
  | nil => cases member
  | cons first rest ih =>
    rw [List.map_cons, List.nodup_cons] at distinct
    rcases List.mem_cons.1 member with rfl | later
    · exact (get?_upserted_other distinct.1).trans (Table.get?_insert_self _ _ _)
    · exact ih distinct.2 later

end Store

namespace Canvas

variable {s : Store Float}

private theorem foldl_upsert_store (primitives : List (Primitive Float)) :
    primitives.foldl Surface.upsert (store s) = store (primitives.foldl Surface.upsert s) := by
  induction primitives generalizing s with
  | nil => rfl
  | cons first rest ih => exact ih

private theorem foldl_delete_store (ids : List String) :
    ids.foldl Surface.delete (store s) = store (ids.foldl Surface.delete s) := by
  induction ids generalizing s with
  | nil => rfl
  | cons first rest ih => exact ih

end Canvas

/-! ### Ids that are apart -/

/-- Whether neither of two ids is the id of a part of the other. -/
def DrawingPart.Apart (id id' : String) : Prop :=
  ∀ part : DrawingPart, part ≠ .self → id ≠ id' ++ part.suffix ∧ id' ≠ id ++ part.suffix

/-- Drawings whose ids are apart have no primitive of one id. -/
theorem DrawingPart.Apart.suffix_ne {id id' : String} (apart : Apart id id') (differs : id ≠ id')
    (p q : DrawingPart) : id ++ p.suffix ≠ id' ++ q.suffix := by
  intro same
  by_cases own : p = .self
  · by_cases own' : q = .self
    · rw [own, own', suffix, String.append_empty, String.append_empty] at same
      exact differs same
    · rw [own, suffix, String.append_empty] at same
      exact (apart q own').1 same
  · by_cases own' : q = .self
    · rw [own', suffix, String.append_empty] at same
      exact (apart p own).2 same.symm
    · exact differs (append_suffix_inj own own' same).1

private theorem DrawingPart.apart_of_dashless {id id' : String} (dashless : '-' ∉ id.toList)
    (dashless' : '-' ∉ id'.toList) :
    Apart id id' := by
  intro part proper
  have dash (name : String) : '-' ∈ (name ++ part.suffix).toList := by
    simp [String.toList_append, toList_suffix proper]
  constructor
  · rintro same
    exact dashless (same ▸ dash id')
  · rintro same
    exact dashless' (same ▸ dash id)

namespace Board

/-- Whether no id on a board is the id of a part of another drawing. -/
def IdsApart (b : Board) : Prop :=
  ∀ id id', b.desk.entries.contains id = true → b.desk.entries.contains id' = true →
    DrawingPart.Apart id id'

/-- Whether every primitive of every drawing is on a plain canvas as it is. -/
structure Complete (b : Board) (s : Store Float) : Prop where
  canvas : b.desk.canvas = .store s
  parts : ∀ id entry, b.desk.entries.get? id = some entry → AreParts id entry.primitives
  present : ∀ id entry, b.desk.entries.get? id = some entry →
    ∀ p ∈ entry.primitives, s.primitives.get? p.id = some p

variable {b b' : Board} {s : Store Float}

private theorem IdsApart.of_contains (apart : b'.IdsApart)
    (kept : ∀ id, b.desk.entries.contains id = true → b'.desk.entries.contains id = true) :
    b.IdsApart :=
  fun id id' found found' => apart id id' (kept id found) (kept id' found')

namespace Complete

/-- What is under the ids of other drawings is not the part of a drawing. -/
theorem notMem_ids (complete : b.Complete s) {id other : String}
    {primitives : List (Primitive Float)} {entry : Entry Drawing Float} {p : Primitive Float}
    (areParts : AreParts id primitives) (apart : DrawingPart.Apart other id)
    (differs : other ≠ id) (found : b.desk.entries.get? other = some entry)
    (member : p ∈ entry.primitives) :
    p.id ∉ primitives.map Primitive.id := by
  intro written
  obtain ⟨q, q_member, same⟩ := List.mem_map.1 written
  obtain ⟨part, p_id⟩ := (complete.parts other entry found).exists_part member
  obtain ⟨part', q_id⟩ := areParts.exists_part q_member
  exact apart.suffix_ne differs part part' (p_id.symm.trans (same.symm.trans q_id))

/-- Putting a drawing on the desk does not touch the others. -/
theorem put (complete : b.Complete s) {id : String} {drawing : Drawing}
    {primitives : List (Primitive Float)} (areParts : AreParts id primitives)
    (apart : ({ b with desk := b.desk.put id drawing primitives } : Board).IdsApart) :
    ∃ s', ({ b with desk := b.desk.put id drawing primitives } : Board).Complete s' := by
  let after : Board := { b with desk := b.desk.put id drawing primitives }
  have entries (other : String) : after.desk.entries.get? other =
      if other = id then some ⟨drawing, primitives⟩ else b.desk.entries.get? other :=
        Table.get?_insert _ _ _ _
  refine ⟨primitives.foldl Surface.upsert
    ((b.desk.stale id primitives).foldl Surface.delete s), ?_, ?_, ?_⟩
  · change primitives.foldl Surface.upsert
      ((b.desk.stale id primitives).foldl Surface.delete b.desk.canvas) = _
    rw [complete.canvas, Canvas.foldl_delete_store, Canvas.foldl_upsert_store]
  · intro other entry found
    rw [entries] at found
    split at found
    next same =>
      cases found
      exact same ▸ areParts
    next differs => exact complete.parts other entry found
  · intro other entry found p member
    have entry_found := found
    rw [entries] at found
    split at found
    next same =>
      cases found
      exact Store.get?_upserted areParts.ids_nodup member
    next differs =>
      -- another drawing is neither written over nor taken off
      have others : DrawingPart.Apart other id :=
        apart other id (Table.contains_of_get? entry_found)
          (Table.contains_of_get? (Table.get?_insert_self _ _ _))
      have unwritten := complete.notMem_ids areParts others differs found member
      have kept : p.id ∉ b.desk.stale id primitives := by
        unfold Desk.stale
        split
        next old old_found =>
          have absent :=
            complete.notMem_ids (complete.parts id old old_found) others differs found member
          exact fun stale => absent (List.mem_of_mem_filter stale)
        · exact List.not_mem_nil
      rw [Store.get?_upserted_other unwritten, Store.get?_deleted kept]
      exact complete.present other entry found p member

/-- Taking a drawing off the desk does not touch the others. -/
theorem deleted (complete : b.Complete s) (apart : b.IdsApart) (id : String) :
    ∃ s', (b.deleted id).Complete s' := by
  cases found : b.desk.entries.get? id with
  | none =>
    have desk : (b.deleted id).desk = b.desk := by
      change b.desk.delete id = b.desk
      rw [Desk.delete, found]
    exact ⟨s, by rw [desk, complete.canvas], by rw [desk]; exact complete.parts,
      by rw [desk]; exact complete.present⟩
  | some entry =>
    have desk : (b.deleted id).desk =
        ⟨b.desk.entries.erase id, entry.primitiveIds.foldl Surface.delete b.desk.canvas⟩ := by
      change b.desk.delete id = _
      rw [Desk.delete, found]
    have others {other : String} {kept : Entry Drawing Float}
        (kept_found : (b.deleted id).desk.entries.get? other = some kept) :
        other ≠ id ∧ b.desk.entries.get? other = some kept := by
      rw [desk] at kept_found
      by_cases same : other = id
      · rw [same, Table.get?_erase_self] at kept_found
        cases kept_found
      · rw [Table.get?_erase_of_ne same] at kept_found
        exact ⟨same, kept_found⟩
    refine ⟨entry.primitiveIds.foldl Surface.delete s, ?_, ?_, ?_⟩
    · rw [desk, complete.canvas, Canvas.foldl_delete_store]
    · intro other kept kept_found
      exact complete.parts other kept (others kept_found).2
    · intro other kept kept_found p member
      obtain ⟨differs, kept_found⟩ := others kept_found
      have apart_other : DrawingPart.Apart other id :=
        apart other id (Table.contains_of_get? kept_found) (Table.contains_of_get? found)
      -- no primitive of another drawing has an id among those that are taken away
      have absent :=
        complete.notMem_ids (complete.parts id entry found) apart_other differs kept_found member
      exact (Store.get?_deleted absent).trans (complete.present other kept kept_found p member)

end Complete

/-- Deleting everything leaves a plain canvas plain. -/
theorem exists_store_of_cleared (canvas : b.desk.canvas = .store s) :
    ∃ s', b.cleared.desk.canvas = .store s' := by
  have onStore (ids : List String) (desk : Desk Canvas Drawing Float) (s : Store Float)
      (canvas : desk.canvas = .store s) :
        ∃ s', (ids.foldl Desk.delete desk).canvas = .store s' := by
    induction ids generalizing desk s with
    | nil => exact ⟨s, canvas⟩
    | cons id rest ih =>
      -- an id that is not there takes nothing off
      rw [List.foldl_cons]
      unfold Desk.delete
      split
      next entry found =>
        exact ih _ (entry.primitiveIds.foldl Surface.delete s)
          (by rw [canvas, Canvas.foldl_delete_store])
      next found => exact ih _ s canvas
  exact onStore b.desk.entries.keys b.desk s canvas

theorem Complete.cleared (complete : b.Complete s) : ∃ s', b.cleared.Complete s' := by
  obtain ⟨s', canvas⟩ := exists_store_of_cleared complete.canvas
  have nothing (id : String) : b.cleared.desk.entries.get? id = none := by
    change b.desk.clear.entries.get? id = none
    rw [Desk.entries_clear]
    rfl
  refine ⟨s', canvas, fun id entry found => ?_, fun id entry found => ?_⟩
  · cases (nothing id).symm.trans found
  · cases (nothing id).symm.trans found

/-! ### Steps -/

/-- No step takes an id off a board. -/
theorem Step.contains (step : b.Step b') {id : String}
    (present : b.desk.entries.contains id = true) :
    b'.desk.entries.contains id = true := by
  cases step with
  | draw built =>
    change (b.desk.entries.insert _ _).contains id = true
    rw [Table.contains_insert, present, Bool.true_or]
  | _ => exact present

theorem Step.complete (step : b.Step b') (complete : b.Complete s) (apart : b'.IdsApart) :
    ∃ s', b'.Complete s' := by
  cases step with
  | count counters => exact ⟨s, complete.canvas, complete.parts, complete.present⟩
  | note lastInfo lastDebug => exact ⟨s, complete.canvas, complete.parts, complete.present⟩
  | addPlot reads => exact ⟨s, complete.canvas, complete.parts, complete.present⟩
  | setPlot found result points => exact ⟨s, complete.canvas, complete.parts, complete.present⟩
  | frame resized => exact ⟨s, complete.canvas, complete.parts, complete.present⟩
  | canvas width height =>
    refine ⟨s, ?_, complete.parts, complete.present⟩
    change (b.desk.canvas.resize width height).2 = _
    rw [complete.canvas]
    rfl
  | @draw id drawing primitives w stage built =>
    have areParts : AreParts id primitives := by
      rcases Action.build_eq_ok built with ⟨kind, shape, -, shown, -⟩ |
        ⟨plot, result, -, shown, -⟩
      · exact Shape.areParts shown
      · exact shown ▸ .singleton rfl
    obtain ⟨s', put⟩ := complete.put areParts apart
    exact ⟨s', put.canvas, put.parts, put.present⟩

/-- Whatever a command does, a complete board stays complete if the ids are apart before and
after. -/
theorem Leads.complete (leads : b.Leads b') (complete : b.Complete s) (apart : b.IdsApart)
    (apart' : b'.IdsApart) :
    ∃ s', b'.Complete s' := by
  cases leads with
  | steps steps =>
    -- ids are never taken off, so they are apart on all boards on the way
    induction steps with
    | refl => exact ⟨s, complete⟩
    | tail _ last ih =>
      obtain ⟨s', middle⟩ := ih (apart'.of_contains fun id present => last.contains present)
      exact last.complete middle apart'
  | deleted id => exact complete.deleted apart id
  | cleared => exact complete.cleared

/-- Boards on a plain canvas after any commands, each of which has returned or failed and has left a
board as it is wanted. -/
inductive Plain (wanted : Board → Prop) (options : BoardOptions) (sampler : SamplerConfig) :
    Board → Prop
  | created {id : String} {s : Store Float} {debug : Bool} {w : Workspace} {b : Board}
      (returned : (Board.create id options sampler (.store s) debug w).1 = .ok b) :
        Plain wanted options sampler b
  | performed {command : Command} {b b' : Board} {w : Workspace}
      (earlier : Plain wanted options sampler b)
      (left : (command.perform.outcome ⟨b, w⟩).2.board = b') (holds : wanted b') :
        Plain wanted options sampler b'

end Board

/-! ### Commands about one drawing -/

namespace Command

/-- The id that a command is about, if the caller gives it. -/
def target? : Command → Option String
  | draw _ _ id => id
  | plot _ _ _ id _ _ => id
  | update id _ => some id
  | delete id => some id
  | clear => none
  | resize _ _ => none

/-- Whether a command is about one drawing. -/
def isSingle : Command → Bool
  | clear => false
  | resize _ _ => false
  | _ => true

end Command

theorem Names.entries {kind name : String} {given : Option String} {p named : Picture}
    (names : Names kind p given name named) :
    named.entries = p.entries ∧ ∀ id, given = some id → name = id := by
  cases names with
  | given id => exact ⟨rfl, fun _ same => by cases same; rfl⟩
  | next => exact ⟨rfl, fun _ same => by cases same⟩

theorem Failure.desk {b b' : Board} {fault : Fault} {command : Command}
    (failure : Failure b fault command b') (noResize : command.isResize = false) :
    b'.desk = b.desk := by
  cases failure with
  | refused noResize => rfl
  | undrawn => exact b.desk_named _ _
  | unread => exact b.desk_named _ _
  | newPlot names noPlot free => exact b.desk_named _ _
  | oldPlot resolves names found interrupted => exact b.desk_named _ _
  | update found interrupted => rfl
  | size refuses => cases noResize
  | frame accepts refused isFault => cases noResize
  | redrawing accepts entries redrawn undrawable => cases noResize

/-- A command about one drawing keeps all others. -/
theorem Command.keeps_others {command : Command} (single : command.isSingle = true) (b : Board)
    (w : Workspace) :
    ∃ touched, (∀ id, command.target? = some id → touched = id) ∧
      ∀ other, other ≠ touched →
        (command.perform.outcome ⟨b, w⟩).2.board.desk.entries.get? other =
        b.desk.entries.get? other := by
  rcases command.perform.returns_or_fails ⟨b, w⟩ with ⟨u, after, returned⟩ |
    ⟨fault, after, failed⟩
  · rw [show command.perform.outcome ⟨b, w⟩ = (.ok u, after) from returned]
    change ∃ touched, _ ∧ ∀ other, other ≠ touched →
      after.board.picture.entries.get? other = b.picture.entries.get? other
    have effect := Command.effect returned
    generalize after.board.picture = p at effect
    cases effect with
    | @draw _ _ _ _ _ name _ _ tuples describes names noPlot draws =>
      obtain ⟨entries, named⟩ := names.entries
      exact ⟨name, named, fun other differs =>
        (draws.sameAt differs).entry.trans (by rw [entries])⟩
    | @newPlot _ _ _ _ _ _ _ _ _ name _ _ resolves names noPlot free reads_domain
      reads_points draws =>
      obtain ⟨entries, named⟩ := names.entries
      exact ⟨name, named, fun other differs =>
        (draws.sameAt differs).entry.trans (by rw [← entries]; rfl)⟩
    | @oldPlot _ _ _ _ _ _ _ _ _ name _ _ resolves names found changes draws =>
      obtain ⟨entries, named⟩ := names.entries
      exact ⟨name, named, fun other differs =>
        (draws.sameAt differs).entry.trans (by rw [← entries]; rfl)⟩
    | @update id change _ _ _ found changes draws =>
      exact ⟨id, fun _ same => Option.some.inj same, fun other differs =>
        (draws.sameAt differs).entry⟩
    | @delete id present =>
      exact ⟨id, fun _ same => Option.some.inj same, fun other differs =>
        Table.get?_erase_of_ne differs⟩
    | clear => cases single
    | resize reads_width reads_height resizes redraws => cases single
  · rw [show command.perform.outcome ⟨b, w⟩ = (.error fault, after) from failed]
    -- only a change of the frame can fail half way
    have noResize : command.isResize = false := by
      cases command <;> first | rfl | cases single
    refine ⟨command.target?.getD "", fun id same => by rw [same, Option.getD_some],
      fun other _ => ?_⟩
    rw [(Command.failure failed).desk noResize]

namespace Board

namespace Plain

variable {wanted : Board → Prop} {options : BoardOptions} {sampler : SamplerConfig} {b : Board}

private theorem exists_complete (plain : b.Plain IdsApart options sampler) :
    b.IdsApart ∧ ∃ s, b.Complete s := by
  induction plain with
  | @created id s debug w b returned =>
    unfold Board.create at returned
    split at returned <;> cases returned
    refine ⟨fun id id' present => ?_, s,
      ⟨rfl, fun id entry found => ?_, fun id entry found => ?_⟩⟩
    · cases present
    · cases found
    · cases found
  | @performed command b b' w earlier left apart' ih =>
    obtain ⟨apart, s, complete⟩ := ih
    have leads := command.leads ⟨b, w⟩
    rw [left] at leads
    exact ⟨apart', leads.complete complete apart apart'⟩

/-- On a plain canvas a board is complete, provided that no id has ever been the id of a part of
another drawing. Then a command about one drawing keeps all others, and their primitives are on the
canvas as they were. -/
theorem drawings_complete (plain : b.Plain IdsApart options sampler) :
    (∃ s, b.Complete s) ∧ ∀ (command : Command) (b' : Board) (w : Workspace),
      command.isSingle = true → (command.perform.outcome ⟨b, w⟩).2.board = b' →
        b'.IdsApart → ∃ touched s', (∀ id, command.target? = some id → touched = id) ∧
          b'.Complete s' ∧ ∀ other entry, other ≠ touched →
            b.desk.entries.get? other = some entry → b'.desk.entries.get? other = some entry ∧
              ∀ p ∈ entry.primitives, s'.primitives.get? p.id = some p := by
  refine ⟨plain.exists_complete.2, fun command b' w single left apart => ?_⟩
  obtain ⟨-, s', complete⟩ := (plain.performed left apart).exists_complete
  obtain ⟨touched, target, kept⟩ := command.keeps_others single b w
  refine ⟨touched, s', target, complete, fun other entry differs found => ?_⟩
  have found' : b'.desk.entries.get? other = some entry := by
    rw [← left, kept other differs, found]
  exact ⟨found', complete.present other entry found'⟩

/-- A run of commands that return leaves every board as it is wanted if it does so on the way. -/
theorem of_replay {commands : List Command} {scene : Scene}
    (replayed : History.replay options sampler commands = some scene)
    (all : ∀ earlier, earlier <:+ commands →
      ∀ before, History.replay options sampler earlier = some before →
      wanted before.board) : scene.board.Plain wanted options sampler := by
  induction commands generalizing scene with
  | nil =>
    unfold History.replay at replayed
    split at replayed <;> cases replayed
    next b w made => exact .created (congrArg Prod.fst made)
  | cons command earlier ih =>
    have holds := all _ (List.suffix_refl _) scene replayed
    obtain ⟨before, replayed, performed⟩ := Option.bind_eq_some_iff.1 replayed
    have plain := ih replayed fun first isSuffix =>
      all first (isSuffix.trans (List.suffix_cons _ _))
    split at performed <;> cases performed
    next u returned => exact .performed plain (congrArg (fun left => left.2.board) returned) holds

end Plain

/-- Ids without dashes are apart. -/
theorem idsApart_of_dashless {b : Board}
    (dashless : b.desk.entries.keys.all (fun id => !id.toList.contains '-') = true) :
    b.IdsApart := by
  have noDash (id : String) (present : b.desk.entries.contains id = true) : '-' ∉ id.toList := by
    have := List.all_eq_true.1 dashless id (List.contains_iff_mem.1 present)
    simpa using this
  exact fun id id' present present' =>
    DrawingPart.apart_of_dashless (noDash id present) (noDash id' present')

private theorem ticks_not_suffix_kindName (axis : Axis) (drawing : Drawing) :
    ¬ axis.ticks.toList <:+ drawing.kindName.toList := by
  cases drawing with
  | shape kind s => cases axis <;> cases kind <;> simp only [Drawing.kindName] <;> decide
  | plot => cases axis <;> simp only [Drawing.kindName] <;> decide

/-- An id that a board has made up is never the id of a part; only an id that a caller has given can
be. -/
theorem numberedId_ne_part (drawing : Drawing) (n : Nat) (id : String) {part : DrawingPart}
    (proper : part ≠ .self) :
    numberedId drawing.kindName n ≠ id ++ part.suffix := by
  intro same
  have texts : drawing.kindName.toList ++ '-' :: Nat.toDigits 10 n =
      (id.toList ++ part.lead) ++ '-' :: part.word := by
    have texts := congrArg String.toList same
    rw [String.toList_append, DrawingPart.toList_suffix proper] at texts
    simpa [numberedId, String.toList_append, Nat.toString_eq_repr] using texts
  obtain ⟨kind, word⟩ := DrawingPart.append_cons_inj (DrawingPart.dash_notMem_word (.tick .x n))
    (DrawingPart.dash_notMem_word part) texts
  cases part with
  | self => exact absurd rfl proper
  | named name => exact DrawingPart.toDigits_ne_text n name word
  | tick axis k => exact ticks_not_suffix_kindName axis drawing ⟨id.toList, kind.symm⟩
  | origin => exact DrawingPart.toDigits_ne_origin n word

/-- A run in which no id has a dash. -/
theorem Plain.of_dashless_replay {options : BoardOptions} {sampler : SamplerConfig}
    {commands : List Command} {scene : Scene}
    (replayed : History.replay options sampler commands = some scene)
    (dashless : commands.tails.all (fun earlier =>
      (History.replay options sampler earlier).all fun before =>
        before.board.desk.entries.keys.all fun id => !id.toList.contains '-') = true) :
    scene.board.Plain IdsApart options sampler := by
  refine .of_replay replayed fun earlier isSuffix before found => idsApart_of_dashless ?_
  have all := List.all_eq_true.1 dashless earlier ((List.mem_tails _ _).2 isSuffix)
  rwa [found, Option.all_some] at all

end Board

/-! ### A segment and a dot -/

/-- Draws a segment with discs at both ends. -/
def Command.dottedSegment (id : String) : Command :=
  .draw .segment (.segment (.tuple [.whole 0, .whole 0]) (.tuple [.whole 1, .whole 0])
    (.text "dotdot")) (some id)

namespace Board.Plain

/-- A dot with the id of the end of a segment takes it off when it is deleted. -/
theorem not_drawings_complete :
    ¬ ∀ (options : BoardOptions) (sampler : SamplerConfig) (b : Board),
      b.Plain (fun _ => True) options sampler →
        ∃ s, b.desk.canvas = .store s ∧ ∀ id entry, b.desk.entries.get? id = some entry →
          ∀ p ∈ entry.primitives, s.primitives.get? p.id = some p := by
  intro all
  have run :
    (History.replay .square .default [.delete "s-end", .originDot "s-end", .dottedSegment "s"]).bind
      (fun scene => (scene.board.desk.entries.get? "s").map fun entry =>
        (entry.primitiveIds, scene.board.desk.canvas.ids)) =
          some (["s", "s-start", "s-end"], ["s", "s-start"]) := by
    decide +kernel
  obtain ⟨scene, replayed, lists⟩ := Option.bind_eq_some_iff.1 run
  obtain ⟨entry, found, lists⟩ := Option.map_eq_some_iff.1 lists
  rw [Prod.mk.injEq] at lists
  obtain ⟨s, canvas, present⟩ :=
    all .square .default scene.board (of_replay replayed fun _ _ _ _ => trivial)
  -- the end of the segment is among its primitives, but not on the canvas
  have listed : "s-end" ∈ entry.primitiveIds := by rw [lists.1]; decide
  obtain ⟨p, member, id_eq⟩ := List.mem_map.1 listed
  have shown := Table.contains_of_get? (present "s" entry found p member)
  rw [id_eq] at shown
  have key : "s-end" ∈ scene.board.desk.canvas.ids := by
    rw [canvas]
    exact List.contains_iff_mem.1 shown
  rw [lists.2] at key
  exact absurd key (by decide)

/-- Beside a dot with another id the segment stays complete. -/
theorem drawings_complete_beside_dot :
    ∃ (b b' : Board) (w : Workspace) (s s' : Store Float) (touched : String),
      b.Plain IdsApart .square .default ∧ b.desk.entries.size = 2 ∧ b.Complete s ∧
        ((Command.delete "dot").perform.outcome ⟨b, w⟩).2.board = b' ∧ b'.IdsApart ∧
          touched = "dot" ∧ b'.Complete s' ∧ ∀ other entry, other ≠ touched →
            b.desk.entries.get? other = some entry → b'.desk.entries.get? other = some entry ∧
              ∀ p ∈ entry.primitives, s'.primitives.get? p.id = some p := by
  have run : ((History.replay .square .default [.originDot "dot", .dottedSegment "s"]).map
      fun scene => scene.board.desk.entries.size) = some 2 := by
    decide +kernel
  have run' :
      (History.replay .square .default [.delete "dot", .originDot "dot",
      .dottedSegment "s"]).isSome = true := by
    decide +kernel
  obtain ⟨after, replayed'⟩ := Option.isSome_iff_exists.1 run'
  obtain ⟨before, replayed, performed⟩ := Option.bind_eq_some_iff.1 replayed'
  have size : before.board.desk.entries.size = 2 := by simpa [replayed] using run
  -- without dashes no id can be that of a part of another drawing
  have plain : before.board.Plain IdsApart .square .default :=
    .of_dashless_replay replayed (by decide +kernel)
  have plain' : after.board.Plain IdsApart .square .default :=
    .of_dashless_replay replayed' (by decide +kernel)
  have left : ((Command.delete "dot").perform.outcome before).2.board = after.board := by
    split at performed <;> cases performed
    next u returned => rw [returned]
  obtain ⟨apart', -⟩ := plain'.exists_complete
  obtain ⟨⟨s, complete⟩, others⟩ := plain.drawings_complete
  obtain ⟨touched, s', target, complete', kept⟩ :=
    others (.delete "dot") after.board before.workspace rfl left apart'
  exact ⟨before.board, after.board, before.workspace, s, s', touched, plain, size, complete,
    left, apart', target "dot" rfl, complete', kept⟩

end Board.Plain

end CurveBoard
