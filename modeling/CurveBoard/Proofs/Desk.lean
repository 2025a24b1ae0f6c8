import CurveBoard.Board.Desk
import CurveBoard.Proofs.Table

/-!
# Nothing is left on the canvas

Drawings may use the same ids for their primitives, and then they write over each other. Still
everything on a plain canvas is a primitive of a drawing on the desk. What a drawing has written and
does not write again is taken off; so an id that stays although it is not written again was written
last by another drawing, and that one is still on the desk.
-/
namespace CurveBoard

namespace Store

variable {α : Type} {s : Store α} {primitives : List (Primitive α)} {ids : List String}
  {key : String}
  {p : Primitive α}

/-- What is on the canvas after primitives have been taken off was there before, under another
id. -/
theorem get?_of_deleted (found : (ids.foldl Surface.delete s).primitives.get? key = some p) :
    key ∉ ids ∧ s.primitives.get? key = some p := by
  induction ids generalizing s with
  | nil => exact ⟨List.not_mem_nil, found⟩
  | cons first rest ih =>
    obtain ⟨absent, found⟩ := ih found
    change (s.primitives.erase first).get? key = some p at found
    by_cases same : key = first
    · rw [same, Table.get?_erase_self] at found
      cases found
    · rw [Table.get?_erase_of_ne same] at found
      exact ⟨by simp [same, absent], found⟩

/-- What is on the canvas after primitives have been written is one of them, or it was there before
under an id that none of them has. -/
theorem get?_of_upserted
    (found : (primitives.foldl Surface.upsert s).primitives.get? key = some p) :
    (p ∈ primitives ∧ p.id = key) ∨
    (key ∉ primitives.map Primitive.id ∧ s.primitives.get? key = some p) := by
  induction primitives generalizing s with
  | nil => exact .inr ⟨List.not_mem_nil, found⟩
  | cons first rest ih =>
    rcases ih found with ⟨member, same⟩ | ⟨absent, found⟩
    · exact .inl ⟨List.mem_cons_of_mem _ member, same⟩
    · change (s.primitives.insert first.id first).get? key = some p at found
      by_cases same : key = first.id
      · rw [same, Table.get?_insert_self] at found
        cases found
        exact .inl ⟨List.mem_cons_self, same.symm⟩
      · rw [Table.get?_insert_of_ne same] at found
        exact .inr ⟨by simp [same, absent], found⟩

end Store

namespace Desk

variable {α δ σ ε : Type}

/-- Whether everything on the canvas lies under its own id and is a primitive of a drawing on the
desk. -/
def Backed (desk : Desk (Store α) δ α) : Prop :=
  ∀ key p, desk.canvas.primitives.get? key = some p →
    p.id = key ∧ ∃ id entry, desk.entries.get? id = some entry ∧ p ∈ entry.primitives

private theorem backed_empty : (empty Store.empty : Desk (Store α) δ α).Backed :=
  fun key p found => by cases found

namespace Backed

variable {desk : Desk (Store α) δ α}

/-- Drawing something takes off what its id had written and does not write again. -/
theorem put (backed : desk.Backed) (id : String) (drawing : δ) (primitives : List (Primitive α)) :
    (desk.put id drawing primitives).Backed := by
  intro key p found
  rcases Store.get?_of_upserted found with ⟨member, same⟩ | ⟨unwritten, found⟩
  · exact ⟨same, id, ⟨drawing, primitives⟩, Table.get?_insert_self _ _ _, member⟩
  · obtain ⟨kept, found⟩ := Store.get?_of_deleted found
    obtain ⟨same, writer, entry, entry_found, member⟩ := backed key p found
    refine ⟨same, writer, entry, ?_, member⟩
    -- had the id itself written this last, it would be stale
    have another : writer ≠ id := by
      rintro rfl
      refine kept ?_
      rw [stale, entry_found]
      have written : key ∈ entry.primitiveIds := List.mem_map.2 ⟨p, member, same⟩
      simpa [written] using unwritten
    exact (Table.get?_insert_of_ne another _).trans entry_found

theorem upsert (backed : desk.Backed) (build : Builder σ δ ε α) (id : String) (drawing : δ)
    (state : σ) :
    (desk.upsert build id drawing state).2.1.Backed := by
  unfold Desk.upsert
  split
  · exact backed
  · exact backed.put id drawing _

/-- A drawing is taken away with all that it has written. -/
theorem delete (backed : desk.Backed) (id : String) : (desk.delete id).Backed := by
  unfold Desk.delete
  split
  next entry entry_found =>
    intro key p found
    obtain ⟨kept, found⟩ := Store.get?_of_deleted found
    obtain ⟨same, writer, entry', entry'_found, member⟩ := backed key p found
    refine ⟨same, writer, entry', ?_, member⟩
    have another : writer ≠ id := by
      rintro rfl
      cases entry_found.symm.trans entry'_found
      exact kept (List.mem_map.2 ⟨p, member, same⟩)
    exact (Table.get?_erase_of_ne another).trans entry'_found
  · exact backed

theorem clear (backed : desk.Backed) : desk.clear.Backed :=
  List.foldlRecOn desk.entries.keys Desk.delete backed fun _ backed id _ => backed.delete id

/-- Redrawing may stop at any drawing. -/
theorem redrawFrom (backed : desk.Backed) (build : Builder σ δ ε α)
    (entries : List (String × Entry δ α)) (state : σ) :
    (desk.redrawFrom build entries state).2.1.Backed := by
  induction entries generalizing desk state with
  | nil => exact backed
  | cons first rest ih =>
    obtain ⟨id, entry⟩ := first
    have drawn := backed.upsert build id entry.drawing state
    unfold Desk.redrawFrom
    split
    next upserted =>
      rw [upserted] at drawn
      exact drawn
    next upserted =>
      rw [upserted] at drawn
      exact ih drawn _

/-- Without drawings nothing is on the canvas. -/
theorem primitives_eq_empty (backed : desk.Backed) (bare : desk.entries = Table.empty) :
    desk.canvas.primitives = Table.empty := by
  refine Table.eq_empty fun key => Option.eq_none_iff_forall_ne_some.2 fun p found => ?_
  obtain ⟨-, id, entry, entry_found, -⟩ := backed key p found
  rw [bare] at entry_found
  cases entry_found

end Backed

end Desk

/-- What may be done to a desk. Every operation has a builder of its own, which may fail at any
drawing. -/
inductive DeskOperation (δ σ ε α : Type)
  | upsert (build : Builder σ δ ε α) (id : String) (drawing : δ)
  | delete (id : String)
  | redraw (build : Builder σ δ ε α)
  | clear

namespace DeskOperation

variable {κ α δ σ ε : Type}

/-- The desk after an operation, be it that it has failed, and what else has changed. -/
def perform [Surface κ α] (before : Desk κ δ α × σ) :
    DeskOperation δ σ ε α → Desk κ δ α × σ
  | upsert build id drawing => (before.1.upsert build id drawing before.2).2
  | delete id => (before.1.delete id, before.2)
  | redraw build => (before.1.redraw build before.2).2
  | clear => (before.1.clear, before.2)

private theorem perform_backed (operation : DeskOperation δ σ ε α)
    (before : Desk (Store α) δ α × σ) (backed : before.1.Backed) :
    (operation.perform before).1.Backed := by
  cases operation with
  | upsert build id drawing => exact backed.upsert build id drawing _
  | delete id => exact backed.delete id
  | redraw build => exact backed.redrawFrom build _ _
  | clear => exact backed.clear

private theorem foldl_perform_backed (operations : List (DeskOperation δ σ ε α))
    (before : Desk (Store α) δ α × σ) (backed : before.1.Backed) :
    (operations.foldl perform before).1.Backed :=
  List.foldlRecOn (motive := fun after => after.1.Backed) operations perform backed
    fun _ backed operation _ => operation.perform_backed _ backed

/-- After any operations on an empty desk with an empty canvas, everything on the canvas is a
primitive of a drawing on the desk; so the canvas is empty whenever the desk is. -/
theorem canvas_backed (operations : List (DeskOperation δ σ ε α)) (state : σ) :
    let desk := (operations.foldl perform (Desk.empty (Store.empty : Store α), state)).1
    desk.Backed ∧ (desk.entries = Table.empty → desk.canvas.primitives = Table.empty) := by
  have backed := foldl_perform_backed operations (Desk.empty Store.empty, state) Desk.backed_empty
  exact ⟨backed, backed.primitives_eq_empty⟩

end DeskOperation

end CurveBoard
