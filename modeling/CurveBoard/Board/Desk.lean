import CurveBoard.Canvas.Basic

/-!
# Desks

A desk remembers every drawing of a board by its id, together with the primitives it has put on the
canvas. Drawing an id again replaces its primitives: those that the new ones do not overwrite are
taken off the canvas first. To redraw is to build every drawing anew, in the order in which they
came; it stops at the first one that cannot be built, and what was redrawn before stays.

What a drawing is, and what building it may change beside the canvas, is left open.
-/
namespace CurveBoard

/-- Something to draw on. -/
class Surface (κ : Type) (α : outParam Type) where
  upsert : κ → Primitive α → κ
  delete : κ → String → κ

instance {α : Type} : Surface (Store α) α := ⟨Store.upsert, Store.delete⟩

instance : Surface Canvas Float := ⟨Canvas.upsert, Canvas.delete⟩

structure Entry (δ α : Type) where
  drawing : δ
  primitives : List (Primitive α)

namespace Entry

variable {δ α : Type}

def primitiveIds (e : Entry δ α) : List String := e.primitives.map Primitive.id

end Entry

structure Desk (κ δ α : Type) where
  entries : Table (Entry δ α)
  canvas : κ

/-- The primitives of a drawing, and what else changes while they are built. -/
abbrev Builder (σ δ ε α : Type) :=
  String → δ → σ → Except ε (List (Primitive α)) × σ

namespace Desk

variable {κ δ α σ ε : Type} [Surface κ α]

def empty (canvas : κ) : Desk κ δ α := ⟨Table.empty, canvas⟩

/-- The primitives of an id that new ones do not overwrite. -/
def stale (desk : Desk κ δ α) (id : String) (primitives : List (Primitive α)) : List String :=
  match desk.entries.get? id with
  | some entry => entry.primitiveIds.filter fun old => !(primitives.map Primitive.id).contains old
  | none => []

/-- Replaces what an id has drawn. -/
def put (desk : Desk κ δ α) (id : String) (drawing : δ) (primitives : List (Primitive α)) :
    Desk κ δ α where
  entries := desk.entries.insert id ⟨drawing, primitives⟩
  canvas :=
    primitives.foldl Surface.upsert ((desk.stale id primitives).foldl Surface.delete desk.canvas)

/-- Builds a drawing and puts it on the desk. Nothing is put there if it cannot be built. -/
def upsert (build : Builder σ δ ε α) (id : String) (drawing : δ) (desk : Desk κ δ α)
    (state : σ) :
    Except ε Unit × Desk κ δ α × σ :=
  match build id drawing state with
  | (.error fault, state) => (.error fault, desk, state)
  | (.ok primitives, state) => (.ok (), desk.put id drawing primitives, state)

/-- Takes a drawing and its primitives away. -/
def delete (desk : Desk κ δ α) (id : String) : Desk κ δ α :=
  match desk.entries.get? id with
  | some entry => ⟨desk.entries.erase id, entry.primitiveIds.foldl Surface.delete desk.canvas⟩
  | none => desk

def clear (desk : Desk κ δ α) : Desk κ δ α := desk.entries.keys.foldl delete desk

/-- Builds drawings anew, one after the other. -/
def redrawFrom (build : Builder σ δ ε α) :
    List (String × Entry δ α) → Desk κ δ α → σ → Except ε Unit × Desk κ δ α × σ
  | [], desk, state => (.ok (), desk, state)
  | (id, entry) :: rest, desk, state =>
    match desk.upsert build id entry.drawing state with
    | (.error fault, desk, state) => (.error fault, desk, state)
    | (.ok _, desk, state) => redrawFrom build rest desk state

/-- Builds all drawings anew, in their order. -/
def redraw (build : Builder σ δ ε α) (desk : Desk κ δ α) (state : σ) :
    Except ε Unit × Desk κ δ α × σ :=
  redrawFrom build desk.entries.entries desk state

end Desk

end CurveBoard
