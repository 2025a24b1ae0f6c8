import CurveBoard.Board.Action

/-!
# Collections of boards

Boards are kept in collections, under their ids and in the order in which they came. A board that
has been taken out of its collection can still be worked on by those who hold it; so a studio keeps
every board, and a collection the places of its boards there.
-/
namespace CurveBoard

structure Studio where
  workspace : Workspace
  boards : Array Board
  collections : Table (Table Nat)

/-- A board as a caller names it: by its id or by its place. -/
inductive BoardName
  | id (id : String)
  | place (place : Nat)
  | other (v : Value)

namespace Studio

def initial : Studio := ⟨Workspace.initial, #[], Table.empty⟩

/-- The boards of a collection; one that has not been used yet has none. -/
def collection (s : Studio) (name : String) : Table Nat :=
  (s.collections.get? name).getD Table.empty

def setCollection (s : Studio) (name : String) (boards : Table Nat) : Studio :=
  { s with collections := s.collections.insert name boards }

def log (s : Studio) (level : LogLevel) (message : String) : Studio :=
  { s with workspace := s.workspace.log .board level message }

/-- The place of a board of a collection, by its id. -/
def find (s : Studio) (collection id : String) : Except Fault Nat :=
  ((s.collection collection).get? id).elim (.error (.board (.unknownBoard (quoted id)))) .ok

/-- As `find`, for a caller who takes the collection for a table. -/
def item (s : Studio) (collection id : String) : Except Fault Nat :=
  ((s.collection collection).get? id).elim (.error (.board (.missingKey (quoted id)))) .ok

/-- Adds a board to a collection, unless it has one with that id already. -/
def create (s : Studio) (collection id : String) (options : BoardOptions)
    (sampler : SamplerConfig) :
    Except Fault Nat × Studio :=
  match (s.collection collection).get? id with
  | some place =>
    (.ok place,
      s.log .warning s!"Board ID already exists: {quoted id}; returning the existing board")
  | none =>
    match Board.create id options sampler (.store Store.empty) false s.workspace with
    | (.error fault, workspace) => (.error fault, { s with workspace := workspace })
    | (.ok board, workspace) =>
      let place := s.boards.size
      let s := { s with workspace := workspace, boards := s.boards.push board }
      let s := s.setCollection collection ((s.collection collection).insert id place)
      (.ok place,
        s.log .info
        s!"Created board {quoted id} ({sizeText board.viewport.width board.viewport.height})")

/-- The id under which a collection is asked to give up a board. A board is given up only if the
collection has that very board under its id. -/
def idToDelete (s : Studio) (collection : String) (name : BoardName) : Except Fault String :=
  match name with
  | .id id => .ok id
  | .place place =>
    match s.boards[place]? with
    | some board =>
      if (s.collection collection).get? board.id = some place then .ok board.id
      else .error (.board (.unregisteredBoard board.id))
    | none => .error (.board (.notABoard ""))
  | .other v => .error (.board (.notABoard v.shown))

/-- Takes a board out of a collection and clears it. -/
def delete (s : Studio) (collection : String) (name : BoardName) : Except Fault Unit × Studio :=
  match (s.idToDelete collection name).bind fun id => (s.find collection id).map fun place =>
    (id, place) with
  | .error fault => (.error fault, s)
  | .ok (id, place) =>
    let s := s.log .info s!"Deleting board {quoted id}"
    let s := { s with boards := s.boards.modify place Board.cleared }
    (.ok (), s.setCollection collection ((s.collection collection).erase id))

/-- Works on one board. -/
def onBoard {α : Type} (s : Studio) (place : Nat) (action : Action α) :
    Except Fault α × Studio :=
  match s.boards[place]? with
  | none => (.error (.board (.notABoard "")), s)
  | some board =>
    let (result, scene) := action.run ⟨board, s.workspace⟩
    (result, { s with
      workspace := scene.workspace, boards := s.boards.modify place fun _ => scene.board })

end Studio

end CurveBoard
