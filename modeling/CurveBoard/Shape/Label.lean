import CurveBoard.Shape.Fault
import CurveBoard.Viewport.Basic

/-!
# Labels

A text is put beside a point in one of eight directions, or onto it. The offsets are in pixels and
go with the size of the letters.
-/
namespace CurveBoard

open Scalar

inductive Vertical
  | above
  | below
deriving DecidableEq, Repr

inductive Horizontal
  | left
  | right
deriving DecidableEq, Repr

/-- Where a text goes, seen from its point. -/
inductive TextPosition
  | vertical (v : Vertical)
  | horizontal (h : Horizontal)
  | corner (v : Vertical) (h : Horizontal)
deriving DecidableEq, Repr

namespace TextPosition

def vertical? : TextPosition → Option Vertical
  | vertical v => some v
  | horizontal _ => none
  | corner v _ => some v

def horizontal? : TextPosition → Option Horizontal
  | vertical _ => none
  | horizontal h => some h
  | corner _ h => some h

def name (position : TextPosition) : String :=
  (match position.vertical? with
    | some .above => "above"
    | some .below => "below"
    | none => "") ++
  match position.horizontal? with
  | some .left => "left"
  | some .right => "right"
  | none => ""

/-- All positions, by name. -/
def all : List TextPosition :=
  [vertical .above, corner .above .left, corner .above .right, vertical .below, corner .below .left,
    corner .below .right, horizontal .left, horizontal .right]

def ofName? (name : String) : Option TextPosition := all.find? fun position => position.name == name

end TextPosition

variable {α : Type} [Scalar α]

/-- The height of letters in pixels. -/
def fontSize : α := 14.4

/-- How far a text is moved from its point, and which part of it is put there. -/
structure TextOffset (α : Type) where
  dx : α
  dy : α
  anchor : String
deriving Repr

def textOffset (position : Option TextPosition) : TextOffset α :=
  let dy : α := match position.bind TextPosition.vertical? with
    | some .above => -fontSize / 2.0
    | some .below => fontSize + 4.0
    | none => fontSize / 3.0
  match position.bind TextPosition.horizontal? with
  | some .right => ⟨fontSize / 2.0, dy, "start"⟩
  | some .left => ⟨-fontSize / 2.0, dy, "end"⟩
  | none => ⟨0.0, dy, "middle"⟩

def isFinitePoint (p : Point α) : Bool := isFinite p.1 && isFinite p.2

/-- A point of the plane that has a place on the board. -/
def placed (p : Point α) : Drawn α (Point α) :=
  if isFinitePoint p then .ok p else .error (.endlessPoint p)

/-- A text beside a point of the plane. -/
def textPrimitive (v : Viewport α) (id : String) (p : Point α) (content : String)
    (position : Option TextPosition) : Drawn α (Primitive α) :=
  (placed p).map fun p =>
    let offset : TextOffset α := textOffset position
    let (x, y) := v.toDevice p
    { Primitive.blank id .text with
      center := some (roundedPoint (x + offset.dx, y + offset.dy))
      text := content
      anchor := offset.anchor }

end CurveBoard
