/-!
# Nested arrays

An array of any depth is a single value or a row of arrays of one shape, which an empty row has as
well: rows of three may be missing altogether. Two arrays are combined value by value after the
shallower one has been repeated: a single value goes with every entry of the other array, and so
does a row of one item with every item of the other row.
-/
namespace CurveBoard

/-- An array; a row knows the shape that its items have. -/
inductive Nested (α : Type)
  | single (x : α)
  | row (inner : List Nat) (items : List (Nested α))
deriving Repr

namespace Nested

variable {α β γ : Type}

instance [Inhabited α] : Inhabited (Nested α) := ⟨single default⟩

def ofList (xs : List α) : Nested α := row [] (xs.map single)

def map (f : α → β) : Nested α → Nested β
  | single x => single (f x)
  | row inner items => row inner (items.map fun item => item.map f)

/-- Computes every value anew; there is no array if one of the values is missing. -/
def mapM (f : α → Option β) : Nested α → Option (Nested β)
  | single x => (f x).map single
  | row inner items => (items.mapM fun item => mapM f item).map (row inner)

mutual
/-- All values in order. -/
def entries : Nested α → List α
  | single x => [x]
  | row _ items => entriesOfAll items

def entriesOfAll : List (Nested α) → List α
  | [] => []
  | item :: rest => item.entries ++ entriesOfAll rest
end

/-- The lengths of the rows, from the outermost inwards. Rows of one array at one depth have one
length. -/
def shape : Nested α → List Nat
  | single _ => []
  | row inner items => items.length :: inner

def depth (a : Nested α) : Nat := a.shape.length

/-- A row in the shape of its first item. -/
def rowOf (items : List (Nested α)) : Nested α := row ((items.head?.map shape).getD []) items

/-- Puts an array into so many rows of one item. -/
def wrapped : Nat → Nested α → Nested α
  | 0, a => a
  | n + 1, a => wrapped n (row a.shape [a])

/-- The shape of what arrays of two shapes of one depth are combined to. -/
def alignedShape (shape shape' : List Nat) : List Nat :=
  List.zipWith (fun m n => if m = 1 then n else m) shape shape'

/-- Combines two arrays of one depth, or one of which is a single value. -/
def zipAligned (f : α → β → γ) : Nested α → Nested β → Nested γ
  | single x, b => b.map (f x)
  | a, single y => a.map (f · y)
  | row inner [item], row inner' others =>
    row (alignedShape inner inner') (others.map fun other => zipAligned f item other)
  | row inner items, row inner' [other] =>
    row (alignedShape inner inner') (items.map fun item => zipAligned f item other)
  | row inner items, row inner' others =>
    let items' := (items.zip others).attach.map fun ⟨(item, other), together⟩ =>
      have : item ∈ items := (List.of_mem_zip together).1
      zipAligned f item other
    row (alignedShape inner inner') items'

/-- Combines two arrays, repeating the shallower one. -/
def zip (f : α → β → γ) (a : Nested α) (b : Nested β) : Nested γ :=
  match a, b with
  | single x, b => b.map (f x)
  | a, single y => a.map (f · y)
  | a, b => zipAligned f (wrapped (b.depth - a.depth) a) (wrapped (a.depth - b.depth) b)

/-- A single value as it stands at every place of an array; other values stay. -/
def filledLike (a : Nested α) : Nested β → Nested β
  | single y => a.map fun _ => y
  | row inner items => row inner items

/-- The common shape of two arrays, from the innermost length outwards. -/
def alignedShape? : List Nat → List Nat → Option (List Nat)
  | [], shape => some shape
  | shape, [] => some shape
  | m :: rest, n :: rest' =>
    if m = n ∨ m = 1 ∨ n = 1 then
      (alignedShape? rest rest').map ((if m = 1 then n else m) :: ·)
    else none

/-- The shape of what two arrays are combined to; none if neither can be repeated to go with the
other. -/
def commonShape? (shape shape' : List Nat) : Option (List Nat) :=
  (alignedShape? shape.reverse shape'.reverse).map List.reverse

end Nested

/-- Two shapes of arrays that do not go together. -/
structure ShapeMismatch where
  left : List Nat
  right : List Nat
deriving DecidableEq, Repr

namespace ShapeMismatch

def shapeText : List Nat → String
  | [n] => s!"({n},)"
  | shape => "(" ++ ",".intercalate (shape.map toString) ++ ")"

def message (m : ShapeMismatch) : String :=
  s!"operands could not be broadcast together with shapes {shapeText m.left} {shapeText m.right} "

end ShapeMismatch

namespace Nested

def together (shape shape' : List Nat) : Except ShapeMismatch (List Nat) :=
  (commonShape? shape shape').elim (.error ⟨shape, shape'⟩) .ok

end Nested

end CurveBoard
