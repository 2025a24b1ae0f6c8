import CurveBoard.Proofs.Canvas.Order

/-!
# Images drawn anew

Nothing of what an image was asked for before is left in it: its markup is that of a blank image of
the last size on which the current primitives are drawn, once each and in the order of painting.
This is so because an image holds what the plain canvas holds. Behind its definitions its children
are the elements for the primitives in the table of the plain canvas, in the order of that table;
and of each id that table has the latest primitive only.
-/
namespace CurveBoard

/-- A call to an image: one that every canvas may get, or one for another size. -/
inductive ImageCall
  | canvas (call : CanvasCall)
  | resize (width height : String)

/-- The id that a call is about. -/
def CanvasCall.id : CanvasCall → String
  | upsert p => p.id
  | delete id => id

namespace ImageCall

def perform (i : Image) : ImageCall → Image
  | canvas call => call.perform i
  | resize width height => i.resize width height

def canvasCall? : ImageCall → Option CanvasCall
  | canvas call => some call
  | resize _ _ => none

def size? : ImageCall → Option (String × String)
  | canvas _ => none
  | resize width height => some (width, height)

/-- The size that calls leave to an image. -/
def lastSize (size : String × String) (calls : List ImageCall) : String × String :=
  (calls.filterMap size?).getLast?.getD size

end ImageCall

/-- The last call about the id of a primitive upserts this primitive. -/
def CanvasCall.IsCurrent (calls : List CanvasCall) (p : Primitive Number) : Prop :=
  (calls.filter (·.id = p.id)).getLast? = some (upsert p)

open CanvasCall

/-! ### What the plain canvas holds -/

namespace Store

variable {t : Table (Primitive Number)} {p : Primitive Number} {key : String}

/-- The primitives of a table are each under their own id. -/
def Named (t : Table (Primitive Number)) : Prop := ∀ key p, t.get? key = some p → p.id = key

private theorem named_perform {s : Store Number} (named : Named s.primitives) (call : CanvasCall) :
    Named (perform s call).primitives := by
  intro key p found
  cases call with
  | upsert q =>
    change (s.primitives.insert q.id q).get? key = some p at found
    rw [Table.get?_insert] at found
    split at found
    next same =>
      cases found
      exact same.symm
    next => exact named key p found
  | delete id =>
    change (s.primitives.erase id).get? key = some p at found
    by_cases same : key = id
    · rw [same, Table.get?_erase_self] at found
      cases found
    · rw [Table.get?_erase_of_ne same] at found
      exact named key p found

private theorem named_foldl (calls : List CanvasCall) :
    Named (calls.foldl perform Store.empty).primitives := by
  induction calls using List.reverseRecOn with
  | nil =>
    intro key p found
    cases found
  | append_singleton calls call ih =>
    rw [List.foldl_append]
    exact named_perform ih call

/-- What is found under an id is current. -/
theorem get?_foldl_iff (calls : List CanvasCall) (p : Primitive Number) :
    (calls.foldl perform Store.empty).primitives.get? p.id = some p ↔ IsCurrent calls p := by
  unfold IsCurrent
  -- on the end of the calls: only the last one about an id counts
  induction calls using List.reverseRecOn with
  | nil => exact iff_of_false nofun nofun
  | append_singleton calls call ih =>
    rw [List.foldl_append, List.foldl_cons, List.foldl_nil, List.filter_append]
    by_cases about : call.id = p.id
    · rw [List.filter_singleton, decide_eq_true about, cond_true, List.getLast?_concat,
        Option.some.injEq]
      cases call with
      | upsert q =>
        change (Table.insert _ q.id q).get? p.id = some p ↔ _
        rw [← about, CanvasCall.id, Table.get?_insert_self, Option.some.injEq,
          CanvasCall.upsert.injEq]
      | delete id =>
        change (Table.erase _ id).get? p.id = some p ↔ _
        rw [← about, CanvasCall.id, Table.get?_erase_self]
        exact iff_of_false nofun nofun
    · rw [List.filter_singleton, decide_eq_false about, cond_false, List.append_nil, ← ih]
      cases call with
      | upsert q =>
        have differs : p.id ≠ q.id := Ne.symm about
        change (Table.insert _ q.id q).get? p.id = some p ↔ _
        rw [Table.get?_insert_of_ne differs]
      | delete id =>
        have differs : p.id ≠ id := Ne.symm about
        change (Table.erase _ id).get? p.id = some p ↔ _
        rw [Table.get?_erase_of_ne differs]

private theorem entries_of_named (named : Named t) :
    t.entries = t.values.map fun p => (p.id, p) := by
  rw [Table.values, List.map_map]
  refine ((List.map_congr_left fun entry member => ?_).trans (List.map_id _)).symm
  exact Prod.ext (named entry.1 entry.2 (Table.get?_eq_some_iff.2 member)) rfl

private theorem keys_of_named (named : Named t) : t.keys = t.values.map Primitive.id := by
  rw [Table.keys, entries_of_named named, List.map_map]
  rfl

private theorem mem_values_iff (named : Named t) : p ∈ t.values ↔ t.get? p.id = some p := by
  rw [Table.get?_eq_some_iff, entries_of_named named, List.mem_map]
  constructor
  · intro member
    exact ⟨p, member, rfl⟩
  · rintro ⟨q, member, same⟩
    exact (Prod.mk.inj same).2 ▸ member

/-- Primitives with different ids, put on a plain canvas one after the other, are all there in this
order. -/
theorem entries_foldl_upsert {primitives : List (Primitive Number)}
    (distinct : (primitives.map Primitive.id).Nodup) :
    (primitives.foldl Store.upsert Store.empty).primitives.entries = primitives.map fun p =>
      (p.id, p) := by
  induction primitives using List.reverseRecOn with
  | nil => rfl
  | append_singleton primitives p ih =>
    rw [List.map_append, List.nodup_append] at distinct
    have entries := ih distinct.1
    have absent : (primitives.foldl Store.upsert Store.empty).primitives.contains p.id = false := by
      rw [Bool.eq_false_iff, Ne, Table.contains_iff_mem_keys, Table.keys, entries, List.map_map]
      exact fun member => distinct.2.2 _ member _ (List.mem_singleton_self _) rfl
    rw [List.foldl_append, List.map_append, ← entries]
    exact Table.entries_insert_of_absent absent p

/-- What a plain canvas holds is what it holds after that has been put on a blank one. -/
theorem foldl_upsert_values (named : Named t) :
    (t.values.foldl Store.upsert Store.empty).primitives = t := by
  have distinct : (t.values.map Primitive.id).Nodup := keys_of_named named ▸ t.distinct
  refine Table.eq_of_entries ?_
  rw [entries_foldl_upsert distinct, entries_of_named named]

end Store

/-! ### What an image holds -/

namespace Image

variable {i j : Image} {t : Table (Primitive Number)}

def size (i : Image) : String × String := (i.width, i.height)

/-- What elements have beside their primitives. -/
def pen (i : Image) : String × String := (i.stroke, i.strokeWidth)

def definitions : Element := ⟨"defs", [], ""⟩

private theorem elementFor_eq (same : i.pen = j.pen) : i.elementFor = j.elementFor := by
  obtain ⟨stroke, strokeWidth⟩ := Prod.mk.inj same
  funext p
  simp only [elementFor, stroke, strokeWidth]

private theorem pen_perform (i : Image) (call : CanvasCall) : (perform i call).pen = i.pen := by
  cases call with
  | upsert p => rfl
  | delete id =>
    change (i.delete id).pen = i.pen
    rw [Image.delete]
    split <;> rfl

private theorem size_perform (i : Image) (call : CanvasCall) : (perform i call).size = i.size := by
  cases call with
  | upsert p => rfl
  | delete id =>
    change (i.delete id).size = i.size
    rw [Image.delete]
    split <;> rfl

/-- The definitions stay before all elements. -/
theorem Linked.head?_perform (linked : i.Linked) (call : CanvasCall) :
    (perform i call).children.head? = i.children.head? := by
  obtain ⟨definitions, children, apart, -⟩ := linked.exists_definitions
  have kept {id : String} {old : Node} (found : i.elements.get? id = some old) :
      old.serial ≠ definitions.serial := apart (id, old) (Table.get?_eq_some_iff.1 found)
  cases call with
  | upsert p =>
    change (i.upsert p).children.head? = _
    rw [Image.upsert]
    dsimp only
    split
    next old found =>
      rw [set_findIdx_serial linked.distinct, children, List.map_cons, if_neg (kept found).symm]
      rfl
    next => simp [children]
  | delete id =>
    change (i.delete id).children.head? = _
    rw [Image.delete]
    split
    next old found =>
      dsimp only
      rw [children, List.filter_cons_of_pos (by simpa using (kept found).symm)]
      rfl
    next => rfl

/-- An image has what is in a table: its elements are those for the primitives, under the same ids
in the same order, and stand behind the definitions. -/
structure Draws (i : Image) (t : Table (Primitive Number)) : Prop where
  linked : i.Linked
  first : i.children.head?.map Node.element = some definitions
  elements : i.elements.mapValues Node.element = t.mapValues i.elementFor

theorem Draws.blank (width height stroke strokeWidth : String) :
    (Image.blank width height stroke strokeWidth).Draws Table.empty where
  linked := Linked.blank width height stroke strokeWidth
  first := rfl
  elements := rfl

theorem Draws.perform {s : Store Number} (draws : i.Draws s.primitives) (call : CanvasCall) :
    (call.perform i).Draws (call.perform s).primitives where
  linked := (linked_perform i call draws.linked).1
  first := by rw [draws.linked.head?_perform, draws.first]
  elements := by
    rw [elementFor_eq (pen_perform i call)]
    cases call with
    | upsert p =>
      change (i.upsert p).elements.mapValues Node.element =
        (s.primitives.insert p.id p).mapValues i.elementFor
      rw [elements_upsert, Table.mapValues_insert, Table.mapValues_insert, draws.elements]
    | delete id =>
      change (i.delete id).elements.mapValues Node.element =
        (s.primitives.erase id).mapValues i.elementFor
      rw [elements_delete, Table.mapValues_erase, Table.mapValues_erase, draws.elements]

/-- A further size changes no element. -/
theorem Draws.resize (draws : i.Draws t) (width height : String) :
    (i.resize width height).Draws t where
  linked := ⟨draws.linked.children, draws.linked.distinct, draws.linked.used⟩
  first := draws.first
  elements := draws.elements

theorem Draws.children (draws : i.Draws t) :
    i.children.map Node.element = definitions :: t.values.map i.elementFor := by
  obtain ⟨first, children⟩ := draws.linked.children
  have isFirst := draws.first
  rw [children] at isFirst
  have values := congrArg Table.values draws.elements
  simp only [Table.values, Table.entries_mapValues, List.map_map] at values
  rw [children, List.map_cons, Table.values, Table.values, List.map_map, List.map_map,
    Option.some.inj isFirst]
  exact congrArg _ values

theorem Draws.elementIds (draws : i.Draws t) : i.elementIds = t.keys := by
  rw [draws.linked.elementIds, ← Table.keys_mapValues Node.element, draws.elements,
    Table.keys_mapValues]

/-- Images of one size and with one pen that have the same primitives look alike. -/
theorem Draws.markup_eq (draws : i.Draws t) (draws' : j.Draws t) (size : i.size = j.size)
    (pen : i.pen = j.pen) :
    i.markup = j.markup := by
  obtain ⟨width, height⟩ := Prod.mk.inj size
  have inside (k : Image) : k.children.map (·.element.write "") =
      (k.children.map Node.element).map (·.write "") := by
    rw [List.map_map]
    rfl
  simp only [markup, root, width, height, inside, draws.children, draws'.children,
    elementFor_eq pen]

end Image

/-! ### Runs -/

namespace ImageCall

private theorem draws_foldl (calls : List ImageCall) (width height stroke strokeWidth : String) :
    (calls.foldl perform (Image.blank width height stroke strokeWidth)).Draws
      ((calls.filterMap canvasCall?).foldl CanvasCall.perform Store.empty).primitives := by
  induction calls using List.reverseRecOn with
  | nil => exact Image.Draws.blank width height stroke strokeWidth
  | append_singleton calls call ih =>
    rw [List.foldl_append, List.filterMap_append, List.foldl_append]
    cases call with
    | canvas call => exact ih.perform call
    | resize width height => exact ih.resize width height

private theorem pen_foldl (calls : List ImageCall) (i : Image) :
    (calls.foldl perform i).pen = i.pen := by
  induction calls generalizing i with
  | nil => rfl
  | cons call rest ih =>
    rw [List.foldl_cons, ih]
    cases call with
    | canvas call => exact Image.pen_perform i call
    | resize width height => rfl

private theorem size_foldl (calls : List ImageCall) (i : Image) :
    (calls.foldl perform i).size = lastSize i.size calls := by
  induction calls using List.reverseRecOn with
  | nil => rfl
  | append_singleton calls call ih =>
    rw [List.foldl_append, lastSize, List.filterMap_append]
    cases call with
    | canvas call =>
      have nothing : [canvas call].filterMap size? = [] := rfl
      rw [nothing, List.append_nil, ← lastSize, ← ih]
      exact Image.size_perform _ call
    | resize width height =>
      have last : [resize width height].filterMap size? = [(width, height)] := rfl
      rw [last, List.getLast?_concat]
      rfl

/-- Primitives that are drawn one after the other. -/
theorem foldl_upserts (primitives : List (Primitive Number)) (i : Image) :
    (primitives.map fun p => canvas (.upsert p)).foldl perform i =
      primitives.foldl Image.upsert i :=
  List.foldl_map

private theorem size_foldl_upsert (primitives : List (Primitive Number)) (i : Image) :
    (primitives.foldl Image.upsert i).size = i.size := by
  induction primitives generalizing i with
  | nil => rfl
  | cons p rest ih => exact ih (i.upsert p)

private theorem draws_upserts (primitives : List (Primitive Number))
    (width height stroke strokeWidth : String) :
    (primitives.foldl Image.upsert (Image.blank width height stroke strokeWidth)).Draws
      (primitives.foldl Store.upsert Store.empty).primitives := by
  have draws :=
    draws_foldl (primitives.map fun p => canvas (.upsert p)) width height stroke strokeWidth
  have asked : (primitives.map fun p => canvas (.upsert p)).filterMap canvasCall? =
      primitives.map .upsert := by
    rw [List.filterMap_map, ← List.filterMap_eq_map]
    rfl
  rw [foldl_upserts, asked, List.foldl_map] at draws
  exact draws

/-- Whatever calls an image has got, its markup is that of a blank image of the last size, with the
same stroke, on which the current primitives are drawn in the order of painting. The current ones
are those that the last call about their id has upserted, one for each id that is painted. -/
theorem markup_redrawn (calls : List ImageCall) (width height stroke strokeWidth : String) :
    ∃ shown : List (Primitive Number),
      (∀ p, p ∈ shown ↔ IsCurrent (calls.filterMap canvasCall?) p) ∧
      (shown.map Primitive.id).Nodup ∧
      shown.map Primitive.id =
        (calls.foldl perform (Image.blank width height stroke strokeWidth)).elementIds ∧
      (calls.foldl perform (Image.blank width height stroke strokeWidth)).markup =
        (shown.foldl Image.upsert (Image.blank (lastSize (width, height) calls).1
          (lastSize (width, height) calls).2 stroke strokeWidth)).markup := by
  let s : Store Number := (calls.filterMap canvasCall?).foldl CanvasCall.perform Store.empty
  have named : Store.Named s.primitives := Store.named_foldl _
  have draws := draws_foldl calls width height stroke strokeWidth
  refine ⟨s.primitives.values, fun p => ?_, ?_, ?_, ?_⟩
  · rw [Store.mem_values_iff named, Store.get?_foldl_iff]
  · rw [← Store.keys_of_named named]
    exact s.primitives.distinct
  · rw [← Store.keys_of_named named, draws.elementIds]
  · have again := draws_upserts s.primitives.values (lastSize (width, height) calls).1
      (lastSize (width, height) calls).2 stroke strokeWidth
    rw [Store.foldl_upsert_values named] at again
    refine draws.markup_eq again ?_ ?_
    · rw [size_foldl, size_foldl_upsert]
      rfl
    · rw [pen_foldl, ← foldl_upserts, pen_foldl]
      rfl

end ImageCall

end CurveBoard
