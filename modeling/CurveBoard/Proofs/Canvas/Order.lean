import CurveBoard.Board.Desk
import CurveBoard.Proofs.Canvas.Calls
import CurveBoard.Proofs.Table

/-!
# What canvases show, and in which order

The three canvases store their order in three ways: a table has the order of its names, a document
has its children and finds one again by what it is, a figure finds its traces by their ids. All of
them show the same ids in the same order, the one that the calls ask for.

Each call does the same to the ids that a canvas has in order. For a document this needs that its
children are, behind its definitions, those in its table, once each; calls keep that.
-/
namespace CurveBoard

instance : Surface Image Number := ⟨Image.upsert, Image.delete⟩

/-- Coordinates of a trace are floats. -/
instance : Surface Figure Number := ⟨fun f p => f.upsert (p.map Number.nearest), Figure.delete⟩

def CanvasCall.perform {κ : Type} [Surface κ Number] (canvas : κ) : CanvasCall → κ
  | upsert p => Surface.upsert canvas p
  | delete id => Surface.delete canvas id

open CanvasCall

/-! ### The plain canvas -/

private theorem Store.keys_perform (s : Store Number) (call : CanvasCall) :
    (perform s call).primitives.keys = listed s.primitives.keys call := by
  cases call with
  | upsert p => exact Table.keys_insert s.primitives p.id p
  | delete id => exact Table.keys_erase s.primitives id

/-! ### Figures -/

namespace Traces

variable {t : Traces} {id : String}

theorem mem_ids_iff : id ∈ t.ids ↔ ∃ trace, t.find? id = some trace := by
  rw [ids, find?, List.mem_map]
  constructor
  · rintro ⟨entry, member, rfl⟩
    have found : (t.entries.find? fun e => e.1 == entry.1).isSome :=
      List.find?_isSome.2 ⟨entry, member, by simp⟩
    obtain ⟨e, same⟩ := Option.isSome_iff_exists.1 found
    exact ⟨e.2, by rw [same]; rfl⟩
  · rintro ⟨trace, found⟩
    obtain ⟨entry, same, -⟩ := Option.map_eq_some_iff.1 found
    exact ⟨entry, List.mem_of_find?_eq_some same, by simpa using List.find?_some same⟩

/-- A trace goes in the place of one that has its id. -/
theorem ids_replace (t : Traces) (id : String) (trace : Trace2D) :
    (t.replace id trace).ids = t.ids := by
  rw [ids, replace, List.map_set, ids]
  by_cases found : t.entries.findIdx (fun entry => entry.1 == id) < t.entries.length
  · have same : t.entries[t.entries.findIdx fun entry => entry.1 == id].1 = id := by
      simpa using List.findIdx_getElem (w := found)
    refine List.ext_getElem (List.length_set ..) fun k bound bound' => ?_
    rw [List.getElem_set]
    split
    next here =>
      subst here
      rw [List.getElem_map, same]
    next => rfl
  · rw [List.set_eq_of_length_le]
    rw [List.length_map]
    exact Nat.le_of_not_lt found

private theorem ids_erase (t : Traces) (id : String) :
    (t.erase id).ids = t.ids.filter (· ≠ id) := by
  rw [ids, erase, ids, List.filter_map]
  refine congrArg _ (List.filter_congr fun entry _ => ?_)
  by_cases same : entry.1 = id <;> simp [same]

end Traces

private theorem Figure.traceIds_perform (f : Figure) (call : CanvasCall) :
    (perform f call).traceIds = listed f.traceIds call := by
  cases call with
  | upsert p =>
    have name : (p.map Number.nearest).id = p.id := rfl
    change (f.upsert (p.map Number.nearest)).traces.ids =
      if p.id ∈ f.traces.ids then f.traces.ids else _
    rw [Figure.upsert, name]
    split
    next old found =>
      rw [if_pos (Traces.mem_ids_iff.2 ⟨old, found⟩)]
      exact Traces.ids_replace f.traces p.id _
    next missing =>
      have absent : p.id ∉ f.traces.ids := fun member => by
        obtain ⟨trace, found⟩ := Traces.mem_ids_iff.1 member
        exact absurd (found.symm.trans missing) (by simp)
      rw [if_neg absent, Traces.ids, Traces.add, List.map_append]
      rfl
  | delete id => exact Traces.ids_erase f.traces id

/-! ### Images -/

/-- In nodes with numbers of their own, what is put in the place of one is put there only. -/
theorem set_findIdx_serial {nodes : List Node} (distinct : (nodes.map Node.serial).Nodup)
    (serial : Nat) (new : Node) :
    nodes.set (nodes.findIdx (·.serial == serial)) new =
      nodes.map fun node => if node.serial = serial then new else node := by
  induction nodes with
  | nil => rfl
  | cons node rest ih =>
    rw [List.map_cons, List.nodup_cons] at distinct
    rw [List.findIdx_cons, List.map_cons]
    by_cases same : node.serial = serial
    · -- the numbers behind the first are others
      have others : rest.map (fun node => if node.serial = serial then new else node) = rest := by
        refine (List.map_congr_left fun other member => ?_).trans (List.map_id _)
        exact if_neg fun again =>
          distinct.1 (List.mem_map.2 ⟨other, member, again.trans same.symm⟩)
      simp [same, others]
    · rw [beq_false_of_ne same, cond_false, List.set_cons_succ, ih distinct.2, if_neg same]

namespace Image

variable {i : Image} {id : String} {p : Primitive Number}

/-- The children of a document, behind its definitions, are those that its ids have; each has a
number of its own, which is not used again. -/
structure Linked (i : Image) : Prop where
  children : ∃ definitions, i.children = definitions :: i.elements.values
  distinct : (i.children.map Node.serial).Nodup
  used : ∀ child ∈ i.children, child.serial < i.nextSerial

theorem Linked.blank (width height stroke strokeWidth : String) :
    (Image.blank width height stroke strokeWidth).Linked where
  children := ⟨_, rfl⟩
  distinct := List.nodup_singleton _
  used child member := by
    rw [List.mem_singleton.1 member]
    exact Nat.one_pos

/-- The definitions, and that no entry has their number or that of another entry. -/
theorem Linked.exists_definitions (linked : i.Linked) :
    ∃ definitions, i.children = definitions :: i.elements.values ∧
      (∀ entry ∈ i.elements.entries, entry.2.serial ≠ definitions.serial) ∧
      ∀ entry ∈ i.elements.entries, ∀ other ∈ i.elements.entries,
        entry.2.serial = other.2.serial → entry = other := by
  obtain ⟨definitions, children⟩ := linked.children
  have distinct := linked.distinct
  rw [children, List.map_cons, List.nodup_cons, Table.values, List.map_map] at distinct
  refine ⟨definitions, children, fun entry member same =>
    ?_, fun entry member other member' same => ?_⟩
  · exact distinct.1 (List.mem_map.2 ⟨entry, member, same⟩)
  · exact List.inj_on_of_nodup_map distinct.2 member member' same

/-- An entry has the number of the child that an id has just if it is that id's. -/
theorem Linked.serial_eq_iff (linked : i.Linked) {old : Node}
    (found : i.elements.get? id = some old) {entry : String × Node}
    (member : entry ∈ i.elements.entries) :
    entry.2.serial = old.serial ↔ entry.1 = id := by
  obtain ⟨definitions, children, apart, unique⟩ := linked.exists_definitions
  have there : (id, old) ∈ i.elements.entries := Table.get?_eq_some_iff.1 found
  constructor
  · intro same
    exact congrArg Prod.fst (unique entry member (id, old) there same)
  · rintro rfl
    have found' : i.elements.get? entry.1 = some entry.2 := Table.get?_eq_some_iff.2 member
    rw [Option.some.inj (found'.symm.trans found)]

/-- The ids in the order of painting are the names in the table. -/
theorem Linked.elementIds (linked : i.Linked) : i.elementIds = i.elements.keys := by
  obtain ⟨definitions, children, apart, unique⟩ := linked.exists_definitions
  have unnamed : i.idOf? definitions = none := by
    rw [idOf?, List.findRev?_eq_find?_reverse, Option.map_eq_none_iff, List.find?_eq_none]
    intro entry member
    simpa using apart entry (List.mem_reverse.1 member)
  -- the serial numbers are all different, so looking one up finds its own entry
  have named (entry : String × Node) (member : entry ∈ i.elements.entries) :
      i.idOf? entry.2 = some entry.1 := by
    rw [idOf?, List.findRev?_eq_find?_reverse]
    cases found : i.elements.entries.reverse.find? fun other =>
      other.2.serial == entry.2.serial with
    | none =>
      have never := List.find?_eq_none.1 found entry (List.mem_reverse.2 member)
      simp at never
    | some other =>
      have same : other.2.serial = entry.2.serial := by simpa using List.find?_some found
      rw [unique other (List.mem_reverse.1 (List.mem_of_find?_eq_some found)) entry member same]
      rfl
  rw [Image.elementIds, children, List.filterMap_cons_none unnamed, Table.values,
    List.filterMap_map, Table.keys, ← List.filterMap_eq_map]
  exact List.filterMap_congr named

theorem elements_upsert (i : Image) (p : Primitive Number) :
    (i.upsert p).elements = i.elements.insert p.id ⟨i.nextSerial, i.elementFor p⟩ := rfl

theorem elements_delete (i : Image) (id : String) :
    (i.delete id).elements = i.elements.erase id := by
  rw [delete]
  split
  next => rfl
  next absent => exact (Table.erase_eq_self absent).symm

/-- The next number is that of no child. -/
theorem Linked.nextSerial_notMem (linked : i.Linked) :
    i.nextSerial ∉ i.children.map Node.serial := by
  intro member
  obtain ⟨child, member, same⟩ := List.mem_map.1 member
  exact absurd (linked.used child member) (by omega)

/-- An element whose id is new comes behind all others. -/
theorem Linked.upsert_of_absent (linked : i.Linked) (missing : i.elements.get? p.id = none) :
    (i.upsert p).Linked := by
  obtain ⟨definitions, children⟩ := linked.children
  have absent : i.elements.contains p.id = false := by rw [Table.contains_eq_isSome, missing]; rfl
  have behind : (i.upsert p).children = i.children ++ [⟨i.nextSerial, i.elementFor p⟩] := by
    rw [Image.upsert, missing]
  constructor
  · refine ⟨definitions, ?_⟩
    rw [behind, children, elements_upsert, Table.values, Table.values,
      Table.entries_insert_of_absent absent, List.map_append]
    rfl
  · rw [behind, List.map_append, List.nodup_append]
    refine ⟨linked.distinct, List.nodup_singleton _, fun a member b last same =>
      linked.nextSerial_notMem ?_⟩
    rw [same, List.mem_singleton.1 last] at member
    exact member
  · intro child member
    rw [behind, List.mem_append, List.mem_singleton] at member
    rcases member with old | rfl
    · exact Nat.lt_succ_of_lt (linked.used child old)
    · exact Nat.lt_succ_self _

/-- An element whose id is there takes the place of the one that has it, among the children as in
the table. -/
theorem Linked.upsert_of_get? (linked : i.Linked) {old : Node}
    (found : i.elements.get? p.id = some old) :
    (i.upsert p).Linked := by
  obtain ⟨definitions, children, apart, unique⟩ := linked.exists_definitions
  have entry : (p.id, old) ∈ i.elements.entries := Table.get?_eq_some_iff.1 found
  have within : (i.upsert p).children =
      i.children.set (i.children.findIdx (·.serial == old.serial))
        ⟨i.nextSerial, i.elementFor p⟩ := by
    rw [Image.upsert, found]
  constructor
  · refine ⟨definitions, ?_⟩
    rw [within, set_findIdx_serial linked.distinct, children, List.map_cons,
      if_neg (apart _ entry).symm, elements_upsert, Table.values, Table.values,
      Table.entries_insert_of_contains (Table.contains_of_get? found), List.map_map, List.map_map]
    refine congrArg _ (List.map_congr_left fun other member => ?_)
    have same_iff := linked.serial_eq_iff found member
    by_cases same : other.1 = p.id <;> simp [Table.overwritten, same_iff, same]
  · rw [within, List.map_set]
    exact linked.distinct.set linked.nextSerial_notMem
  · intro child member
    rw [within] at member
    rcases List.mem_or_eq_of_mem_set member with old | rfl
    · exact Nat.lt_succ_of_lt (linked.used child old)
    · exact Nat.lt_succ_self _

theorem Linked.upsert (linked : i.Linked) (p : Primitive Number) : (i.upsert p).Linked := by
  cases found : i.elements.get? p.id with
  | none => exact linked.upsert_of_absent found
  | some old => exact linked.upsert_of_get? found

theorem Linked.delete (linked : i.Linked) (id : String) : (i.delete id).Linked := by
  cases found : i.elements.get? id with
  | none =>
    have same : i.delete id = i := by rw [Image.delete, found]
    rw [same]
    exact linked
  | some old =>
    obtain ⟨definitions, children, apart, unique⟩ := linked.exists_definitions
    have entry : (id, old) ∈ i.elements.entries := Table.get?_eq_some_iff.1 found
    have left : (i.delete id).children = i.children.filter (·.serial != old.serial) := by
      rw [Image.delete, found]
    have serial : (i.delete id).nextSerial = i.nextSerial := by rw [Image.delete, found]
    constructor
    · refine ⟨definitions, ?_⟩
      rw [left, children, List.filter_cons_of_pos (by simpa using (apart _ entry).symm),
        elements_delete, Table.values, Table.values, Table.entries_erase, List.filter_map]
      -- leaving out the serial number is leaving out the id
      refine congrArg _ (congrArg _ (List.filter_congr fun other member => ?_))
      have same_iff := linked.serial_eq_iff found member
      rw [Bool.eq_iff_iff]
      simp [same_iff]
    · rw [left]
      exact linked.distinct.sublist (List.filter_sublist.map _)
    · intro child member
      rw [left] at member
      rw [serial]
      exact linked.used child (List.mem_filter.1 member).1

theorem linked_perform (i : Image) (call : CanvasCall) (linked : i.Linked) :
    (perform i call).Linked ∧ (perform i call).elementIds = listed i.elementIds call := by
  cases call with
  | upsert p =>
    have linked' : (i.upsert p).Linked := linked.upsert p
    refine ⟨linked', ?_⟩
    change (i.upsert p).elementIds = _
    rw [linked'.elementIds, linked.elementIds, elements_upsert]
    exact Table.keys_insert _ _ _
  | delete id =>
    have linked' : (i.delete id).Linked := linked.delete id
    refine ⟨linked', ?_⟩
    change (i.delete id).elementIds = _
    rw [linked'.elementIds, linked.elementIds, elements_delete]
    exact Table.keys_erase _ _

end Image

/-! ### All three -/

namespace CanvasCall

variable {κ : Type} [Surface κ Number]

/-- A canvas has ids in order, and will have them as they are after every further call. -/
structure Shows (names : κ → List String) (canvas : κ) (ids : List String) : Prop where
  now : names canvas = ids
  next : ∀ call, names (perform canvas call) = listed ids call

/-- A canvas whose names every call changes as it should lists what calls leave. -/
theorem listed_foldl (valid : κ → Prop) {names : κ → List String}
    (step : ∀ canvas call, valid canvas →
      valid (perform canvas call) ∧ names (perform canvas call) = listed (names canvas) call)
    (calls : List CanvasCall) {canvas : κ} (start : valid canvas) :
    valid (calls.foldl perform canvas) ∧ names (calls.foldl perform canvas) =
      calls.foldl listed (names canvas) := by
  induction calls generalizing canvas with
  | nil => exact ⟨start, rfl⟩
  | cons call rest ih =>
    obtain ⟨kept, same⟩ := step canvas call start
    rw [List.foldl_cons, List.foldl_cons, ← same]
    exact ih kept

private theorem shows_foldl (valid : κ → Prop) {names : κ → List String}
    (step : ∀ canvas call, valid canvas →
      valid (perform canvas call) ∧ names (perform canvas call) = listed (names canvas) call)
    {canvas : κ} (start : valid canvas) (nothing : names canvas = []) (calls : List CanvasCall) :
    Shows names (calls.foldl perform canvas) (calls.foldl listed []) := by
  obtain ⟨kept, same⟩ := listed_foldl valid step calls start
  rw [nothing] at same
  refine ⟨same, fun call => ?_⟩
  rw [(step _ call kept).2, same]

/-- A figure without traces lists what calls leave. -/
theorem shows_figure (f : Figure) (calls : List CanvasCall) :
    Shows Figure.traceIds (calls.foldl perform { f with traces := Traces.empty })
      (calls.foldl listed []) :=
  shows_foldl (fun _ => True) (fun f call _ =>
    ⟨trivial, f.traceIds_perform call⟩) trivial rfl calls

/-- The three canvases agree on what they show and in which order. Whatever calls they get, the
names in the plain canvas, the ids of an image in the order of painting and the ids of a figure's
traces are the ids that were upserted and not deleted since, once each, in the order of the first
upserts after their last deletions; a further upsert of an id that is there moves nothing, and a
further deletion moves no other. -/
theorem canvases_agree (calls : List CanvasCall) (width height stroke strokeWidth : String)
    (figure : Figure) :
    ∃ ids, Lists calls ids ∧
      Shows (fun s : Store Number => s.primitives.keys) (calls.foldl perform Store.empty) ids ∧
      Shows Image.elementIds (calls.foldl perform
        (Image.blank width height stroke strokeWidth)) ids ∧
      Shows Figure.traceIds (calls.foldl perform { figure with traces := Traces.empty }) ids := by
  refine ⟨calls.foldl listed [], lists_foldl calls, ?_, ?_, ?_⟩
  · exact shows_foldl (fun _ => True) (fun s call _ =>
      ⟨trivial, s.keys_perform call⟩) trivial rfl calls
  · have blank := Image.Linked.blank width height stroke strokeWidth
    exact shows_foldl Image.Linked Image.linked_perform blank blank.elementIds calls
  · exact shows_figure figure calls

end CanvasCall

end CurveBoard
