import CurveBoard.Proofs.Canvas.Redrawing

/-!
# Traces drawn again

A primitive that is drawn again sets some properties of its trace anew and leaves the others. Every
primitive sets the name, the mode and the coordinates. Of the other properties a trace has the
latest value that was set since its id was put on the figure, so it is the trace of its last
primitive just if that sets all that the primitives before it have set. It need not: a primitive
that is filled leaves its color behind, a text what it says, and any other primitive its filling to
a text.
-/
namespace CurveBoard

open CanvasCall

/-! ### What an id has been -/

namespace CanvasCall

/-- The primitives of an id, the latest first, after one more call. -/
def recorded (id : String) (versions : List (Primitive Number)) :
    CanvasCall → List (Primitive Number)
  | upsert p => if p.id = id then p :: versions else versions
  | delete other => if other = id then [] else versions

/-- The primitives that an id has had since it was last deleted, the latest first. -/
def versions (id : String) (calls : List CanvasCall) : List (Primitive Number) :=
  calls.foldl (recorded id) []

variable {calls : List CanvasCall} {call : CanvasCall} {id : String} {p : Primitive Number}

private theorem versions_append :
    versions id (calls ++ [call]) = recorded id (versions id calls) call := by
  rw [versions, List.foldl_append, List.foldl_cons, List.foldl_nil, ← versions]

private theorem recorded_of_ne (other : call.id ≠ id) (versions : List (Primitive Number)) :
    recorded id versions call = versions := by
  cases call <;> exact if_neg other

/-- What an id is shown for after one more call it was shown for before, or it is what the call
upserts. -/
theorem exists_version_append :
    (∃ k, (calls ++ [call])[k]? = some (upsert p) ∧ ShowsAt (calls ++ [call]) k id) ↔
      call ≠ delete id ∧ (∃ k, calls[k]? = some (upsert p) ∧ ShowsAt calls k id) ∨
      call = upsert p ∧ p.id = id := by
  constructor
  · rintro ⟨k, here, shows⟩
    rcases showsAt_append_iff.1 shows with ⟨before, remains⟩ | ⟨rfl, q, rfl, same⟩
    · have bound := before.upserts.lt_length
      have old := (getElem?_append_call.1 here).resolve_right fun new => by omega
      exact .inl ⟨remains, k, old, before⟩
    · rw [List.getElem?_concat_length] at here
      cases here
      exact .inr ⟨rfl, same⟩
  · rintro (⟨remains, k, here, shows⟩ | ⟨rfl, same⟩)
    · exact ⟨k, getElem?_append_call.2 (.inl here), shows.append remains⟩
    · exact ⟨calls.length, List.getElem?_concat_length,
        showsAt_append_iff.2 (.inr ⟨rfl, p, rfl, same⟩)⟩

/-- The primitives that an id has had are what the calls that it is shown for upsert. -/
theorem mem_versions_iff :
    p ∈ versions id calls ↔ ∃ k, calls[k]? = some (upsert p) ∧ ShowsAt calls k id := by
  -- on the end of the calls, since the last one decides what is shown
  induction calls using List.reverseRecOn with
  | nil =>
    refine iff_of_false nofun ?_
    rintro ⟨k, here, -⟩
    simp at here
  | append_singleton calls call ih =>
    rw [versions_append, exists_version_append, ← ih]
    cases call with
    | upsert q =>
      by_cases same : q.id = id
      · rw [recorded, if_pos same, List.mem_cons]
        constructor
        · rintro (rfl | old)
          · exact .inr ⟨rfl, same⟩
          · exact .inl ⟨by simp, old⟩
        · rintro (⟨-, old⟩ | ⟨new, -⟩)
          · exact .inr old
          · exact .inl (CanvasCall.upsert.inj new).symm
      · rw [recorded, if_neg same]
        constructor
        · exact fun old => .inl ⟨by simp, old⟩
        · rintro (⟨-, old⟩ | ⟨new, named⟩)
          · exact old
          · exact absurd (CanvasCall.upsert.inj new ▸ named) same
    | delete other =>
      by_cases same : other = id
      · rw [recorded, if_pos same]
        simp [same]
      · rw [recorded, if_neg same]
        simp [same]

private theorem id_of_mem_versions (member : p ∈ versions id calls) : p.id = id := by
  obtain ⟨k, here, shows⟩ := mem_versions_iff.1 member
  obtain ⟨q, there, named⟩ := shows.upserts
  cases here.symm.trans there
  exact named

/-- The latest one is current. -/
theorem head?_versions : (versions p.id calls).head? = some p ↔ IsCurrent calls p := by
  unfold IsCurrent
  induction calls using List.reverseRecOn with
  | nil => exact iff_of_false nofun nofun
  | append_singleton calls call ih =>
    rw [versions_append, List.filter_append, List.filter_singleton]
    by_cases about : call.id = p.id
    · rw [decide_eq_true about, cond_true, List.getLast?_concat, Option.some.injEq]
      cases call with
      | upsert q =>
        have same : q.id = p.id := about
        rw [recorded, if_pos same, List.head?_cons, Option.some.injEq, CanvasCall.upsert.injEq]
      | delete other =>
        have same : other = p.id := about
        rw [recorded, if_pos same]
        exact iff_of_false nofun nofun
    · rw [decide_eq_false about, cond_false, List.append_nil, recorded_of_ne about, ih]

end CanvasCall

/-! ### Finding traces -/

namespace Traces

/-- Where no two traces have the same id, the one that is found is the only one. -/
theorem find?_eq_some_iff {t : Traces} {id : String} {trace : Trace2D} (distinct : t.ids.Nodup) :
    t.find? id = some trace ↔ (id, trace) ∈ t.entries :=
  Table.get?_eq_some_iff (t := ⟨t.entries, distinct⟩)

variable (t : Traces) (id other : String) (trace : Trace2D)

private theorem find?_add (absent : t.find? id = none) :
    (t.add id trace).find? other = if other = id then some trace else t.find? other := by
  rw [find?, add, List.find?_append, Option.map_or, ← find?]
  by_cases same : other = id
  · subst same
    rw [absent]
    simp
  · have differs : ¬ id = other := Ne.symm same
    simp [same, differs]

private theorem find?_erase :
    (t.erase id).find? other = if other = id then none else t.find? other := by
  rw [find?, erase, List.find?_filter]
  by_cases same : other = id
  · subst same
    simp
  · rw [if_neg same, find?]
    congr 2
    funext entry
    by_cases found : entry.1 = other <;> simp [found, same]

private theorem find?_replace {old : Trace2D} (found : t.find? id = some old) :
    (t.replace id trace).find? other = if other = id then some trace else t.find? other := by
  obtain ⟨entries⟩ := t
  simp only [find?, replace] at found ⊢
  -- the trace is put where the search ends
  induction entries with
  | nil => cases found
  | cons entry rest ih =>
    rw [List.findIdx_cons]
    by_cases here : entry.1 = id
    · by_cases same : other = id
      · simp [here, same]
      · have differs : ¬ id = other := Ne.symm same
        simp [here, same, differs]
    · have later : (rest.find? fun entry => entry.1 == id).map Prod.snd = some old := by
        simpa [here] using found
      rw [beq_false_of_ne here, cond_false, List.set_cons_succ]
      by_cases same : entry.1 = other
      · have differs : ¬ other = id := fun also => here (same.trans also)
        simp [same, differs]
      · have past : (entry.1 == other) = false := beq_false_of_ne same
        rw [List.find?_cons_of_neg (by simp [past]), List.find?_cons_of_neg (by simp [past])]
        exact ih later

end Traces

/-! ### Drawing again -/

namespace Trace2D

attribute [ext] Trace2D

variable {color : String} {p : Primitive Float}

/-- A trace that is drawn once more, if it is there, or for the first time. -/
def again (color : String) (p : Primitive Float) (old : Option Trace2D) : Trace2D :=
  old.elim (ofPrimitive color p) (·.updated (ofPrimitive color p))

/-- The trace that primitives leave which are drawn one after the other, the latest being the first
in the list. -/
def drawn (color : String) (versions : List (Primitive Float)) : Option Trace2D :=
  versions.foldr (fun p old => some (again color p old)) none

/-- A trace has the name, the mode and the coordinates of the latest of its primitives, and of each
other property the latest value. -/
structure Layers (color : String) (latest : Primitive Float) (versions : List (Primitive Float))
    (trace : Trace2D) : Prop where
  name : trace.name = (ofPrimitive color latest).name
  mode : trace.mode = (ofPrimitive color latest).mode
  x : trace.x = (ofPrimitive color latest).x
  y : trace.y = (ofPrimitive color latest).y
  fill : trace.fill = versions.findSome? fun q => (ofPrimitive color q).fill
  fillColor : trace.fillColor = versions.findSome? fun q => (ofPrimitive color q).fillColor
  text : trace.text = versions.findSome? fun q => (ofPrimitive color q).text
  textPosition : trace.textPosition = versions.findSome? fun q => (ofPrimitive color q).textPosition

private theorem findSome?_cons_or {α β : Type} (property : α → Option β) (a : α)
    (rest : List α) :
    (a :: rest).findSome? property = (property a).or (rest.findSome? property) := by
  rw [List.findSome?_cons]
  cases property a <;> rfl

private theorem layers_drawn (color : String) (p : Primitive Float)
    (older : List (Primitive Float)) :
    ∃ trace, drawn color (p :: older) = some trace ∧ Layers color p (p :: older) trace := by
  induction older generalizing p with
  | nil => exact ⟨_, rfl, by constructor <;> simp [again, findSome?_cons_or]⟩
  | cons q older ih =>
    obtain ⟨old, left, layers⟩ := ih q
    have more : drawn color (p :: q :: older) = some (old.updated (ofPrimitive color p)) := by
      rw [drawn, List.foldr_cons, ← drawn, left]
      rfl
    refine ⟨_, more, rfl, rfl, rfl, rfl, ?_, ?_, ?_, ?_⟩ <;> rw [findSome?_cons_or]
    · rw [← layers.fill]
      rfl
    · rw [← layers.fillColor]
      rfl
    · rw [← layers.text]
      rfl
    · rw [← layers.textPosition]
      rfl

/-! ### What is left behind -/

private theorem fill_eq_none_iff : (ofPrimitive color p).fill = none ↔ p.kind = .text := by
  by_cases text : p.kind = .text <;> simp [ofPrimitive, text]

private theorem fillColor_eq_none_iff :
    (ofPrimitive color p).fillColor = none ↔ p.kind = .text ∨ p.filled = false := by
  by_cases text : p.kind = .text <;> cases filled : p.filled <;> simp [ofPrimitive, text, filled]

private theorem text_eq_none_iff : (ofPrimitive color p).text = none ↔ p.kind ≠ .text := by
  by_cases text : p.kind = .text <;> simp [ofPrimitive, text]

private theorem textPosition_eq_none_iff :
    (ofPrimitive color p).textPosition = none ↔ p.kind ≠ .text := by
  by_cases text : p.kind = .text <;> simp [ofPrimitive, text]

/-- The latest value is that of the first in a list just if nothing behind sets one where the first
does not. -/
theorem findSome?_eq_first_iff {α β : Type} (property : α → Option β) (a : α)
    (rest : List α) :
    (a :: rest).findSome? property = property a ↔
      (property a = none → ∀ b ∈ a :: rest, property b = none) := by
  rw [findSome?_cons_or, List.forall_mem_cons]
  cases value : property a with
  | none => simp
  | some b => simp

end Trace2D

/-- A primitive sets every property that another one sets. -/
structure Primitive.Covers {α : Type} (p q : Primitive α) : Prop where
  text : q.kind = .text ↔ p.kind = .text
  filled : q.kind ≠ .text → q.filled = true → p.filled = true

namespace Trace2D

variable {color : String} {p : Primitive Float} {older : List (Primitive Float)} {trace : Trace2D}

/-- A trace is as if only the latest primitive had been drawn just if that covers those before
it. -/
theorem Layers.eq_ofPrimitive_iff (layers : Layers color p (p :: older) trace) :
    trace = ofPrimitive color p ↔ ∀ q ∈ p :: older, p.Covers q := by
  rw [Trace2D.ext_iff, layers.name, layers.mode, layers.x, layers.y, layers.fill,
    layers.fillColor, layers.text, layers.textPosition]
  simp only [findSome?_eq_first_iff, fill_eq_none_iff, fillColor_eq_none_iff, text_eq_none_iff,
    textPosition_eq_none_iff, true_and]
  constructor
  · rintro ⟨fill, fillColor, text, -⟩ q member
    refine ⟨⟨fun isText => by_contra fun other => text other q member isText, fun isText =>
      fill isText q member⟩, ?_⟩
    intro other filled
    by_contra unfilled
    have nothing := fillColor (.inr (Bool.eq_false_iff.2 unfilled)) q member
    exact absurd filled (Bool.eq_false_iff.1 (nothing.resolve_left other))
  · intro covers
    have others (other : p.kind ≠ .text) (q) (member : q ∈ p :: older) : q.kind ≠ .text :=
      fun isText => other ((covers q member).text.1 isText)
    refine ⟨fun isText q member => (covers q member).text.2 isText, fun nothing q member =>
      ?_, others, others⟩
    rcases nothing with isText | unfilled
    · exact .inl ((covers q member).text.2 isText)
    · refine or_iff_not_imp_left.2 fun other => Bool.eq_false_iff.2 fun filled => ?_
      exact Bool.eq_false_iff.1 unfilled ((covers q member).filled other filled)

end Trace2D

/-! ### Runs -/

namespace Figure

variable {id : String} {p : Primitive Number}

private theorem color_perform (f : Figure) (call : CanvasCall) :
    (perform f call).color = f.color := by
  cases call with
  | upsert p =>
    change (f.upsert (p.map Number.nearest)).color = f.color
    rw [upsert]
    split <;> rfl
  | delete id => rfl

private theorem color_foldl (calls : List CanvasCall) (f : Figure) :
    (calls.foldl perform f).color = f.color := by
  induction calls generalizing f with
  | nil => rfl
  | cons call rest ih => rw [List.foldl_cons, ih, color_perform]

private theorem find?_upsert (f : Figure) (p : Primitive Float) (id : String) :
    (f.upsert p).traces.find? id =
      if id = p.id then some (Trace2D.again f.color p (f.traces.find? p.id))
        else f.traces.find? id := by
  rw [upsert]
  cases found : f.traces.find? p.id with
  | some old => exact Traces.find?_replace _ _ _ _ found
  | none => exact Traces.find?_add _ _ _ _ found

/-- Under each id a figure has the trace that the primitives of that id leave. -/
theorem find?_foldl (f : Figure) (calls : List CanvasCall) (id : String) :
    (calls.foldl perform { f with traces := Traces.empty }).traces.find? id =
      Trace2D.drawn f.color ((versions id calls).map (·.map Number.nearest)) := by
  -- on the end of the calls, which the latest primitive belongs to
  induction calls using List.reverseRecOn with
  | nil => rfl
  | append_singleton calls call ih =>
    rw [List.foldl_append, List.foldl_cons, List.foldl_nil, versions_append]
    cases call with
    | upsert p =>
      change (Figure.upsert _ (p.map Number.nearest)).traces.find? id = _
      rw [find?_upsert, color_foldl]
      have name : (p.map Number.nearest).id = p.id := rfl
      rw [name]
      by_cases same : p.id = id
      · subst same
        rw [if_pos rfl, recorded, if_pos rfl, List.map_cons, Trace2D.drawn, List.foldr_cons,
          ← Trace2D.drawn, ← ih]
      · rw [if_neg (Ne.symm same), recorded, if_neg same, ih]
    | delete other =>
      change (Traces.erase _ other).find? id = _
      rw [Traces.find?_erase]
      by_cases same : other = id
      · rw [if_pos same.symm, recorded, if_pos same]
        rfl
      · rw [if_neg (Ne.symm same), recorded, if_neg same, ih]

/-- Of a current primitive there is a trace, which the primitives of its id have left. -/
theorem exists_layers (f : Figure) {calls : List CanvasCall} (current : IsCurrent calls p) :
    ∃ trace, (calls.foldl perform { f with traces := Traces.empty }).traces.find? p.id =
      some trace ∧
        trace.Layers f.color (p.map Number.nearest)
        ((versions p.id calls).map (·.map Number.nearest)) ∧
      (trace = Trace2D.ofPrimitive f.color (p.map Number.nearest) ↔
        ∀ q ∈ versions p.id calls, p.Covers q) := by
  obtain ⟨older, all⟩ := List.head?_eq_some_iff.1 (head?_versions.2 current)
  obtain ⟨trace, left, layers⟩ :=
    Trace2D.layers_drawn f.color (p.map Number.nearest) (older.map (·.map Number.nearest))
  rw [find?_foldl, all]
  refine ⟨trace, left, layers, layers.eq_ofPrimitive_iff.trans ?_⟩
  rw [← List.map_cons, List.forall_mem_map]
  exact forall₂_congr fun q _ =>
    ⟨fun covers => ⟨covers.text, covers.filled⟩, fun covers =>
      ⟨covers.text, covers.filled⟩⟩

/-- The trace of a primitive on a figure that had none. -/
theorem find?_fresh (f : Figure) (p : Primitive Number) :
    (perform { f with traces := Traces.empty } (.upsert p)).traces.find? p.id =
      some (Trace2D.ofPrimitive f.color (p.map Number.nearest)) := by
  have fresh := find?_upsert { f with traces := Traces.empty } (p.map Number.nearest) p.id
  exact fresh.trans (if_pos rfl)

private theorem mem_traceIds_iff (f : Figure) (calls : List CanvasCall) (id : String) :
    id ∈ (calls.foldl perform { f with traces := Traces.empty }).traceIds ↔
      ∃ p, IsCurrent calls p ∧ p.id = id := by
  rw [traceIds, Traces.mem_ids_iff]
  constructor
  · rintro ⟨trace, found⟩
    rw [find?_foldl] at found
    cases all : versions id calls with
    | nil =>
      rw [all] at found
      cases found
    | cons p older =>
      have named : p.id = id := id_of_mem_versions (all ▸ List.mem_cons_self)
      refine ⟨p, head?_versions.1 ?_, named⟩
      rw [named, all, List.head?_cons]
  · rintro ⟨p, current, rfl⟩
    obtain ⟨trace, found, -⟩ := exists_layers f current
    exact ⟨trace, found⟩

/-- No two traces have the same id. -/
theorem nodup_traceIds (f : Figure) (calls : List CanvasCall) :
    (calls.foldl perform { f with traces := Traces.empty }).traceIds.Nodup := by
  rw [(shows_figure f calls).now]
  exact (lists_foldl calls).distinct

/-- A figure has one trace for every current primitive and no others. The trace of a current
primitive has the name, the mode and the coordinates that a figure without traces gives it, and of
each other property the latest value among all primitives that its id has had since it was last
deleted. So it is the trace on a figure without traces just if the primitive covers all those: texts
come after texts only, and the latest is filled if any of them is filled. -/
theorem traces_layered (f : Figure) (calls : List CanvasCall) :
    (calls.foldl perform { f with traces := Traces.empty }).traceIds.Nodup ∧
      (∀ id, id ∈ (calls.foldl perform { f with traces := Traces.empty }).traceIds ↔
        ∃ p, IsCurrent calls p ∧ p.id = id) ∧
      ∀ p, IsCurrent calls p →
        ∃ trace,
          (∀ other, (p.id, other) ∈
              (calls.foldl perform { f with traces := Traces.empty }).traces.entries ↔
            other = trace) ∧
          (calls.foldl perform { f with traces := Traces.empty }).traces.find? p.id = some trace ∧
          trace.Layers f.color (p.map Number.nearest)
            ((versions p.id calls).map (·.map Number.nearest)) ∧
          ((calls.foldl perform { f with traces := Traces.empty }).traces.find? p.id =
              (perform { f with traces := Traces.empty } (.upsert p)).traces.find? p.id ↔
            ∀ q ∈ versions p.id calls, p.Covers q) := by
  have distinct := nodup_traceIds f calls
  refine ⟨distinct, mem_traceIds_iff f calls, fun p current => ?_⟩
  obtain ⟨trace, found, layers, fresh_iff⟩ := exists_layers f current
  refine ⟨trace, fun other => ?_, found, layers, ?_⟩
  · rw [← Traces.find?_eq_some_iff distinct, found, Option.some.injEq]
    exact eq_comm
  · rw [found, find?_fresh, Option.some.injEq, fresh_iff]

/-! ### A disc under a stroke -/

def filledDisc : Primitive Number where
  id := "a"
  kind := .circle
  paths := []
  center := some (.whole 10, .whole 10)
  radii := (.whole 2, .whole 2)
  size := (.whole 0, .whole 0)
  text := ""
  anchor := "middle"
  filled := true

def verticalStroke : Primitive Number where
  id := "a"
  kind := .segmentPath
  paths := [[(.whole 10, .whole 7), (.whole 10, .whole 13)]]
  center := none
  radii := (.whole 0, .whole 0)
  size := (.whole 0, .whole 0)
  text := ""
  anchor := "middle"
  filled := false

def discThenStroke : List CanvasCall := [.upsert filledDisc, .upsert verticalStroke]

private theorem current_verticalStroke : IsCurrent discThenStroke verticalStroke := rfl

private theorem filledDisc_mem_versions :
    filledDisc ∈ versions verticalStroke.id discThenStroke := by
  have all : versions verticalStroke.id discThenStroke = [verticalStroke, filledDisc] := rfl
  rw [all]
  exact List.mem_cons_of_mem _ List.mem_cons_self

private theorem not_covers_filledDisc : ¬ verticalStroke.Covers filledDisc := fun covers => by
  have filled : verticalStroke.filled = true := covers.filled (by decide) rfl
  cases filled

/-- The stroke keeps the color that the disc was filled with, which it does not have on a figure
without the disc. -/
theorem traces_layered_stroke :
    IsCurrent discThenStroke verticalStroke ∧
      ∃ trace, (discThenStroke.foldl perform Figure.blank).traces.find? "a" = some trace ∧
        trace.fill = some "none" ∧ trace.fillColor = some "black" ∧
        (discThenStroke.foldl perform Figure.blank).traces.find? "a" ≠
          (perform Figure.blank (.upsert verticalStroke)).traces.find? "a" := by
  obtain ⟨trace, -, found, layers, fresh_iff⟩ :=
    (traces_layered Figure.blank discThenStroke).2.2 verticalStroke current_verticalStroke
  refine ⟨current_verticalStroke, trace, found, ?_, ?_, fun same => ?_⟩
  · rw [layers.fill]
    rfl
  · rw [layers.fillColor]
    rfl
  · exact not_covers_filledDisc (fresh_iff.1 same filledDisc filledDisc_mem_versions)

/-- What an id was before can stay in its trace. -/
theorem not_traces_replaced :
    ¬ ∀ (f : Figure) (calls : List CanvasCall) (p : Primitive Number), IsCurrent calls p →
      (calls.foldl perform { f with traces := Traces.empty }).traces.find? p.id =
        (perform { f with traces := Traces.empty } (.upsert p)).traces.find? p.id := by
  intro replaced
  obtain ⟨trace, found, -, fresh_iff⟩ := exists_layers Figure.blank current_verticalStroke
  have same := replaced Figure.blank _ verticalStroke current_verticalStroke
  rw [found, find?_fresh, Option.some.injEq] at same
  exact not_covers_filledDisc (fresh_iff.1 same filledDisc filledDisc_mem_versions)

end Figure

end CurveBoard
