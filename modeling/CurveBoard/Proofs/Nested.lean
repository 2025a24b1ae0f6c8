import CurveBoard.Nested
import Mathlib.Data.List.Basic
import Mathlib.Tactic.ByContra

/-!
# Arrays value by value

What is computed value by value keeps the shape of an array and the order of its values. Two arrays
that are both computed from one array are combined place by place, since neither has to be repeated.
What may be missing at a place is missing from the array as a whole.
-/
namespace CurveBoard

namespace Nested

variable {α β γ δ : Type}

/-! ### One array -/

theorem shape_map (f : α → β) (a : Nested α) : (a.map f).shape = a.shape := by
  cases a with
  | single x => rw [map, shape, shape]
  | row inner items => rw [map, shape, shape, List.length_map]

theorem map_map (f : β → γ) (g : α → β) :
    (a : Nested α) → (a.map g).map f = a.map (f ∘ g)
  | single x => by rw [map, map, map, Function.comp_apply]
  | row inner items => by
    rw [map, map, map, List.map_map]
    exact congrArg (row inner) (List.map_congr_left fun item _ => map_map f g item)

theorem map_id : (a : Nested α) → a.map id = a
  | single x => by rw [map, id]
  | row inner items => by
    rw [map]
    exact congrArg (row inner)
      ((List.map_congr_left fun item _ => map_id item).trans (List.map_id' items))

private theorem entriesOfAll_eq (items : List (Nested α)) :
    entriesOfAll items = items.flatMap entries := by
  induction items with
  | nil => rw [entriesOfAll, List.flatMap_nil]
  | cons item rest ih => rw [entriesOfAll, ih, List.flatMap_cons]

private theorem entries_row (inner : List Nat) (items : List (Nested α)) :
    (row inner items).entries = items.flatMap entries := by
  rw [entries, entriesOfAll_eq]

theorem entries_ofList (xs : List α) : (ofList xs).entries = xs := by
  rw [ofList, entries_row, List.flatMap_map]
  simp only [entries, List.flatMap_singleton']

theorem entries_map (f : α → β) : (a : Nested α) → (a.map f).entries = a.entries.map f
  | single x => by rw [map, entries, entries, List.map_singleton]
  | row inner items => by
    rw [map, entries_row, entries_row, List.flatMap_map, List.map_flatMap]
    exact List.flatMap_congr fun item _ => entries_map f item

theorem mem_entries_single {x y : α} : x ∈ (single y).entries ↔ x = y := by
  rw [entries, List.mem_singleton]

private theorem mem_entries_row {inner : List Nat} {items : List (Nested α)} {x : α} :
    x ∈ (row inner items).entries ↔ ∃ item ∈ items, x ∈ item.entries := by
  rw [entries_row, List.mem_flatMap]

/-! ### Values that may be missing -/

private theorem mapM_of_forall {f : α → Option β} {g : α → β} {xs : List α}
    (values : ∀ x ∈ xs, f x = some (g x)) : xs.mapM f = some (xs.map g) := by
  induction xs with
  | nil => rfl
  | cons x xs ih =>
    obtain ⟨first, others⟩ := List.forall_mem_cons.1 values
    rw [List.mapM_cons, first, ih others, List.map_cons]
    rfl

private theorem mapM_eq_none {f : α → Option β} {x : α} {xs : List α} (member : x ∈ xs)
    (missing : f x = none) :
    xs.mapM f = none := by
  induction xs with
  | nil => cases member
  | cons y xs ih =>
    rw [List.mapM_cons]
    rcases List.mem_cons.1 member with rfl | later
    · rw [missing]
      rfl
    · rw [ih later]
      cases f y <;> rfl

theorem mapM_eq_some {f : α → Option β} {g : α → β} :
    (a : Nested α) → (∀ x ∈ a.entries, f x = some (g x)) → a.mapM f = some (a.map g)
  | single x, values => by
    rw [mapM, values x (mem_entries_single.2 rfl), map, Option.map_some]
  | row inner items, values => by
    have each : ∀ item ∈ items, item.mapM f = some (item.map g) := fun item member =>
      mapM_eq_some item fun x inside => values x (mem_entries_row.2 ⟨item, member, inside⟩)
    rw [mapM, mapM_of_forall each, map, Option.map_some]

private theorem mapM_eq_none_of_mem {f : α → Option β} {x : α} (missing : f x = none) :
    (a : Nested α) → x ∈ a.entries → a.mapM f = none
  | single y, member => by
    rw [mapM, ← mem_entries_single.1 member, missing, Option.map_none]
  | row inner items, member => by
    obtain ⟨item, among, inside⟩ := mem_entries_row.1 member
    rw [mapM, mapM_eq_none among (mapM_eq_none_of_mem missing item inside), Option.map_none]

private theorem mapM_of_isSome [Inhabited β] {f : α → Option β} {a : Nested α}
    (values : ∀ x ∈ a.entries, (f x).isSome = true) :
    a.mapM f = some (a.map fun x => (f x).getD default) :=
  mapM_eq_some a fun x member =>
    (Option.getD_of_ne_none (Option.isSome_iff_ne_none.1 (values x member)) default).symm

theorem isSome_mapM_iff [Inhabited β] {f : α → Option β} {a : Nested α} :
    (a.mapM f).isSome = true ↔ ∀ x ∈ a.entries, (f x).isSome = true := by
  constructor
  · intro result x member
    by_contra missing
    rw [mapM_eq_none_of_mem (Option.not_isSome_iff_eq_none.1 missing) a member] at result
    cases result
  · intro values
    rw [mapM_of_isSome values, Option.isSome_some]

/-! ### Two arrays -/

private theorem alignedShape_self (shape : List Nat) : alignedShape shape shape = shape := by
  rw [alignedShape, List.zipWith_self]
  simp

/-- Rows are combined item by item, unless one has a single item that is repeated. -/
theorem zipAligned_row (f : α → β → γ) {inner inner' : List Nat} {items : List (Nested α)}
    {others : List (Nested β)} (several : items.length ≠ 1) (several' : others.length ≠ 1) :
    zipAligned f (row inner items) (row inner' others) =
      row (alignedShape inner inner') ((items.zip others).map fun pair =>
        zipAligned f pair.1 pair.2) := by
  rw [zipAligned]
  · rw [List.map_attach_eq_pmap, List.pmap_eq_map]
  · rintro item rfl
    exact several rfl
  · rintro other rfl
    exact several' rfl

/-- What is computed from the values of one array at each place is computed value by value. -/
theorem zipAligned_map (f : β → γ → δ) (g : α → β) (h : α → γ) :
    (a : Nested α) → zipAligned f (a.map g) (a.map h) = a.map fun x => f (g x) (h x)
  | single x => by rw [map, map, zipAligned, map, map]
  | row inner items => by
    have each : ∀ item ∈ items, zipAligned f (item.map g) (item.map h) = item.map fun x =>
      f (g x) (h x) :=
      fun item _ => zipAligned_map f g h item
    rw [map, map, map]
    by_cases alone : items.length = 1
    · obtain ⟨item, rfl⟩ := List.length_eq_one_iff.1 alone
      rw [List.map_singleton, List.map_singleton, zipAligned, List.map_singleton,
        List.map_singleton, each item List.mem_cons_self, alignedShape_self]
    · rw [zipAligned_row f (by rwa [List.length_map]) (by rwa [List.length_map]), List.zip_map',
        List.map_map, alignedShape_self]
      exact congrArg (row inner) (List.map_congr_left each)

private theorem single_zip (f : α → β → γ) (x : α) (b : Nested β) :
    zip f (single x) b = b.map (f x) := by
  rw [zip]

theorem zip_single (f : α → β → γ) (a : Nested α) (y : β) :
    zip f a (single y) = a.map (f · y) := by
  cases a with
  | single x => rw [single_zip, map, map]
  | row inner items => rw [zip]; simp

private theorem zip_map (f : β → γ → δ) (g : α → β) (h : α → γ) (a : Nested α) :
    zip f (a.map g) (a.map h) = a.map fun x => f (g x) (h x) := by
  rw [← zipAligned_map]
  cases a with
  | single x => rw [map, map, zip, zipAligned]
  | row inner items =>
    -- both arrays have the depth of the one that they are computed from, so neither is wrapped
    have level : ((row inner items).map g).depth = ((row inner items).map h).depth := by
      rw [depth, depth, shape_map, shape_map]
    rw [map, map] at level ⊢
    rw [zip, level, Nat.sub_self, wrapped, wrapped]
    · simp
    · simp

/-! ### Functions of arrays -/

/-- A function of arrays that works value by value, or has one value whatever the array. -/
inductive IsPointwise (F : Nested α → Nested β) : Prop
  | each (g : α → β) (all : ∀ input, F input = input.map g)
  | fixed (value : β) (all : ∀ input, F input = single value)

namespace IsPointwise

variable {F : Nested α → Nested β} {G : Nested α → Nested γ}

theorem map (pointwise : IsPointwise F) (f : β → γ) :
    IsPointwise fun input => (F input).map f := by
  cases pointwise with
  | each g all => exact .each (f ∘ g) fun input => by rw [all, map_map]
  | fixed value all => exact .fixed (f value) fun input => by rw [all, Nested.map]

theorem zip (left : IsPointwise F) (right : IsPointwise G) (f : β → γ → δ) :
    IsPointwise fun input => Nested.zip f (F input) (G input) := by
  cases left with
  | each g all =>
    cases right with
    | each h all' => exact .each (fun x => f (g x) (h x)) fun input => by rw [all, all', zip_map]
    | fixed value all' =>
      exact .each ((f · value) ∘ g) fun input => by rw [all, all', zip_single, map_map]
  | fixed value all =>
    have constant : (fun input => Nested.zip f (F input) (G input)) =
        fun input => (G input).map (f value) :=
      funext fun input => by rw [all, single_zip]
    rw [constant]
    exact right.map (f value)

end IsPointwise

/-- A function of arrays that may have no value: it never has one, or it has one if it does so for
every number in the array, and works value by value then. -/
inductive AnswersPointwise (F : Nested α → Option (Nested β)) : Prop
  | never (all : ∀ input, F input = none)
  | wherever (ends : α → Prop) (G : Nested α → Nested β) (pointwise : IsPointwise G)
      (value : ∀ input, (∀ x ∈ input.entries, ends x) → F input = some (G input))
      (missing : ∀ input, ∀ x ∈ input.entries, ¬ ends x → F input = none)

namespace AnswersPointwise

variable {F : Nested α → Option (Nested β)} {G : Nested α → Option (Nested γ)}

theorem of_isPointwise {F : Nested α → Nested β} (pointwise : IsPointwise F) :
    AnswersPointwise fun input => some (F input) :=
  .wherever (fun _ => True) F pointwise (fun _ _ => rfl)
    fun _ _ _ unending => absurd trivial unending

theorem bind_some (answers : AnswersPointwise F) {f : Nested β → Nested γ}
    (keeps : ∀ G : Nested α → Nested β, IsPointwise G →
      IsPointwise fun input => f (G input)) :
    AnswersPointwise fun input => (F input).bind fun a => some (f a) := by
  cases answers with
  | never all => exact .never fun input => by rw [all, Option.bind_none]
  | wherever ends G pointwise value missing =>
    refine .wherever ends (fun input => f (G input)) (keeps G pointwise) ?_ ?_
    · intro input all
      rw [value input all, Option.bind_some]
    · intro input x member unending
      rw [missing input x member unending, Option.bind_none]

theorem bind_bind_some (left : AnswersPointwise F) (right : AnswersPointwise G)
    {f : Nested β → Nested γ → Nested δ}
    (keeps : ∀ (A : Nested α → Nested β) (B : Nested α → Nested γ), IsPointwise A →
      IsPointwise B → IsPointwise fun input => f (A input) (B input)) :
    AnswersPointwise fun input => (F input).bind fun a => (G input).bind fun b => some (f a b) := by
  cases left with
  | never all => exact .never fun input => by rw [all, Option.bind_none]
  | wherever ends A pointwise value missing =>
    cases right with
    | never all =>
      refine .never fun input => ?_
      rw [all]
      cases F input <;> rfl
    | wherever ends' B pointwise' value' missing' =>
      refine .wherever (fun x => ends x ∧ ends' x) (fun input => f (A input) (B input))
        (keeps A B pointwise pointwise') ?_ ?_
      · intro input all
        rw [value input fun x member => (all x member).1,
          value' input fun x member => (all x member).2, Option.bind_some, Option.bind_some]
      · intro input x member unending
        rcases not_and_or.1 unending with first | second
        · rw [missing input x member first, Option.bind_none]
        · rw [missing' input x member second]
          cases F input <;> rfl

/-- What is computed at each place anew may fail there. -/
theorem mapM [Inhabited γ] (answers : AnswersPointwise F) (f : β → Option γ) :
    AnswersPointwise fun input => (F input).bind fun a => a.mapM f := by
  cases answers with
  | never all => exact .never fun input => by rw [all, Option.bind_none]
  | wherever ends G pointwise value missing =>
    cases pointwise with
    | each g all =>
      refine .wherever (fun x => ends x ∧ (f (g x)).isSome = true)
        (fun input => input.map fun x => (f (g x)).getD default) (.each _ fun _ => rfl) ?_ ?_
      · intro input both
        have values : ∀ y ∈ (input.map g).entries, (f y).isSome = true := by
          rw [entries_map]
          exact List.forall_mem_map.2 fun x member => (both x member).2
        rw [value input fun x member => (both x member).1, all, Option.bind_some,
          mapM_of_isSome values, map_map]
        rfl
      · intro input x member unending
        -- either the input fails somewhere already, or it has values and one of these fails
        by_cases here : ∀ x ∈ input.entries, ends x
        · have failing : f (g x) = none := by
            simpa [here x member] using unending
          rw [value input here, all, Option.bind_some, mapM_eq_none_of_mem failing]
          rw [entries_map]
          exact List.mem_map_of_mem member
        · obtain ⟨y, member', unending'⟩ : ∃ y ∈ input.entries, ¬ ends y := by
            simpa using here
          rw [missing input y member' unending', Option.bind_none]
    | fixed constant all =>
      cases result : f constant with
      | none =>
        refine .never fun input => ?_
        by_cases here : ∀ x ∈ input.entries, ends x
        · rw [value input here, all, Option.bind_some, Nested.mapM, result, Option.map_none]
        · obtain ⟨y, member, unending⟩ : ∃ y ∈ input.entries, ¬ ends y := by
            simpa using here
          rw [missing input y member unending, Option.bind_none]
      | some y =>
        refine .wherever ends (fun _ => single y) (.fixed y fun _ => rfl) ?_ ?_
        · intro input here
          rw [value input here, all, Option.bind_some, Nested.mapM, result, Option.map_some]
        · intro input x member unending
          rw [missing input x member unending, Option.bind_none]

/-- A function that does not look at its argument has one value, if any. -/
theorem exists_single [Inhabited α] (answers : AnswersPointwise F)
    (constant : ∀ input input', F input = F input') :
    (∀ input, F input = none) ∨ ∃ value, ∀ input, F input = some (single value) := by
  cases answers with
  | never all => exact .inl all
  | wherever ends G pointwise value missing =>
    have empty : F (row [] []) = some (G (row [] [])) := value _ fun x member => by cases member
    cases pointwise with
    | each g all =>
      -- an empty row and a number would have the same value
      have same : F (single default) = some (row [] []) := by
        rw [constant _ (row [] []), empty, all, Nested.map, List.map_nil]
      by_cases here : ends default
      · rw [value _ fun x member => mem_entries_single.1 member ▸ here, all, Nested.map] at same
        cases same
      · rw [missing _ default (mem_entries_single.2 rfl) here] at same
        cases same
    | fixed value' all =>
      exact .inr ⟨value', fun input => by rw [constant _ (row [] []), empty, all]⟩

end AnswersPointwise

end Nested

end CurveBoard
