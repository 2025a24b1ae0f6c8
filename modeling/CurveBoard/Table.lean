/-!
# Ordered tables

A table keeps values under distinct names in the order in which the names were added. Writing to a
name that is there changes its value and not its place; a name that was removed and is added again
comes last.
-/
namespace CurveBoard

structure Table (β : Type) where
  entries : List (String × β)
  distinct : (entries.map Prod.fst).Nodup

namespace Table

variable {β : Type}

def empty : Table β := ⟨[], List.nodup_nil⟩

instance : Inhabited (Table β) := ⟨empty⟩

/-- The names in order. -/
def keys (t : Table β) : List String := t.entries.map Prod.fst

def values (t : Table β) : List β := t.entries.map Prod.snd

def size (t : Table β) : Nat := t.entries.length

def get? (t : Table β) (key : String) : Option β :=
  (t.entries.find? fun entry => entry.1 == key).map Prod.snd

def contains (t : Table β) (key : String) : Bool := t.keys.contains key

/-- Gives a new value to a name. -/
def overwritten (key : String) (value : β) (entry : String × β) : String × β :=
  if entry.1 == key then (key, value) else entry

theorem map_fst_overwritten (key : String) (value : β) (entries : List (String × β)) :
    (entries.map (overwritten key value)).map Prod.fst = entries.map Prod.fst := by
  rw [List.map_map]
  refine List.map_congr_left fun entry _ => ?_
  by_cases same : entry.1 = key <;> simp [overwritten, same]

/-- Writes a value under a name. -/
def insert (t : Table β) (key : String) (value : β) : Table β :=
  if present : t.contains key then
    ⟨t.entries.map (overwritten key value), by rw [map_fst_overwritten]; exact t.distinct⟩
  else
    ⟨t.entries ++ [(key, value)], by
      have absent : key ∉ t.entries.map Prod.fst := by simpa [contains, keys] using present
      simp only [List.map_append, List.map_cons, List.map_nil]
      rw [List.nodup_append]
      refine ⟨t.distinct, by simp, fun name member other single => ?_⟩
      rw [List.mem_singleton.1 single]
      exact fun same => absent (same ▸ member)⟩

/-- Removes a name. -/
def erase (t : Table β) (key : String) : Table β :=
  ⟨t.entries.filter fun entry => entry.1 != key, by
    have sub : (t.entries.filter fun entry => entry.1 != key).Sublist t.entries :=
      List.filter_sublist
    exact List.Nodup.sublist (sub.map Prod.fst) t.distinct⟩

end Table

end CurveBoard
