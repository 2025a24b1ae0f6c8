import CurveBoard.Table

/-!
# Tables as maps

Writing to a name changes what is found under it and nothing else. A function on the values goes
through all operations.
-/
namespace CurveBoard

namespace Table

variable {β γ : Type} {t u : Table β} {key other : String} {value : β}

theorem eq_of_entries (same : t.entries = u.entries) : t = u := by
  cases t
  cases u
  cases same
  rfl

private theorem get?_cons (entry : String × β) (entries : List (String × β)) (key : String) :
    ((entry :: entries).find? fun e => e.1 == key).map Prod.snd =
      if entry.1 = key then some entry.2 else (entries.find? fun e => e.1 == key).map Prod.snd := by
  by_cases same : entry.1 = key <;> simp [same]

/-- What is found under a name stands in the table. -/
theorem get?_eq_some_iff : t.get? key = some value ↔ (key, value) ∈ t.entries := by
  obtain ⟨entries, distinct⟩ := t
  change (entries.find? fun e => e.1 == key).map Prod.snd = some value ↔ (key, value) ∈ entries
  -- the first entry of a name is the only one
  induction entries with
  | nil => simp
  | cons entry rest ih =>
    rw [List.map_cons, List.nodup_cons] at distinct
    rw [get?_cons, List.mem_cons]
    split
    next same =>
      constructor
      · intro found
        cases found
        exact .inl (by rw [← same])
      · rintro (rfl | later)
        · rfl
        · exact absurd (List.mem_map_of_mem later) (same ▸ distinct.1)
    next differs =>
      rw [ih distinct.2]
      exact ⟨.inr, fun member => member.resolve_left fun same => differs (by rw [← same])⟩

theorem contains_iff : t.contains key = true ↔ ∃ value, t.get? key = some value := by
  simp only [contains, keys, List.contains_iff_mem, List.mem_map, get?_eq_some_iff]
  constructor
  · rintro ⟨⟨name, value⟩, member, rfl⟩
    exact ⟨value, member⟩
  · rintro ⟨value, member⟩
    exact ⟨(key, value), member, rfl⟩

theorem contains_of_get? (found : t.get? key = some value) : t.contains key = true :=
  contains_iff.2 ⟨value, found⟩

theorem get?_eq_none (absent : t.contains key = false) : t.get? key = none := by
  cases found : t.get? key with
  | none => rfl
  | some value =>
    rw [contains_of_get? found] at absent
    cases absent

theorem entries_insert_of_contains (present : t.contains key = true) (value : β) :
    (t.insert key value).entries = t.entries.map (overwritten key value) := by
  rw [insert, dif_pos present]

theorem entries_insert_of_absent (absent : t.contains key = false) (value : β) :
    (t.insert key value).entries = t.entries ++ [(key, value)] := by
  rw [insert, dif_neg (by simp [absent])]

@[simp] theorem get?_insert_self (t : Table β) (key : String) (value : β) :
    (t.insert key value).get? key = some value := by
  rw [get?_eq_some_iff]
  cases present : t.contains key with
  | true =>
    obtain ⟨old, found⟩ := contains_iff.1 present
    rw [entries_insert_of_contains present]
    exact List.mem_map.2 ⟨(key, old), get?_eq_some_iff.1 found, by simp [overwritten]⟩
  | false =>
    rw [entries_insert_of_absent present]
    simp

theorem get?_insert_of_ne (differs : other ≠ key) (value : β) :
    (t.insert key value).get? other = t.get? other := by
  refine Option.ext fun found => ?_
  rw [get?_eq_some_iff, get?_eq_some_iff]
  -- a name that is there keeps its place, a new one goes to the end
  cases present : t.contains key with
  | true =>
    rw [entries_insert_of_contains present, List.mem_map]
    constructor
    · rintro ⟨⟨name, old⟩, member, same⟩
      by_cases name_eq : name = key
      · simp [overwritten, name_eq] at same
        exact absurd same.1.symm differs
      · simp only [overwritten, beq_iff_eq, name_eq, if_false] at same
        exact same ▸ member
    · intro member
      exact ⟨(other, found), member, by simp [overwritten, differs]⟩
  | false =>
    rw [entries_insert_of_absent present]
    simp [differs]

theorem contains_eq_isSome (t : Table β) (key : String) :
    t.contains key = (t.get? key).isSome := by
  cases found : t.get? key with
  | some value => exact contains_of_get? found
  | none =>
    refine Bool.eq_false_iff.2 fun present => ?_
    obtain ⟨value, found'⟩ := contains_iff.1 present
    rw [found] at found'
    cases found'

theorem get?_insert (t : Table β) (key other : String) (value : β) :
    (t.insert key value).get? other = if other = key then some value else t.get? other := by
  by_cases same : other = key
  · rw [if_pos same, same, get?_insert_self]
  · rw [if_neg same, get?_insert_of_ne same]

theorem contains_insert (t : Table β) (key other : String) (value : β) :
    (t.insert key value).contains other = (t.contains other || other == key) := by
  rw [contains_eq_isSome, contains_eq_isSome, get?_insert]
  by_cases same : other = key <;> simp [same]

theorem entries_erase (t : Table β) (key : String) :
    (t.erase key).entries = t.entries.filter fun entry => entry.1 != key := rfl

@[simp] theorem get?_erase_self (t : Table β) (key : String) : (t.erase key).get? key = none := by
  refine Option.eq_none_iff_forall_ne_some.2 fun value found => ?_
  rw [get?_eq_some_iff, entries_erase, List.mem_filter] at found
  simp at found

theorem get?_erase_of_ne (differs : other ≠ key) : (t.erase key).get? other = t.get? other := by
  refine Option.ext fun found => ?_
  rw [get?_eq_some_iff, get?_eq_some_iff, entries_erase]
  simp [differs]

theorem erase_eq_self (absent : t.get? key = none) : t.erase key = t := by
  refine eq_of_entries ?_
  rw [entries_erase, List.filter_eq_self]
  intro entry member
  refine bne_iff_ne.2 fun same => ?_
  have found : t.get? key = some entry.2 := get?_eq_some_iff.2 (same ▸ member)
  rw [absent] at found
  cases found

theorem eq_empty (nothing : ∀ key, t.get? key = none) : t = empty := by
  refine eq_of_entries (List.eq_nil_iff_forall_not_mem.2 fun entry member => ?_)
  have found := get?_eq_some_iff.2 member
  rw [nothing] at found
  cases found

/-- Writing what is there already changes nothing. -/
theorem insert_eq_self (found : t.get? key = some value) : t.insert key value = t := by
  refine eq_of_entries ?_
  rw [entries_insert_of_contains (contains_of_get? found)]
  refine (List.map_congr_left fun entry member => ?_).trans (List.map_id _)
  obtain ⟨name, old⟩ := entry
  by_cases same : name = key
  · subst same
    have old_eq := get?_eq_some_iff.2 member
    rw [found] at old_eq
    cases old_eq
    simp [overwritten]
  · simp [overwritten, same]

private theorem find?_eq_none_of_notMem {entries : List (String × β)}
    (missing : key ∉ entries.map Prod.fst) :
    (entries.find? fun e => e.1 == key) = none := by
  refine List.find?_eq_none.2 fun e member found => missing ?_
  exact List.mem_map.2 ⟨e, member, by simpa using found⟩

/-- Entries under distinct names are the same if the names are and what is found under each. -/
theorem entries_ext {entries others : List (String × β)} (distinct : (entries.map Prod.fst).Nodup)
    (names : entries.map Prod.fst = others.map Prod.fst)
    (same : ∀ key, (entries.find? fun e => e.1 == key).map Prod.snd =
      (others.find? fun e => e.1 == key).map Prod.snd) : entries = others := by
  induction entries generalizing others with
  | nil =>
    rw [List.map_nil, eq_comm, List.map_eq_nil_iff] at names
    rw [names]
  | cons entry rest ih =>
    cases others with
    | nil => cases names
    | cons entry' rest' =>
      obtain ⟨name, value⟩ := entry
      obtain ⟨name', value'⟩ := entry'
      rw [List.map_cons, List.map_cons, List.cons.injEq] at names
      obtain ⟨rfl, names⟩ := names
      rw [List.map_cons, List.nodup_cons] at distinct
      simp only [get?_cons] at same
      have head := same name
      rw [if_pos rfl, if_pos rfl] at head
      rw [Option.some.inj head]
      refine congrArg _ (ih distinct.2 names fun key => ?_)
      by_cases first : name = key
      · -- the first name does not come again, so neither of the rests has it
        subst first
        rw [find?_eq_none_of_notMem distinct.1, find?_eq_none_of_notMem (names ▸ distinct.1)]
      · simpa [first] using same key

theorem ext_get? (names : t.keys = u.keys) (same : ∀ key, t.get? key = u.get? key) : t = u :=
  eq_of_entries (entries_ext t.distinct names same)

private theorem keys_insert_of_contains (present : t.contains key = true) (value : β) :
    (t.insert key value).keys = t.keys := by
  rw [keys, entries_insert_of_contains present, map_fst_overwritten, keys]

theorem contains_iff_mem_keys : t.contains key = true ↔ key ∈ t.keys := by simp [contains]

/-- Writing to a name leaves it where it is, and puts a new one behind all others. -/
theorem keys_insert (t : Table β) (key : String) (value : β) :
    (t.insert key value).keys = if key ∈ t.keys then t.keys else t.keys ++ [key] := by
  split
  next present => exact keys_insert_of_contains (contains_iff_mem_keys.2 present) value
  next missing =>
    have absent : t.contains key = false := Bool.eq_false_iff.2 fun present =>
      missing (contains_iff_mem_keys.1 present)
    rw [keys, entries_insert_of_absent absent, List.map_append]
    rfl

theorem keys_erase (t : Table β) (key : String) :
    (t.erase key).keys = t.keys.filter (· ≠ key) := by
  rw [keys, entries_erase, keys, List.filter_map]
  refine congrArg _ (List.filter_congr fun entry _ => ?_)
  by_cases same : entry.1 = key <;> simp [same]

/-- Of two values under one name the second is kept. -/
@[simp] theorem insert_insert (t : Table β) (key : String) (old value : β) :
    (t.insert key old).insert key value = t.insert key value := by
  -- the second value takes the place that the first has been given
  have present : (t.insert key old).contains key = true := by simp [contains_insert]
  refine ext_get? ?_ fun other => ?_
  · rw [keys_insert_of_contains present]
    cases first : t.contains key with
    | true => rw [keys_insert_of_contains first, keys_insert_of_contains first]
    | false =>
      rw [keys, keys, entries_insert_of_absent first, entries_insert_of_absent first,
        List.map_append, List.map_append]
      rfl
  · rw [get?_insert, get?_insert, get?_insert]
    split <;> rfl

/-! ### Functions on the values -/

/-- Applies a function to every value. -/
def mapValues (f : β → γ) (t : Table β) : Table γ :=
  ⟨t.entries.map fun (key, value) => (key, f value), by
    rw [List.map_map]
    exact t.distinct⟩

section MapValues

variable (f : β → γ) (t : Table β)

theorem entries_mapValues :
    (t.mapValues f).entries = t.entries.map fun (key, value) => (key, f value) := rfl

@[simp] theorem keys_mapValues : (t.mapValues f).keys = t.keys := by
  rw [keys, mapValues, List.map_map]
  rfl

@[simp] theorem size_mapValues : (t.mapValues f).size = t.size := List.length_map _

@[simp] theorem contains_mapValues (key : String) :
    (t.mapValues f).contains key = t.contains key := by
  rw [contains, keys_mapValues, contains]

@[simp] theorem get?_mapValues (key : String) : (t.mapValues f).get? key = (t.get? key).map f := by
  rw [get?, get?, mapValues, List.find?_map, Option.map_map, Option.map_map]
  rfl

theorem mapValues_insert (key : String) (value : β) :
    (t.insert key value).mapValues f = (t.mapValues f).insert key (f value) := by
  refine eq_of_entries ?_
  rw [entries_mapValues]
  cases present : t.contains key with
  | true =>
    rw [entries_insert_of_contains ((contains_mapValues f t key).trans present),
      entries_insert_of_contains present, entries_mapValues, List.map_map, List.map_map]
    refine List.map_congr_left fun entry _ => ?_
    by_cases same : entry.1 = key <;> simp [overwritten, same]
  | false =>
    rw [entries_insert_of_absent ((contains_mapValues f t key).trans present),
      entries_insert_of_absent present, entries_mapValues, List.map_append]
    rfl

theorem mapValues_erase (key : String) : (t.erase key).mapValues f = (t.mapValues f).erase key := by
  refine eq_of_entries ?_
  rw [entries_mapValues, entries_erase, entries_erase, entries_mapValues, List.filter_map]
  rfl

end MapValues

end Table

end CurveBoard
