/-!
# Results that may be missing

When a result that was made from others is there.
-/
namespace CurveBoard

variable {α β ε δ : Type}

theorem map_eq_ok {x : Except ε α} {f : α → β} {b : β} :
    x.map f = .ok b ↔ ∃ a, x = .ok a ∧ f a = b := by
  cases x <;> simp [Except.map]

theorem mapError_ok (f : ε → δ) (a : α) : (Except.ok a : Except ε α).mapError f = .ok a :=
  rfl

theorem mapError_eq_ok {x : Except ε α} {f : ε → δ} {a : α} :
    x.mapError f = .ok a ↔ x = .ok a := by
  cases x with
  | error e => constructor <;> rintro ⟨⟩
  | ok b => constructor <;> rintro ⟨⟩ <;> rfl

theorem mapError_eq_error {x : Except ε α} {f : ε → δ} {d : δ} :
    x.mapError f = .error d ↔ ∃ e, x = .error e ∧ f e = d := by
  cases x with
  | error e =>
    constructor
    · rintro ⟨⟩
      exact ⟨e, rfl, rfl⟩
    · rintro ⟨_, ⟨⟩, rfl⟩
      rfl
  | ok a =>
    constructor
    · rintro ⟨⟩
    · rintro ⟨_, ⟨⟩, -⟩

theorem bind_eq_ok {x : Except ε α} {f : α → Except ε β} {b : β} :
    x.bind f = .ok b ↔ ∃ a, x = .ok a ∧ f a = .ok b := by
  cases x <;> simp [Except.bind]

theorem bind_eq_error {x : Except ε α} {f : α → Except ε β} {e : ε} :
    x.bind f = .error e ↔ x = .error e ∨ ∃ a, x = .ok a ∧ f a = .error e := by
  cases x <;> simp [Except.bind]

theorem map_eq_error {x : Except ε α} {f : α → β} {e : ε} :
    x.map f = .error e ↔ x = .error e := by
  cases x <;> simp [Except.map]

theorem toOption_eq_some {x : Except ε α} {a : α} : x.toOption = some a ↔ x = .ok a := by
  cases x with
  | error e => constructor <;> rintro ⟨⟩
  | ok b => constructor <;> rintro ⟨⟩ <;> rfl

/-! ### Steps one after another -/

theorem ok_do {ε β γ : Type} (b : β) (f : β → Except ε γ) : (Except.ok b >>= f) = f b :=
  rfl

theorem error_do {ε β γ : Type} (e : ε) (f : β → Except ε γ) :
    (Except.error e >>= f) = .error e := rfl

theorem do_eq_ok {ε β γ : Type} {x : Except ε β} {f : β → Except ε γ} {c : γ} :
    (x >>= f) = .ok c ↔ ∃ b, x = .ok b ∧ f b = .ok c := bind_eq_ok

theorem pure_eq_ok {ε β : Type} {a b : β} : (pure a : Except ε β) = .ok b ↔ a = b := by
  simp [pure, Except.pure]

theorem ite_do_eq_ok {ε β γ : Type} {given : Prop} [Decidable given] {x y : Except ε β}
    {f : β → Except ε γ} {c : γ} :
    (if given then x >>= f else y >>= f) = .ok c ↔
      ∃ b, (if given then x else y) = .ok b ∧ f b = .ok c := by
  split <;> exact do_eq_ok

theorem exists_ite_eq_ok {ε β : Type} {given : Prop} [Decidable given] {x y : Except ε β}
    (some_x : ∃ b, x = .ok b) (some_y : ∃ b, y = .ok b) :
    ∃ b, (if given then x else y) = .ok b := by
  split
  · exact some_x
  · exact some_y

/-- A list of one thing that is built. -/
theorem singleton_do_eq_ok {ε β γ : Type} {x : Except ε β} {f : List β → Except ε γ}
    {c : γ} :
    (x.map ([·]) >>= f) = .ok c ↔ ∃ b, x = .ok b ∧ f [b] = .ok c := by
  rw [do_eq_ok]
  constructor
  · rintro ⟨_, built, made⟩
    obtain ⟨b, found, rfl⟩ := map_eq_ok.1 built
    exact ⟨b, found, made⟩
  · rintro ⟨b, built, made⟩
    exact ⟨[b], map_eq_ok.2 ⟨b, built, rfl⟩, made⟩

/-- Where something can be made of each thing in a list, all of them are made. -/
theorem exists_mapM_eq_ok {ε β γ : Type} {f : β → Except ε γ} {items : List β}
    (each : ∀ item ∈ items, ∃ c, f item = .ok c) : ∃ made, items.mapM f = .ok made := by
  induction items with
  | nil => exact ⟨[], rfl⟩
  | cons item rest ih =>
    obtain ⟨first, isFirst⟩ := each item List.mem_cons_self
    obtain ⟨others, areOthers⟩ := ih fun other among =>
      each other (List.mem_cons_of_mem item among)
    rw [List.mapM_cons]
    exact ⟨first :: others, do_eq_ok.2 ⟨first, isFirst,
      do_eq_ok.2 ⟨others, areOthers, rfl⟩⟩⟩

/-- What is made of each thing in a list is made of one of them. -/
theorem exists_of_mem_mapM {ε β γ : Type} {f : β → Except ε γ} {items : List β}
    {made : List γ} {c : γ} (built : items.mapM f = .ok made) (member : c ∈ made) :
    ∃ item ∈ items, f item = .ok c := by
  induction items generalizing made with
  | nil =>
    cases built
    cases member
  | cons item rest ih =>
    rw [List.mapM_cons] at built
    obtain ⟨first, isFirst, built⟩ := do_eq_ok.1 built
    obtain ⟨others, areOthers, built⟩ := do_eq_ok.1 built
    cases built
    rcases List.mem_cons.1 member with rfl | later
    · exact ⟨item, List.mem_cons_self, isFirst⟩
    · obtain ⟨other, among, isOther⟩ := ih areOthers later
      exact ⟨other, List.mem_cons_of_mem item among, isOther⟩

end CurveBoard
