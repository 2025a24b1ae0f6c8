import CurveBoard.Shape.Primitive
import CurveBoard.Value.Number
import Mathlib.Data.List.Induction
import Mathlib.Data.List.Nodup
import Mathlib.Data.Nat.Find

/-!
# Calls to a canvas

What calls to a canvas ask it to show: the ids that were upserted and not deleted since, each in the
place that it got by the first upsert after its last deletion. This is said by the positions of the
calls. One more call changes the list in the way that every canvas does it: an id that is there
stays where it is, one that is not comes behind all others, and a deletion leaves the others as they
are. From this the list is found by induction on the end of the calls.
-/
namespace CurveBoard

/-- A call to a canvas. -/
inductive CanvasCall
  | upsert (p : Primitive Number)
  | delete (id : String)

namespace CanvasCall

variable {calls : List CanvasCall} {call : CanvasCall} {ids : List String} {id : String}
  {p : Primitive Number}
  {k : Nat}

/-- The ids in order after a call: one that is there is not moved by an upsert, and the others are
not moved by a deletion. -/
def listed (ids : List String) : CanvasCall → List String
  | upsert p => if p.id ∈ ids then ids else ids ++ [p.id]
  | delete id => ids.filter (· ≠ id)

/-! ### Where ids are put -/

/-- The `k`-th call upserts an id. -/
def UpsertsAt (calls : List CanvasCall) (k : Nat) (id : String) : Prop :=
  ∃ p : Primitive Number, calls[k]? = some (upsert p) ∧ p.id = id

/-- The `k`-th call deletes an id. -/
def DeletesAt (calls : List CanvasCall) (k : Nat) (id : String) : Prop :=
  calls[k]? = some (delete id)

/-- The `k`-th call upserts an id that is not deleted since. -/
structure ShowsAt (calls : List CanvasCall) (k : Nat) (id : String) : Prop where
  upserts : UpsertsAt calls k id
  kept : ∀ j, k < j → ¬ DeletesAt calls j id

/-- The `k`-th call is the first upsert of an id after its last deletion: it is not deleted since,
and was deleted after every upsert before. -/
structure PutsAt (calls : List CanvasCall) (k : Nat) (id : String) :
    Prop extends ShowsAt calls k id where
  first : ∀ i, i < k → UpsertsAt calls i id → ∃ j, i < j ∧ j < k ∧ DeletesAt calls j id

/-- The ids that are upserted and not deleted since, once each, in the order in which they were put
where they are. -/
structure Lists (calls : List CanvasCall) (ids : List String) : Prop where
  distinct : ids.Nodup
  mem_iff : ∀ id, id ∈ ids ↔ ∃ k, ShowsAt calls k id
  ordered : ids.Pairwise fun a b => ∃ j k, PutsAt calls j a ∧ PutsAt calls k b ∧ j < k

theorem UpsertsAt.lt_length (upserts : UpsertsAt calls k id) : k < calls.length := by
  obtain ⟨p, call, -⟩ := upserts
  exact (List.getElem?_eq_some_iff.1 call).1

theorem DeletesAt.lt_length (deletes : DeletesAt calls k id) : k < calls.length :=
  (List.getElem?_eq_some_iff.1 deletes).1

/-- An id that is shown has been put where it is by the first of the upserts that it is shown
for. -/
theorem ShowsAt.exists_putsAt (shows : ShowsAt calls k id) : ∃ k, PutsAt calls k id := by
  classical
  have some_k : ∃ k, ShowsAt calls k id := ⟨k, shows⟩
  have least := Nat.find_spec some_k
  refine ⟨Nat.find some_k, least, fun i earlier upserts => ?_⟩
  have lost : ¬ ShowsAt calls i id := Nat.find_min some_k earlier
  have deleted : ∃ j, i < j ∧ DeletesAt calls j id := by
    by_contra never
    exact lost ⟨upserts, fun j later deletes => never ⟨j, later, deletes⟩⟩
  obtain ⟨j, later, deletes⟩ := deleted
  refine ⟨j, later, ?_, deletes⟩
  rcases Nat.lt_trichotomy j (Nat.find some_k) with before | same | after
  · exact before
  · -- one call is not both
    obtain ⟨p, call, -⟩ := least.upserts
    rw [← same, deletes] at call
    cases call
  · exact absurd deletes (least.kept j after)

/-! ### One more call -/

theorem getElem?_append_call {other : CanvasCall} :
    (calls ++ [call])[k]? = some other ↔ calls[k]? = some other ∨
      k = calls.length ∧ call = other := by
  rcases Nat.lt_trichotomy k calls.length with before | rfl | after
  · rw [List.getElem?_append_left before]
    simp [Nat.ne_of_lt before]
  · simp
  · have behind : calls.length + 1 ≤ k := after
    rw [List.getElem?_eq_none (by simpa using behind), List.getElem?_eq_none (Nat.le_of_lt after)]
    simp [Nat.ne_of_gt after]

private theorem upsertsAt_append :
    UpsertsAt (calls ++ [call]) k id ↔
      UpsertsAt calls k id ∨ k = calls.length ∧ ∃ p : Primitive Number, call = upsert p ∧
        p.id = id := by
  simp only [UpsertsAt, getElem?_append_call, or_and_right, exists_or, and_assoc, exists_and_left]

private theorem deletesAt_append :
    DeletesAt (calls ++ [call]) k id ↔ DeletesAt calls k id ∨
      k = calls.length ∧ call = delete id :=
  getElem?_append_call

theorem ShowsAt.append (shows : ShowsAt calls k id) (remains : call ≠ delete id) :
    ShowsAt (calls ++ [call]) k id where
  upserts := upsertsAt_append.2 (.inl shows.upserts)
  kept j later deletes := by
    rcases deletesAt_append.1 deletes with old | ⟨-, new⟩
    · exact shows.kept j later old
    · exact remains new

theorem PutsAt.append (puts : PutsAt calls k id) (remains : call ≠ delete id) :
    PutsAt (calls ++ [call]) k id where
  toShowsAt := puts.toShowsAt.append remains
  first i earlier upserts := by
    -- the new call is behind the one that has put the id
    have bound := puts.upserts.lt_length
    have old : UpsertsAt calls i id :=
      (upsertsAt_append.1 upserts).resolve_right fun new => by omega
    obtain ⟨j, after, before, deletes⟩ := puts.first i earlier old
    exact ⟨j, after, before, deletesAt_append.2 (.inl deletes)⟩

/-- What a call shows after one more call it showed before, or it is the new call that upserts
it. -/
theorem showsAt_append_iff :
    ShowsAt (calls ++ [call]) k id ↔
      ShowsAt calls k id ∧ call ≠ delete id ∨ k = calls.length ∧
        ∃ p : Primitive Number, call = upsert p ∧ p.id = id := by
  constructor
  · intro shows
    refine (upsertsAt_append.1 shows.upserts).imp_left fun old =>
      ⟨⟨old, fun j later deletes => ?_⟩, fun deletes => ?_⟩
    · exact shows.kept j later (deletesAt_append.2 (.inl deletes))
    · exact shows.kept calls.length old.lt_length (deletesAt_append.2 (.inr ⟨rfl, deletes⟩))
  · rintro (⟨shows, remains⟩ | ⟨rfl, new⟩)
    · exact shows.append remains
    · refine ⟨upsertsAt_append.2 (.inr ⟨rfl, new⟩), fun j later deletes => ?_⟩
      have bound := deletes.lt_length
      rw [List.length_append, List.length_singleton] at bound
      omega

/-- What is shown after one more call was shown before, or is what the call upserts, and is not what
it deletes. -/
theorem exists_showsAt_append :
    (∃ k, ShowsAt (calls ++ [call]) k id) ↔
      call ≠ delete id ∧ ((∃ k, ShowsAt calls k id) ∨
        ∃ p : Primitive Number, call = upsert p ∧ p.id = id) := by
  simp only [showsAt_append_iff]
  constructor
  · rintro ⟨k, ⟨shows, remains⟩ | ⟨-, p, rfl, same⟩⟩
    · exact ⟨remains, .inl ⟨k, shows⟩⟩
    · exact ⟨by simp, .inr ⟨p, rfl, same⟩⟩
  · rintro ⟨remains, ⟨k, shows⟩ | new⟩
    · exact ⟨k, .inl ⟨shows, remains⟩⟩
    · exact ⟨calls.length, .inr ⟨rfl, new⟩⟩

/-- An id that is not shown is put behind all others. -/
theorem putsAt_append_of_not_showsAt (missing : ¬ ∃ k, ShowsAt calls k p.id) :
    PutsAt (calls ++ [upsert p]) calls.length p.id where
  toShowsAt := showsAt_append_iff.2 (.inr ⟨rfl, p, rfl, rfl⟩)
  first i earlier upserts := by
    have old : UpsertsAt calls i p.id :=
      (upsertsAt_append.1 upserts).resolve_right fun new => by omega
    by_contra never
    refine missing ⟨i, old, fun j later deletes => never ⟨j, later, deletes.lt_length, ?_⟩⟩
    exact deletesAt_append.2 (.inl deletes)

theorem Lists.nil : Lists [] [] where
  distinct := List.nodup_nil
  mem_iff id := by
    constructor
    · intro member
      cases member
    · rintro ⟨k, shows⟩
      cases shows.upserts.lt_length
  ordered := List.Pairwise.nil

/-- A list of what is shown stays one if each call changes it. -/
theorem Lists.append (lists : Lists calls ids) (call : CanvasCall) :
    Lists (calls ++ [call]) (listed ids call) := by
  cases call with
  | upsert p =>
    have still (a : String) {k : Nat} (puts : PutsAt calls k a) :
        PutsAt (calls ++ [upsert p]) k a :=
      puts.append (by simp)
    have ordered : ids.Pairwise fun a b => ∃ j k, PutsAt (calls ++ [upsert p]) j a ∧
        PutsAt (calls ++ [upsert p]) k b ∧ j < k :=
      lists.ordered.imp fun ⟨j, k, first, second, before⟩ =>
        ⟨j, k, still _ first, still _ second, before⟩
    by_cases present : p.id ∈ ids
    · -- the id is shown already, and stays where it is
      rw [listed, if_pos present]
      refine ⟨lists.distinct, fun id => ?_, ordered⟩
      rw [exists_showsAt_append, ← lists.mem_iff]
      constructor
      · intro member
        exact ⟨by simp, .inl member⟩
      · rintro ⟨-, member | ⟨q, same, rfl⟩⟩
        · exact member
        · cases same
          exact present
    · -- the id comes behind all others
      rw [listed, if_neg present]
      constructor
      · rw [List.nodup_append]
        refine ⟨lists.distinct, by simp, fun a member b last same => ?_⟩
        rw [List.mem_singleton.1 last] at same
        exact present (same ▸ member)
      · intro id
        rw [exists_showsAt_append, ← lists.mem_iff, List.mem_append, List.mem_singleton]
        constructor
        · intro member
          exact ⟨by simp, member.imp_right fun same => ⟨p, rfl, same.symm⟩⟩
        · rintro ⟨-, member | ⟨q, same, rfl⟩⟩
          · exact .inl member
          · cases same
            exact .inr rfl
      · rw [List.pairwise_append]
        refine ⟨ordered, by simp, fun a member b last => ?_⟩
        rw [List.mem_singleton.1 last]
        obtain ⟨k, shows⟩ := (lists.mem_iff a).1 member
        obtain ⟨j, puts⟩ := shows.exists_putsAt
        have missing : ¬ ∃ k, ShowsAt calls k p.id :=
          fun shown => present ((lists.mem_iff _).2 shown)
        exact ⟨j, calls.length, still a puts, putsAt_append_of_not_showsAt missing,
          puts.upserts.lt_length⟩
  | delete id =>
    rw [listed]
    constructor
    · exact lists.distinct.filter _
    · intro other
      rw [exists_showsAt_append, ← lists.mem_iff, List.mem_filter, decide_eq_true_iff]
      constructor
      · rintro ⟨member, differs⟩
        exact ⟨fun same => differs (CanvasCall.delete.inj same).symm, .inl member⟩
      · rintro ⟨differs, member | ⟨p, same, -⟩⟩
        · exact ⟨member, fun same => differs (congrArg _ same.symm)⟩
        · cases same
    · -- the others stay where they have been put
      refine (lists.ordered.filter _).imp_of_mem fun {a b} member member' => ?_
      rintro ⟨j, k, first, second, before⟩
      have remains {c : String} (member : c ∈ ids.filter (· ≠ id)) :
          delete id ≠ delete c := by
        rintro ⟨rfl⟩
        simp at member
      exact ⟨j, k, first.append (remains member), second.append (remains member'), before⟩

/-- The ids that calls leave, one call after the other. -/
theorem lists_foldl (calls : List CanvasCall) : Lists calls (calls.foldl listed []) := by
  -- on the end of the calls, which is where the order grows
  induction calls using List.reverseRecOn with
  | nil => exact Lists.nil
  | append_singleton calls call ih =>
    rw [List.foldl_append]
    exact ih.append call

end CanvasCall

end CurveBoard
