import CurveBoard.Proofs.Board.Inputs
import Mathlib.Data.List.Dedup
import Mathlib.Data.List.Perm.Lattice

/-!
# The cache of compiled formulas

The cache makes no difference to what is returned, but for the object. A formula that has been
compiled before is returned again as the same object just if it is still in the cache, and what is
in the cache can be told from the requests alone: it is the formulas that were used last, as many as
there is room for.

So the invariant of the cache is a ranking of all formulas since it was last cleared, the one used
last in front, of which the cache has the first ones. Behind a formula that has been used come those
that are used again only by being asked for; before it come, one for each formula, those that have
been used after it.
-/
namespace CurveBoard

/-- What a formula is found by in the cache. -/
def CompiledFormula.key (c : CompiledFormula) : String × String := (c.source, c.variableName)

/-- Compiles what has been given without a cache. -/
def compileUncached (source variableName : Value) : Except Fault CompiledFormula :=
  match source, variableName with
  | .text s, .text name =>
    if isVariableName name then
      (compileAnew s name).mapError (Fault.compile ∘ CompileFault.malformed)
    else .error (.compile (.variableName name))
  | .text _, v => .error (.compile (.variableKind v.typeName))
  | v, _ => .error (.compile (.sourceKind v.kindName))

/-- The cache makes no difference to what is compiled, or to why nothing is. -/
theorem compileEntry_compiled (source variableName : Value) (w : Workspace) :
    (compileEntry source variableName w).1.map CachedFormula.compiled =
      compileUncached source variableName := by
  cases source with
  | text s =>
    cases variableName with
    | text name => exact compileText_text s name w
    | _ => rfl
  | _ => rfl

namespace CachedFormula

def key (entry : CachedFormula) : String × String := entry.compiled.key

private theorem isFor_eq (entry : CachedFormula) (source variableName : String) :
    entry.isFor source variableName = decide (entry.key = (source, variableName)) := by
  rw [Bool.eq_iff_iff, isFor, Bool.and_eq_true, beq_iff_eq, beq_iff_eq, decide_eq_true_iff]
  exact (@Prod.ext_iff _ _ entry.key (source, variableName)).symm

end CachedFormula

namespace FormulaCache

variable {cache cache' : FormulaCache} {entry other : CachedFormula}

/-! ### One compilation -/

private theorem promote_eq (cache : FormulaCache) (entry : CachedFormula) :
    cache.promote entry = (entry :: cache.entries.filter (·.key ≠ entry.key)).take capacity := by
  unfold promote
  refine congrArg (fun others => (entry :: others).take capacity)
    (List.filter_congr fun other _ => ?_)
  rw [other.isFor_eq, decide_not]
  rfl

private theorem mem_promote (member : other ∈ cache.promote entry) :
    other = entry ∨ other ∈ cache.entries ∧ other.key ≠ entry.key := by
  rw [promote_eq] at member
  simpa using List.mem_of_mem_take member

/-- What a compilation does to the cache, by what it returns. -/
inductive Serves {ε : Type} (cache : FormulaCache) :
    Except ε CachedFormula → FormulaCache → Prop
  | known {entry : CachedFormula} (found : entry ∈ cache.entries) :
    Serves cache (.ok entry) { cache with entries := cache.promote entry }
  | new {entry : CachedFormula} (serial : entry.serial = cache.nextSerial)
    (absent : ∀ other ∈ cache.entries, other.key ≠ entry.key) :
    Serves cache (.ok entry) ⟨cache.promote entry, cache.nextSerial + 1⟩
  | refused {e : ε} : Serves cache (.error e) cache

theorem Serves.mapError {ε δ : Type} {result : Except ε CachedFormula}
    (serves : cache.Serves result cache') (f : ε → δ) :
    cache.Serves (result.mapError f) cache' := by
  cases serves with
  | known found => exact .known found
  | new serial absent => exact .new serial absent
  | refused => exact .refused

private theorem compile_serves (cache : FormulaCache) (source variableName : String) :
    cache.Serves (cache.compile source variableName).1 (cache.compile source variableName).2 := by
  unfold compile
  split
  next entry found => exact .known (List.mem_of_find?_eq_some found)
  next missing =>
    split
    · exact .refused
    next formula read =>
      refine .new rfl fun other member same => ?_
      have differs := List.find?_eq_none.1 missing other member
      rw [other.isFor_eq, decide_eq_true_iff] at differs
      exact differs same

end FormulaCache

/-- A log record does not touch the cache. -/
theorem Workspace.compile_serves (w : Workspace) (source variableName : String) :
    w.cache.Serves (w.compile source variableName).1 (w.compile source variableName).2.cache := by
  unfold compile
  split
  · exact w.cache.compile_serves source variableName
  · exact w.cache.compile_serves source variableName

private theorem compileEntry_serves (source variableName : Value) (w : Workspace) :
    w.cache.Serves (compileEntry source variableName w).1
      (compileEntry source variableName w).2.cache := by
  cases source with
  | text s =>
    cases variableName with
    | text name =>
      unfold compileEntry Workspace.compileIn
      dsimp only
      split
      · exact ((w.compile_serves s name).mapError _).mapError _
      · exact .refused
    | _ => exact .refused
  | _ => exact .refused

/-! ### Requests -/

/-- What is asked of the cache. -/
inductive CacheRequest
  | compile (source variableName : Value)
  | clear

namespace CacheRequest

/-- The workspace after a request, be it that it has failed. -/
def perform (w : Workspace) : CacheRequest → Workspace
  | compile source variableName => (compileEntry source variableName w).2
  | clear => { w with cache := w.cache.clear }

/-- What the formula is found by that a request compiles, if it does. -/
def key? : CacheRequest → Option (String × String)
  | compile source variableName =>
    (compileUncached source variableName).toOption.map CompiledFormula.key
  | clear => none

end CacheRequest

def Workspace.after (w : Workspace) (requests : List CacheRequest) : Workspace :=
  requests.foldl CacheRequest.perform w

private theorem CacheRequest.key?_of_ok {source variableName : Value} {entry : CachedFormula}
    {w : Workspace} (compiled : (compileEntry source variableName w).1 = .ok entry) :
    (compile source variableName).key? = some entry.key := by
  have same := compileEntry_compiled source variableName w
  rw [compiled] at same
  rw [key?, ← same]
  rfl

private theorem CacheRequest.key?_of_error {source variableName : Value} {fault : Fault}
    {w : Workspace} (refused : (compileEntry source variableName w).1 = .error fault) :
    (compile source variableName).key? = none := by
  have same := compileEntry_compiled source variableName w
  rw [refused] at same
  rw [key?, ← same]
  rfl

/-- What a request does to the cache. -/
inductive FormulaCache.Turn (cache : FormulaCache) : CacheRequest → FormulaCache → Prop
  | cleared : Turn cache .clear cache.clear
  | known {source variableName : Value} {entry : CachedFormula}
    (used : (CacheRequest.compile source variableName).key? = some entry.key)
    (found : entry ∈ cache.entries) :
    Turn cache (.compile source variableName) { cache with entries := cache.promote entry }
  | new {source variableName : Value} {entry : CachedFormula}
    (used : (CacheRequest.compile source variableName).key? = some entry.key)
    (serial : entry.serial = cache.nextSerial) :
    Turn cache (.compile source variableName) ⟨cache.promote entry, cache.nextSerial + 1⟩
  | refused {source variableName : Value}
      (unused : (CacheRequest.compile source variableName).key? = none) :
    Turn cache (.compile source variableName) cache

private theorem CacheRequest.perform_turn (request : CacheRequest) (w : Workspace) :
    w.cache.Turn request (request.perform w).cache := by
  cases request with
  | clear => exact .cleared
  | compile source variableName =>
    have served := compileEntry_serves source variableName w
    unfold perform
    dsimp only
    generalize compiled : (compileEntry source variableName w).1 = result,
      (compileEntry source variableName w).2.cache = cache' at served
    cases served with
    | known found => exact .known (key?_of_ok compiled) found
    | new serial absent => exact .new (key?_of_ok compiled) serial
    | refused => exact .refused (key?_of_error compiled)

/-! ### What the cache has -/

/-- Leaving out one thing and taking the first others does not need more than one thing more. -/
theorem take_filter_take {α : Type} [DecidableEq α] {a : α} {l : List α} (distinct : l.Nodup)
    (n : Nat) :
    ((l.take (n + 1)).filter (· ≠ a)).take n = (l.filter (· ≠ a)).take n := by
  induction l generalizing n with
  | nil => rfl
  | cons b rest ih =>
    obtain ⟨absent, distinct⟩ := List.nodup_cons.1 distinct
    by_cases same : b = a
    · -- nothing else is left out
      subst same
      have others : rest.filter (· ≠ b) = rest :=
        List.filter_eq_self.2 fun c member => by simpa using ne_of_mem_of_not_mem member absent
      have others' : (rest.take n).filter (· ≠ b) = rest.take n :=
        List.filter_eq_self.2 fun c member => by
          simpa using ne_of_mem_of_not_mem (List.mem_of_mem_take member) absent
      rw [List.take_succ_cons, List.filter_cons_of_neg (by simp), List.filter_cons_of_neg (by simp),
        others, others', List.take_take, min_self]
    · rw [List.take_succ_cons, List.filter_cons_of_pos (by simpa),
        List.filter_cons_of_pos (by simpa)]
      cases n with
      | zero => rfl
      | succ n => rw [List.take_succ_cons, List.take_succ_cons, ih distinct]

namespace FormulaCache

variable {cache cache' : FormulaCache} {entry other : CachedFormula}
  {ranking : List (String × String)}

/-- Whether a cache has the formulas that come first in a ranking, in its order. -/
structure HasFirst (cache : FormulaCache) (ranking : List (String × String)) : Prop where
  distinct : ranking.Nodup
  keys : cache.entries.map CachedFormula.key = ranking.take capacity

theorem HasFirst.cleared (cache : FormulaCache) : cache.clear.HasFirst [] :=
  ⟨List.nodup_nil, rfl⟩

theorem HasFirst.promote (first : cache.HasFirst ranking) (entry : CachedFormula) :
    (cache.promote entry).map CachedFormula.key =
      (entry.key :: ranking.filter (· ≠ entry.key)).take capacity := by
  have others : (cache.entries.filter (·.key ≠ entry.key)).map CachedFormula.key =
      (ranking.take capacity).filter (· ≠ entry.key) := by
    rw [← first.keys, List.filter_map]
    rfl
  have room : capacity = 255 + 1 := rfl
  rw [promote_eq, List.map_take, List.map_cons, others, room, List.take_succ_cons,
    List.take_succ_cons, take_filter_take first.distinct]

/-- Puts a formula in front. -/
def used (ranking : List (String × String)) (key : String × String) : List (String × String) :=
  key :: ranking.filter (· ≠ key)

private theorem nodup_used (distinct : ranking.Nodup) (key : String × String) :
    (used ranking key).Nodup :=
  List.nodup_cons.2 ⟨by simp, distinct.filter _⟩

/-- The formulas that have been used since the cache was cleared, the last one in front, after
another request. -/
def rank (ranking : List (String × String)) : CacheRequest → List (String × String)
  | .clear => []
  | .compile source variableName =>
    (CacheRequest.compile source variableName).key?.elim ranking (used ranking)

private theorem rank_compile (ranking : List (String × String)) (source variableName : Value) :
    rank ranking (.compile source variableName) =
      (CacheRequest.compile source variableName).key?.elim ranking (used ranking) := rfl

private theorem HasFirst.promoted (first : cache.HasFirst ranking) (entry : CachedFormula)
    (serial : Nat) :
    (FormulaCache.mk (cache.promote entry) serial).HasFirst (used ranking entry.key) where
  distinct := nodup_used first.distinct entry.key
  keys := first.promote entry

theorem HasFirst.turn {request : CacheRequest} (first : cache.HasFirst ranking)
    (turn : cache.Turn request cache') :
    cache'.HasFirst (rank ranking request) := by
  cases turn with
  | cleared => exact .cleared cache
  | known compiled found =>
    rw [rank_compile, compiled]
    exact first.promoted _ _
  | new compiled serial =>
    rw [rank_compile, compiled]
    exact first.promoted _ _
  | refused unused =>
    rw [rank_compile, unused]
    exact first

/-- The serial numbers that have been given. -/
def Numbered (cache : FormulaCache) : Prop :=
  ∀ entry ∈ cache.entries, entry.serial < cache.nextSerial

theorem Numbered.turn {request : CacheRequest} (numbered : cache.Numbered)
    (turn : cache.Turn request cache') :
    cache'.Numbered := by
  cases turn with
  | cleared => exact List.forall_mem_nil _
  | known compiled found =>
    intro other member
    rcases mem_promote member with rfl | ⟨member, -⟩
    · exact numbered _ found
    · exact numbered _ member
  | new compiled serial =>
    intro other member
    rcases mem_promote member with rfl | ⟨member, -⟩
    · exact serial ▸ Nat.lt_succ_self _
    · exact Nat.lt_succ_of_lt (numbered _ member)
  | refused unused => exact numbered

/-- Whether a formula that has been returned is the one of its kind in the cache, or there is
none. -/
structure Knows (cache : FormulaCache) (entry : CachedFormula) : Prop where
  serial : entry.serial < cache.nextSerial
  only : ∀ other ∈ cache.entries, other.key = entry.key → other = entry

/-- It stays so until the formula is compiled again. -/
theorem Knows.turn {request : CacheRequest} (knows : cache.Knows entry)
    (turn : cache.Turn request cache') (others : request.key? ≠ some entry.key) :
    cache'.Knows entry := by
  cases turn with
  | cleared => exact ⟨knows.serial, fun other member => absurd member List.not_mem_nil⟩
  | @known _ _ promoted compiled found =>
    refine ⟨knows.serial, fun other member same => ?_⟩
    rcases mem_promote member with rfl | ⟨member, -⟩
    · exact knows.only _ found same
    · exact knows.only _ member same
  | new compiled serial =>
    refine ⟨Nat.lt_succ_of_lt knows.serial, fun other member same => ?_⟩
    rcases mem_promote member with rfl | ⟨member, -⟩
    · exact absurd (same ▸ compiled) others
    · exact knows.only _ member same
  | refused unused => exact knows

/-- What is returned is in front of the cache. -/
theorem Serves.knows {ε : Type} {result : Except ε CachedFormula}
    (serves : cache.Serves result cache') (numbered : cache.Numbered)
    (returned : result = .ok entry) : cache'.Knows entry := by
  cases serves with
  | known found =>
    cases returned
    refine ⟨numbered _ found, fun other member same => ?_⟩
    exact (mem_promote member).resolve_right fun ⟨_, differs⟩ => differs same
  | new serial absent =>
    cases returned
    refine ⟨serial ▸ Nat.lt_succ_self _, fun other member same => ?_⟩
    exact (mem_promote member).resolve_right fun ⟨_, differs⟩ => differs same
  | refused => cases returned

/-- Whether a formula that has been returned is returned again can be told from the ranking. -/
theorem Serves.serial_eq_iff {ε : Type} {result : Except ε CachedFormula} {again : CachedFormula}
    (serves : cache.Serves result cache') (knows : cache.Knows entry)
    (first : cache.HasFirst ranking) (returned : result = .ok again)
    (same : again.key = entry.key) :
    again.serial = entry.serial ↔ entry.key ∈ ranking.take capacity := by
  rw [← first.keys, List.mem_map]
  cases serves with
  | known found =>
    cases returned
    rw [knows.only _ found same]
    exact iff_of_true rfl ⟨entry, knows.only _ found same ▸ found, rfl⟩
  | new serial absent =>
    cases returned
    refine iff_of_false (serial ▸ knows.serial.ne') ?_
    rintro ⟨other, member, same'⟩
    exact absent other member (same'.trans same.symm)
  | refused => cases returned

/-! ### The place of a formula in the ranking -/

section Ranking

variable {key : String × String} {requests : List CacheRequest}
  {front behind : List (String × String)}

private theorem mem_used {other : String × String} :
    other ∈ used ranking key ↔ other = key ∨ other ∈ ranking := by
  rw [used, List.mem_cons, List.mem_filter, decide_eq_true_iff]
  exact or_and_left.trans (and_iff_left (Decidable.em _))

private theorem notMem_rank {request : CacheRequest} (absent : key ∉ ranking)
    (others : request.key? ≠ some key) :
    key ∉ rank ranking request := by
  cases request with
  | clear => exact List.not_mem_nil
  | compile source variableName =>
    rw [rank_compile]
    cases compiled : (CacheRequest.compile source variableName).key? with
    | none => exact absent
    | some other =>
      intro member
      rcases mem_used.1 member with rfl | member
      · exact others compiled
      · exact absent member

private theorem notMem_foldl_rank (absent : key ∉ ranking)
    (others : ∀ request ∈ requests, request.key? ≠ some key) :
    key ∉ requests.foldl rank ranking := by
  induction requests generalizing ranking with
  | nil => exact absent
  | cons request rest ih =>
    obtain ⟨differs, others⟩ := List.forall_mem_cons.1 others
    exact ih (notMem_rank absent differs) others

/-- Formulas that are used go in front of one that is not. -/
theorem used_append {other : String × String} (differs : other ≠ key) :
    used (front ++ key :: behind) other = used front other ++
      key :: behind.filter (· ≠ other) := by
  simp [used, differs.symm]

/-- Without clearing, a formula has in front of it, once each, the formulas that have been used
after it. -/
theorem exists_foldl_rank (behind : List (String × String))
    (kept : CacheRequest.clear ∉ requests)
    (others : ∀ request ∈ requests, request.key? ≠ some key) (distinct : front.Nodup)
    (absent : key ∉ front) :
    ∃ front' behind', requests.foldl rank (front ++ key :: behind) = front' ++ key :: behind' ∧
      front'.Nodup ∧ key ∉ front' ∧ ∀ other, other ∈ front' ↔
        other ∈ front ∨ other ∈ requests.filterMap CacheRequest.key? := by
  induction requests generalizing front behind with
  | nil => exact ⟨front, behind, rfl, distinct, absent, by simp⟩
  | cons request rest ih =>
    obtain ⟨differs, later⟩ := List.forall_mem_cons.1 others
    rw [List.mem_cons, not_or] at kept
    rw [List.foldl_cons]
    cases request with
    | clear => exact absurd rfl kept.1
    | compile source variableName =>
      rw [rank_compile]
      cases compiled : (CacheRequest.compile source variableName).key? with
      | none =>
        rw [List.filterMap_cons_none compiled]
        exact ih behind kept.2 later distinct absent
      | some next =>
        have next_ne : next ≠ key := fun same => differs (same ▸ compiled)
        -- what is compiled next goes to the front, and comes out of where it was
        obtain ⟨front', behind', ranked, distinct', absent', members⟩ :=
          ih (behind.filter (· ≠ next)) kept.2 later (nodup_used distinct next)
            (fun member => (mem_used.1 member).elim (fun same => next_ne same.symm) absent)
        refine ⟨front', behind', ?_, distinct', absent', fun other => ?_⟩
        · rw [Option.elim_some, used_append next_ne, ranked]
        · rw [members, mem_used, List.filterMap_cons_some compiled, List.mem_cons, or_assoc,
            or_left_comm]

/-- A formula that has been used is among the first ones as long as fewer others have been used
since. -/
theorem mem_take_foldl_rank_iff (others : ∀ request ∈ requests, request.key? ≠ some key)
    (ranking : List _) :
    key ∈ (requests.foldl rank (used ranking key)).take capacity ↔
      CacheRequest.clear ∉ requests ∧
      (requests.filterMap CacheRequest.key?).dedup.length ≤ 255 := by
  by_cases cleared : CacheRequest.clear ∈ requests
  · -- what has been cleared comes back only by being used
    refine iff_of_false (fun member => ?_) fun ⟨kept, _⟩ => kept cleared
    obtain ⟨before, after, rfl⟩ := List.append_of_mem cleared
    rw [List.foldl_append, List.foldl_cons] at member
    have unused : ∀ request ∈ after, request.key? ≠ some key := fun request later =>
      others request (List.mem_append_right _ (List.mem_cons_of_mem _ later))
    exact notMem_foldl_rank List.not_mem_nil unused (List.mem_of_mem_take member)
  · obtain ⟨front, behind, ranked, distinct, absent, members⟩ :=
      exists_foldl_rank (ranking.filter (· ≠ key)) cleared others List.nodup_nil List.not_mem_nil
    have perm : front.Perm (requests.filterMap CacheRequest.key?).dedup := by
      refine (List.perm_ext_iff_of_nodup distinct (List.nodup_dedup _)).2 fun other => ?_
      rw [members, List.mem_dedup, or_iff_right List.not_mem_nil]
    have found : key ∈ front ++ key :: behind := List.mem_append_right _ List.mem_cons_self
    have place : (front ++ key :: behind).idxOf key = front.length := by
      rw [List.idxOf_append_of_notMem absent, List.idxOf_cons_self, Nat.add_zero]
    have start : used ranking key = [] ++ key :: ranking.filter (· ≠ key) := rfl
    have room : capacity = 255 + 1 := rfl
    rw [start, ranked, List.mem_take_iff_idxOf_lt found, place, perm.length_eq, room,
      Nat.lt_succ_iff]
    exact (and_iff_right cleared).symm

end Ranking

end FormulaCache

/-! ### Runs of requests -/

namespace Workspace

open FormulaCache

variable {w : Workspace} {ranking : List (String × String)} {entry : CachedFormula}

private theorem after_hasFirst (first : w.cache.HasFirst ranking) (requests : List CacheRequest) :
    (w.after requests).cache.HasFirst (requests.foldl rank ranking) := by
  induction requests generalizing w ranking with
  | nil => exact first
  | cons request rest ih => exact ih (first.turn (request.perform_turn w))

private theorem after_numbered (numbered : w.cache.Numbered) (requests : List CacheRequest) :
    (w.after requests).cache.Numbered :=
  List.foldlRecOn (motive := fun w : Workspace => w.cache.Numbered) requests _ numbered
    fun _ numbered request _ => numbered.turn (request.perform_turn _)

private theorem after_knows (knows : w.cache.Knows entry) {requests : List CacheRequest}
    (others : ∀ request ∈ requests, request.key? ≠ some entry.key) :
    (w.after requests).cache.Knows entry :=
  List.foldlRecOn (motive := fun w : Workspace => w.cache.Knows entry) requests _ knows
    fun _ knows request member => knows.turn (request.perform_turn _) (others request member)

end Workspace

open FormulaCache in
/-- After any requests, what is compiled is what would be compiled without the cache, and so is the
reason if nothing is. A formula that has been compiled is compiled again whenever it is asked for;
and the same object is returned the next time just if the cache has not been cleared meanwhile and
at most 255 other formulas have been compiled. -/
theorem compileEntry_recalls (before between : List CacheRequest) (source variableName : Value) :
    let first := compileEntry source variableName (Workspace.initial.after before)
    let second := compileEntry source variableName (first.2.after between)
    first.1.map CachedFormula.compiled = compileUncached source variableName ∧
      ∀ entry, first.1 = .ok entry →
      (∀ request ∈ between, request.key? ≠ some entry.key) →
        ∃ again, second.1 = .ok again ∧
          (again.serial = entry.serial ↔
            CacheRequest.clear ∉ between ∧
            (between.filterMap CacheRequest.key?).dedup.length ≤ 255) := by
  intro first second
  have transparent := compileEntry_compiled source variableName
  refine ⟨transparent _, fun entry returned others => ?_⟩
  obtain ⟨again, returned', same⟩ : ∃ again, second.1 = .ok again ∧
      again.compiled = entry.compiled := by
    have uncached := transparent (Workspace.initial.after before)
    rw [returned, ← transparent (first.2.after between)] at uncached
    obtain ⟨again, returned', same⟩ := map_eq_ok.1 uncached.symm
    exact ⟨again, returned', same⟩
  refine ⟨again, returned', ?_⟩
  -- the first request puts the formula in front, and no other one is like it
  have served := compileEntry_serves source variableName (Workspace.initial.after before)
  have numbered := Workspace.after_numbered (w := Workspace.initial) (List.forall_mem_nil _) before
  have knows := Workspace.after_knows (served.knows numbered returned) others
  have ranked := Workspace.after_hasFirst (w := Workspace.initial) ⟨List.nodup_nil, rfl⟩ before
  have ranked' := Workspace.after_hasFirst
    (ranked.turn ((CacheRequest.compile source variableName).perform_turn _)) between
  rw [rank_compile, CacheRequest.key?_of_ok returned, Option.elim_some] at ranked'
  have served' := compileEntry_serves source variableName (first.2.after between)
  rw [served'.serial_eq_iff knows ranked' returned' (congrArg CompiledFormula.key same),
    mem_take_foldl_rank_iff others]

/-- The formula `1` in a variable that is a row of one letter. -/
def CacheRequest.one (n : Nat) : CacheRequest :=
  .compile (.text "1") (.text (String.ofList (List.replicate (n + 1) 'q')))

private theorem CacheRequest.key?_one (n : Nat) :
    (one n).key? = some ("1", String.ofList (List.replicate (n + 1) 'q')) := by
  have isName : isVariableName (String.ofList (List.replicate (n + 1) 'q')) = true := by
    have isLetter_q : isLetter 'q' = true := by decide +kernel
    simp [isVariableName, isLetter_q, List.replicate_succ]
  have parsed : Formula.parse [String.ofList (List.replicate (n + 1) 'q')] "1" = .ok _ :=
    Formula.parse_of_derivation (.sum (.product (.unsigned (.factorial (.bare
      (.number ['1'])) 0)) .noFactor) .noTerm)
      (by decide +kernel : scan "1".toList = .ok [⟨.number ['1'], 0⟩])
      (by simp [spelledOut, spellInverses, spellProducts, spellLogarithm, Token.inverse?,
        Derivation.word])
  rw [one, key?, compileUncached, if_pos isName, compileAnew_of_parse parsed]
  rfl

/-- Each of the formulas is another one. -/
theorem CacheRequest.dedup_ones (count : Nat) :
    (((List.range count).map one).filterMap CacheRequest.key?).dedup.length = count := by
  have keys : ((List.range count).map one).filterMap CacheRequest.key? =
      (List.range count).map fun n => ("1", String.ofList (List.replicate (n + 1) 'q')) := by
    rw [List.filterMap_map, ← List.filterMap_eq_map]
    exact List.filterMap_congr fun n _ => key?_one n
  have injective : Function.Injective fun n =>
    ("1", String.ofList (List.replicate (n + 1) 'q')) := by
    intro m n same
    have lengths := congrArg (fun key => key.2.toList.length) same
    simpa using lengths
  rw [keys, ((List.nodup_range.map injective)).dedup, List.length_map, List.length_range]

/-- A formula that is compiled twice is the same object after 255 others. It is a new one after 256
of them, and after the cache has been cleared. -/
theorem compileEntry_recalls_identity :
    let first := compileEntry (.text "x") (.text "x") Workspace.initial
    let second := fun between : List CacheRequest =>
      (compileEntry (.text "x") (.text "x") (first.2.after between)).1
    ∃ entry kept evicted anew, first.1 = .ok entry ∧
      second ((List.range 255).map CacheRequest.one) = .ok kept ∧ kept.serial = entry.serial ∧
      second ((List.range 256).map CacheRequest.one) = .ok evicted ∧
      evicted.serial ≠ entry.serial ∧
      second [.clear] = .ok anew ∧ anew.serial ≠ entry.serial := by
  intro first second
  have parsed : Formula.parse ["x"] "x" = .ok _ :=
    Formula.parse_of_derivation (.sum (.product (.unsigned (.factorial (.bare
      (.variable ['x'] Derivation.known_x Derivation.noFunction_x)) 0)) .noFactor) .noTerm)
      (by decide +kernel : scan "x".toList = .ok [⟨.name ['x'], 0⟩]) (by decide +kernel)
  have uncached : compileUncached (.text "x") (.text "x") = .ok ⟨"x", "x", _, parsed⟩ := by
    rw [compileUncached, if_pos (by decide +kernel), compileAnew_of_parse parsed]
    rfl
  have transparent := (compileEntry_recalls [] [] (.text "x") (.text "x")).1
  rw [uncached] at transparent
  obtain ⟨entry, returned, compiled⟩ := map_eq_ok.1 transparent
  have key : entry.key = ("x", "x") := congrArg CompiledFormula.key compiled
  -- none of the formulas between is the first one again
  have ones (count : Nat) : ∀ request ∈ (List.range count).map CacheRequest.one,
      request.key? ≠ some entry.key := by
    intro request member
    obtain ⟨n, -, rfl⟩ := List.mem_map.1 member
    rw [CacheRequest.key?_one, key]
    simp
  have noClear (count : Nat) : CacheRequest.clear ∉ (List.range count).map CacheRequest.one := by
    intro member
    obtain ⟨n, -, same⟩ := List.mem_map.1 member
    cases same
  obtain ⟨kept, returned', same⟩ :=
    (compileEntry_recalls [] ((List.range 255).map CacheRequest.one) _ _).2 entry returned (ones _)
  obtain ⟨evicted, returned'', differs⟩ :=
    (compileEntry_recalls [] ((List.range 256).map CacheRequest.one) _ _).2 entry returned (ones _)
  obtain ⟨anew, returned''', cleared⟩ :=
    (compileEntry_recalls [] [.clear] _ _).2 entry returned fun request member => by
    rw [List.mem_singleton.1 member]
    intro same
    cases same
  rw [CacheRequest.dedup_ones] at same differs
  refine ⟨entry, kept, evicted, anew, returned, returned', same.2 ⟨noClear _, le_rfl⟩,
    returned'', fun same => ?_, returned''', fun same => ?_⟩
  · exact absurd (differs.1 same).2 (by decide)
  · exact (cleared.1 same).1 List.mem_cons_self

end CurveBoard
