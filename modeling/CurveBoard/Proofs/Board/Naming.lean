import CurveBoard.Proofs.Board.Effects
import Mathlib.Data.List.Nodup
import Mathlib.Order.Bounds.Basic

/-!
# Numbered names

An id tells its kind and its number. A drawing without an id gets the first numbered one that no
drawing has. There is one among the candidates, since they are more than there are drawings and all
different.
-/
namespace CurveBoard

namespace Board

private theorem hyphen_notMem_toDigits (n : Nat) : '-' ∉ Nat.toDigits 10 n := by
  intro member
  have digit := Nat.isDigit_of_mem_toDigits (by decide) (by decide) member
  cases digit

/-- An id ends with the number, behind its last hyphen. -/
theorem takeWhile_numberedId (kind : String) (n : Nat) :
    (numberedId kind n).toList.reverse.takeWhile (· ≠ '-') = (Nat.toDigits 10 n).reverse := by
  have written : (numberedId kind n).toList = kind.toList ++ '-' :: Nat.toDigits 10 n := by
    simp [numberedId]
  rw [written, List.reverse_append, List.reverse_cons, List.append_assoc,
    List.takeWhile_append_of_pos]
  · simp
  · intro c member
    have differs : c ≠ '-' :=
      fun same => hyphen_notMem_toDigits n (same ▸ List.mem_reverse.1 member)
    simpa using differs

/-- An id tells its kind and its number. -/
theorem numberedId_inj {kind kind' : String} {m n : Nat}
    (same : numberedId kind m = numberedId kind' n) :
    kind = kind' ∧ m = n := by
  have digits : Nat.toDigits 10 m = Nat.toDigits 10 n := by
    rw [← List.reverse_inj, ← takeWhile_numberedId kind, ← takeWhile_numberedId kind', same]
  have numbers : m = n := by
    rw [← Nat.ofDigitChars_ten_toDigits (n := m), digits, Nat.ofDigitChars_ten_toDigits]
  subst numbers
  have texts := congrArg String.toList same
  simp only [numberedId, String.toList_append, List.append_cancel_right_eq] at texts
  exact ⟨String.toList_inj.1 texts, rfl⟩

private theorem numberedId_injective (kind : String) : Function.Injective (numberedId kind) :=
  fun _ _ same => (numberedId_inj same).2

section Drawings

variable {β : Type} (drawings : Table β) (kind : String) (last : Nat)

/-- Not all candidates are names of drawings. -/
theorem exists_candidate : ∃ k < drawings.size + 1,
    drawings.contains (numberedId kind (last + 1 + k)) = false := by
  by_contra! taken
  let candidates := (List.range (drawings.size + 1)).map fun k => numberedId kind (last + 1 + k)
  have distinct : candidates.Nodup :=
    List.nodup_range.map fun k l same => Nat.add_left_cancel (numberedId_injective kind same)
  have all_taken : candidates ⊆ drawings.keys := by
    intro id member
    obtain ⟨k, below, rfl⟩ := List.mem_map.1 member
    simpa [Table.contains] using taken k (List.mem_range.1 below)
  have fewer : drawings.size + 1 ≤ drawings.size := by
    simpa [candidates, Table.keys, Table.size] using distinct.length_le_of_subset all_taken
  exact absurd fewer (Nat.not_succ_le_self _)

/-- The number that is looked for is the least one that is free. -/
theorem isLeast_firstFree :
    IsLeast {n | last < n ∧ drawings.contains (numberedId kind n) = false}
      (firstFree drawings kind last) := by
  unfold firstFree
  dsimp only
  rw [List.find?_map]
  cases found : (List.range (drawings.size + 1)).find?
      ((fun n => !drawings.contains (numberedId kind n)) ∘ (last + 1 + ·)) with
  | none =>
    obtain ⟨k, below, free⟩ := exists_candidate drawings kind last
    have taken := List.find?_eq_none.1 found k (List.mem_range.2 below)
    simp [free] at taken
  | some k =>
    obtain ⟨free, -, taken⟩ := List.find?_range_eq_some.1 found
    simp only [Option.map_some, Option.getD_some]
    refine ⟨⟨by omega, by simpa using free⟩, fun n ⟨after, unused⟩ => ?_⟩
    by_contra! before
    have used := taken (n - (last + 1)) (by omega)
    rw [Function.comp_apply, show last + 1 + (n - (last + 1)) = n by omega, unused] at used
    cases used

end Drawings

end Board

/-- The number that a drawing gets belongs to no other drawing. -/
theorem Picture.contains_freeNumber (p : Picture) (kind : String) :
    p.entries.contains (Board.numberedId kind (p.freeNumber kind)) = false :=
  (Board.isLeast_firstFree p.entries kind _).1.2

/-- An id that is made up for a drawing belongs to no other drawing. -/
theorem Names.free {kind name : String} {p named : Picture} (names : Names kind p none name named) :
    named.entries.contains name = false := by
  cases names with
  | next => exact p.contains_freeNumber kind

end CurveBoard
