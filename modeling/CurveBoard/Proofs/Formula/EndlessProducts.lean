import CurveBoard.Proofs.FloatRounding
import CurveBoard.Proofs.Formula.Combinatorics

/-!
# Products of doubles without an end

The factors of a product of doubles fall by the step, or stay where the step is too small to change
them. A double falls only so often, so what decides is where a factor stays. Above one the product
grows until it is infinite, at a half or below it shrinks until it is zero, and either way it is
finished. Between the two it is rounded to the same double again and again, even if that is the
least one. Which steps leave a factor there is known exactly (`Endless`), and for all other
arguments the product comes to an end.
-/
namespace CurveBoard

open Scalar Float.Model

/-! ### Ends -/

namespace FallingProduct

section Ends

variable {α : Type} [Scalar α] {step : α} {p next : FallingProduct α}

/-- A product comes to an end: its states lead to others only so often. -/
def Ends (step : α) (p : FallingProduct α) : Prop :=
  Acc (fun next p => p.next? step = some next) p

private theorem ends_of_last (last : p.next? step = none) : Ends step p :=
  .intro p fun next going => by
    rw [last] at going
    cases going

private theorem ends_of_next (going : p.next? step = some next) (ends : Ends step next) :
    Ends step p :=
  .intro p fun next' going' => by
    rw [going] at going'
    cases going'
    exact ends

/-- A product has a value just if it comes to an end. -/
theorem isSome_run_iff : (run step p).isSome = true ↔ Ends step p := by
  constructor
  · intro value
    obtain ⟨r, value⟩ := Option.isSome_iff_exists.1 value
    refine run.partial_correctness step (fun p _ => Ends step p) (fun run' ih p r value =>
      ?_) p r value
    cases going : p.next? step with
    | none => exact ends_of_last going
    | some next =>
      rw [going] at value
      exact ends_of_next going (ih next r value)
  · intro ends
    induction ends with
    | intro p _ ih =>
      cases going : p.next? step with
      | none => rw [run_of_last going, Option.isSome_some]
      | some next => rw [run_of_next going, ih next going]

private theorem ends_of_not_pos (last : ¬ 0.0 < p.factor) : Ends step p :=
  ends_of_last (if_neg last)

private theorem ends_of_saturated (last : saturated (p.product * p.factor) = true) :
    Ends step p := by
  refine ends_of_last ?_
  rw [next?]
  split
  · exact if_pos last
  · rfl

end Ends

/-! ### One multiplication of doubles -/

section Doubles

variable {r f n : Float} {a b : ℚ}

private theorem saturated_eq (x : Float) : saturated x =
    (!x.toModel.unpack.isFinite && !x.toModel.unpack.isNaN ||
      x.toModel.unpack.beq (.zero .positive)) := rfl

private theorem saturated_of_isZero (none : IsZero r) : saturated r = true := by
  obtain ⟨sign, none⟩ := none
  rw [saturated_eq, none]
  cases sign <;> rfl

private theorem saturated_of_infinite (infinite : r.toModel.unpack = .infinity .positive) :
    saturated r = true := by
  rw [saturated_eq, infinite]
  rfl

private theorem saturated_of_hasValue (value : HasValue r a) : saturated r = false := by
  obtain ⟨m, e, some, unpacked, -⟩ := value
  rw [saturated_eq, unpacked]
  rfl

private theorem next?_of_hasValue (value : HasValue (r * f) a) (factor : HasValue f b) :
    next? n ⟨r, f⟩ = some ⟨r * f, f - n⟩ :=
  next?_of_pos factor.zero_lt (saturated_of_hasValue value)

/-- A product ends if it does so in case it is rounded to a positive double. -/
theorem ends_of_rounds (product : HasValue r a) (factor : HasValue f b)
    (next : ∀ (digits : Nat) (place : Int), IsNearest (a * b) digits place →
      HasValue (r * f) (digits * 2 ^ place) → Ends n ⟨r * f, f - n⟩) : Ends n ⟨r, f⟩ := by
  cases rounds_mul product factor with
  | zero none _ => exact ends_of_saturated (saturated_of_isZero none)
  | value nearest value =>
    exact ends_of_next (next?_of_hasValue value factor) (next _ _ nearest value)
  | infinite _ _ infinite => exact ends_of_saturated (saturated_of_infinite infinite)

end Doubles

/-! ### Products by factors that are not near one -/

section Factors

variable {a b s : ℚ} {digits : Nat} {place : Int} {r f n : Float}

/-- A product by a factor above one grows, unless it is small. -/
theorem lt_of_isNearest_mul (nearest : IsNearest (a * b) digits place) (large : 1 ≤ a)
    (factor : 1 + 2 ^ (-52 : Int) ≤ b) : a < digits * 2 ^ place := by
  have grown : a * (1 + 2 ^ (-52 : Int)) ≤ a * b := mul_le_mul_of_nonneg_left factor (by linarith)
  have near := (abs_le.1 nearest.near).2
  have leading := nearest.leading_of_one_le (large.trans (by norm_num at grown; linarith))
  generalize (digits : ℚ) * 2 ^ place = q at *
  norm_num at leading grown
  linarith

/-- A product by a factor of at most a half shrinks. -/
theorem isNearest_mul_lt (nearest : IsNearest (a * b) digits place) (value : HasValue r a)
    (factor : b ≤ 1 / 2) (some : 0 < digits) : digits * 2 ^ place < a := by
  have shrunk : a * b ≤ a * (1 / 2) := mul_le_mul_of_nonneg_left factor value.pos.le
  have near := abs_le.1 nearest.near
  have even := nearest.even
  have unit_pos := two_zpow_pos place
  rcases nearest.leading with rfl | leading
  · obtain ⟨k, positive, rfl⟩ := value.exists_multiple
    generalize (2 : ℚ) ^ (-1074 : Int) = unit at near even unit_pos shrunk ⊢
    have twice : 2 * digits ≤ k + 1 := by
      have twice : ((2 * digits : Nat) : ℚ) * unit ≤ (k + 1 : Nat) * unit := by
        push_cast
        linarith
      exact_mod_cast le_of_mul_le_mul_right twice unit_pos
    refine mul_lt_mul_of_pos_right (by_contra fun more => ?_) unit_pos
    -- half of the least double is not rounded up, one being odd
    have more : k ≤ digits := by exact_mod_cast not_lt.1 more
    obtain ⟨rfl, rfl⟩ : k = 1 ∧ digits = 1 := by omega
    refine Nat.not_even_one (even (le_antisymm (abs_le.2 near) (le_abs.2 (.inr ?_))))
    push_cast at shrunk ⊢
    linarith
  · have positive := value.pos
    generalize (digits : ℚ) * 2 ^ place = q at near ⊢
    norm_num at leading
    linarith

/-- A product by a factor above a half and of at most one is still a positive double. -/
theorem exists_hasValue_mul (value : HasValue r a) (factor : HasValue f b) (above : 1 / 2 < b)
    (at_most : b ≤ 1) :
    ∃ c, HasValue (r * f) c := by
  obtain ⟨k, positive, same⟩ := value.exists_multiple
  have least : (2 : ℚ) ^ (-1074 : Int) ≤ a := by
    rw [same]
    exact le_mul_of_one_le_left (two_zpow_pos _).le (by exact_mod_cast positive)
  have more : a * (1 / 2) < a * b := mul_lt_mul_of_pos_left above value.pos
  have less : a * b ≤ a := mul_le_of_le_one_right value.pos.le at_most
  obtain ⟨digits, place, -, value'⟩ :=
    (rounds_mul value factor).exists_value (by linarith) value less
  exact ⟨_, value'⟩

/-! ### Factors that stay -/

/-- Subtracting something leaves a factor as it is. -/
def Stays (n : Float) (b : ℚ) : Prop := ∀ f, HasValue f b → HasValue (f - n) b

private theorem stays_of_hasValue (factor : HasValue f b) (same : HasValue (f - n) b) :
    Stays n b := by
  intro g factor'
  refine same.congr ?_
  rw [toModel_unpack_sub, toModel_unpack_sub, factor.unpack_eq factor']

/-- A product has an end if the factor stays above one. -/
theorem ends_of_stays_large (stays : Stays n b) (large : 1 < b) (product : HasValue r a)
    (grown : 1 ≤ a) (factor : HasValue f b) : Ends n ⟨r, f⟩ := by
  -- there are only so many larger doubles
  induction above : 2 ^ 64 - floatRank r using Nat.strong_induction_on generalizing r f a with
  | _ k ih =>
    refine ends_of_rounds product factor fun digits place nearest value => ?_
    have more := lt_of_isNearest_mul nearest grown (factor.next_one large)
    have rank_more := floatRank_lt_floatRank product value more
    have rank_most := floatRank_lt value
    exact ih _ (by omega) value (grown.trans more.le) (stays f factor) rfl

/-- A product has an end if the factor stays at a half or below. -/
theorem ends_of_stays_small (stays : Stays n b) (small : b ≤ 1 / 2) (product : HasValue r a)
    (factor : HasValue f b) : Ends n ⟨r, f⟩ := by
  induction rank_r : floatRank r using Nat.strong_induction_on generalizing r f a with
  | _ k ih =>
    refine ends_of_rounds product factor fun digits place nearest value => ?_
    have less := isNearest_mul_lt nearest product small (mantissa_pos value.pos)
    exact ih _ (rank_r ▸ floatRank_lt_floatRank value product less) value (stays f factor) rfl

/-- A product has no end if the factor stays above a half and is at most one: it does not vanish,
and does not grow. -/
theorem not_ends_of_stays (stays : Stays n b) (above : 1 / 2 < b) (at_most : b ≤ 1)
    (product : HasValue r a) (factor : HasValue f b) : ¬ Ends n ⟨r, f⟩ := by
  intro ends
  generalize state : (⟨r, f⟩ : FallingProduct Float) = p at ends
  induction ends generalizing r f a with
  | intro p _ ih =>
    subst state
    obtain ⟨c, value⟩ := exists_hasValue_mul product factor above at_most
    exact ih _ (next?_of_hasValue value factor) value (stays f factor) rfl

/-! ### Falling factors -/

/-- A difference that is positive is rounded to a positive double. -/
theorem exists_hasValue_sub (factor : HasValue f b) (step : HasValue n s) (less : s < b) :
    ∃ (digits : Nat) (place : Int), IsNearest (b - s) digits place ∧
      HasValue (f - n) (digits * 2 ^ place) := by
  obtain ⟨k, -, same⟩ := factor.exists_multiple
  obtain ⟨l, -, same'⟩ := step.exists_multiple
  have unit_pos := two_zpow_pos (-1074)
  have least : (2 : ℚ) ^ (-1074 : Int) ≤ b - s := by
    rw [same, same'] at less ⊢
    have fewer : l + 1 ≤ k := by exact_mod_cast lt_of_mul_lt_mul_right less unit_pos.le
    have fewer : (l : ℚ) + 1 ≤ k := by exact_mod_cast fewer
    have scaled := mul_le_mul_of_nonneg_right fewer unit_pos.le
    linarith
  exact (rounds_sub factor step less).exists_value (by linarith) factor (sub_le_self b step.pos.le)

private theorem lt_of_pos_sub (factor : HasValue f b) (step : HasValue n s)
    (positive : 0.0 < f - n) :
    s < b :=
  not_le.1 fun at_most => not_pos_sub factor step at_most positive

/-- A factor does not grow. -/
theorem hasValue_sub_le (factor : HasValue f b) (step : HasValue n s) {c : ℚ}
    (next : HasValue (f - n) c) : c ≤ b := by
  obtain ⟨digits, place, nearest, value⟩ :=
    exists_hasValue_sub factor step (lt_of_pos_sub factor step next.zero_lt)
  obtain ⟨m, e, -, -, rfl, canonical, -⟩ := factor.exists_canonical
  rw [next.unique value]
  exact nearest.le_of_ge canonical (sub_le_self _ step.pos.le)

/-- A step that a factor of at most one stays under is not more than half the distance of the
doubles there. -/
theorem step_le_of_stays (factor : HasValue f b) (step : HasValue n s) (same : HasValue (f - n) b)
    (at_most : b ≤ 1) :
    s ≤ 2 ^ (-54 : Int) := by
  obtain ⟨digits, place, nearest, value⟩ :=
    exists_hasValue_sub factor step (lt_of_pos_sub factor step same.zero_lt)
  have positive := step.pos
  have below : b - s < 2 ^ 52 * 2 ^ (-52 : Int) := by
    norm_num
    linarith
  have fine : (2 : ℚ) ^ place ≤ 2 ^ (-53 : Int) :=
    zpow_le_zpow_right₀ one_le_two (Int.le_of_lt_add_one (nearest.place_lt (by norm_num) below))
  have near := nearest.near
  rw [← same.unique value, sub_sub_cancel_left, abs_neg, abs_of_pos positive] at near
  norm_num at fine ⊢
  linarith

/-- A factor above one stays above one under small steps. -/
theorem one_lt_sub (factor : HasValue f b) (step : HasValue n s) (small : s ≤ 2 ^ (-54 : Int))
    (large : 1 < b) {c : ℚ} (next : HasValue (f - n) c) : 1 < c := by
  obtain ⟨digits, place, nearest, value⟩ :=
    exists_hasValue_sub factor step (lt_of_pos_sub factor step next.zero_lt)
  rw [next.unique value]
  have larger := factor.next_one large
  have near := (abs_le.1 nearest.near).2
  have leading := nearest.leading_of_one_le (by norm_num at larger small; linarith)
  generalize (digits : ℚ) * 2 ^ place = q at near ⊢
  norm_num at larger small leading
  linarith

/-- A product has an end if its factors stay only above one or at a half or below. -/
theorem ends_of_moves (step : HasValue n s) (range : ℚ → Prop)
    (closed : ∀ f b c, HasValue f b → range b → HasValue (f - n) c → range c)
    (moves : ∀ f b, HasValue f b → range b → HasValue (f - n) b → 1 < b ∨ b ≤ 1 / 2)
    (product : HasValue r a) (factor : HasValue f b) (inside : range b)
    (grown : 1 < b → 1 ≤ a) : Ends n ⟨r, f⟩ := by
  -- on the doubles that are left below the factor
  induction rank_f : floatRank f using Nat.strong_induction_on generalizing r f a b with
  | _ k ih =>
    refine ends_of_rounds product factor fun digits place nearest value => ?_
    have grown' (large : 1 < b) : (1 : ℚ) ≤ digits * 2 ^ place := by
      obtain ⟨m, e, -, -, rfl, canonical, -⟩ := product.exists_canonical
      have more := le_mul_of_one_le_right product.pos.le large.le
      exact (grown large).trans (nearest.le_of_le canonical more)
    by_cases positive : 0.0 < f - n
    · obtain ⟨_, _, -, next⟩ :=
        exists_hasValue_sub factor step (lt_of_pos_sub factor step positive)
      have inside' := closed f b _ factor inside next
      rcases (hasValue_sub_le factor step next).lt_or_eq with less | same
      · have fewer := rank_f ▸ floatRank_lt_floatRank next factor less
        exact ih _ fewer value next inside' (fun large => grown' (large.trans less)) rfl
      · rw [same] at next
        have stays := stays_of_hasValue factor next
        rcases moves f b factor inside next with large | small
        · exact ends_of_stays_large stays large value (grown' large) next
        · exact ends_of_stays_small stays small value next
    · exact ends_of_not_pos positive

private theorem ends_of_wide_step (step : HasValue n s) (wide : 2 ^ (-54 : Int) < s)
    (product : HasValue r a) (factor : HasValue f b) (grown : 1 < b → 1 ≤ a) :
    Ends n ⟨r, f⟩ := by
  refine ends_of_moves step (fun _ => True) (fun _ _ _ _ _ _ =>
    trivial) (fun f b factor _ same => .inl ?_)
    product factor trivial grown
  by_contra! at_most
  exact absurd (step_le_of_stays factor step same at_most) (not_le.2 wide)

private theorem ends_of_large_factor (step : HasValue n s) (narrow : s ≤ 2 ^ (-54 : Int))
    (product : HasValue r a) (grown : 1 ≤ a) (factor : HasValue f b) (large : 1 < b) :
    Ends n ⟨r, f⟩ :=
  ends_of_moves step (1 < ·) (fun _ _ _ factor large next =>
    one_lt_sub factor step narrow large next)
    (fun _ _ _ large _ => .inl large) product factor large fun _ => grown

private theorem ends_of_small_factor (step : HasValue n s) (product : HasValue r a)
    (factor : HasValue f b) (small : b ≤ 1 / 2) : Ends n ⟨r, f⟩ := by
  refine ends_of_moves step (· ≤ 1 / 2) (fun _ _ _ factor small next =>
    (hasValue_sub_le factor step next).trans small)
    (fun _ _ _ small _ => .inr small) product factor small fun large => ?_
  linarith

/-! ### Factors between a half and one -/

/-- Between a half and one the doubles are multiples of the same number. -/
theorem exists_multiple_of_half_lt (factor : HasValue f b) (above : 1 / 2 < b) (at_most : b ≤ 1) :
    ∃ k : Nat, 2 ^ 52 < k ∧ k ≤ 2 ^ 53 ∧ b = k * 2 ^ (-53 : Int) := by
  obtain ⟨m, e, -, -, rfl, canonical, -⟩ := factor.exists_canonical
  have short := canonical.short
  have half : ((2 ^ 52 : Nat) : ℚ) * 2 ^ (-53 : Int) = 1 / 2 := by norm_num
  have one : ((2 ^ 52 : Nat) : ℚ) * 2 ^ (-52 : Int) = 1 := by norm_num
  have half_canonical : IsCanonical (2 ^ 52) (-53) := ⟨by norm_num, by norm_num, .inl le_rfl⟩
  have one_canonical : IsCanonical (2 ^ 52) (-52) := ⟨by norm_num, by norm_num, .inl le_rfl⟩
  have above := mt (atMost_iff canonical half_canonical).1 (by rw [half]; exact not_le.2 above)
  have at_most := (atMost_iff canonical one_canonical).2 (by rwa [one])
  unfold AtMost at above at_most
  obtain ⟨rfl, more⟩ | ⟨rfl, rfl⟩ : e = -53 ∧ 2 ^ 52 < m ∨ e = -52 ∧ m = 2 ^ 52 := by
    have leading := canonical.leading
    omega
  · exact ⟨m, more, short.le, rfl⟩
  · exact ⟨2 ^ 53, by norm_num, le_rfl, by norm_num⟩

/-- A small step leaves a factor between a half and one as it is, or makes the least difference:
that only if the step is half of that, and the result is even. -/
theorem sub_of_small_step {k : Nat} (factor : HasValue f (k * 2 ^ (-53 : Int))) (above : 2 ^ 52 < k)
    (at_most : k ≤ 2 ^ 53) (step : HasValue n s) (small : s ≤ 2 ^ (-54 : Int)) :
    HasValue (f - n) (k * 2 ^ (-53 : Int)) ∧ (s = 2 ^ (-54 : Int) → Even k) ∨
      s = 2 ^ (-54 : Int) ∧ Even (k - 1) ∧
      HasValue (f - n) ((k - 1 : Nat) * 2 ^ (-53 : Int)) := by
  have positive := step.pos
  have above' : (2 : ℚ) ^ 52 + 1 ≤ k := by exact_mod_cast above
  have at_most' : (k : ℚ) ≤ 2 ^ 53 := by exact_mod_cast at_most
  have half : (2 : ℚ) ^ (-53 : Int) = 2 * 2 ^ (-54 : Int) := by norm_num
  have pred : ((k - 1 : Nat) : ℚ) = k - 1 := by rw [Nat.cast_sub (by omega), Nat.cast_one]
  have unit_pos := two_zpow_pos (-54)
  have less : s < k * 2 ^ (-53 : Int) := by
    norm_num at small ⊢
    linarith
  obtain ⟨digits, place, nearest, value⟩ := exists_hasValue_sub factor step less
  obtain rfl : place = -53 := by
    have upper : place < -52 := nearest.place_lt (by norm_num) (by norm_num; linarith)
    have lower : -54 < place := nearest.lt_place (by norm_num at small ⊢; linarith)
    omega
  have most : digits ≤ k := nearest.digits_le (sub_le_self _ positive.le)
  have least : k - 1 ≤ digits := nearest.le_digits (by rw [pred, half]; linarith)
  -- nothing lies between the factor and the double before it
  obtain rfl | rfl : digits = k ∨ digits = k - 1 := by omega
  · refine .inl ⟨value, fun half_step => nearest.even ?_⟩
    rw [sub_sub_cancel_left, abs_neg, abs_of_pos positive, half, half_step]
    ring
  · have off : k * 2 ^ (-53 : Int) - s - (k - 1 : Nat) * 2 ^ (-53 : Int) =
        2 ^ (-53 : Int) - s := by
      rw [pred]
      ring
    have near := nearest.near
    have even := nearest.even
    rw [off, half, abs_of_nonneg (by linarith)] at near even
    have same : s = 2 ^ (-54 : Int) := by
      generalize (2 : ℚ) ^ (-54 : Int) = unit at *
      linarith
    exact .inr ⟨same, even (by rw [same]; ring), value⟩

/-- A factor between a half and one stays under small steps, at the latest after one of them. -/
theorem exists_stays (factor : HasValue f b) (above : 1 / 2 < b) (at_most : b ≤ 1)
    (step : HasValue n s) (small : s ≤ 2 ^ (-54 : Int))
    (other : ¬ (b = 1 / 2 + 2 ^ (-53 : Int) ∧ s = 2 ^ (-54 : Int))) :
    ∃ c, 1 / 2 < c ∧ c ≤ 1 ∧ HasValue (f - n) c ∧ Stays n c := by
  obtain ⟨k, more, most, rfl⟩ := exists_multiple_of_half_lt factor above at_most
  rcases sub_of_small_step factor more most step small
    with ⟨same, -⟩ | ⟨half_step, even, next⟩
  · exact ⟨_, above, at_most, same, stays_of_hasValue factor same⟩
  · have more' : 2 ^ 52 < k - 1 := by
      refine lt_of_le_of_ne (by omega) fun least => other ⟨?_, half_step⟩
      obtain rfl : k = 2 ^ 52 + 1 := by omega
      norm_num
    -- from an even double half a step leads back to it
    rcases sub_of_small_step next more' (by omega) step small with ⟨same, -⟩ | ⟨-, even', -⟩
    · refine ⟨_, ?_, ?_, next, stays_of_hasValue next same⟩
      · have more : (2 : ℚ) ^ 52 < (k - 1 : Nat) := by exact_mod_cast more'
        generalize ((k - 1 : Nat) : ℚ) = i at more ⊢
        norm_num at more ⊢
        linarith
      · have most : ((k - 1 : Nat) : ℚ) ≤ 2 ^ 53 := by
          exact_mod_cast (by omega : k - 1 ≤ 2 ^ 53)
        generalize ((k - 1 : Nat) : ℚ) = i at most ⊢
        norm_num at most ⊢
        linarith
    · obtain ⟨i, even⟩ := even
      obtain ⟨j, even'⟩ := even'
      omega

end Factors

end FallingProduct

/-! ### Multifactorials of doubles -/

section Multifactorial

open FallingProduct

variable {x n : Float} {a s : ℚ}

private theorem hasValue_half : HasValue 0.5 (1 / 2) :=
  ⟨2 ^ 52, -53, Nat.two_pow_pos 52, rfl, by norm_num⟩

private theorem hasValue_one : HasValue 1.0 1 :=
  ⟨2 ^ 52, -52, Nat.two_pow_pos 52, rfl, by norm_num⟩

private theorem hasValue_above_half : HasValue 0.5000000000000001 (1 / 2 + 2 ^ (-53 : Int)) :=
  ⟨2 ^ 52 + 1, -53, Nat.succ_pos _, rfl, by norm_num⟩

private theorem hasValue_half_digit : HasValue 5.551115123125783e-17 (2 ^ (-54 : Int)) :=
  ⟨2 ^ 52, -106, Nat.two_pow_pos 52, rfl, by norm_num⟩

/-- The arguments for which a product has no end. The bound of the step is `2 ^ (-54)`, half the
distance of the doubles between a half and one, and 0.5000000000000001 is the first double above a
half. -/
structure Endless (x n : Float) : Prop where
  above : 0.5 < x
  at_most : x ≤ 1.0
  positive : 0.0 < n
  small : n ≤ 5.551115123125783e-17
  other : ¬ ((x == 0.5000000000000001) = true ∧ (n == 5.551115123125783e-17) = true)

private theorem endless_iff (value : HasValue x a) (step : HasValue n s) :
    Endless x n ↔ 1 / 2 < a ∧ a ≤ 1 ∧ s ≤ 2 ^ (-54 : Int) ∧
      ¬ (a = 1 / 2 + 2 ^ (-53 : Int) ∧ s = 2 ^ (-54 : Int)) := by
  rw [← hasValue_half.lt_iff value, ← value.le_iff hasValue_one,
    ← step.le_iff hasValue_half_digit, ← value.beq_iff hasValue_above_half,
    ← step.beq_iff hasValue_half_digit]
  constructor
  · rintro ⟨above, at_most, -, small, other⟩
    exact ⟨above, at_most, small, other⟩
  · rintro ⟨above, at_most, small, other⟩
    exact ⟨above, at_most, step.zero_lt, small, other⟩

private theorem zero_lt_unpacked_iff_not_le {u : UnpackedFloat} :
    (UnpackedFloat.zero .positive).lt u = true ↔
    u.isNaN = false ∧ ¬ u.le (.zero .positive) = true := by
  cases u with
  | notANumber => decide
  | zero sign => cases sign <;> decide
  | infinity sign => cases sign <;> decide
  | finite sign m e some =>
    cases sign with
    | negative => exact iff_of_false nofun fun accepted => accepted.2 rfl
    | positive => exact iff_of_true rfl ⟨rfl, nofun⟩

/-- The steps that are not refused are the positive ones. -/
theorem accepted_iff_pos : isNaN n = false ∧ ¬ n ≤ 0.0 ↔ 0.0 < n := by
  have number : isNaN n = n.toModel.unpack.isNaN := rfl
  rw [float_lt_iff, float_le_iff, zero_unpacked, number, zero_lt_unpacked_iff_not_le]

/-- A number that is not refused and is neither zero nor infinite is positive and finite. -/
theorem exists_hasValue (number : isNaN x = false) (above : ¬ x < 0.0)
    (changing : saturated x = false) :
    ∃ a, HasValue x a := by
  have number : x.toModel.unpack.isNaN = false := number
  rw [float_lt_iff, zero_unpacked] at above
  rw [saturated_eq] at changing
  suffices finite : ∃ m e some, x.toModel.unpack = .finite .positive m e some by
    obtain ⟨m, e, some, unpacked⟩ := finite
    exact ⟨_, m, e, some, unpacked, rfl⟩
  generalize x.toModel.unpack = u at number above changing ⊢
  cases u with
  | notANumber => cases number
  | infinity sign => cases sign <;> cases changing
  | zero sign => cases sign <;> cases changing
  | finite sign m e some =>
    cases sign with
    | negative => exact absurd rfl above
    | positive => exact ⟨m, e, some, rfl⟩

private theorem HasValue.not_lt_zero (value : HasValue x a) : ¬ x < 0.0 := by
  obtain ⟨m, e, some, unpacked, -⟩ := value
  rw [float_lt_iff, zero_unpacked, unpacked]
  exact nofun

private theorem multifactorial?_of_hasValue (value : HasValue x a) (positive : 0.0 < n) :
    multifactorial? x n = run n ⟨x, x - n⟩ := by
  obtain ⟨number, -⟩ := accepted_iff_pos.2 value.zero_lt
  obtain ⟨number', above⟩ := accepted_iff_pos.2 positive
  have changing := saturated_of_hasValue value
  rw [saturated, Bool.or_eq_false_iff] at changing
  have refused : (isNaN x || isNaN n || decide (x < 0.0) || decide (n ≤ 0.0)) = false := by
    rw [number, number', decide_eq_false value.not_lt_zero, decide_eq_false above]
    rfl
  rw [multifactorial?, refused, changing.1, changing.2]
  rfl

/-- Other arguments are answered at once. -/
theorem multifactorial?_cases (x n : Float) :
    (multifactorial? x n).isSome = true ∨ (∃ a, HasValue x a) ∧ 0.0 < n := by
  unfold multifactorial?
  split
  next => exact .inl rfl
  next accepted =>
    simp only [Bool.or_eq_true, decide_eq_true_eq, not_or, Bool.not_eq_true] at accepted
    obtain ⟨⟨⟨number, number'⟩, above⟩, above'⟩ := accepted
    split
    next => exact .inl rfl
    next nonzero =>
      split
      next => exact .inl rfl
      next finite =>
        have changing : saturated x = false := by
          rw [saturated, Bool.eq_false_iff.2 nonzero, Bool.eq_false_iff.2 finite]
          rfl
        exact .inr ⟨exists_hasValue number above changing,
          accepted_iff_pos.1 ⟨number', above'⟩⟩

/-- Nothing is left when an infinity is subtracted. -/
theorem not_pos_sub_infinity (value : HasValue x a)
    (infinite : n.toModel.unpack = .infinity .positive) :
    ¬ 0.0 < x - n := by
  obtain ⟨m, e, some, unpacked, -⟩ := value
  have least : repacked (.infinity .negative) = .infinity .negative := rfl
  rw [float_lt_iff, zero_unpacked, toModel_unpack_sub, unpacked, infinite]
  change ¬ (UnpackedFloat.zero .positive).lt (repacked (.infinity .negative)) = true
  rw [least]
  exact nofun

private theorem ends_of_not_endless (value : HasValue x a) (step : HasValue n s)
    (ending : ¬ Endless x n) :
    FallingProduct.Ends n ⟨x, x - n⟩ := by
  rw [endless_iff value step] at ending
  by_cases positive : 0.0 < x - n
  swap
  · exact ends_of_not_pos positive
  obtain ⟨_, _, -, factor⟩ := exists_hasValue_sub value step (lt_of_pos_sub value step positive)
  have at_most := hasValue_sub_le value step factor
  rcases lt_or_ge (2 ^ (-54 : Int)) s with wide | narrow
  · exact ends_of_wide_step step wide value factor fun large => (large.trans_le at_most).le
  rcases lt_or_ge 1 a with large | at_most_one
  · exact ends_of_large_factor step narrow value large.le factor
      (one_lt_sub value step narrow large factor)
  rcases le_or_gt a (1 / 2) with small | above
  · exact ends_of_small_factor step value factor (at_most.trans small)
  obtain ⟨rfl, rfl⟩ := not_not.1 fun other => ending ⟨above, at_most_one, narrow, other⟩
  -- from the first double above a half this step leads to a half
  have first : (1 / 2 + 2 ^ (-53 : Int) : ℚ) = (2 ^ 52 + 1 : Nat) * 2 ^ (-53 : Int) := by norm_num
  rcases sub_of_small_step (first ▸ value) (by omega) (by omega) step le_rfl
    with ⟨-, even⟩ | ⟨-, -, half⟩
  · exact absurd (even rfl) (by decide)
  · refine ends_of_small_factor step value half ?_
    norm_num

/-- For the arguments that are excepted the factor is soon one that stays, and the product never
vanishes. -/
theorem not_isSome_of_endless (endless : Endless x n) : ¬ (multifactorial? x n).isSome = true := by
  obtain ⟨a, value⟩ :=
    exists_hasValue_of_le (hasValue_half.zero_lt_of_lt endless.above) hasValue_one endless.at_most
  obtain ⟨s, step⟩ := exists_hasValue_of_le endless.positive hasValue_half_digit endless.small
  rw [multifactorial?_of_hasValue value endless.positive, isSome_run_iff]
  obtain ⟨above, at_most, small, other⟩ := (endless_iff value step).1 endless
  obtain ⟨c, above', at_most', factor, stays⟩ :=
    exists_stays value above at_most step small other
  exact not_ends_of_stays stays above' at_most' value factor

theorem isSome_of_not_endless (ending : ¬ Endless x n) : (multifactorial? x n).isSome = true := by
  rcases multifactorial?_cases x n with result | ⟨⟨a, value⟩, positive⟩
  · exact result
  · rw [multifactorial?_of_hasValue value positive, isSome_run_iff]
    rcases float_pos_iff.1 positive with ⟨s, step⟩ | infinite
    · exact ends_of_not_endless value step ending
    · exact ends_of_not_pos (not_pos_sub_infinity value infinite)

/-- The multifactorial of a double has a value, that is its product comes to an end, except for
numbers above a half and up to one with very small steps. -/
theorem multifactorial?_isSome_iff (x n : Float) :
    (multifactorial? x n).isSome = true ↔ ¬ Endless x n := by
  constructor
  · exact fun result endless => not_isSome_of_endless endless result
  · exact isSome_of_not_endless

/-- Steps of one are not too small. -/
theorem not_endless_one (x : Float) : ¬ Endless x 1.0 := by
  intro endless
  cases (float_le_iff _ _).1 endless.small

private theorem endless_three_quarters : Endless 0.75 1e-20 where
  above := (float_lt_iff _ _).2 rfl
  at_most := (float_le_iff _ _).2 rfl
  positive := (float_lt_iff _ _).2 rfl
  small := (float_le_iff _ _).2 rfl
  other := by
    rintro ⟨same, -⟩
    cases same

/-- Each factor is 0.75, and the product ends up as a number that this factor does not change. -/
theorem not_multifactorial?_isSome : ¬ ∀ x n : Float, (multifactorial? x n).isSome = true :=
  fun ends => not_isSome_of_endless endless_three_quarters (ends 0.75 1e-20)

end Multifactorial

end CurveBoard
