import CurveBoard.Scalar

/-!
# The order of doubles

The comparisons of doubles are those of their unpacked forms, where the infinities are at the ends.
-/
namespace CurveBoard

open Float.Model

theorem float_lt_iff (x y : Float) : x < y ↔ x.toModel.unpack.lt y.toModel.unpack = true :=
  decide_eq_true_iff

theorem float_le_iff (x y : Float) : x ≤ y ↔ x.toModel.unpack.le y.toModel.unpack = true :=
  decide_eq_true_iff

private theorem unpack_infinity :
    (Scalar.infinity : Float).toModel.unpack = .infinity .positive := by
  rfl

private theorem unpack_negInfinity :
    (-Scalar.infinity : Float).toModel.unpack = .infinity .negative := by
  rfl

/-- Only an infinity is equal to itself. -/
theorem eq_infinity_of_beq {u : UnpackedFloat} {sign : UnpackedFloat.Sign}
    (same : u.beq (.infinity sign) = true) : u = .infinity sign := by
  cases u with
  | infinity sign' => cases sign <;> cases sign' <;> first | rfl | cases same
  | finite sign' mantissa exponent positive => cases sign <;> cases sign' <;> cases same
  | _ => cases sign <;> cases same

/-- Nothing is above positive infinity. -/
theorem not_lt_of_beq_infinity {x y : Float} (infinite : (x == Scalar.infinity) = true) :
    ¬ x < y := by
  intro less
  have top : x.toModel.unpack = .infinity .positive :=
    eq_infinity_of_beq (unpack_infinity ▸ infinite)
  have below : x.toModel.unpack.lt y.toModel.unpack = true := of_decide_eq_true less
  rw [top] at below
  -- infinity is below nothing, whatever the other number is
  cases found : y.toModel.unpack with
  | infinity sign => rw [found] at below; cases sign <;> cases below
  | _ => rw [found] at below; cases below

/-- Nothing is below negative infinity. -/
theorem not_lt_of_beq_negInfinity {x y : Float} (infinite : (x == -Scalar.infinity) = true) :
    ¬ y < x := by
  intro less
  have bottom : x.toModel.unpack = .infinity .negative :=
    eq_infinity_of_beq (unpack_negInfinity ▸ infinite)
  have below : y.toModel.unpack.lt x.toModel.unpack = true := of_decide_eq_true less
  rw [bottom] at below
  cases found : y.toModel.unpack with
  | infinity sign => rw [found] at below; cases sign <;> cases below
  | finite sign mantissa exponent positive => rw [found] at below; cases sign <;> cases below
  | _ => rw [found] at below; cases below

/-- What is a number is between the infinities. -/
theorem unpacked_between_infinities {u : UnpackedFloat} (number : u.isNaN = false) :
    (UnpackedFloat.infinity .negative).le u = true ∧ u.le (.infinity .positive) = true := by
  cases u with
  | notANumber => cases number
  | infinity sign => cases sign <;> exact ⟨rfl, rfl⟩
  | zero sign => cases sign <;> exact ⟨rfl, rfl⟩
  | finite sign mantissa exponent positive => cases sign <;> exact ⟨rfl, rfl⟩

theorem between_infinities {x : Float} (number : x.isNaN = false) :
    -Scalar.infinity ≤ x ∧ x ≤ Scalar.infinity := by
  have between := unpacked_between_infinities (u := x.toModel.unpack) number
  rw [← unpack_negInfinity, ← unpack_infinity] at between
  exact ⟨decide_eq_true between.1, decide_eq_true between.2⟩

/-- Only numbers compare. -/
theorem isNaN_eq_false_of_le {x y : Float} (less : x ≤ y) : x.isNaN = false := by
  have below : x.toModel.unpack.le y.toModel.unpack = true := of_decide_eq_true less
  have number : x.toModel.unpack.isNaN = false := by
    cases found : x.toModel.unpack with
    | notANumber => rw [found] at below; cases below
    | _ => rfl
  exact number

end CurveBoard
