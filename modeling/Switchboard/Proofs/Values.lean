import Mathlib.Algebra.Order.Field.Rat
import Mathlib.Tactic.FieldSimp
import Mathlib.Tactic.NormNum
import Mathlib.Tactic.Positivity
import Switchboard.Number.Binary

namespace Switchboard
namespace Binary

/-!
# The values of numbers

A finite number stands for a rational number.  Comparing two numbers multiplies their sizes out,
so that only whole numbers are compared; the outcome is that of comparing the values.  A number
that lies between two finite ones is finite itself.
-/

/-- The value of a finite number. -/
def value? : Binary -> Option ℚ
  | .finite negative significand exponent =>
      let size : ℚ := significand * 2 ^ exponent
      some (if negative then -size else size)
  | _ => none

theorem ratio_pos (significand : Nat) (exponent : Int) : 0 < (ratio significand exponent).2 := by
  rw [ratio]
  split
  · exact Nat.one_pos
  · rw [Nat.shiftLeft_eq, Nat.one_mul]
    exact Nat.two_pow_pos _

theorem ratio_value (significand : Nat) (exponent : Int) :
    ((ratio significand exponent).1 : ℚ) / (ratio significand exponent).2 =
      significand * 2 ^ exponent := by
  rw [ratio]
  split
  · rename_i positive
    rcases Int.eq_ofNat_of_zero_le positive with ⟨power, same⟩
    simp [same, Nat.shiftLeft_eq]
  · rename_i negative
    rcases Int.eq_ofNat_of_zero_le (by omega : 0 <= -exponent) with ⟨power, same⟩
    have opposite : exponent = -(power : Int) := by omega
    simp [opposite, Nat.shiftLeft_eq, div_eq_mul_inv]

/-- A whole number with a sign, over a denominator. -/
theorem signed_mul_eq (negative : Bool) (numerator denominator other : Nat)
    (positive : 0 < denominator) :
    ((if negative then -(numerator * other : Nat) else (numerator * other : Nat) : Int) : ℚ) =
      (if negative then -((numerator : ℚ) / denominator) else (numerator : ℚ) / denominator) *
        (denominator * other) := by
  have nonzero : (denominator : ℚ) ≠ 0 := by positivity
  cases negative <;> simp <;> field_simp

/-- Finite numbers compare as their values do. -/
theorem atMost_iff {low high : Binary} {least greatest : ℚ} (lowValue : low.value? = some least)
    (highValue : high.value? = some greatest) : low.atMost high = true ↔ least <= greatest := by
  cases low with
  | infinite negative => cases lowValue
  | notANumber => cases lowValue
  | finite negative significand exponent =>
      cases high with
      | infinite negative => cases highValue
      | notANumber => cases highValue
      | finite negative' significand' exponent' =>
          injection lowValue with lowSame
          injection highValue with highSame
          have left := ratio_pos significand exponent
          have right := ratio_pos significand' exponent'
          have common : (0 : ℚ) <
              (ratio significand exponent).2 * (ratio significand' exponent').2 := by positivity
          rw [← lowSame, ← highSame, ← ratio_value significand exponent,
            ← ratio_value significand' exponent', atMost]
          simp only [decide_eq_true_eq]
          rw [← Int.cast_le (R := ℚ), signed_mul_eq _ _ _ _ left, signed_mul_eq _ _ _ _ right,
            mul_comm ((ratio significand' exponent').2 : ℚ), mul_le_mul_iff_left₀ common]

/-- A number lies between two finite ones exactly if it has a value and this lies between theirs. -/
theorem between_iff {low high number : Binary} {least greatest : ℚ}
    (lowValue : low.value? = some least) (highValue : high.value? = some greatest) :
    (low.atMost number = true ∧ number.atMost high = true) ↔
      Exists fun value : ℚ => number.value? = some value ∧ least <= value ∧ value <= greatest := by
  cases number with
  | finite negative significand exponent =>
      rw [atMost_iff lowValue rfl, atMost_iff rfl highValue]
      constructor
      · exact fun bounds => ⟨_, rfl, bounds⟩
      · rintro ⟨value, same, bounds⟩
        injection same with same
        rw [same]
        exact bounds
  | infinite negative =>
      refine iff_of_false ?_ (fun ⟨value, impossible, _⟩ => by cases impossible)
      cases low with
      | finite _ _ _ =>
          cases high with
          | finite _ _ _ => cases negative <;> simp [atMost]
          | infinite _ => cases highValue
          | notANumber => cases highValue
      | infinite _ => cases lowValue
      | notANumber => cases lowValue
  | notANumber =>
      refine iff_of_false ?_ (fun ⟨value, impossible, _⟩ => by cases impossible)
      simp [atMost]

end Binary
end Switchboard
