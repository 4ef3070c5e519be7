import Mathlib.Algebra.BigOperators.Group.List.Basic
import Mathlib.Algebra.GroupWithZero.Nat
import Mathlib.Algebra.Order.Floor.Div
import Mathlib.Algebra.Order.Ring.Nat
import Mathlib.Data.Nat.ModEq

/-!
# Rounding — shares of an amount in natural numbers

`amount * rate / scale` is a share rounded down.  What is left of the amount is the complementary
share rounded up (`sub_div_eq_ceilDiv`), and over a list of amounts the shares lose less than one
unit each (`sum_div_le`, `div_sum_lt`).
-/

namespace Rounding

variable {amount amount' rate rest scale : ℕ}

theorem mul_div_le (h : rate ≤ scale) : amount * rate / scale ≤ amount := by
  refine Nat.div_le_of_le_mul ?_
  rw [Nat.mul_comm scale]
  exact Nat.mul_le_mul_left amount h

theorem mul_div_mono (h : amount ≤ amount') : amount * rate / scale ≤ amount' * rate / scale :=
  Nat.div_le_div_right (Nat.mul_le_mul_right rate h)

/-- Only the full rate gives the whole of a positive amount. -/
theorem mul_div_eq_self_iff (hscale : 0 < scale) (h : rate ≤ scale) (hpos : 0 < amount) :
    amount * rate / scale = amount ↔ rate = scale := by
  constructor
  · intro he
    have hle := Nat.div_mul_le_self (amount * rate) scale
    rw [he] at hle
    exact le_antisymm h (Nat.le_of_mul_le_mul_left hle hpos)
  · rintro rfl
    exact Nat.mul_div_cancel amount hscale

/-- What a share rounded down leaves is the other share rounded up. -/
theorem sub_div_eq_ceilDiv (hscale : 0 < scale) (h : rate + rest = scale) (amount : ℕ) :
    amount - amount * rate / scale = (amount * rest) ⌈/⌉ scale := by
  have hsum : amount * rate + amount * rest = amount * scale := by rw [← Nat.mul_add, h]
  have hmod := Nat.div_add_mod (amount * rate) scale
  have hlt := Nat.mod_lt (amount * rate) hscale
  have hle : amount * rate / scale ≤ amount := mul_div_le (by omega)
  rw [Nat.ceilDiv_eq_add_pred_div]
  refine (Nat.div_eq_of_lt_le ?_ ?_).symm
  · rw [Nat.sub_mul, Nat.mul_comm (amount * rate / scale)]
    omega
  · rw [Nat.add_mul, Nat.sub_mul, Nat.one_mul, Nat.mul_comm (amount * rate / scale)]
    have hbound : scale * (amount * rate / scale) ≤ amount * scale := by omega
    omega

/-- Rounding up adds less than one unit. -/
theorem ceilDiv_mul_lt (hscale : 0 < scale) (amount : ℕ) :
    amount ⌈/⌉ scale * scale < amount + scale := by
  have hle := Nat.div_mul_le_self (amount + scale - 1) scale
  rw [Nat.ceilDiv_eq_add_pred_div]
  omega

/-- The shares of the parts are no more than the share of the sum. -/
theorem sum_div_le (amounts : List ℕ) (rate scale : ℕ) :
    (amounts.map (· * rate / scale)).sum ≤ amounts.sum * rate / scale := by
  induction amounts with
  | nil => simp
  | cons a amounts ih =>
    rw [List.map_cons, List.sum_cons, List.sum_cons, Nat.add_mul]
    exact (Nat.add_le_add_left ih _).trans Nat.div_add_div_le_add_div

/-- They fall short of it by less than one unit for each part. -/
theorem div_sum_lt {amounts : List ℕ} (hne : amounts ≠ []) (rate scale : ℕ) :
    amounts.sum * rate / scale < (amounts.map (· * rate / scale)).sum + amounts.length := by
  induction amounts with
  | nil => exact absurd rfl hne
  | cons a amounts ih =>
    rw [List.map_cons, List.sum_cons, List.sum_cons, List.length_cons, Nat.add_mul]
    by_cases hnil : amounts = []
    · rw [hnil]
      simp
    · have hrest := ih hnil
      have hadd := Nat.add_div_le_div_add_div_add_one (a * rate) (amounts.sum * rate) scale
      omega

end Rounding
