import Mathlib.Algebra.Order.Field.Power
import Mathlib.Algebra.Order.Round
import Mathlib.Data.Int.Log
import Mathlib.Data.Rat.Floor
import Mathlib.Tactic.Linarith
import Mathlib.Tactic.Positivity

/-!
# Floating — arithmetic with `p` significant bits

`fl p q` is the number with `p` significant bits nearest to `q`, ties to even, without bounds on the
exponent.  Two facts about it are enough for the arithmetic of integers: integers below `2 ^ p` are
kept (`fl_intCast`), and the relative error is at most `2 ^ (-p)` (`abs_fl_sub_le`).  From them:
the floor of a rounded quotient of natural numbers below `2 ^ p` is their integer quotient
(`floor_fl_div`), and a product that is rounded before it is divided shifts the floor by at most one
if the quotient has two bits to spare (`abs_floor_fl_mul_div_le`).
-/

namespace Floating

/-- The integer nearest to `q`, the even one of two. -/
def nearest (q : ℚ) : ℤ :=
  if Int.fract q = 1 / 2 then if Even ⌊q⌋ then ⌊q⌋ else ⌊q⌋ + 1 else round q

/-- The distance of the numbers with `p` significant bits in the binade of `q`. -/
def ulp (p : ℕ) (q : ℚ) : ℚ := 2 ^ (Int.log 2 |q| + 1 - p)

/-- `q` rounded to `p` significant bits. -/
def fl (p : ℕ) (q : ℚ) : ℚ := nearest (q / ulp p q) * ulp p q

variable {p : ℕ} {q : ℚ}

/-! ## The nearest integer -/

theorem nearest_intCast (n : ℤ) : nearest n = n := by
  rw [nearest, if_neg, round_intCast]
  rw [Int.fract_intCast]
  norm_num

theorem abs_nearest_sub_le (q : ℚ) : |(nearest q : ℚ) - q| ≤ 1 / 2 := by
  unfold nearest
  split_ifs with hhalf heven
  · have := Int.self_sub_floor q
    rw [abs_le]
    constructor <;> linarith
  · have := Int.self_sub_floor q
    push_cast
    rw [abs_le]
    constructor <;> linarith
  · rw [abs_sub_comm]
    exact abs_sub_round q

/-! ## The two facts -/

theorem ulp_pos : 0 < ulp p q := zpow_pos (by norm_num) _

/-- Half an ulp is small against the number. -/
theorem ulp_le (hq : q ≠ 0) : ulp p q / 2 ≤ |q| / 2 ^ p := by
  have hlog : (2 : ℚ) ^ Int.log 2 |q| ≤ |q| := by
    exact_mod_cast Int.zpow_log_le_self (b := 2) (by norm_num) (abs_pos.mpr hq)
  have hulp : ulp p q / 2 = 2 ^ Int.log 2 |q| / 2 ^ p := by
    rw [ulp, zpow_sub₀ (by norm_num), zpow_add_one₀ (by norm_num), zpow_natCast]
    ring
  rw [hulp]
  exact div_le_div_of_nonneg_right hlog (by positivity)

/-- **Relative error** of a rounding. -/
theorem abs_fl_sub_le (p : ℕ) (q : ℚ) : |fl p q - q| ≤ |q| / 2 ^ p := by
  rcases eq_or_ne q 0 with rfl | hq
  · rw [fl, zero_div, show nearest 0 = 0 from nearest_intCast 0]
    norm_num
  have hpos : 0 < ulp p q := ulp_pos
  have hscale : fl p q - q = (nearest (q / ulp p q) - q / ulp p q) * ulp p q := by
    rw [fl, sub_mul, div_mul_cancel₀ q hpos.ne']
  calc |fl p q - q| = |nearest (q / ulp p q) - q / ulp p q| * ulp p q := by
        rw [hscale, abs_mul, abs_of_pos hpos]
    _ ≤ 1 / 2 * ulp p q := mul_le_mul_of_nonneg_right (abs_nearest_sub_le _) hpos.le
    _ = ulp p q / 2 := by ring
    _ ≤ |q| / 2 ^ p := ulp_le hq

/-- **Integers** below `2 ^ p` are kept. -/
theorem fl_intCast {n : ℤ} (h : |n| < 2 ^ p) : fl p n = n := by
  rcases eq_or_ne n 0 with rfl | hn
  · rw [fl, Int.cast_zero, zero_div, show nearest 0 = 0 from nearest_intCast 0, Int.cast_zero,
      zero_mul]
  have hlog : Int.log 2 |(n : ℚ)| < p := by
    refine (Int.lt_zpow_iff_log_lt (by norm_num) (abs_pos.mpr (Int.cast_ne_zero.mpr hn))).mp ?_
    exact_mod_cast h
  obtain ⟨k, hk⟩ : ∃ k : ℕ, Int.log 2 |(n : ℚ)| + 1 - p = -k :=
    ⟨(p - 1 - Int.log 2 |(n : ℚ)|).toNat, by omega⟩
  have hulp : ulp p n = 1 / 2 ^ k := by
    rw [ulp, hk, zpow_neg, zpow_natCast, one_div]
  have hquot : (n : ℚ) / ulp p n = ((n * 2 ^ k : ℤ) : ℚ) := by
    rw [hulp, div_div_eq_mul_div, div_one]
    push_cast
    rfl
  rw [fl, hquot, nearest_intCast, ← hquot, div_mul_cancel₀ _ ulp_pos.ne']

theorem fl_natCast {n : ℕ} (h : n < 2 ^ p) : fl p n = n := by
  have hn : |(n : ℤ)| < 2 ^ p := by
    rw [Nat.abs_cast]
    exact_mod_cast h
  exact_mod_cast fl_intCast hn

/-- **Clamps**: an integer that is rounded before it is brought into a short range ends up where
it does without rounding. -/
theorem clamp_fl {d : ℤ} {b : ℕ} (hb : 2 * b < 2 ^ p) (hp : 0 < p) :
    max 0 (min (fl p d) b) = max 0 (min (d : ℚ) b) := by
  rcases lt_or_ge |d| (2 ^ p) with hd | hd
  · rw [fl_intCast hd]
  have herror : |fl p d - d| ≤ |(d : ℚ)| / 2 := by
    refine (abs_fl_sub_le p d).trans (div_le_div_of_nonneg_left (abs_nonneg _) (by norm_num) ?_)
    exact_mod_cast Nat.pow_le_pow_right (n := 2) (by norm_num) hp
  have hb' : (2 : ℚ) * b < 2 ^ p := by exact_mod_cast hb
  have hb₀ : (0 : ℚ) ≤ b := Nat.cast_nonneg b
  have hd' : (2 : ℚ) ^ p ≤ |(d : ℚ)| := by exact_mod_cast hd
  rw [abs_le] at herror
  rcases le_total 0 (d : ℚ) with hsign | hsign
  · rw [abs_of_nonneg hsign] at hd' herror
    rw [min_eq_right (by linarith), min_eq_right (by linarith)]
  · rw [abs_of_nonpos hsign] at hd' herror
    rw [min_eq_left (by linarith), min_eq_left (by linarith), max_eq_left (by linarith),
      max_eq_left (by linarith)]

/-! ## Floors of quotients -/

theorem floor_natCast_div (a b : ℕ) : ⌊(a : ℚ) / b⌋ = (a / b : ℕ) :=
  Rat.floor_natCast_div_natCast a b

/-- **Quotients**: the floor of a rounded quotient is the integer quotient. -/
theorem floor_fl_div {a b : ℕ} (ha : a < 2 ^ p) (hb : 0 < b) :
    ⌊fl p ((a : ℚ) / b)⌋ = (a / b : ℕ) := by
  have hbq : (0 : ℚ) < b := Nat.cast_pos.mpr hb
  by_cases hdvd : b ∣ a
  · obtain ⟨m, rfl⟩ := hdvd
    have hquot : ((b * m : ℕ) : ℚ) / b = (m : ℕ) := by
      rw [Nat.cast_mul, mul_div_cancel_left₀ _ hbq.ne']
    have hm : m < 2 ^ p := (Nat.le_mul_of_pos_left m hb).trans_lt ha
    rw [hquot, fl_natCast hm, Int.floor_natCast, Nat.mul_div_cancel_left m hb]
  -- the quotient is further from the integers around it than the rounding can bring it
  have hsmall : |fl p ((a : ℚ) / b) - a / b| < 1 / b := by
    refine (abs_fl_sub_le p _).trans_lt ?_
    rw [abs_of_nonneg (by positivity), div_div, mul_comm, ← div_div]
    refine div_lt_div_of_pos_right ?_ hbq
    rw [div_lt_one (by positivity)]
    exact_mod_cast ha
  have hmod : (1 : ℚ) ≤ (a % b : ℕ) := by
    exact_mod_cast Nat.pos_of_ne_zero fun h => hdvd (Nat.dvd_of_mod_eq_zero h)
  have hlt : ((a % b : ℕ) : ℚ) ≤ b - 1 := by
    rw [le_sub_iff_add_le]
    exact_mod_cast Nat.mod_lt a hb
  have hquot : (a : ℚ) / b = (a / b : ℕ) + (a % b : ℕ) / b := by
    rw [div_eq_iff hbq.ne', add_mul, div_mul_cancel₀ _ hbq.ne', mul_comm]
    exact_mod_cast (Nat.div_add_mod a b).symm
  have hbelow : (1 : ℚ) / b ≤ (a % b : ℕ) / b := div_le_div_of_nonneg_right hmod hbq.le
  have habove : ((a % b : ℕ) : ℚ) / b ≤ 1 - 1 / b := by
    rw [one_sub_div hbq.ne']
    exact div_le_div_of_nonneg_right hlt hbq.le
  rw [abs_lt] at hsmall
  rw [Int.floor_eq_iff, Int.cast_natCast]
  constructor <;> linarith

theorem abs_floor_sub_floor_le {q q' : ℚ} (h : |q - q'| < 1) : |⌊q⌋ - ⌊q'⌋| ≤ 1 := by
  rw [abs_lt] at h
  have hq := Int.floor_le q
  have hq' := Int.floor_le q'
  have hlt := Int.lt_floor_add_one q
  have hlt' := Int.lt_floor_add_one q'
  have hbelow : ⌊q'⌋ < ⌊q⌋ + 2 := by
    rw [← Int.cast_lt (R := ℚ)]
    push_cast
    linarith
  have habove : ⌊q⌋ < ⌊q'⌋ + 2 := by
    rw [← Int.cast_lt (R := ℚ)]
    push_cast
    linarith
  rw [abs_le]
  constructor <;> omega

/-- **Products and quotients**: with two bits to spare, rounding both shifts the floor by at most
one. -/
theorem abs_floor_fl_mul_div_le {a e b : ℕ} (hb : 0 < b) (he : e ≤ b) (ha : 4 * a ≤ 2 ^ p) :
    |⌊fl p (fl p ((a : ℚ) * e) / b)⌋ - (a * e / b : ℕ)| ≤ 1 := by
  have hbq : (0 : ℚ) < b := Nat.cast_pos.mpr hb
  have hpow : (0 : ℚ) < 2 ^ p := by positivity
  -- the exact quotient is at most `a`
  have hquot : (a : ℚ) * e / b ≤ 2 ^ p / 4 := by
    rw [div_le_iff₀ hbq]
    have ha' : (a : ℚ) ≤ 2 ^ p / 4 := by
      rw [le_div_iff₀ (by norm_num), mul_comm]
      exact_mod_cast ha
    exact mul_le_mul ha' (by exact_mod_cast he) (Nat.cast_nonneg e) (by positivity)
  have hprod : |fl p ((a : ℚ) * e) / b - a * e / b| ≤ 1 / 4 := by
    rw [← sub_div, abs_div, abs_of_pos hbq]
    calc |fl p ((a : ℚ) * e) - a * e| / b ≤ |(a : ℚ) * e| / 2 ^ p / b :=
          div_le_div_of_nonneg_right (abs_fl_sub_le p _) hbq.le
      _ = a * e / b / 2 ^ p := by rw [abs_of_nonneg (by positivity), div_right_comm]
      _ ≤ 2 ^ p / 4 / 2 ^ p := div_le_div_of_nonneg_right hquot hpow.le
      _ = 1 / 4 := by rw [div_div_cancel_left' hpow.ne', one_div]
  have hfl : |fl p (fl p ((a : ℚ) * e) / b) - fl p ((a : ℚ) * e) / b| ≤ 1 / 2 := by
    have hone : (1 : ℚ) ≤ 2 ^ p := one_le_pow₀ (by norm_num)
    have hsize : |fl p ((a : ℚ) * e) / b| ≤ 2 ^ p / 2 := by
      have hnonneg : (0 : ℚ) ≤ a * e / b := by positivity
      rw [abs_le] at hprod ⊢
      constructor <;> linarith
    refine (abs_fl_sub_le p _).trans ?_
    rw [div_le_iff₀ hpow]
    linarith
  have hclose : |fl p (fl p ((a : ℚ) * e) / b) - a * e / b| < 1 := by
    rw [abs_le] at hprod hfl
    rw [abs_lt]
    constructor <;> linarith
  have hfloor := floor_natCast_div (a * e) b
  rw [Nat.cast_mul] at hfloor
  rw [← hfloor]
  exact abs_floor_sub_floor_le hclose

end Floating
