import Mathlib.Data.List.TakeWhile
import Mathlib.Data.Nat.Digits.Lemmas

/-!
# Radix — numbers and their digits

The `k` lowest digits of a number are what it is modulo `b ^ k` (`mod_pow_eq`).  A string of digits,
the most significant first, is its leading zeros and a number.  `recode b c` writes both in the base
`c` instead of `b`, and is undone by `recode c b` (`recode_recode`).
-/

namespace Radix

variable {b c : ℕ} {ds : List ℕ}

/-- Numbers with the same `k` lowest digits. -/
theorem mod_pow_eq {m n k : ℕ} (h : ∀ i < k, m / b ^ i % b = n / b ^ i % b) :
    m % b ^ k = n % b ^ k := by
  induction k with
  | zero => rw [Nat.pow_zero, Nat.mod_one, Nat.mod_one]
  | succ k ih =>
    rw [Nat.mod_pow_succ, Nat.mod_pow_succ, h k (Nat.lt_succ_self k),
      ih fun i hi => h i (Nat.lt_succ_of_lt hi)]

/-- The same leading zeros and the same number in the base `c`. -/
def recode (b c : ℕ) (ds : List ℕ) : List ℕ :=
  ds.takeWhile (· = 0) ++ (Nat.digits c (Nat.ofDigits b ds.reverse)).reverse

/-- Leading zeros do not count. -/
theorem ofDigits_zeros_append {zs : List ℕ} (hzs : ∀ z ∈ zs, z = 0) (b : ℕ) (ds : List ℕ) :
    Nat.ofDigits b (zs ++ ds).reverse = Nat.ofDigits b ds.reverse := by
  induction zs with
  | nil => rfl
  | cons z zs ih =>
    obtain ⟨rfl, hrest⟩ := List.forall_mem_cons.mp hzs
    rw [List.cons_append, List.reverse_cons, Nat.ofDigits_append, Nat.ofDigits_singleton,
      Nat.mul_zero, Nat.add_zero, ih hrest]

theorem takeWhile_zeros_append {zs : List ℕ} (hzs : ∀ z ∈ zs, z = 0) (hds : ds.head? ≠ some 0) :
    (zs ++ ds).takeWhile (· = 0) = zs := by
  rw [List.takeWhile_append_of_pos fun z hz => decide_eq_true (hzs z hz)]
  cases ds with
  | nil => simp
  | cons d ds =>
    have hd : ¬ d = 0 := fun h => hds (by rw [h]; rfl)
    rw [List.takeWhile_cons_of_neg (by simpa using hd), List.append_nil]

theorem head?_digits_ne_zero (c N : ℕ) : (Nat.digits c N).reverse.head? ≠ some 0 := by
  rw [List.head?_reverse]
  by_cases hN : N = 0
  · rw [hN, Nat.digits_zero]
    simp
  · rw [List.getLast?_eq_getLast_of_ne_nil (Nat.digits_ne_nil_iff_ne_zero.mpr hN)]
    exact fun h => Nat.getLast_digit_ne_zero c hN (Option.some.inj h)

/-- The digits of a number that does not start with a zero. -/
theorem digits_ofDigits_reverse (hb : 1 < b) (hds : ∀ d ∈ ds, d < b) (hhead : ds.head? ≠ some 0) :
    (Nat.digits b (Nat.ofDigits b ds.reverse)).reverse = ds := by
  rw [Nat.digits_ofDigits b hb ds.reverse fun d hd => hds d (List.mem_reverse.mp hd),
    List.reverse_reverse]
  intro hne hlast
  rw [List.getLast_reverse, List.head_eq_iff_head?_eq_some] at hlast
  exact hhead hlast

/-- **Change of base** there and back. -/
theorem recode_recode (hb : 1 < b) (hds : ∀ d ∈ ds, d < b) (c : ℕ) :
    recode c b (recode b c ds) = ds := by
  have hzs : ∀ z ∈ ds.takeWhile (· = 0), z = 0 := fun z hz => by
    simpa using List.mem_takeWhile_imp hz
  have hsplit := List.takeWhile_append_dropWhile (p := (· = 0)) (l := ds)
  have hhead : (ds.dropWhile (· = 0)).head? ≠ some 0 := by
    intro h
    have hnot := List.head?_dropWhile_not (· = 0) ds
    rw [h] at hnot
    simp at hnot
  have hrest : ∀ d ∈ ds.dropWhile (· = 0), d < b := fun d hd =>
    hds d ((List.dropWhile_sublist _).subset hd)
  have hvalue := ofDigits_zeros_append hzs b (ds.dropWhile (· = 0))
  rw [hsplit] at hvalue
  rw [recode, recode, takeWhile_zeros_append hzs (head?_digits_ne_zero c _),
    ofDigits_zeros_append hzs, List.reverse_reverse, Nat.ofDigits_digits, hvalue,
    digits_ofDigits_reverse hb hrest hhead, hsplit]

theorem recode_lt (hc : 1 < c) : ∀ d ∈ recode b c ds, d < c := by
  intro d hd
  rcases List.mem_append.mp hd with hz | hd
  · have h0 : d = 0 := by simpa using List.mem_takeWhile_imp hz
    omega
  · exact Nat.digits_lt_base hc (List.mem_reverse.mp hd)

end Radix
