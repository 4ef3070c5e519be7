import Mathlib.Algebra.Field.Rat
import Mathlib.Computability.RegularExpressions
import Mathlib.Data.Nat.Digits.Defs
import Mathlib.Tactic.FieldSimp
import Mathlib.Tactic.Ring

/-!
# Text — patterns of words and numerals

Three combinators of regular expressions that scripts use, with the words they match, and the value
of a numeral: `wholeValue` weighs the digits before the point, `fractionValue` those behind it.
-/

namespace Text

/-! ## Patterns -/

section Patterns

variable {α : Type}

/-- `[abc]` -/
def oneOf (cs : List α) : RegularExpression α := (cs.map RegularExpression.char).sum

/-- `p+` -/
def oneOrMore (p : RegularExpression α) : RegularExpression α := p * p.star

/-- `(p)?` -/
def optional (p : RegularExpression α) : RegularExpression α := 1 + p

theorem mem_oneOf {cs w : List α} : w ∈ (oneOf cs).matches' ↔ ∃ c ∈ cs, w = [c] := by
  induction cs with
  | nil =>
    rw [oneOf, List.map_nil, List.sum_nil, RegularExpression.matches'_zero]
    refine ⟨fun h => (Language.notMem_zero w h).elim, ?_⟩
    rintro ⟨c, hc, -⟩
    cases hc
  | cons a cs ih =>
    rw [oneOf, List.map_cons, List.sum_cons, RegularExpression.matches'_add, Language.mem_add,
      RegularExpression.matches'_char, ← oneOf, ih]
    refine ⟨?_, ?_⟩
    · rintro (h | ⟨c, hc, h⟩)
      · exact ⟨a, List.mem_cons_self, h⟩
      · exact ⟨c, List.mem_cons_of_mem a hc, h⟩
    · rintro ⟨c, hc, h⟩
      obtain rfl | hc := List.mem_cons.mp hc
      · exact .inl h
      · exact .inr ⟨c, hc, h⟩

theorem mem_star_oneOf {cs w : List α} :
    w ∈ (oneOf cs).star.matches' ↔ ∀ a ∈ w, a ∈ cs := by
  rw [RegularExpression.matches'_star, Language.mem_kstar]
  constructor
  · rintro ⟨words, rfl, hwords⟩ a ha
    obtain ⟨word, hword, ha⟩ := List.mem_flatten.mp ha
    obtain ⟨c, hc, rfl⟩ := mem_oneOf.mp (hwords word hword)
    rwa [List.mem_singleton.mp ha]
  · intro h
    refine ⟨w.map fun a => [a], ?_, ?_⟩
    · rw [← List.flatMap_def, List.flatMap_singleton']
    · intro word hword
      obtain ⟨a, ha, rfl⟩ := List.mem_map.mp hword
      exact mem_oneOf.mpr ⟨a, h a ha, rfl⟩

theorem mem_oneOrMore_oneOf {cs w : List α} :
    w ∈ (oneOrMore (oneOf cs)).matches' ↔ w ≠ [] ∧ ∀ a ∈ w, a ∈ cs := by
  rw [oneOrMore, RegularExpression.matches'_mul, Language.mem_mul]
  constructor
  · rintro ⟨x, hx, y, hy, rfl⟩
    obtain ⟨c, hc, rfl⟩ := mem_oneOf.mp hx
    refine ⟨List.cons_ne_nil c y, ?_⟩
    intro a ha
    obtain rfl | ha := List.mem_cons.mp ha
    · exact hc
    · exact mem_star_oneOf.mp hy a ha
  · rintro ⟨hne, h⟩
    obtain ⟨c, y, rfl⟩ := List.exists_cons_of_ne_nil hne
    exact ⟨[c], mem_oneOf.mpr ⟨c, h c List.mem_cons_self, rfl⟩, y,
      mem_star_oneOf.mpr fun a ha => h a (List.mem_cons_of_mem c ha), rfl⟩

theorem mem_optional {p : RegularExpression α} {w : List α} :
    w ∈ (optional p).matches' ↔ w = [] ∨ w ∈ p.matches' := by
  rw [optional, RegularExpression.matches'_add, Language.mem_add,
    RegularExpression.matches'_epsilon, Language.mem_one]

theorem mem_char_mul {c : α} {p : RegularExpression α} {w : List α} :
    w ∈ (RegularExpression.char c * p).matches' ↔ ∃ v ∈ p.matches', w = c :: v := by
  rw [RegularExpression.matches'_mul, Language.mem_mul, RegularExpression.matches'_char]
  constructor
  · rintro ⟨x, rfl, v, hv, rfl⟩
    exact ⟨v, hv, rfl⟩
  · rintro ⟨v, hv, rfl⟩
    exact ⟨[c], rfl, v, hv, rfl⟩

end Patterns

/-! ## Numerals -/

section Numerals

variable {b : ℕ}

/-- The value of the digits `ds` before the point, the first of them the heaviest. -/
def wholeValue (b : ℕ) : List ℕ → ℚ
  | [] => 0
  | d :: ds => d * b ^ ds.length + wholeValue b ds

/-- The value of the digits behind the point. -/
def fractionValue (b : ℕ) : List ℕ → ℚ
  | [] => 0
  | d :: ds => (d + fractionValue b ds) / b

theorem ofDigits_reverse (ds : List ℕ) :
    ((Nat.ofDigits b ds.reverse : ℕ) : ℚ) = wholeValue b ds := by
  induction ds with
  | nil => simp [wholeValue]
  | cons d ds ih =>
    rw [List.reverse_cons, Nat.ofDigits_append, Nat.ofDigits_singleton, List.length_reverse,
      Nat.cast_add, ih, wholeValue]
    push_cast
    ring

theorem wholeValue_append (xs ys : List ℕ) :
    wholeValue b (xs ++ ys) = wholeValue b xs * b ^ ys.length + wholeValue b ys := by
  induction xs with
  | nil => simp [wholeValue]
  | cons d xs ih =>
    rw [List.cons_append, wholeValue, wholeValue, ih, List.length_append, pow_add]
    ring

@[simp] theorem wholeValue_replicate_zero (k : ℕ) : wholeValue b (List.replicate k 0) = 0 := by
  induction k with
  | zero => rfl
  | succ k ih => simp [List.replicate_succ, wholeValue, ih]

@[simp] theorem fractionValue_replicate_zero (k : ℕ) :
    fractionValue b (List.replicate k 0) = 0 := by
  induction k with
  | zero => rfl
  | succ k ih => simp [List.replicate_succ, fractionValue, ih]

theorem wholeValue_leadingZeros (ds : List ℕ) (k : ℕ) :
    wholeValue b (List.replicate k 0 ++ ds) = wholeValue b ds := by
  rw [wholeValue_append, wholeValue_replicate_zero, zero_mul, zero_add]

theorem fractionValue_trailingZeros (ds : List ℕ) (k : ℕ) :
    fractionValue b (ds ++ List.replicate k 0) = fractionValue b ds := by
  induction ds with
  | nil => exact fractionValue_replicate_zero k
  | cons d ds ih => rw [List.cons_append, fractionValue, fractionValue, ih]

/-- Behind the point every digit weighs `b ^ ds.length` times less than before it. -/
theorem fractionValue_mul_pow (hb : b ≠ 0) (ds : List ℕ) :
    fractionValue b ds * b ^ ds.length = wholeValue b ds := by
  have hb' : (b : ℚ) ≠ 0 := Nat.cast_ne_zero.mpr hb
  induction ds with
  | nil => simp [fractionValue, wholeValue]
  | cons d ds ih =>
    rw [fractionValue, wholeValue, List.length_cons, pow_succ, ← ih]
    field_simp

/-- **Scaling**: with `k` zeros behind it, a numeral of whole part `ws` and fraction `fs` denotes its
own value times `b ^ (fs.length + k)` once the point is gone. -/
theorem wholeValue_scaled (hb : b ≠ 0) (ws fs : List ℕ) (k : ℕ) :
    wholeValue b (ws ++ (fs ++ List.replicate k 0)) =
      (wholeValue b ws + fractionValue b fs) * b ^ (fs.length + k) := by
  rw [wholeValue_append, wholeValue_append, wholeValue_replicate_zero, ← fractionValue_mul_pow hb fs,
    List.length_append, List.length_replicate, pow_add]
  ring

end Numerals

end Text
