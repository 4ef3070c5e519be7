import Mathlib.Algebra.Group.Basic
import Mathlib.Order.Lattice

/-!
# Tally — counters that are reset lazily

A tally counts the amounts of one period and starts again when an amount of another period comes.
As long as the periods do not run backwards it holds the sum of all amounts of its period
(`Tracks`), although it forgets everything about the earlier ones.
-/

variable {T M : Type*}

/-- What has been counted in a period. -/
structure Tally (T M : Type*) where
  period : T
  count : M

namespace Tally

variable [LinearOrder T] [AddCommMonoid M]

/-- The amount `n` of the period `d`. -/
def add (c : Tally T M) (d : T) (n : M) : Tally T M :=
  ⟨d, (if c.period = d then c.count else 0) + n⟩

/-- The sums `total` of the periods with the amount `n` of the period `d` added. -/
def withAmount (total : T → M) (d : T) (n : M) : T → M := fun e =>
  total e + if e = d then n else 0

/-- The tally holds the sum of its period, and there are no amounts of a later one; no period after
`last` has been counted. -/
structure Tracks (c : Tally T M) (total : T → M) (last : T) : Prop where
  count : c.count = total c.period
  latest : ∀ d, total d ≠ 0 → d ≤ c.period ∧ c.period ≤ last

variable {c : Tally T M} {total : T → M} {last d : T}

theorem tracks_of_zero (h : c.count = 0) (htotal : ∀ d, total d = 0) : Tracks c total last where
  count := by rw [h, htotal]
  latest d hd := absurd (htotal d) hd

theorem Tracks.mono (h : Tracks c total last) (hle : last ≤ d) : Tracks c total d where
  count := h.count
  latest e he := ⟨(h.latest e he).1, (h.latest e he).2.trans hle⟩

/-- What the tally holds when an amount of the period `d` comes: the sum of `d` so far. -/
theorem Tracks.carried (h : Tracks c total last) (hd : last ≤ d) :
    (if c.period = d then c.count else 0) = total d := by
  split_ifs with he
  · rw [h.count, he]
  · by_contra hne
    obtain ⟨hle, hlast⟩ := h.latest d fun h0 => hne h0.symm
    exact he (le_antisymm (hlast.trans hd) hle)

/-- **An amount** of the last period or of a later one is counted. -/
theorem Tracks.add (h : Tracks c total last) (hd : last ≤ d) (n : M) :
    Tracks (c.add d n) (withAmount total d n) d where
  count := by
    rw [Tally.add, h.carried hd, withAmount, if_pos rfl]
  latest e he := by
    refine ⟨?_, le_rfl⟩
    show e ≤ d
    by_cases hed : e = d
    · exact hed.le
    · rw [withAmount, if_neg hed, add_zero] at he
      obtain ⟨hle, hlast⟩ := h.latest e he
      exact hle.trans (hlast.trans hd)

/-- Starting again loses nothing if there is no amount of the period yet. -/
theorem tracks_restart (hlatest : ∀ e, total e ≠ 0 → e ≤ d) (hzero : total d = 0) (n : M) :
    Tracks ⟨d, n⟩ (withAmount total d n) d where
  count := by rw [withAmount, if_pos rfl, hzero, zero_add]
  latest e he := by
    refine ⟨?_, le_rfl⟩
    show e ≤ d
    by_cases hed : e = d
    · exact hed.le
    · rw [withAmount, if_neg hed, add_zero] at he
      exact hlatest e he

end Tally
