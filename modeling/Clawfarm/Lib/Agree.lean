import Clawfarm.Lib.Checked
import Mathlib.Data.Option.Basic

/-!
# Agree — one computation in two states

`Agree R x y`: the computations `x` and `y` fail with the same error, or both succeed with results
that `R` relates.  A block is taken through both states line by line (`Agree.bind`): guards agree
when their conditions are equivalent, lookups when they find related values.
-/

namespace Checked

variable {ε ε' α β γ δ : Type} {R : α → β → Prop} {S : γ → δ → Prop}

inductive Agree (R : α → β → Prop) : Except ε α → Except ε β → Prop
  | error {e : ε} : Agree R (.error e) (.error e)
  | ok {a : α} {b : β} (h : R a b) : Agree R (.ok a) (.ok b)

theorem Agree.refl {R : α → α → Prop} (h : ∀ a, R a a) (x : Except ε α) : Agree R x x := by
  cases x with
  | error e => exact .error
  | ok a => exact .ok (h a)

theorem Agree.mono {R' : α → β → Prop} {x : Except ε α} {y : Except ε β} (h : Agree R x y)
    (hR : ∀ a b, x = .ok a → y = .ok b → R a b → R' a b) : Agree R' x y := by
  cases h with
  | error => exact .error
  | ok h => exact .ok (hR _ _ rfl rfl h)

/-- **Blocks**: a block agrees if its first line does and the rest does on what it finds. -/
theorem Agree.bind {x : Except ε α} {y : Except ε β} {f : α → Except ε γ} {g : β → Except ε δ}
    (h : Agree R x y)
    (hf : ∀ a b, x = .ok a → y = .ok b → R a b → Agree S (f a) (g b)) :
    Agree S (x >>= f) (y >>= g) := by
  cases h with
  | error => exact .error
  | ok h => exact hf _ _ rfl rfl h

/-- A line that both computations share. -/
theorem agree_bind {x : Except ε α} {f : α → Except ε γ} {g : α → Except ε δ}
    (h : ∀ a, x = .ok a → Agree S (f a) (g a)) : Agree S (x >>= f) (x >>= g) := by
  cases x with
  | error e => exact .error
  | ok a => exact h a rfl

theorem Agree.mapError {x : Except ε α} {y : Except ε β} (h : Agree R x y) (g : ε → ε') :
    Agree R (x.mapError g) (y.mapError g) := by
  cases h with
  | error => exact .error
  | ok h => exact .ok h

theorem agree_require {p q : Prop} [Decidable p] [Decidable q] {e : ε} (h : p ↔ q) :
    Agree (fun _ _ => True) (require p e) (require q e) := by
  unfold require
  by_cases hp : p
  · rw [if_pos hp, if_pos (h.mp hp)]
    exact .ok trivial
  · rw [if_neg hp, if_neg fun hq => hp (h.mpr hq)]
    exact .error

theorem agree_orError {o : Option α} {o' : Option β} {e : ε} (h : Option.Rel R o o') :
    Agree R (orError o e) (orError o' e) := by
  cases h with
  | none => exact .error
  | some h => exact .ok h

/-! ## What agreement says -/

theorem Agree.error_iff {x : Except ε α} {y : Except ε β} (h : Agree R x y) (e : ε) :
    x = .error e ↔ y = .error e := by
  cases h with
  | error => rw [Except.error.injEq, Except.error.injEq]
  | ok _ => exact ⟨fun h => (nomatch h), fun h => nomatch h⟩

theorem Agree.of_ok {x : Except ε α} {y : Except ε β} (h : Agree R x y) {a : α} (ha : x = .ok a) :
    ∃ b, y = .ok b ∧ R a b := by
  cases h with
  | error => cases ha
  | ok h =>
    obtain rfl := Except.ok.inj ha
    exact ⟨_, rfl, h⟩

/-- Results that agree under `f` and `g`. -/
theorem agree_iff_map {x : Except ε α} {y : Except ε β} {f : α → γ} {g : β → γ} :
    Agree (fun a b => f a = g b) x y ↔ f <$> x = g <$> y := by
  constructor
  · intro h
    cases h with
    | error => rfl
    | ok h => exact congrArg Except.ok h
  · intro h
    cases x with
    | error e =>
      cases y with
      | error e' => exact Except.error.inj h ▸ .error
      | ok b => cases h
    | ok a =>
      cases y with
      | error e => cases h
      | ok b => exact .ok (Except.ok.inj h)

theorem agree_map {x : Except ε α} {f : α → β} : Agree (fun a b => f a = b) x (f <$> x) :=
  agree_iff_map.mpr (id_map _).symm

end Checked
