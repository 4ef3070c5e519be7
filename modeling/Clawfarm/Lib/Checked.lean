import Mathlib.Algebra.Order.Group.Int

/-!
# Checked — guards and bounded arithmetic in `Except`

A guarded computation is a `do` block of `require`s, lookups and checked operations.  The simp
lemmas here turn `f x = .ok y` for such a block into the conjunction of what each line needs, so
one `simp only` inverts a whole function body and one `rw` evaluates it from its guards.
-/

namespace Checked

variable {ε ε' α β : Type}

/-- Continue only if `p` holds. -/
def require (p : Prop) [Decidable p] (e : ε) : Except ε Unit := if p then .ok () else .error e

/-- The value of an optional lookup, or the error `e`. -/
def orError (o : Option α) (e : ε) : Except ε α :=
  match o with
  | some a => .ok a
  | none => .error e

@[simp] theorem require_eq_ok {p : Prop} [Decidable p] {e : ε} {u : Unit} :
    require p e = .ok u ↔ p := by
  unfold require
  split_ifs with h <;> simp [h]

theorem require_eq_error {p : Prop} [Decidable p] {e e' : ε} :
    require p e = .error e' ↔ ¬ p ∧ e = e' := by
  unfold require
  split_ifs with h <;> simp [h]

theorem require_true {p : Prop} [Decidable p] {e : ε} (h : p) : require p e = .ok () := if_pos h

@[simp] theorem orError_eq_ok {o : Option α} {e : ε} {a : α} :
    orError o e = .ok a ↔ o = some a := by
  cases o <;> simp [orError]

theorem bind_eq_ok {x : Except ε α} {f : α → Except ε β} {b : β} :
    (x >>= f) = .ok b ↔ ∃ a, x = .ok a ∧ f a = .ok b := by
  cases x with
  | error e => simp [bind, Except.bind]
  | ok a => simp [bind, Except.bind]

/-- A step of a block avoids an error if the step itself does and all that follows it does. -/
theorem bind_ne_error {x : Except ε α} {f : α → Except ε β} {e : ε} (hx : x ≠ .error e)
    (hf : ∀ a, x = .ok a → f a ≠ .error e) : (x >>= f) ≠ .error e := by
  cases x with
  | error e' => exact fun h => hx (congrArg Except.error (Except.error.inj h))
  | ok a => exact hf a rfl

/-- The error of a computation, if it fails. -/
def errorOf : Except ε α → Option ε
  | .ok _ => none
  | .error e => some e

theorem errorOf_eq_some {x : Except ε α} {e : ε} : errorOf x = some e ↔ x = .error e := by
  cases x <;> simp [errorOf]

/-- The result of a computation that is known to succeed. -/
theorem eq_ok_get {x : Except ε α} (h : x.toOption.isSome) : x = .ok (x.toOption.get h) := by
  cases x with
  | error e => cases h
  | ok a => rfl

theorem exists_unit {p : Unit → Prop} : (∃ u, p u) ↔ p () :=
  ⟨fun ⟨_, h⟩ => h, fun h => ⟨(), h⟩⟩

/-- The result of a step that can only be `e`. -/
theorem exists_result {p : Prop} {e : α} {q : α → Prop} :
    (∃ a, (p ∧ a = e) ∧ q a) ↔ p ∧ q e :=
  ⟨fun ⟨_, ⟨hp, h⟩, hq⟩ => ⟨hp, h ▸ hq⟩, fun ⟨hp, hq⟩ => ⟨e, ⟨hp, rfl⟩, hq⟩⟩

theorem ok_bind (a : α) (f : α → Except ε β) : ((.ok a : Except ε α) >>= f) = f a := rfl

theorem error_bind {e : ε} {f : α → Except ε β} : (.error e >>= f : Except ε β) = .error e := rfl

@[simp] theorem pure_eq_ok {a b : α} : (pure a : Except ε α) = .ok b ↔ a = b := by
  simp [pure, Except.pure]

/-- Errors of an inner computation, translated by `g`. -/
theorem mapError_eq_ok {x : Except ε α} {g : ε → ε'} {a : α} :
    x.mapError g = .ok a ↔ x = .ok a := by
  cases x <;> simp [Except.mapError]

/-- A computation for every element of a list succeeds if each of them does. -/
theorem mapM_succeeds_iff {f : α → Except ε β} {l : List α} :
    (∃ bs, l.mapM f = .ok bs) ↔ ∀ a ∈ l, ∃ b, f a = .ok b := by
  induction l with
  | nil => exact ⟨fun _ _ h => (nomatch h), fun _ => ⟨[], rfl⟩⟩
  | cons a l ih =>
    simp only [List.mapM_cons, bind_eq_ok, pure_eq_ok, List.forall_mem_cons, ← ih]
    constructor
    · rintro ⟨bs, b, hb, bs', hbs, -⟩
      exact ⟨⟨b, hb⟩, bs', hbs⟩
    · rintro ⟨⟨b, hb⟩, bs, hbs⟩
      exact ⟨b :: bs, b, hb, bs, hbs, rfl⟩

theorem throws_iff {x : Except ε α} : (∃ e, x = .error e) ↔ ¬ ∃ a, x = .ok a := by
  cases x with
  | error e => exact ⟨fun _ ⟨a, h⟩ => (nomatch h), fun _ => ⟨e, rfl⟩⟩
  | ok a => exact ⟨fun ⟨e, h⟩ => (nomatch h), fun h => absurd ⟨a, rfl⟩ h⟩

/-! ## Bounded integers -/

/-- `left + right`, failing with `e` from `bound` on. -/
def checkedAddNat (bound left right : ℕ) (e : ε) : Except ε ℕ :=
  if left + right < bound then .ok (left + right) else .error e

/-- `left - right`, failing with `e` below zero. -/
def checkedSubNat (left right : ℕ) (e : ε) : Except ε ℕ :=
  if right ≤ left then .ok (left - right) else .error e

/-- `x` itself if it lies in `[lo, hi]`, else the error `e`. -/
def checkedInt (lo hi x : ℤ) (e : ε) : Except ε ℤ :=
  if lo ≤ x ∧ x ≤ hi then .ok x else .error e

/-- `x` clamped to `[lo, hi]`. -/
def saturate (lo hi x : ℤ) : ℤ := max lo (min x hi)

@[simp] theorem checkedAddNat_eq_ok {bound left right c : ℕ} {e : ε} :
    checkedAddNat bound left right e = .ok c ↔ left + right < bound ∧ c = left + right := by
  unfold checkedAddNat
  split_ifs with h <;> simp [h, eq_comm]

@[simp] theorem checkedSubNat_eq_ok {left right c : ℕ} {e : ε} :
    checkedSubNat left right e = .ok c ↔ right ≤ left ∧ c = left - right := by
  unfold checkedSubNat
  split_ifs with h <;> simp [h, eq_comm]

@[simp] theorem checkedInt_eq_ok {lo hi x c : ℤ} {e : ε} :
    checkedInt lo hi x e = .ok c ↔ (lo ≤ x ∧ x ≤ hi) ∧ c = x := by
  unfold checkedInt
  split_ifs with h <;> simp [h, eq_comm]

theorem checkedAddNat_ne {bound left right : ℕ} {e e' : ε} (h : e ≠ e') :
    checkedAddNat bound left right e ≠ .error e' := by
  unfold checkedAddNat
  split_ifs <;> simp [h]

theorem checkedSubNat_ne {left right : ℕ} {e e' : ε} (h : e ≠ e') :
    checkedSubNat left right e ≠ .error e' := by
  unfold checkedSubNat
  split_ifs <;> simp [h]

theorem checkedInt_ne {lo hi x : ℤ} {e e' : ε} (h : e ≠ e') : checkedInt lo hi x e ≠ .error e' := by
  unfold checkedInt
  split_ifs <;> simp [h]

end Checked
