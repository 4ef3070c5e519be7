import Mathlib.Algebra.Group.Basic
import Mathlib.Algebra.Group.Prod
import Mathlib.Algebra.Order.Group.Nat
import Mathlib.Data.List.Induction

/-!
# Machine — runs of a total step function

A machine is a step function `σ → α → σ`; a failed action is a step that leaves the state alone, so
every list of actions is a run.  `total` accumulates a quantity read off each step along a run.
The rules: induction over runs (`run_induction`), induction over a run together with a total
(`total_induction`), projection to another machine (`run_emitted`, `run_emitted_related`,
`foldlM_emitted`), and simulation by a labelled transition system (`run_path`).
-/

namespace Machine

variable {σ τ α β M : Type*} {step : σ → α → σ}

/-- The state after the actions `as`. -/
def run (step : σ → α → σ) (s : σ) (as : List α) : σ := as.foldl step s

@[simp] theorem run_nil (s : σ) : run step s [] = s := rfl

@[simp] theorem run_cons (s : σ) (a : α) (as : List α) :
    run step s (a :: as) = run step (step s a) as := rfl

theorem run_append (s : σ) (as bs : List α) :
    run step s (as ++ bs) = run step (run step s as) bs := List.foldl_append

theorem run_concat (s : σ) (as : List α) (a : α) :
    run step s (as ++ [a]) = step (run step s as) a := by
  rw [run_append]
  rfl

/-- **Invariants**: what every step preserves holds after every run. -/
theorem run_induction {P : σ → Prop} (hstep : ∀ s a, P s → P (step s a)) {s : σ} (hs : P s)
    (as : List α) : P (run step s as) := by
  induction as generalizing s with
  | nil => exact hs
  | cons a as ih => exact ih (hstep s a hs)

/-- A relation that the steps from invariant states keep relates the ends of a run from one. -/
theorem run_relation_of_inv {P : σ → Prop} {R : σ → σ → Prop} (hP : ∀ s a, P s → P (step s a))
    (hrefl : ∀ s, R s s) (htrans : ∀ s t u, R s t → R t u → R s u)
    (hstep : ∀ s a, P s → R s (step s a)) {s : σ} (hs : P s) (as : List α) :
    R s (run step s as) := by
  induction as generalizing s with
  | nil => exact hrefl s
  | cons a as ih => exact htrans _ _ _ (hstep s a hs) (ih (hP s a hs))

/-- What holds at the end of a run but not at its start is brought about by one of its steps. -/
theorem exists_step {P : σ → Prop} {s : σ} {as : List α} (hs : ¬ P s) (h : P (run step s as)) :
    ∃ pre a post, as = pre ++ a :: post ∧ ¬ P (run step s pre) ∧ P (run step s (pre ++ [a])) := by
  induction as using List.reverseRecOn with
  | nil => exact absurd h hs
  | append_singleton as a ih =>
    by_cases has : P (run step s as)
    · obtain ⟨pre, b, post, rfl, hnot, hb⟩ := ih has
      exact ⟨pre, b, post ++ [a], by rw [List.append_assoc, List.cons_append], hnot, hb⟩
    · exact ⟨as, a, [], rfl, has, h⟩

/-! ## Totals along a run -/

section Total

variable [AddCommMonoid M]

/-- The sum of `f` over the steps of a run. -/
def total (step : σ → α → σ) (f : σ → α → M) : σ → List α → M
  | _, [] => 0
  | s, a :: as => f s a + total step f (step s a) as

@[simp] theorem total_nil (f : σ → α → M) (s : σ) : total step f s [] = 0 := rfl

@[simp] theorem total_cons (f : σ → α → M) (s : σ) (a : α) (as : List α) :
    total step f s (a :: as) = f s a + total step f (step s a) as := rfl

theorem total_append (f : σ → α → M) (s : σ) (as bs : List α) :
    total step f s (as ++ bs) = total step f s as + total step f (run step s as) bs := by
  induction as generalizing s with
  | nil => simp
  | cons a as ih => simp [ih, add_assoc]

theorem total_concat (f : σ → α → M) (s : σ) (as : List α) (a : α) :
    total step f s (as ++ [a]) = total step f s as + f (run step s as) a := by
  simp [total_append]

/-- **Totals**: a relation between the total so far and the state, kept by every step, holds at
the end of every run. -/
theorem total_induction (step : σ → α → σ) (f : σ → α → M) {I : M → σ → Prop}
    (hstep : ∀ m s a, I m s → I (m + f s a) (step s a)) {s : σ} (hs : I 0 s) (as : List α) :
    I (total step f s as) (run step s as) := by
  induction as using List.reverseRecOn with
  | nil => exact hs
  | append_singleton as a ih =>
    rw [total_concat, run_concat]
    exact hstep _ _ _ ih

/-- **Effects**: if the effect of every step is in relation to its summand, the effect of a run
from an invariant state is in relation to the total.  The actions may be restricted. -/
theorem total_relation {P : σ → Prop} {Q : α → Prop} {R : M → σ → σ → Prop} {f : σ → α → M}
    (hP : ∀ s a, P s → P (step s a)) (hrefl : ∀ s, R 0 s s)
    (htrans : ∀ m n s t u, R m s t → R n t u → R (m + n) s u)
    (hstep : ∀ s a, P s → Q a → R (f s a) s (step s a)) {s : σ} (hs : P s) {as : List α}
    (hQ : ∀ a ∈ as, Q a) : R (total step f s as) s (run step s as) := by
  induction as generalizing s with
  | nil => exact hrefl s
  | cons a as ih =>
    have hfirst := hstep s a hs (hQ a List.mem_cons_self)
    exact htrans _ _ _ _ _ hfirst (ih (hP s a hs) fun b hb => hQ b (List.mem_cons_of_mem a hb))

/-- Two totals at once. -/
theorem total_mk {N : Type*} [AddCommMonoid N] (f : σ → α → M) (g : σ → α → N) (s : σ)
    (as : List α) : total step (fun s a => (f s a, g s a)) s as =
      (total step f s as, total step g s as) := by
  induction as generalizing s with
  | nil => rfl
  | cons a as ih => rw [total_cons, ih, total_cons, total_cons, Prod.mk_add_mk]

end Total

/-! ## Counting -/

/-- The number of steps of a run at which `p` holds. -/
def count (step : σ → α → σ) (p : σ → α → Bool) (s : σ) (as : List α) : ℕ :=
  total step (fun s a => (p s a).toNat) s as

/-- **At most once**: what needs that `D` does not hold yet, and makes it hold for good, happens
at most once. -/
theorem count_le_one {p : σ → α → Bool} {I D : σ → Prop} (hI : ∀ s a, I s → I (step s a))
    (hkeep : ∀ s a, I s → D s → D (step s a))
    (honce : ∀ s a, I s → p s a = true → ¬ D s ∧ D (step s a)) {s : σ} (hs : I s)
    (as : List α) : count step p s as ≤ 1 := by
  have hrun := total_induction step (fun s a => (p s a).toNat)
    (I := fun n s => I s ∧ (n = 0 ∨ n = 1 ∧ D s)) (fun n s a ⟨hi, hn⟩ => ?_)
    ⟨hs, Or.inl rfl⟩ as
  · rw [count]
    obtain ⟨-, hn⟩ := hrun
    omega
  · refine ⟨hI s a hi, ?_⟩
    cases hp : p s a with
    | false =>
      rcases hn with rfl | ⟨rfl, hd⟩
      · exact Or.inl rfl
      · exact Or.inr ⟨rfl, hkeep s a hi hd⟩
    | true =>
      obtain ⟨hnot, hd⟩ := honce s a hi hp
      rcases hn with rfl | ⟨rfl, hd'⟩
      · exact Or.inr ⟨rfl, hd⟩
      · exact absurd hd' hnot

/-- What is impossible while `I` holds does not happen as long as nothing ends `I`. -/
theorem count_eq_zero {p q : σ → α → Bool} {I : σ → Prop} (hblock : ∀ s a, I s → p s a = false)
    (hkeep : ∀ s a, I s → q s a = false → I (step s a)) {s : σ} (hs : I s) {as : List α}
    (hq : count step q s as = 0) : count step p s as = 0 := by
  induction as generalizing s with
  | nil => rfl
  | cons a as ih =>
    rw [count, total_cons, Nat.add_eq_zero_iff] at hq ⊢
    have hqa : q s a = false := by
      cases hqa : q s a with
      | false => rfl
      | true => simp [hqa] at hq
    exact ⟨by rw [hblock s a hs]; rfl, ih (hkeep s a hs hqa) hq.2⟩

/-! ## Projection -/

/-- What the steps of a run emit. -/
def emitted (step : σ → α → σ) (emit : σ → α → List β) : σ → List α → List β
  | _, [] => []
  | s, a :: as => emit s a ++ emitted step emit (step s a) as

/-- **Projection**: if every step acts on a projection of the state as the actions that it emits
do, then so does every run. -/
theorem run_emitted {step' : τ → β → τ} {emit : σ → α → List β} (proj : σ → τ)
    (h : ∀ s a, proj (step s a) = run step' (proj s) (emit s a)) (s : σ) (as : List α) :
    proj (run step s as) = run step' (proj s) (emitted step emit s as) := by
  induction as generalizing s with
  | nil => rfl
  | cons a as ih => rw [run_cons, ih, emitted, run_append, h]

/-- **Simulation by runs**: a relation that every step keeps, against a run of what it emits, is
kept by runs. -/
theorem run_emitted_related {step' : τ → β → τ} {emit : σ → α → List β} {R : σ → τ → Prop}
    (h : ∀ s t a, R s t → R (step s a) (run step' t (emit s a))) {s : σ} {t : τ} (hs : R s t)
    (as : List α) : R (run step s as) (run step' t (emitted step emit s as)) := by
  induction as generalizing s t with
  | nil => exact hs
  | cons a as ih =>
    rw [run_cons, emitted, run_append]
    exact ih (h s t a hs)

/-- **Logs**: if a partial machine accepts what each step emits and then shows the state after the
step, it accepts what a run emits and shows the state at its end. -/
theorem foldlM_emitted {step' : τ → β → Option τ} {emit : σ → α → List β} (proj : σ → τ)
    (h : ∀ s a, (emit s a).foldlM step' (proj s) = some (proj (step s a))) (s : σ) (as : List α) :
    (emitted step emit s as).foldlM step' (proj s) = some (proj (run step s as)) := by
  induction as generalizing s with
  | nil => rfl
  | cons a as ih =>
    rw [emitted, List.foldlM_append, h, run_cons]
    exact ih (step s a)

theorem emitted_append (emit : σ → α → List β) (s : σ) (as bs : List α) :
    emitted step emit s (as ++ bs) = emitted step emit s as ++ emitted step emit (run step s as) bs
    := by
  induction as generalizing s with
  | nil => rfl
  | cons a as ih => rw [List.cons_append, emitted, ih, emitted, run_cons, List.append_assoc]

theorem emitted_concat (emit : σ → α → List β) (s : σ) (as : List α) (a : α) :
    emitted step emit s (as ++ [a]) = emitted step emit s as ++ emit (run step s as) a := by
  rw [emitted_append, emitted, emitted, List.append_nil]

/-! ## Simulation -/

/-- The runs of a labelled transition system `R`, with their labels. -/
inductive Path (R : β → τ → τ → Prop) (t : τ) : List β → τ → Prop
  | nil : Path R t [] t
  | concat {bs : List β} {b : β} {u v : τ} (h : Path R t bs u) (hb : R b u v) :
    Path R t (bs ++ [b]) v

/-- **Simulation**: if the states are simulated by a labelled transition system that takes what
each step emits, at most one label, then a run emits a path.  The steps may rely on a property `P`
of the state they lead to that is inherited by earlier states. -/
theorem run_path {R : β → τ → τ → Prop} {Sim : σ → τ → Prop} {P : σ → Prop}
    {emit : σ → α → Option β} (hback : ∀ s a, P (step s a) → P s)
    (hstep : ∀ s a t, P (step s a) → Sim s t → match emit s a with
      | none => Sim (step s a) t
      | some b => ∃ t', R b t t' ∧ Sim (step s a) t')
    {s : σ} {t : τ} (hs : Sim s t) (as : List α) (hP : P (run step s as)) :
    ∃ t', Path R t (emitted step (fun s a => (emit s a).toList) s as) t' ∧
      Sim (run step s as) t' := by
  induction as using List.reverseRecOn with
  | nil => exact ⟨t, .nil, hs⟩
  | append_singleton as a ih =>
    rw [run_concat] at hP ⊢
    obtain ⟨u, hpath, hu⟩ := ih (hback _ _ hP)
    rw [emitted_concat]
    have h := hstep _ _ _ hP hu
    cases he : emit (run step s as) a with
    | none =>
      rw [he] at h
      exact ⟨u, by rwa [Option.toList_none, List.append_nil], h⟩
    | some b =>
      rw [he] at h
      obtain ⟨v, hb, hv⟩ := h
      exact ⟨v, hpath.concat hb, hv⟩

end Machine
