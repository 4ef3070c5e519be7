import Clawfarm.Lib.Store
import Mathlib.Data.List.Perm.Basic

/-!
# Swap — steps that may change places

`Swaps I R S`: wherever `R` and then `S` can be taken from a state in `I`, so can `S` and then `R`,
to the same end.  Steps that act on different keys of a store swap, and steps that act on the same
key do if they swap on its value (`At.swap`).  Chains of steps that swap pairwise swap as a whole
(`Chain.swaps`), and the steps of a chain that swap pairwise may be taken in any order
(`Chain.perm`).
-/

namespace Swap

variable {σ α K V : Type*}

def Swaps (I : σ → Prop) (R S : σ → σ → Prop) : Prop :=
  ∀ s t u, I s → R s t → S t u → ∃ t', S s t' ∧ R t' u

/-! ## Chains -/

/-- The steps `R a` for the labels `a` of a list, one after the other. -/
inductive Chain (R : α → σ → σ → Prop) : List α → σ → σ → Prop
  | nil {s : σ} : Chain R [] s s
  | cons {a : α} {as : List α} {s t u : σ} (h : R a s t) (hs : Chain R as t u) :
    Chain R (a :: as) s u

variable {R : α → σ → σ → Prop} {I : σ → Prop}

theorem chain_nil {s t : σ} : Chain R [] s t ↔ t = s := by
  constructor
  · rintro ⟨⟩
    rfl
  · rintro rfl
    exact .nil

theorem chain_cons {a : α} {as : List α} {s u : σ} :
    Chain R (a :: as) s u ↔ ∃ t, R a s t ∧ Chain R as t u := by
  constructor
  · rintro ⟨⟩
    exact ⟨_, ‹_›, ‹_›⟩
  · rintro ⟨t, h, hs⟩
    exact .cons h hs

theorem chain_singleton {a : α} {s t : σ} : Chain R [a] s t ↔ R a s t := by
  rw [chain_cons]
  constructor
  · rintro ⟨u, h, hs⟩
    rwa [chain_nil.mp hs]
  · exact fun h => ⟨t, h, .nil⟩

theorem chain_append {as bs : List α} {s u : σ} :
    Chain R (as ++ bs) s u ↔ ∃ t, Chain R as s t ∧ Chain R bs t u := by
  induction as generalizing s with
  | nil =>
    constructor
    · exact fun h => ⟨s, .nil, h⟩
    · rintro ⟨t, h, hs⟩
      rwa [chain_nil.mp h] at hs
  | cons a as ih =>
    rw [List.cons_append, chain_cons]
    constructor
    · rintro ⟨t, h, hs⟩
      obtain ⟨v, hv, hu⟩ := ih.mp hs
      exact ⟨v, .cons h hv, hu⟩
    · rintro ⟨v, hv, hu⟩
      obtain ⟨t, h, hs⟩ := chain_cons.mp hv
      exact ⟨t, h, ih.mpr ⟨v, hs, hu⟩⟩

theorem Chain.inv (hI : ∀ a s t, I s → R a s t → I t) {as : List α} {s t : σ}
    (h : Chain R as s t) (hs : I s) : I t := by
  induction h with
  | nil => exact hs
  | cons h _ ih => exact ih (hI _ _ _ hs h)

/-- A step that swaps with every step of a chain swaps with the chain. -/
theorem Swaps.chain {S : σ → σ → Prop} (hI : ∀ a s t, I s → R a s t → I t) {as : List α}
    (h : ∀ a ∈ as, Swaps I (R a) S) : Swaps I (Chain R as) S := by
  intro s t u hs hc hS
  induction hc with
  | nil => exact ⟨u, hS, .nil⟩
  | cons hR _ ih =>
    obtain ⟨t', ht', hc'⟩ := ih (fun a ha => h a (List.mem_cons_of_mem _ ha)) (hI _ _ _ hs hR) hS
    obtain ⟨v, hv, hR'⟩ := h _ List.mem_cons_self _ _ _ hs hR ht'
    exact ⟨v, hv, .cons hR' hc'⟩

/-- Chains whose steps swap pairwise swap as a whole. -/
theorem Chain.swaps {β : Type*} {S : β → σ → σ → Prop} (hI : ∀ a s t, I s → R a s t → I t)
    (hJ : ∀ b s t, I s → S b s t → I t) {as : List α} {bs : List β}
    (h : ∀ a ∈ as, ∀ b ∈ bs, Swaps I (R a) (S b)) : Swaps I (Chain R as) (Chain S bs) := by
  intro s t u hs hc hd
  induction hd generalizing s with
  | nil => exact ⟨s, .nil, hc⟩
  | cons hS _ ih =>
    have hone := Swaps.chain hI fun a ha => h a ha _ List.mem_cons_self
    obtain ⟨t', hS', hc'⟩ := hone _ _ _ hs hc hS
    obtain ⟨v, hv, hc''⟩ := ih (fun a ha b hb => h a ha b (List.mem_cons_of_mem _ hb)) _
      (hJ _ _ _ hs hS') hc'
    exact ⟨v, .cons hS' hv, hc''⟩

/-- **Any order**: the steps of a chain that swap pairwise may be taken in any order. -/
theorem Chain.perm {D : α → α → Prop} (hsymm : ∀ a b, D a b → D b a)
    (hI : ∀ a s t, I s → R a s t → I t) (hswap : ∀ a b, D a b → Swaps I (R a) (R b))
    {as bs : List α} (hperm : as.Perm bs) (hd : as.Pairwise D) {s t : σ} (hs : I s)
    (h : Chain R as s t) : Chain R bs s t := by
  induction hperm generalizing s with
  | nil => exact h
  | cons a _ ih =>
    obtain ⟨u, hR, hc⟩ := chain_cons.mp h
    exact .cons hR (ih (List.pairwise_cons.mp hd).2 (hI _ _ _ hs hR) hc)
  | swap a b l =>
    obtain ⟨u, hb, hc⟩ := chain_cons.mp h
    obtain ⟨v, ha, hc⟩ := chain_cons.mp hc
    have hab := (List.pairwise_cons.mp hd).1 a List.mem_cons_self
    obtain ⟨u', ha', hb'⟩ := hswap b a hab _ _ _ hs hb ha
    exact .cons ha' (.cons hb' hc)
  | trans hp _ ih ih' =>
    exact ih' ((hp.pairwise_iff fun h => hsymm _ _ h).mp hd) hs (ih hd hs h)

/-! ## Stores -/

variable [DecidableEq K]

/-- The value at `k` is changed by `f`. -/
def At (k : K) (f : V → V → Prop) (m m' : Store K V) : Prop :=
  ∃ v v', m.get k = some v ∧ f v v' ∧ m' = m.set k v'

/-- **Locality**: changes at different keys swap, and changes at one key if they swap on its
value. -/
theorem At.swap {k l : K} {f g : V → V → Prop} {m m₁ m₂ : Store K V} (h₁ : At k f m m₁)
    (h₂ : At l g m₁ m₂)
    (hswap : k = l → ∀ v v₁ v₂, f v v₁ → g v₁ v₂ → ∃ v', g v v' ∧ f v' v₂) :
    ∃ m', At l g m m' ∧ At k f m' m₂ := by
  obtain ⟨v, v₁, hv, hf, rfl⟩ := h₁
  obtain ⟨w, w₁, hw, hg, rfl⟩ := h₂
  by_cases hkl : k = l
  · subst hkl
    obtain rfl := Option.some.inj ((Store.get_set_self _ _ _).symm.trans hw)
    obtain ⟨v', hg', hf'⟩ := hswap rfl v v₁ w₁ hf hg
    refine ⟨m.set k v', ⟨v, v', hv, hg', rfl⟩, v', w₁, Store.get_set_self _ _ _, hf', ?_⟩
    rw [Store.set_set, Store.set_set]
  · rw [Store.get_set_of_ne (Ne.symm hkl)] at hw
    refine ⟨m.set l w₁, ⟨w, w₁, hw, hg, rfl⟩, v, v₁, ?_, hf, Store.set_comm hkl m v₁ w₁⟩
    rwa [Store.get_set_of_ne hkl]

end Swap
