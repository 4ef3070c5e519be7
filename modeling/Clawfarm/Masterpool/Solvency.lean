import Clawfarm.Masterpool.Flows

/-!
# Masterpool.Solvency — the vaults cover what the program owes

Three kinds of obligations are kept in shared vaults: the provider shares of recorded receipts, the
stakes of active providers and the bonds of locked records.  In every run each vault holds at least
the sum of its obligations, so no single payment is ever short.
-/

namespace Masterpool

open Token Checked

/-- What a settlement still has to pay out. -/
def ReceiptSettlement.owed (x : ReceiptSettlement) : ℕ :=
  if x.status = .Recorded then x.usdcToProvider else 0

/-- The stake that a provider gets back on exit. -/
def ProviderAccount.owed (p : ProviderAccount) : ℕ :=
  if p.status = .Active then p.stakedUsdcAmount else 0

/-- The bond that a record still holds. -/
def ChallengeBondRecord.owed (b : ChallengeBondRecord) : ℕ :=
  if b.status = .Locked then b.bondAmount else 0

structure Solvent (s : State) : Prop where
  pending : s.settlements.sum (fun _ x => x.owed) ≤ s.tokens.amount providerPendingUsdcVault
  stake : s.providers.sum (fun _ p => p.owed) ≤ s.tokens.amount providerStakeUsdcVault
  bond : s.bonds.sum (fun _ b => b.owed) ≤ s.tokens.amount challengeBondVault

theorem solvent_init : Solvent .init := ⟨le_rfl, le_rfl, le_rfl⟩

variable {s s' : State}

/-- How one write changes the obligations of a store. -/
theorem owed_set {K V : Type} [DecidableEq K] {m : Store K V} {k : K} {v w : V} (f : V → ℕ)
    (h : m.get k = some v) :
    (m.set k w).sum (fun _ v => f v) + f v = m.sum (fun _ v => f v) + f w := by
  have hsum := Store.sum_set m k w (fun _ v => f v)
  rwa [Store.term_some h] at hsum

theorem owed_insert {K V : Type} [DecidableEq K] {m : Store K V} {k : K} {w : V} (f : V → ℕ)
    (h : m.get k = none) :
    (m.set k w).sum (fun _ v => f v) = m.sum (fun _ v => f v) + f w := by
  have hsum := Store.sum_set m k w (fun _ v => f v)
  rwa [Store.term_none h, Nat.add_zero] at hsum

/-- The sum after a write of a value with the same obligation. -/
theorem owed_set_of_eq {K V : Type} [DecidableEq K] {m : Store K V} {k : K} {v w : V} (f : V → ℕ)
    (h : m.get k = some v) (hf : f w = f v) :
    (m.set k w).sum (fun _ v => f v) = m.sum (fun _ v => f v) :=
  Store.sum_set_of_term (by rw [Store.term_some h, hf])

theorem Effect.solvent {a : Action} (hw : Wf s) (hv : Solvent s) (h : Effect s a s') :
    Solvent s' := by
  have hP : Owned providerPendingUsdcVault := rfl
  have hS : Owned providerStakeUsdcVault := rfl
  have hB : Owned challengeBondVault := rfl
  obtain ⟨hvp, hvs, hvb⟩ := hv
  cases h with
  | failed _ => exact ⟨hvp, hvs, hvb⟩
  | aside _ h =>
    exact ⟨by rw [h.settlements]; exact hvp.trans (h.noLoss _ hP (by decide) (by decide)),
      by rw [h.providers]; exact hvs.trans (h.noLoss _ hS (by decide) (by decide)),
      by rw [h.bonds]; exact hvb.trans (h.noLoss _ hB (by decide) (by decide))⟩
  | genesis h =>
    exact ⟨hvp.trans ((h.amount _).symm ▸ Nat.le_add_right _ _),
      hvs.trans ((h.amount _).symm ▸ Nat.le_add_right _ _),
      hvb.trans ((h.amount _).symm ▸ Nat.le_add_right _ _)⟩
  | fund h =>
    have hp := h.amount providerPendingUsdcVault
    have hst := h.amount providerStakeUsdcVault
    have hb := h.amount challengeBondVault
    rw [if_neg (by decide), if_neg (by decide)] at hp hst hb
    exact ⟨hvp.trans hp.ge, hvs.trans hst.ge, hvb.trans hb.ge⟩
  | register h =>
    have hp := h.amount hw.sound hP
    have hst := h.amount hw.sound hS
    have hb := h.amount hw.sound hB
    rw [if_neg (by decide)] at hp hb
    rw [if_pos rfl] at hst
    refine ⟨hvp.trans hp.ge, ?_, hvb.trans hb.ge⟩
    refine (owed_insert ProviderAccount.owed h.fresh).trans_le ?_
    exact (Nat.add_le_add_right hvs _).trans hst.ge
  | @exit c now ctx g p t h =>
    -- nothing checks the destination: it may be any account, and loses nothing
    have hp := h.amount hw.sound providerPendingUsdcVault
    have hst := h.amount hw.sound providerStakeUsdcVault
    have hb := h.amount hw.sound challengeBondVault
    rw [if_neg (by decide)] at hp hb
    rw [if_pos rfl] at hst
    have hsum : (exited now.toInt ctx s p t).providers.sum (fun _ p => p.owed) + p.owed =
      s.providers.sum (fun _ p => p.owed) + 0 := owed_set ProviderAccount.owed h.provider
    rw [show p.owed = p.stakedUsdcAmount from if_pos h.active] at hsum
    exact ⟨hvp.trans (by simp only [exited]; omega), by simp only [exited] at hsum ⊢; omega,
      hvb.trans (by simp only [exited]; omega)⟩
  | @record c now ctx n g pay p u v t₁ t₂ x h =>
    have hp := h.amount hw.sound hP
    have hst := h.amount hw.sound hS
    have hb := h.amount hw.sound hB
    rw [if_neg (by decide), if_pos rfl] at hp
    rw [if_neg (by decide), if_neg (by decide)] at hst hb
    have hx : (recorded now.toInt ctx s p u v t₂ x).settlements.sum (fun _ x => x.owed) =
      s.settlements.sum (fun _ x => x.owed) + x.owed := owed_insert ReceiptSettlement.owed h.fresh
    have hq : (recorded now.toInt ctx s p u v t₂ x).providers.sum (fun _ p => p.owed) =
      s.providers.sum (fun _ p => p.owed) := owed_set_of_eq ProviderAccount.owed h.provider rfl
    rw [show x.owed = x.usdcToProvider by rw [h.settlement]; rfl] at hx
    exact ⟨hx.trans_le ((Nat.add_le_add_right hvp _).trans hp.ge), hq.trans_le (hvs.trans hst.ge),
      hvb.trans hb.ge⟩
  | @settle c now ctx n g x p u v t h =>
    obtain ⟨hout, hamt⟩ := h.amount hw
    have hp := hamt providerPendingUsdcVault
    have hst := hamt providerStakeUsdcVault
    have hb := hamt challengeBondVault
    rw [if_pos rfl, if_neg (hP.ne hout)] at hp
    rw [if_neg (by decide), if_neg (hS.ne hout)] at hst
    rw [if_neg (by decide), if_neg (hB.ne hout)] at hb
    have hx : (settled now.toInt ctx s x p u v t).settlements.sum (fun _ x => x.owed) + x.owed =
      s.settlements.sum (fun _ x => x.owed) + 0 := owed_set ReceiptSettlement.owed h.settlement
    have hq : (settled now.toInt ctx s x p u v t).providers.sum (fun _ p => p.owed) =
      s.providers.sum (fun _ p => p.owed) := owed_set_of_eq ProviderAccount.owed h.provider rfl
    rw [show x.owed = x.usdcToProvider from if_pos h.recorded] at hx
    exact ⟨by simp only [settled] at hx ⊢; omega, hq.trans_le (hvs.trans hst.ge),
      hvb.trans hb.ge⟩
  | @bond c now ctx g x p t b h =>
    have hp := h.amount hw.sound hP
    have hst := h.amount hw.sound hS
    have hb := h.amount hw.sound hB
    rw [if_neg (by decide)] at hp hst
    rw [if_pos rfl] at hb
    have hq : (bonded now.toInt ctx s x p t b).providers.sum (fun _ p => p.owed) =
      s.providers.sum (fun _ p => p.owed) := owed_set_of_eq ProviderAccount.owed h.provider rfl
    have hr : (bonded now.toInt ctx s x p t b).bonds.sum (fun _ b => b.owed) =
      s.bonds.sum (fun _ b => b.owed) + b.owed := owed_insert ChallengeBondRecord.owed h.fresh
    rw [show b.owed = b.bondAmount by rw [h.record]; rfl] at hr
    exact ⟨hvp.trans hp.ge, hq.trans_le (hvs.trans hst.ge),
      hr.trans_le ((Nat.add_le_add_right hvb _).trans hb.ge)⟩
  | @reject c now ctx n g x b p u v t _ h ht _ =>
    have hamt := (h.burn_bond hw.sound ht).1
    have hp := hamt providerPendingUsdcVault
    have hst := hamt providerStakeUsdcVault
    have hb := hamt challengeBondVault
    rw [if_neg (by decide)] at hp hst
    rw [if_pos rfl] at hb
    have hx : (rejected now.toInt ctx s x b p t).settlements.sum (fun _ x => x.owed) =
      s.settlements.sum (fun _ x => x.owed) :=
        owed_set_of_eq ReceiptSettlement.owed h.settlement rfl
    have hq : (rejected now.toInt ctx s x b p t).providers.sum (fun _ p => p.owed) =
      s.providers.sum (fun _ p => p.owed) := owed_set_of_eq ProviderAccount.owed h.provider rfl
    have hr : (rejected now.toInt ctx s x b p t).bonds.sum (fun _ b => b.owed) + b.owed =
      s.bonds.sum (fun _ b => b.owed) + 0 := owed_set ChallengeBondRecord.owed h.bond
    rw [show b.owed = b.bondAmount from if_pos h.locked] at hr
    exact ⟨hx.trans_le (hvp.trans hp.ge), hq.trans_le (hvs.trans hst.ge),
      by simp only [rejected] at hr ⊢; omega⟩
  | @revert c now ctx n g x b p u v t₁ t₂ t₃ t₄ _ h ht _ =>
    have hp := h.amount hw ht hP
    have hst := h.amount hw ht hS
    have hb := h.amount hw ht hB
    rw [if_neg (by decide), if_neg (by decide), if_pos rfl] at hp
    rw [if_neg (by decide), if_neg (by decide), if_neg (by decide)] at hst
    rw [if_pos rfl, if_neg (by decide), if_neg (by decide)] at hb
    have hx : (reverted now.toInt ctx s x b p u v t₄).settlements.sum (fun _ x => x.owed) + x.owed =
      s.settlements.sum (fun _ x => x.owed) + 0 := owed_set ReceiptSettlement.owed h.settlement
    have hq : (reverted now.toInt ctx s x b p u v t₄).providers.sum (fun _ p => p.owed) =
      s.providers.sum (fun _ p => p.owed) := owed_set_of_eq ProviderAccount.owed h.provider rfl
    have hr : (reverted now.toInt ctx s x b p u v t₄).bonds.sum (fun _ b => b.owed) + b.owed =
      s.bonds.sum (fun _ b => b.owed) + 0 := owed_set ChallengeBondRecord.owed h.bond
    rw [show x.owed = x.usdcToProvider from if_pos h.recorded] at hx
    rw [show b.owed = b.bondAmount from if_pos h.locked] at hr
    exact ⟨by simp only [reverted] at hx ⊢; omega, hq.trans_le (by simp only [reverted]; omega),
      by simp only [reverted] at hr ⊢; omega⟩
  | @materialize c now ctx target n tgt x r h =>
    have hx : (materialized now.toInt ctx tgt n.toNat s x r).settlements.sum (fun _ x => x.owed) =
      s.settlements.sum (fun _ x => x.owed) :=
        owed_set_of_eq ReceiptSettlement.owed h.settlement (by cases tgt <;> rfl)
    exact ⟨hx.trans_le hvp, hvs, hvb⟩
  | @claim c now ctx g r t h =>
    obtain ⟨hout, hamt⟩ := h.amount hw.sound
    have hp := hamt providerPendingUsdcVault
    have hst := hamt providerStakeUsdcVault
    have hb := hamt challengeBondVault
    rw [if_neg (by decide)] at hp hst hb
    exact ⟨hvp.trans (by simp only [claimed]; omega), hvs.trans (by simp only [claimed]; omega),
      hvb.trans (by simp only [claimed]; omega)⟩

theorem reached_solvent (as : List Action) : Solvent (reached as) := by
  refine (Machine.run_induction (P := fun s => Wf s ∧ Solvent s) (fun s a h => ?_)
    ⟨wf_init, solvent_init⟩ as).2
  exact ⟨step_wf h.1 a, (step_effect h.1.sound a).solvent h.1 h.2⟩

theorem Solvent.of_recorded {k : Pubkey} {x : ReceiptSettlement} (hv : Solvent s)
    (hx : s.settlements.get k = some x) (hrec : x.status = .Recorded) :
    x.usdcToProvider ≤ s.tokens.amount providerPendingUsdcVault := by
  have hle := (Store.le_sum hx fun _ x => x.owed).trans hv.pending
  rwa [ReceiptSettlement.owed, if_pos hrec] at hle

theorem Solvent.of_active {w : Pubkey} {p : ProviderAccount} (hv : Solvent s)
    (hp : s.providers.get w = some p) (hact : p.status = .Active) :
    p.stakedUsdcAmount ≤ s.tokens.amount providerStakeUsdcVault := by
  have hle := (Store.le_sum hp fun _ p => p.owed).trans hv.stake
  rwa [ProviderAccount.owed, if_pos hact] at hle

theorem Solvent.of_locked {k : Pubkey} {b : ChallengeBondRecord} (hv : Solvent s)
    (hb : s.bonds.get k = some b) (hlock : b.status = .Locked) :
    b.bondAmount ≤ s.tokens.amount challengeBondVault := by
  have hle := (Store.le_sum hb fun _ b => b.owed).trans hv.bond
  rwa [ChallengeBondRecord.owed, if_pos hlock] at hle

/-- **Custody solvency**: in every run each vault covers its obligations, and so each single
payment that is still due. -/
theorem custody_solvency (as : List Action) :
    Solvent (reached as) ∧
    (∀ k x, (reached as).settlements.get k = some x → x.status = .Recorded →
      x.usdcToProvider ≤ (reached as).tokens.amount providerPendingUsdcVault) ∧
    (∀ w p, (reached as).providers.get w = some p → p.status = .Active →
      p.stakedUsdcAmount ≤ (reached as).tokens.amount providerStakeUsdcVault) ∧
    (∀ k b, (reached as).bonds.get k = some b → b.status = .Locked →
      b.bondAmount ≤ (reached as).tokens.amount challengeBondVault) := by
  have hv := reached_solvent as
  exact ⟨hv, fun _ _ => hv.of_recorded, fun _ _ => hv.of_active, fun _ _ => hv.of_locked⟩

end Masterpool
