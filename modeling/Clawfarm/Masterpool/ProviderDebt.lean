import Clawfarm.Masterpool.Enabled

/-!
# Masterpool.ProviderDebt — what a slashed provider still keeps

A slash lowers the net position of a provider but takes nothing from its reward account: it is
recovered from later rewards, and only as far as the position is negative when they are recorded.
So the reward account holds the net position and the part of the slashes that has not been recovered
(`provider_debt`), and never more is recovered than was slashed (`step_recovers`).
-/

namespace Masterpool

open Token Checked Debt

variable {s s' : State} {w : Pubkey}

/-! ## Three totals of a provider -/

/-- The receipt has not been reverted. -/
def ReceiptSettlement.Live (x : ReceiptSettlement) : Prop := x.status ≠ .ChallengedReverted

instance : DecidablePred ReceiptSettlement.Live := fun _ => inferInstanceAs (Decidable (_ ≠ _))

theorem ReceiptSettlement.live_iff {x : ReceiptSettlement} :
    x.Live ↔ x.status = .Recorded ∨ x.status = .FinalizedSettled := by
  unfold ReceiptSettlement.Live
  cases x.status <;> simp

/-- A figure of the live receipts of the provider `w`. -/
def State.liveTotal (f : ReceiptSettlement → ℕ) (s : State) (w : Pubkey) : ℕ :=
  s.settlements.sum fun _ x => if x.providerWallet = w ∧ x.Live then f x else 0

/-- What the provider has been promised. -/
def State.promised (s : State) (w : Pubkey) : ℕ :=
  s.liveTotal ReceiptSettlement.clawToProviderTotal w

/-- What of it has paid down its slashes. -/
def State.recovered (s : State) (w : Pubkey) : ℕ :=
  s.liveTotal ReceiptSettlement.clawProviderDebtOffset w

theorem Wf.recovered_le (hw : Wf s) (w : Pubkey) : s.recovered w ≤ s.promised w := by
  refine Store.sum_mono fun k x hx => ?_
  have hclaw := (hw.settlement k x hx).claw
  split_ifs
  · omega
  · exact le_rfl

/-- The net position is what was promised less what was slashed. -/
theorem ProviderLedger.position {p : ProviderAccount} (h : ProviderLedger s w p) :
    p.clawNetPosition = s.promised w - s.slashed w := by
  rw [h.clawNetPosition, State.promised, State.liveTotal, State.slashed, Store.cast_sum,
    Store.cast_sum]
  congr 1
  · refine Store.sum_congr fun k x _ => ?_
    simp only [ReceiptSettlement.live_iff, Nat.cast_ite, Nat.cast_zero]
  · refine Store.sum_congr fun k b _ => ?_
    split_ifs <;> rfl

/-- The reward account holds what was promised and has not been recovered. -/
theorem RewardLedger.promised (hw : Wf s) {v : RewardAccount}
    (h : RewardLedger s .Provider w v) :
    v.pendingClawTotal + (v.lockedClawTotal + v.releasedClawTotal) + s.recovered w =
      s.promised w := by
  rw [h.pendingClawTotal, h.finalClawTotal, State.recovered, State.promised, State.liveTotal,
    State.liveTotal, ← Store.sum_add, ← Store.sum_add]
  refine Store.sum_congr fun k x hx => ?_
  have hclaw := (hw.settlement k x hx).claw
  simp only [ReceiptSettlement.expectedOwner, ReceiptSettlement.totalLocked,
    ReceiptSettlement.live_iff]
  cases hst : x.status with
  | Recorded =>
    by_cases hxw : x.providerWallet = w <;> simp [hxw]
    omega
  | FinalizedSettled =>
    by_cases hxw : x.providerWallet = w <;> simp [hxw]
    omega
  | ChallengedReverted => simp

/-! ## Steps -/

/-- A write of a receipt that stays live keeps its figures. -/
theorem liveTotal_set {m : Store Pubkey ReceiptSettlement} {k : Pubkey} {x x' : ReceiptSettlement}
    {f : ReceiptSettlement → ℕ} (hx : m.get k = some x) (hf : f x' = f x)
    (hw : x'.providerWallet = x.providerWallet) (hl : x'.Live ↔ x.Live) :
    (m.set k x').sum (fun _ x => if x.providerWallet = w ∧ x.Live then f x else 0) =
      m.sum fun _ x => if x.providerWallet = w ∧ x.Live then f x else 0 := by
  refine Store.sum_set_of_term ?_
  rw [Store.term_some hx, hf, hw]
  exact if_congr (and_congr_right_iff.mpr fun _ => hl) rfl rfl

/-- A bond that is not returned by the write counts as before. -/
theorem slashed_set {m : Store Pubkey ChallengeBondRecord} {k : Pubkey} {b : ChallengeBondRecord}
    (hb : b.status ≠ .Returned)
    (h : ∀ b', m.get k = some b' → b'.status ≠ .Returned) :
    (m.set k b).sum (fun _ b =>
        if b.providerWallet = w ∧ b.status = .Returned then b.slashClawAmountSnapshot else 0) =
      m.sum fun _ b =>
        if b.providerWallet = w ∧ b.status = .Returned then b.slashClawAmountSnapshot else 0 := by
  refine Store.sum_set_of_term ?_
  rw [if_neg fun hret => hb hret.2]
  cases hk : m.get k with
  | none => rw [Store.term_none hk]
  | some b' => rw [Store.term_some hk, if_neg fun hret => h b' hk hret.2]

/-- A new receipt recovers no more than what is left of the slashes. -/
theorem Records.recovers {c : Caller MASTERPOOL_ID} {now : ℤ} {ctx : RecordMiningFromReceipt}
    {n : ℕ} {g : GlobalConfig} {pay : TokenAccount Pubkey} {p : ProviderAccount}
    {u v : RewardAccount} {t₁ t₂ : Ledger Pubkey} {x : ReceiptSettlement} (hw : Wf s)
    (hb : Booked s) (h : Records c now ctx n s g pay p u v t₁ t₂ x)
    (hrec : s.recovered w ≤ s.slashed w) :
    (recorded now ctx s p u v t₂ x).recovered w ≤ s.slashed w := by
  have hx := h.settlement
  have hsum : (recorded now ctx s p u v t₂ x).recovered w = s.recovered w +
      if x.providerWallet = w ∧ x.Live then x.clawProviderDebtOffset else 0 := by
    have hset := Store.sum_set s.settlements ctx.attestationReceipt x fun _ x =>
      if x.providerWallet = w ∧ x.Live then x.clawProviderDebtOffset else 0
    rwa [Store.term_none h.fresh, Nat.add_zero] at hset
  rw [hsum]
  split_ifs with hmine
  · have hwallet : ctx.providerAccount = w := by
      rw [← h.wallet, ← hmine.1, hx]
      rfl
    have hposition := (hb.ledger (hwallet ▸ h.provider)).position
    have hoffset : x.clawProviderDebtOffset =
        offset (s.promised w - s.slashed w) x.clawToProviderTotal := by
      rw [← hposition, ← providerDebtOffset_eq h.total, hx]
      rfl
    rw [hoffset]
    exact add_offset_le (hw.recovered_le w) hrec _
  · exact hrec

/-- **Step**: no provider has paid down more than was slashed. -/
theorem Effect.recovers {a : Action} (hw : Wf s) (hb : Booked s) (h : Effect s a s')
    (hrec : s.recovered w ≤ s.slashed w) : s'.recovered w ≤ s'.slashed w := by
  -- steps that leave the offsets of live receipts and the returned bonds
  have hquiet : s'.recovered w = s.recovered w → s'.slashed w = s.slashed w →
      s'.recovered w ≤ s'.slashed w := fun h h' => by rwa [h, h']
  cases h with
  | failed _ => exact hrec
  | aside _ h =>
    exact hquiet (by rw [State.recovered, State.liveTotal, h.settlements]; rfl)
      (by rw [State.slashed, h.bonds]; rfl)
  | genesis _ => exact hrec
  | fund _ => exact hrec
  | register _ => exact hrec
  | exit _ => exact hrec
  | record h => exact h.recovers hw hb hrec
  | settle h =>
    refine hquiet (liveTotal_set h.settlement rfl rfl ?_) rfl
    simp [ReceiptSettlement.Live, h.recorded]
  | bond h =>
    refine hquiet rfl (slashed_set ?_ fun b' hb' => ?_)
    · rw [h.record]
      exact ChallengeBondStatus.noConfusion
    · rw [h.fresh] at hb'
      cases hb'
  | reject _ h _ _ =>
    refine hquiet (liveTotal_set h.settlement rfl rfl Iff.rfl) (slashed_set (by simp) fun b' hb' => ?_)
    obtain rfl := Option.some.inj (h.bond.symm.trans hb')
    rw [h.locked]
    decide
  | @revert c now ctx n g x b p u v t₁ t₂ t₃ t₄ hn h ha hp =>
    have hoffsets := Store.sum_set s.settlements ctx.attestationReceipt
      { x with status := .ChallengedReverted, updatedAt := now.toInt } fun _ x =>
        if x.providerWallet = w ∧ x.Live then x.clawProviderDebtOffset else 0
    have hslashes := Store.sum_set s.bonds ctx.attestationChallenge
      { b with status := .Returned, updatedAt := now.toInt } fun _ b =>
        if b.providerWallet = w ∧ b.status = .Returned then b.slashClawAmountSnapshot else 0
    rw [if_neg fun hlive => hlive.2 rfl, Nat.add_zero] at hoffsets
    have hlocked : ¬ (b.providerWallet = w ∧ b.status = .Returned) := fun hret => by
      rw [h.locked] at hret
      cases hret.2
    rw [Store.term_some h.bond, if_neg hlocked, Nat.add_zero] at hslashes
    exact ((Nat.le_add_right _ _).trans hoffsets.le).trans
      (hrec.trans ((Nat.le_add_right _ _).trans hslashes.ge))
  | @materialize c now ctx target n tgt x r h =>
    refine hquiet (liveTotal_set h.settlement ?_ ?_ ?_) rfl
    · cases tgt <;> rfl
    · cases tgt <;> rfl
    · cases tgt <;> exact Iff.rfl
  | claim _ => exact hrec

/-! ## Runs -/

theorem step_recovers {a : Action} (hw : Wf s) (hb : Booked s)
    (hrec : s.recovered w ≤ s.slashed w) : (step s a).recovered w ≤ (step s a).slashed w :=
  (step_effect hw.sound a).recovers hw hb hrec

theorem reached_recovers (as : List Action) (w : Pubkey) :
    (reached as).recovered w ≤ (reached as).slashed w := by
  refine (Machine.run_induction
    (P := fun s => Wf s ∧ Booked s ∧ s.recovered w ≤ s.slashed w)
    (fun s a h => ?_) ⟨wf_init, booked_init, le_rfl⟩ as).2.2
  exact ⟨step_wf h.1 a, (step_effect h.1.sound a).booked h.1 h.2.1, step_recovers h.1 h.2.1 h.2.2⟩

/-- What the books say about the provider `w` with the account `p`. -/
structure DebtBooked (s : State) (w : Pubkey) (p : ProviderAccount) : Prop where
  account : ∃ v, s.rewards.get (.Provider, w) = some v ∧
    (v.pendingClawTotal + v.lockedClawTotal + v.releasedClawTotal : ℤ) =
      p.clawNetPosition + (s.slashed w - s.recovered w : ℕ)
  recovered : s.recovered w ≤ s.slashed w
  /-- A debt is within the part of the slashes that has not been recovered. -/
  owed : -p.clawNetPosition ≤ (s.slashed w - s.recovered w : ℕ)

/-- **Provider debt**: in every run, the rewards of a provider (pending, locked and released) are
its net position and the part of its slashes that later rewards have not paid down yet, and these
never pay down more than was slashed. -/
theorem provider_debt (as : List Action) :
    ∀ w p, (reached as).providers.get w = some p → DebtBooked (reached as) w p := by
  intro w p hp
  have hl := reached_ledgers as
  obtain ⟨v, hv⟩ := (hl.wf.provider w p hp).reward
  have hposition := (hl.booked.ledger hp).position
  have hrewards := (hl.credited.ledger .Provider hv).promised hl.wf
  have hrec := reached_recovers as w
  exact ⟨⟨v, hv, by omega⟩, hrec, by omega⟩

/-- A provider that has lost a challenge owes the whole slash. -/
theorem provider_debt_indebted : ∃ p, (reached indebted).providers.get (wallet 5) = some p ∧
    p.clawNetPosition = -1000 ∧ DebtBooked (reached indebted) (wallet 5) p :=
  ⟨((reached indebted).providers.get (wallet 5)).get (by decide +kernel), (Option.some_get _).symm,
    by decide +kernel, provider_debt indebted _ _ (Option.some_get _).symm⟩

end Masterpool
