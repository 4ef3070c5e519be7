import Clawfarm.Masterpool.Flows

/-!
# Masterpool.RewardLedger — what a reward account adds up

A reward account belongs to a wallet in one of two roles, payer or provider of receipts, and a
receipt has a part for each.  In both roles the account shows the totals of these parts: what is
still pending, what has become final, and what of it is released.
-/

namespace Masterpool

open Token Checked

/-- Pending, final (locked or released) and released CLAW. -/
abbrev RewardTotals : Type := ℤ × ℤ × ℤ

def RewardAccount.totals (r : RewardAccount) : RewardTotals :=
  (r.pendingClawTotal, r.lockedClawTotal + r.releasedClawTotal, r.releasedClawTotal)

/-- The account that the part `tgt` of a receipt belongs to. -/
def ReceiptSettlement.rewardKey (tgt : ReleaseTarget) (x : ReceiptSettlement) :
    RewardAccountKind × Pubkey := (tgt.expectedKind, x.expectedOwner tgt)

/-- What the part `tgt` of a receipt of a given status adds to its account. -/
def ReceiptSettlement.rewardTotalsAt (tgt : ReleaseTarget) (x : ReceiptSettlement) :
    ReceiptSettlementStatus → RewardTotals
  | .Recorded => (x.totalLocked tgt, 0, 0)
  | .FinalizedSettled => (0, x.totalLocked tgt, x.releasedSoFar tgt)
  | .ChallengedReverted => 0

def ReceiptSettlement.rewardTotals (tgt : ReleaseTarget) (x : ReceiptSettlement) : RewardTotals :=
  x.rewardTotalsAt tgt x.status

def rewardTotals (tgt : ReleaseTarget) (m : Store Pubkey ReceiptSettlement) :
    RewardAccountKind × Pubkey → RewardTotals :=
  m.share (ReceiptSettlement.rewardKey tgt) (ReceiptSettlement.rewardTotals tgt)

/-- Every reward account shows the totals of its receipts. -/
def Credited (s : State) : Prop :=
  ∀ k, s.rewards.term (fun _ r => r.totals) k =
    rewardTotals .User s.settlements k + rewardTotals .Provider s.settlements k

theorem credited_init : Credited .init := fun _ => rfl

/-! ## Writes -/

theorem rewardTotals_set {m : Store Pubkey ReceiptSettlement} {k : Pubkey}
    {x x' : ReceiptSettlement} (h : m.get k = some x) (hx : SettlementStep x x')
    (tgt : ReleaseTarget) (hrel : x'.releasedSoFar tgt = x.releasedSoFar tgt)
    (w : RewardAccountKind × Pubkey) :
    rewardTotals tgt (m.set k x') w +
        (if x.rewardKey tgt = w then x.rewardTotalsAt tgt x.status else 0) =
      rewardTotals tgt m w + if x.rewardKey tgt = w then x.rewardTotalsAt tgt x'.status else 0 := by
  have hkey : x'.rewardKey tgt = x.rewardKey tgt := by
    cases tgt
    · exact congrArg (Prod.mk _) hx.payerUser
    · exact congrArg (Prod.mk _) hx.providerWallet
  have htot : x'.rewardTotals tgt = x.rewardTotalsAt tgt x'.status := by
    have hlocked : x'.totalLocked tgt = x.totalLocked tgt := by
      cases tgt
      · exact hx.clawToUser
      · exact hx.clawToProviderLocked
    unfold ReceiptSettlement.rewardTotals
    cases x'.status <;> simp only [ReceiptSettlement.rewardTotalsAt, hlocked, hrel]
  rw [← htot]
  exact Store.share_set h _ _ hkey w

/-- A write that keeps the status and what is released keeps the totals. -/
theorem rewardTotals_congr {m : Store Pubkey ReceiptSettlement} {k : Pubkey}
    {x x' : ReceiptSettlement} (h : m.get k = some x) (hx : SettlementStep x x')
    (hst : x'.status = x.status) (tgt : ReleaseTarget)
    (hrel : x'.releasedSoFar tgt = x.releasedSoFar tgt) (w : RewardAccountKind × Pubkey) :
    rewardTotals tgt (m.set k x') w = rewardTotals tgt m w := by
  have hset := rewardTotals_set h hx tgt hrel w
  rw [hst] at hset
  exact add_right_cancel hset

theorem rewardTotals_add_released {x : ReceiptSettlement} (hfin : x.status = .FinalizedSettled)
    (tgt : ReleaseTarget) (n : ℕ) (now : ℤ) :
    ({ x.released n tgt with updatedAt := now } : ReceiptSettlement).rewardTotals tgt =
      x.rewardTotals tgt + (0, 0, (n : ℤ)) := by
  cases tgt <;> simp [ReceiptSettlement.rewardTotals, ReceiptSettlement.rewardTotalsAt,
    ReceiptSettlement.released, ReceiptSettlement.totalLocked, ReceiptSettlement.releasedSoFar, hfin]

/-- A release moves what is released of its target, and nothing of the other part. -/
theorem rewardTotals_released {m : Store Pubkey ReceiptSettlement} {k : Pubkey}
    {x : ReceiptSettlement} (h : m.get k = some x) (hfin : x.status = .FinalizedSettled)
    (tgt : ReleaseTarget) (n : ℕ) (now : ℤ) (w : RewardAccountKind × Pubkey) :
    rewardTotals .User (m.set k { x.released n tgt with updatedAt := now }) w +
        rewardTotals .Provider (m.set k { x.released n tgt with updatedAt := now }) w =
      rewardTotals .User m w + rewardTotals .Provider m w +
        if x.rewardKey tgt = w then (0, 0, (n : ℤ)) else 0 := by
  have hstep := settlementStep_released x n tgt now
  have hmove : rewardTotals tgt (m.set k { x.released n tgt with updatedAt := now }) w =
      rewardTotals tgt m w + if x.rewardKey tgt = w then (0, 0, (n : ℤ)) else 0 := by
    have hset : rewardTotals tgt (m.set k { x.released n tgt with updatedAt := now }) w +
        (if x.rewardKey tgt = w then x.rewardTotals tgt else 0) = rewardTotals tgt m w +
          if x.rewardKey tgt = w then x.rewardTotals tgt + (0, 0, (n : ℤ)) else 0 := by
      rw [← rewardTotals_add_released hfin tgt n now]
      exact Store.share_set h _ _ (by cases tgt <;> rfl) w
    split_ifs at hset ⊢
    · rw [add_comm (x.rewardTotals tgt), ← add_assoc] at hset
      exact add_right_cancel hset
    · exact (add_zero _).symm.trans hset
  cases tgt with
  | User =>
    rw [hmove, rewardTotals_congr h hstep rfl .Provider rfl, add_right_comm]
  | Provider =>
    rw [hmove, rewardTotals_congr h hstep rfl .User rfl, add_assoc]

variable {s s' : State}

/-- The account that `init_if_needed` yields shows what the stored one does. -/
theorem initializeRewardAccount_term {M : Type} [AddCommMonoid M] (f : RewardAccount → M)
    {k : RewardAccountKind × Pubkey} {r : RewardAccount} {now : ℤ} (hw : Wf s)
    (hf : f ⟨true, k.2, k.1, 0, 0, 0, 0, now, now⟩ = 0)
    (h : initializeRewardAccount (s.rewardAccountOrNew k) k.2 k.1 now = .ok r) :
    f r = s.rewards.term (fun _ r => f r) k := by
  unfold State.rewardAccountOrNew at h
  cases hr : s.rewards.get k with
  | none =>
    rw [hr] at h
    obtain rfl := Except.ok.inj (h.symm.trans (initializeRewardAccount_zeroed k.2 k.1 now))
    rw [Store.term_none hr, hf]
  | some r₀ =>
    have hwf := hw.reward k r₀ hr
    rw [hr, Option.getD_some, ← hwf.owner, ← hwf.kind,
      initializeRewardAccount_of_initialized hwf.initialized] at h
    rw [Store.term_some hr, Except.ok.inj h]

/-- Both reward accounts of a recorded receipt start from what is stored. -/
theorem Records.rewards_term {M : Type} [AddCommMonoid M] (f : RewardAccount → M)
    {c : Caller MASTERPOOL_ID} {now : ℤ} {ctx : RecordMiningFromReceipt} {n : ℕ} {g : GlobalConfig}
    {pay : TokenAccount Pubkey} {p : ProviderAccount} {u v : RewardAccount} {t₁ t₂ : Ledger Pubkey}
    {x : ReceiptSettlement} (hw : Wf s) (h : Records c now ctx n s g pay p u v t₁ t₂ x)
    (hf : ∀ k o, f ⟨true, o, k, 0, 0, 0, 0, now, now⟩ = 0) :
    f u = s.rewards.term (fun _ r => f r) (.User, ctx.payerUser) ∧
      f v = s.rewards.term (fun _ r => f r) (.Provider, ctx.providerAccount) := by
  obtain ⟨v₀, hv₀, hv⟩ := h.providerReward
  have hv' : initializeRewardAccount (s.rewardAccountOrNew (.Provider, ctx.providerAccount))
      ctx.providerAccount .Provider now = .ok v := by
    rw [State.rewardAccountOrNew, hv₀]
    exact hv
  exact ⟨initializeRewardAccount_term (k := (.User, ctx.payerUser)) f hw (hf _ _) h.userReward,
    initializeRewardAccount_term (k := (.Provider, ctx.providerAccount)) f hw (hf _ _) hv'⟩

/-- The user and the provider account are different, also for one wallet. -/
theorem provider_ne_user (v w : Pubkey) :
    ((.Provider, v) : RewardAccountKind × Pubkey) ≠ (.User, w) := by simp

theorem Effect.credited {a : Action} (hw : Wf s) (hc : Credited s) (h : Effect s a s') :
    Credited s' := by
  cases h with
  | failed _ => exact hc
  | aside _ h =>
    intro w
    rw [h.rewards, h.settlements]
    exact hc w
  | genesis _ => exact hc
  | fund _ => exact hc
  | register h =>
    exact Store.books_congr hc (fun _ => rfl) (by rw [Store.term_none h.freshReward]; rfl)
  | exit _ => exact hc
  | @record c now ctx n g pay p u v t₁ t₂ x h =>
    have hstatus : x.status = .Recorded := by rw [h.settlement]; rfl
    obtain ⟨hu, hv⟩ := h.rewards_term RewardAccount.totals hw fun _ _ => rfl
    have hkey : x.rewardKey .User = (.User, ctx.payerUser) ∧
        x.rewardKey .Provider = (.Provider, ctx.providerAccount) := by
      rw [h.settlement]
      exact ⟨rfl, congrArg (Prod.mk _) h.wallet⟩
    have hpart : ∀ tgt w, rewardTotals tgt (s.settlements.set ctx.attestationReceipt x) w +
        (if x.rewardKey tgt = w then (0 : RewardTotals) else 0) = rewardTotals tgt s.settlements w +
          if x.rewardKey tgt = w then x.rewardTotalsAt tgt x.status else 0 := fun tgt w => by
      rw [ite_self, add_zero]
      exact Store.share_insert h.fresh _ _ x w
    rw [hstatus] at hpart
    have hU := hpart .User
    have hP := hpart .Provider
    rw [hkey.1] at hU
    rw [hkey.2] at hP
    refine Store.books_set_set 0 _ 0 _ (provider_ne_user _ _) hc hU hP ?_ ?_
    · rw [← hu]
      simp [RewardAccount.totals, ReceiptSettlement.rewardTotalsAt, ReceiptSettlement.totalLocked]
    · rw [← hv]
      simp [RewardAccount.totals, ReceiptSettlement.rewardTotalsAt, ReceiptSettlement.totalLocked]
  | @settle c now ctx n g x p u v t h =>
    have hstep := settlementStep_of_recorded h.recorded now.toInt now.toInt .FinalizedSettled
    have hzero := (hw.settlement _ _ h.settlement).unreleased (by
      rw [h.recorded]
      exact fun e => nomatch e)
    have hup := h.userPending
    have hvp := h.providerPending
    refine Store.books_set_set _ _ _ _ (provider_ne_user _ _) hc
      (rewardTotals_set h.settlement hstep .User rfl)
      (rewardTotals_set h.settlement hstep .Provider rfl) ?_ ?_
    · rw [Store.term_some h.userReward, h.recorded]
      simp [RewardAccount.totals, ReceiptSettlement.rewardTotalsAt, ReceiptSettlement.totalLocked,
        ReceiptSettlement.releasedSoFar, hzero, hup, Nat.cast_sub]
      omega
    · rw [Store.term_some h.providerReward, h.recorded]
      simp [RewardAccount.totals, ReceiptSettlement.rewardTotalsAt, ReceiptSettlement.totalLocked,
        ReceiptSettlement.releasedSoFar, hzero, hvp, Nat.cast_sub]
      omega
  | bond _ => exact hc
  | @reject c now ctx n g x b p u v t _ h ht hp =>
    have hx := settlementStep_of_recorded h.recorded x.rewardLockStartedAt now.toInt x.status
    intro w
    have hr := fun tgt => rewardTotals_congr h.settlement hx rfl tgt (by cases tgt <;> rfl) w
    rw [rejected, hr, hr]
    exact hc w
  | @revert c now ctx n g x b p u v t₁ t₂ t₃ t₄ _ h ha hp =>
    have hstep := settlementStep_of_recorded h.recorded x.rewardLockStartedAt now.toInt
      .ChallengedReverted
    have hup := ha.userPending
    have hvp := ha.providerPending
    simp only at hup hvp
    refine Store.books_set_set _ _ _ _ (provider_ne_user _ _) hc
      (rewardTotals_set h.settlement hstep .User rfl)
      (rewardTotals_set h.settlement hstep .Provider rfl) ?_ ?_
    · rw [Store.term_some h.userReward, h.recorded]
      simp [RewardAccount.totals, ReceiptSettlement.rewardTotalsAt, ReceiptSettlement.totalLocked,
        hup, Nat.cast_sub]
    · rw [Store.term_some h.providerReward, h.recorded]
      simp [RewardAccount.totals, ReceiptSettlement.rewardTotalsAt, ReceiptSettlement.totalLocked,
        hvp, Nat.cast_sub]
  | @materialize c now ctx target n tgt x r h =>
    have hwf := hw.reward _ _ h.reward
    have hkey : x.rewardKey tgt = ctx.rewardAccount := by
      rw [ReceiptSettlement.rewardKey, ← h.owner, ← h.kind, hwf.owner, hwf.kind]
    have hlocked := h.locked
    refine Store.books_set 0 (0, 0, (n.toNat : ℤ)) hc (fun w => ?_) ?_
    · rw [ite_self, add_zero, ← hkey]
      exact rewardTotals_released h.settlement h.finalized tgt n.toNat now.toInt w
    · rw [Store.term_some h.reward]
      simp [RewardAccount.totals, Nat.cast_sub, hlocked]
  | claim h =>
    exact Store.books_congr hc (fun _ => rfl) (by rw [Store.term_some h.reward]; rfl)

theorem reached_credited (as : List Action) : Credited (reached as) := by
  refine (Machine.run_induction (P := fun s => Wf s ∧ Credited s) (fun s a h => ?_)
    ⟨wf_init, credited_init⟩ as).2
  exact ⟨step_wf h.1 a, (step_effect h.1.sound a).credited h.1 h.2⟩

/-! ## The three figures -/

/-- What the account of the wallet `w` for its part `tgt` adds up. -/
structure RewardLedger (s : State) (tgt : ReleaseTarget) (w : Pubkey) (r : RewardAccount) : Prop where
  pendingClawTotal : r.pendingClawTotal = s.settlements.sum fun _ x =>
    if x.expectedOwner tgt = w ∧ x.status = .Recorded then x.totalLocked tgt else 0
  finalClawTotal : r.lockedClawTotal + r.releasedClawTotal = s.settlements.sum fun _ x =>
    if x.expectedOwner tgt = w ∧ x.status = .FinalizedSettled then x.totalLocked tgt else 0
  releasedClawTotal : r.releasedClawTotal = s.settlements.sum fun _ x =>
    if x.expectedOwner tgt = w ∧ x.status = .FinalizedSettled then x.releasedSoFar tgt else 0

theorem ReceiptSettlement.rewardTotals_eq (tgt : ReleaseTarget) (x : ReceiptSettlement) :
    x.rewardTotals tgt =
      (if x.status = .Recorded then (x.totalLocked tgt : ℤ) else 0,
        if x.status = .FinalizedSettled then (x.totalLocked tgt : ℤ) else 0,
        if x.status = .FinalizedSettled then (x.releasedSoFar tgt : ℤ) else 0) := by
  unfold rewardTotals
  cases x.status <;> rfl

/-- Only the part `tgt` of a receipt belongs to an account of its kind. -/
theorem rewardKey_eq_iff {tgt tgt' : ReleaseTarget} {x : ReceiptSettlement} {w : Pubkey} :
    x.rewardKey tgt = (tgt'.expectedKind, w) ↔ tgt = tgt' ∧ x.expectedOwner tgt' = w := by
  cases tgt <;> cases tgt' <;> simp [ReceiptSettlement.rewardKey, ReleaseTarget.expectedKind]

/-- The account of a wallet for the part `tgt` shows the totals of this part alone. -/
theorem Credited.totals (hc : Credited s) (tgt : ReleaseTarget) {w : Pubkey} {r : RewardAccount}
    (hr : s.rewards.get (tgt.expectedKind, w) = some r) :
    r.totals = s.settlements.sum fun _ x =>
      if x.expectedOwner tgt = w then x.rewardTotals tgt else 0 := by
  have hk := hc (tgt.expectedKind, w)
  rw [Store.term_some hr, rewardTotals, rewardTotals, Store.share, Store.share] at hk
  simp only [rewardKey_eq_iff] at hk
  rw [hk]
  cases tgt <;> simp

theorem Credited.ledger (hc : Credited s) (tgt : ReleaseTarget) {w : Pubkey} {r : RewardAccount}
    (hr : s.rewards.get (tgt.expectedKind, w) = some r) : RewardLedger s tgt w r := by
  have hfigure : ∀ φ : RewardTotals →+ ℤ, φ r.totals = s.settlements.sum fun _ x =>
      if x.expectedOwner tgt = w then φ (x.rewardTotals tgt) else 0 := fun φ => by
    rw [hc.totals tgt hr, Store.hom_sum]
    simp only [apply_ite φ, map_zero]
  have hfst := hfigure (.fst ℤ _)
  have hsnd := hfigure ((AddMonoidHom.fst ℤ _).comp (.snd ℤ _))
  have hthird := hfigure ((AddMonoidHom.snd ℤ _).comp (.snd ℤ _))
  simp only [AddMonoidHom.comp_apply, AddMonoidHom.coe_fst, AddMonoidHom.coe_snd,
    RewardAccount.totals, ReceiptSettlement.rewardTotals_eq, ← ite_and] at hfst hsnd hthird
  refine ⟨Store.eq_sum_of_cast ?_, Store.eq_sum_of_cast ?_, Store.eq_sum_of_cast ?_⟩
  · simpa only [Nat.cast_ite, Nat.cast_zero] using hfst
  · simpa only [Nat.cast_add, Nat.cast_ite, Nat.cast_zero] using hsnd
  · simpa only [Nat.cast_ite, Nat.cast_zero] using hthird

/-! ### What is subtracted is there -/

theorem RewardLedger.of_recorded {tgt : ReleaseTarget} {k w : Pubkey} {r : RewardAccount}
    {x : ReceiptSettlement} (h : RewardLedger s tgt w r) (hx : s.settlements.get k = some x)
    (hw : x.expectedOwner tgt = w) (hrec : x.status = .Recorded) :
    x.totalLocked tgt ≤ r.pendingClawTotal := by
  have hpending := Store.le_sum hx fun _ x =>
    if x.expectedOwner tgt = w ∧ x.status = .Recorded then x.totalLocked tgt else 0
  rw [if_pos ⟨hw, hrec⟩] at hpending
  exact h.pendingClawTotal ▸ hpending

theorem SettlementWf.released_le {k : Pubkey} {x : ReceiptSettlement} (h : SettlementWf s k x)
    (tgt : ReleaseTarget) : x.releasedSoFar tgt ≤ x.totalLocked tgt := by
  cases tgt
  · exact h.releasedUser
  · exact h.releasedProvider

/-- What is not yet released of a final receipt is locked in the account. -/
theorem RewardLedger.of_finalized (hwf : Wf s) {tgt : ReleaseTarget} {k w : Pubkey}
    {r : RewardAccount} {x : ReceiptSettlement} (h : RewardLedger s tgt w r)
    (hx : s.settlements.get k = some x) (hw : x.expectedOwner tgt = w)
    (hfin : x.status = .FinalizedSettled) :
    x.totalLocked tgt ≤ r.lockedClawTotal + x.releasedSoFar tgt := by
  have hsum : r.lockedClawTotal = s.settlements.sum fun _ x =>
      if x.expectedOwner tgt = w ∧ x.status = .FinalizedSettled then
        x.totalLocked tgt - x.releasedSoFar tgt else 0 := by
    refine Nat.add_right_cancel (m := r.releasedClawTotal) ?_
    rw [h.finalClawTotal, h.releasedClawTotal, ← Store.sum_add]
    refine Store.sum_congr fun k x hx => ?_
    have hle := (hwf.settlement k x hx).released_le tgt
    split_ifs <;> omega
  have hlocked := Store.le_sum hx fun _ x =>
    if x.expectedOwner tgt = w ∧ x.status = .FinalizedSettled then
      x.totalLocked tgt - x.releasedSoFar tgt else 0
  rw [if_pos ⟨hw, hfin⟩] at hlocked
  omega

/-- **Releases**: the aggregate balance never refuses what the receipt allows. -/
theorem Credited.release_covered (hw : Wf s) (hc : Credited s) (c : Caller MASTERPOOL_ID) (now : ℤ)
    (ctx : MaterializeRewardRelease) (target amount : ℕ) :
    materializeRewardRelease c now ctx target amount s ≠
      .error (.custom .RewardReleaseExceedsLocked) := by
  refine bind_ne_error load_ne_custom fun g _ => ?_
  refine bind_ne_error (ensure_ne_custom (Or.inr (by decide))) fun _ _ => ?_
  refine bind_ne_error constraint_ne_custom fun _ _ => ?_
  refine bind_ne_error load_ne_custom fun r hr => ?_
  refine bind_ne_error load_ne_custom fun x hx => ?_
  refine bind_ne_error (ensure_ne_custom (Or.inr (by decide))) fun _ _ => ?_
  refine bind_ne_error (tryFrom_ne (by decide)) fun tgt _ => ?_
  refine bind_ne_error (ensure_ne_custom (Or.inr (by decide))) fun _ hfin => ?_
  refine bind_ne_error (ensure_ne_custom (Or.inr (by decide))) fun _ _ => ?_
  refine bind_ne_error (computeLinearReleasableAmount_ne (by decide) (by decide)) fun n hn => ?_
  refine bind_ne_error (ensure_ne_custom (Or.inr (by decide))) fun _ hle => ?_
  refine bind_ne_error (ensure_ne_custom (Or.inr (by decide))) fun _ hown => ?_
  refine bind_ne_error (ensure_ne_custom (Or.inr (by decide))) fun _ hkind => ?_
  refine bind_ne_error (ensure_ne_custom (Or.inl ?_)) fun _ _ => ?_
  · rw [load_eq_ok] at hr hx
    rw [ensure_eq_ok] at hfin hle hown hkind
    have hwf := hw.reward _ _ hr
    have hkey : ctx.rewardAccount = (tgt.expectedKind, x.expectedOwner tgt) := by
      rw [← hkind, ← hown, hwf.kind, hwf.owner]
    have hlocked := (hc.ledger tgt (hkey ▸ hr)).of_finalized hw hx rfl hfin
    have hvested := computeLinearReleasableAmount_ok hn
    omega
  refine bind_ne_error (checkedSubNat_ne (by simp)) fun _ _ => ?_
  refine bind_ne_error (checkedAddNat_ne (by simp)) fun _ _ => ?_
  refine bind_ne_error (addReleased_ne (by decide)) fun _ _ => ?_
  exact fun h => nomatch h

/-! ## Claims -/

/-- The account that an action claims from. -/
def Action.claimAccount : Action → Option (RewardAccountKind × Pubkey)
  | .call _ _ (.claimReleasedClaw ctx) => some ctx.rewardAccount
  | _ => none

/-- What leaves the reward vault when the action `a` is a claim from the account `k`. -/
def claimPaid (k : RewardAccountKind × Pubkey) (s : State) (a : Action) : ℕ :=
  if a.claimAccount = some k then s.tokens.amount rewardVault - (step s a).tokens.amount rewardVault
  else 0

theorem IsAside.claimAccount {a : Action} (h : a.IsAside) : a.claimAccount = none := by
  cases a with
  | call c now i => cases i <;> first | rfl | exact absurd h id
  | token c i => rfl

/-- No account has claimed more than is released. -/
def Unclaimed (s : State) : Prop :=
  ∀ k r, s.rewards.get k = some r → r.claimedClawTotal ≤ r.releasedClawTotal

theorem unclaimed_init : Unclaimed .init := fun _ _ h => nomatch h

theorem Unclaimed.term_le (hu : Unclaimed s) (k : RewardAccountKind × Pubkey) :
    s.rewards.term (fun _ r => r.claimedClawTotal) k ≤
      s.rewards.term (fun _ r => r.releasedClawTotal) k := by
  cases hr : s.rewards.get k with
  | none => rw [Store.term_none hr, Store.term_none hr]
  | some r =>
    rw [Store.term_some hr, Store.term_some hr]
    exact hu k r hr

theorem Effect.unclaimed {a : Action} (hw : Wf s) (hu : Unclaimed s) (h : Effect s a s') :
    Unclaimed s' := by
  cases h with
  | failed _ => exact hu
  | aside _ h =>
    unfold Unclaimed
    rw [h.rewards]
    exact hu
  | genesis _ => exact hu
  | fund _ => exact hu
  | register _ => exact Store.forall_set hu (fun _ _ => id) le_rfl
  | exit _ => exact hu
  | record h =>
    obtain ⟨hcu, hcv⟩ := h.rewards_term (fun r => r.claimedClawTotal) hw fun _ _ => rfl
    obtain ⟨hru, hrv⟩ := h.rewards_term (fun r => r.releasedClawTotal) hw fun _ _ => rfl
    have huser := hcu.trans_le ((hu.term_le _).trans hru.ge)
    have hprovider := hcv.trans_le ((hu.term_le _).trans hrv.ge)
    exact Store.forall_set (Store.forall_set hu (fun _ _ => id) huser) (fun _ _ => id) hprovider
  | settle h =>
    have huser := hu _ _ h.userReward
    have hprovider := hu _ _ h.providerReward
    exact Store.forall_set (Store.forall_set hu (fun _ _ => id) huser) (fun _ _ => id) hprovider
  | bond _ => exact hu
  | reject _ _ _ _ => exact hu
  | revert _ h _ _ =>
    have huser := hu _ _ h.userReward
    have hprovider := hu _ _ h.providerReward
    exact Store.forall_set (Store.forall_set hu (fun _ _ => id) huser) (fun _ _ => id) hprovider
  | materialize h =>
    have hr := hu _ _ h.reward
    exact Store.forall_set hu (fun _ _ => id) (hr.trans (Nat.le_add_right _ _))
  | claim _ => exact Store.forall_set hu (fun _ _ => id) le_rfl

/-- What the account `k` has claimed. -/
def State.claimedBy (s : State) (k : RewardAccountKind × Pubkey) : ℕ :=
  s.rewards.term (fun _ r => r.claimedClawTotal) k

/-- A write of an account that has claimed as much as the stored one. -/
theorem claimed_set {m : Store (RewardAccountKind × Pubkey) RewardAccount}
    {k : RewardAccountKind × Pubkey} {r : RewardAccount}
    (h : r.claimedClawTotal = m.term (fun _ r => r.claimedClawTotal) k)
    (k' : RewardAccountKind × Pubkey) :
    (m.set k r).term (fun _ r => r.claimedClawTotal) k' =
      m.term (fun _ r => r.claimedClawTotal) k' :=
  Store.books_congr (fun _ => rfl) (fun _ => rfl) h k'

theorem claimed_set_set {m : Store (RewardAccountKind × Pubkey) RewardAccount} {v w : Pubkey}
    {r q : RewardAccount}
    (hr : r.claimedClawTotal = m.term (fun _ r => r.claimedClawTotal) (.User, w))
    (hq : q.claimedClawTotal = m.term (fun _ r => r.claimedClawTotal) (.Provider, v))
    (k : RewardAccountKind × Pubkey) :
    ((m.set (.User, w) r).set (.Provider, v) q).term (fun _ r => r.claimedClawTotal) k =
      m.term (fun _ r => r.claimedClawTotal) k := by
  refine (claimed_set ?_ k).trans (claimed_set hr k)
  rw [hq, Store.term_set_of_ne (provider_ne_user v w)]

/-- **Claims**: the vault pays what is booked as claimed, and only a claim from the account books
anything. -/
theorem Effect.claimedBy {a : Action} (hw : Wf s) (hu : Unclaimed s) (h : Effect s a s')
    (k : RewardAccountKind × Pubkey) :
    s'.claimedBy k = s.claimedBy k + if a.claimAccount = some k then
      s.tokens.amount rewardVault - s'.tokens.amount rewardVault else 0 := by
  have hother : a.claimAccount = none → s'.claimedBy k = s.claimedBy k → s'.claimedBy k = s.claimedBy k +
      if a.claimAccount = some k then s.tokens.amount rewardVault - s'.tokens.amount rewardVault
      else 0 := fun ha he => by
    rw [ha, if_neg (by simp), he, Nat.add_zero]
  cases h with
  | failed _ => rw [Nat.sub_self, ite_self, Nat.add_zero]
  | aside ha h => exact hother (IsAside.claimAccount ha) (by rw [State.claimedBy, h.rewards]; rfl)
  | genesis _ => exact hother rfl rfl
  | fund _ => exact hother rfl rfl
  | register h => exact hother rfl (claimed_set (Store.term_none h.freshReward _).symm k)
  | exit _ => exact hother rfl rfl
  | record h =>
    obtain ⟨hcu, hcv⟩ := h.rewards_term (fun r => r.claimedClawTotal) hw fun _ _ => rfl
    refine hother rfl (claimed_set_set ?_ ?_ k)
    · exact hcu
    · exact hcv
  | settle h =>
    have huser := (Store.term_some h.userReward fun _ r => r.claimedClawTotal).symm
    have hprovider := (Store.term_some h.providerReward fun _ r => r.claimedClawTotal).symm
    refine hother rfl (claimed_set_set ?_ ?_ k)
    · exact huser
    · exact hprovider
  | bond _ => exact hother rfl rfl
  | reject _ _ _ _ => exact hother rfl rfl
  | revert _ h _ _ =>
    have huser := (Store.term_some h.userReward fun _ r => r.claimedClawTotal).symm
    have hprovider := (Store.term_some h.providerReward fun _ r => r.claimedClawTotal).symm
    refine hother rfl (claimed_set_set ?_ ?_ k)
    · exact huser
    · exact hprovider
  | materialize h =>
    have hr := (Store.term_some h.reward fun _ r => r.claimedClawTotal).symm
    refine hother rfl (claimed_set ?_ k)
    exact hr
  | @claim c now ctx g r t h =>
    have hle := hu _ _ h.reward
    obtain ⟨hout, hamt⟩ := h.amount hw.sound
    have hv := hamt rewardVault
    rw [if_pos rfl, if_neg (owned_rewardVault.ne hout)] at hv
    have haccount : (Action.call c now (.claimReleasedClaw ctx)).claimAccount =
      some ctx.rewardAccount := rfl
    rw [haccount]
    by_cases hk : ctx.rewardAccount = k
    · subst hk
      have hold : s.claimedBy ctx.rewardAccount = r.claimedClawTotal := Store.term_some h.reward _
      have hnew : (Masterpool.claimed now.toInt ctx s r t).claimedBy ctx.rewardAccount =
        r.releasedClawTotal := Store.term_set_self _ _ _ _
      rw [hold, hnew, if_pos rfl]
      simp only [Masterpool.claimed]
      omega
    · rw [if_neg fun e => hk (Option.some.inj e), Nat.add_zero]
      exact Store.term_set_of_ne (Ne.symm hk) _ _

/-- The claimant is the owner of the account and gets what the vault pays. -/
theorem Effect.credits_claimant {a : Action} (hw : Wf s) (h : Effect s a s')
    {k : RewardAccountKind × Pubkey} (ha : a.claimAccount = some k) :
    s' = s ∨ ∃ d y, s.tokens.accounts.get d = some y ∧ y.owner = k.2 ∧
      s'.tokens.amount d =
        s.tokens.amount d + (s.tokens.amount rewardVault - s'.tokens.amount rewardVault) := by
  cases h with
  | failed _ => exact Or.inl rfl
  | aside haside _ =>
    rw [IsAside.claimAccount haside] at ha
    cases ha
  | @claim c now ctx g r t h =>
    obtain rfl := Option.some.inj ha
    obtain ⟨hout, hamt⟩ := h.amount hw.sound
    have hv := hamt rewardVault
    have hd := hamt ctx.claimantClawToken
    rw [if_pos rfl, if_neg (owned_rewardVault.ne hout)] at hv
    rw [if_neg (owned_rewardVault.ne hout).symm, if_pos rfl] at hd
    obtain ⟨y, hy, hown, -⟩ := h.destination
    refine Or.inr ⟨ctx.claimantClawToken, y, hy, ?_, ?_⟩
    · rw [hown, ← h.owner, (hw.reward _ _ h.reward).owner]
    · simp only [Masterpool.claimed]
      omega
  | genesis _ => cases ha
  | fund _ => cases ha
  | register _ => cases ha
  | exit _ => cases ha
  | record _ => cases ha
  | settle _ => cases ha
  | bond _ => cases ha
  | reject _ _ _ _ => cases ha
  | revert _ _ _ _ => cases ha
  | materialize _ => cases ha

theorem reached_unclaimed (as : List Action) : Unclaimed (reached as) := by
  refine (Machine.run_induction (P := fun s => Wf s ∧ Unclaimed s) (fun s a h => ?_)
    ⟨wf_init, unclaimed_init⟩ as).2
  exact ⟨step_wf h.1 a, (step_effect h.1.sound a).unclaimed h.1 h.2⟩

/-- Over a run the vault has paid an account what is booked as claimed. -/
theorem reached_claimedBy (as : List Action) (k : RewardAccountKind × Pubkey) :
    (reached as).claimedBy k = Machine.total step (claimPaid k) .init as := by
  have hrun := Machine.total_induction step (claimPaid k)
    (I := fun n s => (Wf s ∧ Unclaimed s) ∧ s.claimedBy k = n) (fun n s a h => ?_)
    ⟨⟨wf_init, unclaimed_init⟩, rfl⟩ as
  · exact hrun.2
  · obtain ⟨⟨hw, hu⟩, hn⟩ := h
    have heff := step_effect hw.sound a
    refine ⟨⟨step_wf hw a, heff.unclaimed hw hu⟩, ?_⟩
    rw [heff.claimedBy hw hu k, hn]
    rfl

/-- **Reward ledger**: in every run each reward account shows the totals of the receipts of its
wallet in its role, and what the vault has paid the wallet for it; nothing of an unsettled or
reverted receipt is released; and the subtractions of settling, resolving and releasing succeed. -/
theorem reward_ledger (as : List Action) :
    (∀ tgt w r, (reached as).rewards.get (tgt.expectedKind, w) = some r →
      RewardLedger (reached as) tgt w r ∧ r.claimedClawTotal ≤ r.releasedClawTotal ∧
        r.claimedClawTotal = Machine.total step (claimPaid (tgt.expectedKind, w)) .init as) ∧
    (∀ k a, a.claimAccount = some k → step (reached as) a = reached as ∨
      ∃ d y, (reached as).tokens.accounts.get d = some y ∧ y.owner = k.2 ∧
        (step (reached as) a).tokens.amount d =
          (reached as).tokens.amount d + claimPaid k (reached as) a) ∧
    (∀ k x tgt, (reached as).settlements.get k = some x → x.status ≠ .FinalizedSettled →
      x.releasedSoFar tgt = 0) ∧
    (∀ c now ctx target amount, materializeRewardRelease c now ctx target amount (reached as) ≠
      .error (.custom .RewardReleaseExceedsLocked)) ∧
    (∀ k x tgt r, (reached as).settlements.get k = some x → x.status = .Recorded →
      (reached as).rewards.get (x.rewardKey tgt) = some r →
        checkedSubU64 r.pendingClawTotal (x.totalLocked tgt) =
          .ok (r.pendingClawTotal - x.totalLocked tgt)) := by
  have hw := reached_wf as
  have hc := reached_credited as
  refine ⟨fun tgt w r hr => ⟨hc.ledger tgt hr, reached_unclaimed as _ r hr, ?_⟩, fun k a ha => ?_,
    fun k x tgt hx hst => ?_, hc.release_covered hw, fun k x tgt r hx hrec hr => ?_⟩
  · rw [← reached_claimedBy]
    exact (Store.term_some hr fun _ r => r.claimedClawTotal).symm
  · rw [claimPaid, if_pos ha]
    exact (step_effect hw.sound a).credits_claimant hw ha
  · obtain ⟨huser, hprovider⟩ := (hw.settlement k x hx).unreleased hst
    cases tgt
    · exact huser
    · exact hprovider
  · exact checkedSubU64_eq_ok.mpr ⟨(hc.ledger tgt hr).of_recorded hx rfl hrec, rfl⟩

end Masterpool
