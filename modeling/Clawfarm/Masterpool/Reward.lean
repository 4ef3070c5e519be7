import Clawfarm.Masterpool.Utils

/-!
# Masterpool.Reward — vesting releases and claims

The handlers of `instructions/reward.rs` with their account validation.
-/

namespace Masterpool

open Token Checked

structure MaterializeRewardRelease where
  adminAuthority : Pubkey
  /-- The kind and wallet from which the address of the reward account is derived. -/
  rewardAccount : RewardAccountKind × Pubkey
  /-- The receipt from which the address of the settlement is derived. -/
  receiptSettlement : Pubkey

/-! The four values that `match target` selects. -/

def ReceiptSettlement.expectedOwner (x : ReceiptSettlement) : ReleaseTarget → Pubkey
  | .User => x.payerUser
  | .Provider => x.providerWallet

def ReleaseTarget.expectedKind : ReleaseTarget → RewardAccountKind
  | .User => .User
  | .Provider => .Provider

def ReceiptSettlement.totalLocked (x : ReceiptSettlement) : ReleaseTarget → ℕ
  | .User => x.clawToUser
  | .Provider => x.clawToProviderLocked

def ReceiptSettlement.releasedSoFar (x : ReceiptSettlement) : ReleaseTarget → ℕ
  | .User => x.userClawReleased
  | .Provider => x.providerClawReleased

def ReceiptSettlement.addReleased (x : ReceiptSettlement) (target : ReleaseTarget) (amount : ℕ) :
    Result ReceiptSettlement :=
  match target with
  | .User => do
    let userClawReleased ← checkedAddU64 x.userClawReleased amount
    return { x with userClawReleased := userClawReleased }
  | .Provider => do
    let providerClawReleased ← checkedAddU64 x.providerClawReleased amount
    return { x with providerClawReleased := providerClawReleased }

def materializeRewardRelease (c : Caller MASTERPOOL_ID) (now : ℤ) (ctx : MaterializeRewardRelease)
    (target : ℕ) (amount : ℕ) (s : State) : Result State := do
  let config ← load s.config
  ensure (config.adminAuthority = ctx.adminAuthority) .UnauthorizedAdmin
  c.sign ctx.adminAuthority
  let rewardAccount ← load (s.rewards.get ctx.rewardAccount)
  let settlement ← load (s.settlements.get ctx.receiptSettlement)
  -- the handler
  ensure (0 < amount) .InvalidPositiveAmount
  let target ← ReleaseTarget.tryFrom target
  ensure (settlement.status = .FinalizedSettled) .InvalidReceiptSettlementState
  ensure (0 < settlement.rewardLockStartedAt) .RewardLockNotStarted
  let releasable ← computeLinearReleasableAmount (settlement.totalLocked target)
    (settlement.releasedSoFar target) settlement.rewardLockStartedAt now settlement.lockDaysSnapshot
  ensure (amount ≤ releasable) .RewardReleaseExceedsVested
  ensure (rewardAccount.owner = settlement.expectedOwner target) .InvalidRewardAccountOwner
  ensure (rewardAccount.rewardKind = target.expectedKind) .InvalidRewardAccountKind
  ensure (amount ≤ rewardAccount.lockedClawTotal) .RewardReleaseExceedsLocked
  let locked ← checkedSubU64 rewardAccount.lockedClawTotal amount
  let released ← checkedAddU64 rewardAccount.releasedClawTotal amount
  let settlement ← settlement.addReleased target amount
  return { s with
    rewards := s.rewards.set ctx.rewardAccount
      { rewardAccount with
        lockedClawTotal := locked
        releasedClawTotal := released
        updatedAt := now }
    settlements := s.settlements.set ctx.receiptSettlement { settlement with updatedAt := now } }

structure ClaimReleasedClaw where
  /-- The kind and wallet from which the address of the reward account is derived. -/
  rewardAccount : RewardAccountKind × Pubkey
  claimant : Pubkey
  rewardVault : Pubkey
  claimantClawToken : Pubkey
  clawMint : Pubkey

def claimReleasedClaw (c : Caller MASTERPOOL_ID) (now : ℤ) (ctx : ClaimReleasedClaw) (s : State) :
    Result State := do
  let config ← load s.config
  let rewardAccount ← load (s.rewards.get ctx.rewardAccount)
  c.sign ctx.claimant
  let _ ← s.tokenAccount ctx.rewardVault
  ensure (ctx.rewardVault = config.rewardVault) .InvalidVaultAccount
  let claimantClawToken ← s.tokenAccount ctx.claimantClawToken
  let clawMint ← s.mintAccount ctx.clawMint
  ensure (ctx.clawMint = config.clawMint) .InvalidClawMint
  -- the handler
  ensure (config.pauseClaims = false) .ClaimsPaused
  ensure (rewardAccount.owner = ctx.claimant) .InvalidRewardAccountOwner
  let claimable ← checkedSubU64 rewardAccount.releasedClawTotal rewardAccount.claimedClawTotal
  ensure (0 < claimable) .NoClaimableRewards
  requireTokenOwner claimantClawToken ctx.claimant
  requireTokenMint claimantClawToken config.clawMint
  let tokens ← cpi (transferChecked s.tokens ctx.rewardVault ctx.clawMint ctx.claimantClawToken
    poolAuthority claimable clawMint.decimals)
  let claimed ← checkedAddU64 rewardAccount.claimedClawTotal claimable
  return { s with
    tokens := tokens
    rewards := s.rewards.set ctx.rewardAccount
      { rewardAccount with claimedClawTotal := claimed, updatedAt := now } }

/-! ## What the handlers do -/

/-- `x` after `amount` more is released to `target`. -/
def ReceiptSettlement.released (x : ReceiptSettlement) (amount : ℕ) :
    ReleaseTarget → ReceiptSettlement
  | .User => { x with userClawReleased := x.userClawReleased + amount }
  | .Provider => { x with providerClawReleased := x.providerClawReleased + amount }

theorem addReleased_ok {x x' : ReceiptSettlement} {target : ReleaseTarget} {n : ℕ}
    (h : x.addReleased target n = .ok x') : x' = x.released n target := by
  cases target <;>
    simp only [ReceiptSettlement.addReleased, bind_eq_ok, checkedAddU64_eq_ok, pure_eq_ok] at h <;>
    obtain ⟨q, ⟨-, rfl⟩, rfl⟩ := h <;> rfl

/-- What may be released now is not more than what is still locked of a settlement. -/
theorem computeLinearReleasableAmount_ok {total released n : ℕ} {start now : ℤ} {days : ℕ}
    (h : computeLinearReleasableAmount total released start now days = .ok n) :
    released + n ≤ total := by
  simp only [computeLinearReleasableAmount, bind_eq_ok, checkedInt_eq_ok, ensure_eq_ok,
    tryIntoU64_eq_ok, checkedSubU64_eq_ok, exists_unit] at h
  obtain ⟨secs, -, hpos, e, he, d, hd, w, ⟨-, rfl⟩, hle, rfl⟩ := h
  have hed : e ≤ d := by
    unfold tryIntoU128 at he hd
    rw [if_pos hpos.le] at hd
    split_ifs at he with h0
    obtain rfl := Except.ok.inj he
    obtain rfl := Except.ok.inj hd
    unfold saturate
    omega
  have hmul : total * e / d ≤ total := by
    refine Nat.div_le_of_le_mul ?_
    rw [Nat.mul_comm d]
    exact Nat.mul_le_mul_left total hed
  omega

/-! Which errors the steps of a release can give. -/

theorem tryFrom_ne {value : ℕ} {e : ErrorCode} (h : e ≠ .InvalidRewardAccountKind) :
    ReleaseTarget.tryFrom value ≠ .error (.custom e) := by
  unfold ReleaseTarget.tryFrom
  split
  · exact fun h => nomatch h
  · exact fun h => nomatch h
  · exact fun he => h (ProgramError.custom.inj (Except.error.inj he)).symm

theorem addReleased_ne {x : ReceiptSettlement} {target : ReleaseTarget} {n : ℕ} {e : ErrorCode}
    (h : e ≠ .MathOverflow) : x.addReleased target n ≠ .error (.custom e) := by
  have hne : (ProgramError.custom ErrorCode.MathOverflow) ≠ .custom e := by simpa using h.symm
  cases target <;>
    exact bind_ne_error (checkedAddNat_ne hne) fun _ _ he => nomatch he

theorem computeLinearReleasableAmount_ne {total released : ℕ} {start now : ℤ} {days : ℕ}
    {e : ErrorCode} (h : e ≠ .MathOverflow) (h' : e ≠ .InvalidPositiveAmount) :
    computeLinearReleasableAmount total released start now days ≠ .error (.custom e) := by
  have hne : (ProgramError.custom ErrorCode.MathOverflow) ≠ .custom e := by simpa using h.symm
  have hu128 : ∀ z, tryIntoU128 z ≠ .error (.custom e) := fun z => by
    unfold tryIntoU128
    split_ifs <;> simp [h.symm]
  refine bind_ne_error (checkedInt_ne hne) fun _ _ => ?_
  refine bind_ne_error (ensure_ne_custom (Or.inr h'.symm)) fun _ _ => ?_
  refine bind_ne_error (hu128 _) fun _ _ => ?_
  refine bind_ne_error (hu128 _) fun _ _ => ?_
  refine bind_ne_error ?_ fun _ _ => checkedSubNat_ne hne
  unfold tryIntoU64
  split_ifs <;> simp [h.symm]

/-- Under what conditions `amount` is released to `target`: `x` is the settlement, `r` the reward
account. -/
structure Materializes (c : Caller MASTERPOOL_ID) (now : ℤ) (ctx : MaterializeRewardRelease)
    (target : ReleaseTarget) (amount : ℕ) (s : State) (x : ReceiptSettlement) (r : RewardAccount) :
    Prop where
  admin : ∃ g, s.config = some g ∧ g.adminAuthority = ctx.adminAuthority ∧
    ctx.adminAuthority ∈ c.signers
  reward : s.rewards.get ctx.rewardAccount = some r
  settlement : s.settlements.get ctx.receiptSettlement = some x
  positive : 0 < amount
  finalized : x.status = .FinalizedSettled
  started : 0 < x.rewardLockStartedAt
  vested : ∃ n, computeLinearReleasableAmount (x.totalLocked target) (x.releasedSoFar target)
    x.rewardLockStartedAt now x.lockDaysSnapshot = .ok n ∧ amount ≤ n
  owner : r.owner = x.expectedOwner target
  kind : r.rewardKind = target.expectedKind
  locked : amount ≤ r.lockedClawTotal

/-- The state after a release. -/
def materialized (now : ℤ) (ctx : MaterializeRewardRelease) (target : ReleaseTarget) (amount : ℕ)
    (s : State) (x : ReceiptSettlement) (r : RewardAccount) : State :=
  { s with
    rewards := s.rewards.set ctx.rewardAccount
      { r with
        lockedClawTotal := r.lockedClawTotal - amount
        releasedClawTotal := r.releasedClawTotal + amount
        updatedAt := now }
    settlements := s.settlements.set ctx.receiptSettlement
      { x.released amount target with updatedAt := now } }

theorem materializeRewardRelease_ok {c : Caller MASTERPOOL_ID} {now : ℤ}
    {ctx : MaterializeRewardRelease} {target amount : ℕ} {s s' : State}
    (h : materializeRewardRelease c now ctx target amount s = .ok s') :
    ∃ tgt x r, ReleaseTarget.tryFrom target = .ok tgt ∧
      Materializes c now ctx tgt amount s x r ∧ s' = materialized now ctx tgt amount s x r := by
  simp only [materializeRewardRelease, bind_eq_ok, load_eq_ok, sign_eq_ok, ensure_eq_ok,
    checkedSubU64_eq_ok, checkedAddU64_eq_ok, exists_unit, exists_result, pure_eq_ok] at h
  obtain ⟨g, hg, hadmin, hsig, r, hr, x, hx, hpos, tgt, htgt, hfin, hstart, n, hn, hle, hown, hkind,
    hlock, -, -, x', hx', rfl⟩ := h
  obtain rfl := addReleased_ok hx'
  exact ⟨tgt, x, r, htgt, ⟨⟨g, hg, hadmin, hsig⟩, hr, hx, hpos, hfin, hstart, ⟨n, hn, hle⟩, hown,
    hkind, hlock⟩, rfl⟩

/-- Under what conditions a claim is paid from the reward account `r`. -/
structure Claims (c : Caller MASTERPOOL_ID) (ctx : ClaimReleasedClaw) (s : State)
    (g : GlobalConfig) (r : RewardAccount) (tokens : Ledger Pubkey) : Prop where
  config : s.config = some g
  reward : s.rewards.get ctx.rewardAccount = some r
  signed : ctx.claimant ∈ c.signers
  vault : ctx.rewardVault = g.rewardVault
  mint : ctx.clawMint = g.clawMint
  unpaused : g.pauseClaims = false
  owner : r.owner = ctx.claimant
  claimable : r.claimedClawTotal < r.releasedClawTotal
  destination : ∃ y, s.tokens.accounts.get ctx.claimantClawToken = some y ∧
    y.owner = ctx.claimant ∧ y.mint = g.clawMint
  transfer : ∃ m, s.tokens.mints.get ctx.clawMint = some m ∧
    transferChecked s.tokens ctx.rewardVault ctx.clawMint ctx.claimantClawToken poolAuthority
      (r.releasedClawTotal - r.claimedClawTotal) m.decimals = .ok tokens

/-- The state after a claim. -/
def claimed (now : ℤ) (ctx : ClaimReleasedClaw) (s : State) (r : RewardAccount)
    (tokens : Ledger Pubkey) : State :=
  { s with
    tokens := tokens
    rewards := s.rewards.set ctx.rewardAccount
      { r with claimedClawTotal := r.releasedClawTotal, updatedAt := now } }

theorem claimReleasedClaw_ok {c : Caller MASTERPOOL_ID} {now : ℤ} {ctx : ClaimReleasedClaw}
    {s s' : State} (h : claimReleasedClaw c now ctx s = .ok s') :
    ∃ g r tokens, Claims c ctx s g r tokens ∧ s' = claimed now ctx s r tokens := by
  simp only [claimReleasedClaw, bind_eq_ok, load_eq_ok, sign_eq_ok, ensure_eq_ok,
    tokenAccount_eq_ok, mintAccount_eq_ok, requireTokenOwner_eq_ok, requireTokenMint_eq_ok,
    checkedSubU64_eq_ok, checkedAddU64_eq_ok, cpi_eq_ok, exists_unit, exists_result, pure_eq_ok] at h
  obtain ⟨g, hg, r, hr, hsig, -, -, hvault, y, hy, m, hm, hmint, hpause, hown, hle, hpos, hyo, hym,
    t, ht, -, rfl⟩ := h
  refine ⟨g, r, t, ⟨hg, hr, hsig, hvault, hmint, hpause, hown, by omega, ⟨y, hy, hyo, hym⟩, m, hm,
    ht⟩, ?_⟩
  rw [claimed, Nat.add_sub_cancel' hle]

end Masterpool
