import Clawfarm.Masterpool.State

/-!
# Masterpool.Utils — validation, arithmetic and vesting

The functions of `utils.rs`, each followed by what its success means.
-/

namespace Masterpool

open Token Checked

/-! ## Arithmetic -/

/-- `u64::try_from`. -/
def tryIntoU64 (x : ℕ) : Result ℕ :=
  if x < u64Bound then .ok x else .error (.custom .MathOverflow)

/-- `u128::try_from`. -/
def tryIntoU128 (x : ℤ) : Result ℕ :=
  if 0 ≤ x then .ok x.toNat else .error (.custom .MathOverflow)

def calculateBpsAmount (amount bps : ℕ) : Result ℕ := tryIntoU64 (amount * bps / BPS_SCALE)

def calculateClawAmount (usdcAmount rateE6 : ℕ) : Result ℕ :=
  tryIntoU64 (usdcAmount * rateE6 / RATE_SCALE)

def checkedAddU64 (left right : ℕ) : Result ℕ :=
  checkedAddNat u64Bound left right (.custom .MathOverflow)

def checkedSubU64 (left right : ℕ) : Result ℕ := checkedSubNat left right (.custom .MathOverflow)

def checkedAddI128 (left right : ℤ) : Result ℤ :=
  checkedInt i128Min i128Max (left + right) (.custom .MathOverflow)

def checkedSubI128 (left right : ℤ) : Result ℤ :=
  checkedInt i128Min i128Max (left - right) (.custom .MathOverflow)

@[simp] theorem tryIntoU64_eq_ok {x y : ℕ} : tryIntoU64 x = .ok y ↔ x < u64Bound ∧ y = x := by
  unfold tryIntoU64
  split_ifs with h <;> simp [h, eq_comm]

@[simp] theorem calculateBpsAmount_eq_ok {amount bps c : ℕ} :
    calculateBpsAmount amount bps = .ok c ↔
      amount * bps / BPS_SCALE < u64Bound ∧ c = amount * bps / BPS_SCALE := tryIntoU64_eq_ok

@[simp] theorem calculateClawAmount_eq_ok {amount rate c : ℕ} :
    calculateClawAmount amount rate = .ok c ↔
      amount * rate / RATE_SCALE < u64Bound ∧ c = amount * rate / RATE_SCALE := tryIntoU64_eq_ok

@[simp] theorem checkedAddU64_eq_ok {left right c : ℕ} :
    checkedAddU64 left right = .ok c ↔ left + right < u64Bound ∧ c = left + right :=
  checkedAddNat_eq_ok

@[simp] theorem checkedSubU64_eq_ok {left right c : ℕ} :
    checkedSubU64 left right = .ok c ↔ right ≤ left ∧ c = left - right := checkedSubNat_eq_ok

@[simp] theorem checkedAddI128_eq_ok {left right c : ℤ} :
    checkedAddI128 left right = .ok c ↔
      (i128Min ≤ left + right ∧ left + right ≤ i128Max) ∧ c = left + right := checkedInt_eq_ok

@[simp] theorem checkedSubI128_eq_ok {left right c : ℤ} :
    checkedSubI128 left right = .ok c ↔
      (i128Min ≤ left - right ∧ left - right ≤ i128Max) ∧ c = left - right := checkedInt_eq_ok

/-! ## Parameter validation -/

/-- `map_err(|_| error!(ErrorCode::InvalidGovernanceParameters))` -/
def governanceError {α : Type} (x : Result α) : Result α :=
  x.mapError fun _ => .custom .InvalidGovernanceParameters

def validatePhase1ParamBounds (params : Phase1ConfigParams) : Result Unit := do
  let maxTreasuryUsdc ←
    governanceError (calculateBpsAmount MAX_RECEIPT_USDC_ATOMIC params.treasuryUsdcShareBps.toNat)
  let _maxProviderUsdc ← governanceError (checkedSubU64 MAX_RECEIPT_USDC_ATOMIC maxTreasuryUsdc)
  let maxTotalClaw ← governanceError
    (calculateClawAmount MAX_RECEIPT_USDC_ATOMIC params.exchangeRateClawPerUsdcE6.toNat)
  let maxUserClaw ←
    governanceError (calculateBpsAmount maxTotalClaw params.userClawShareBps.toNat)
  let _maxProviderClaw ← governanceError (checkedSubU64 maxTotalClaw maxUserClaw)
  let challengerReward ← governanceError
    (calculateBpsAmount params.providerSlashClawAmount.toNat params.challengerRewardBps.toNat)
  let _burnAmount ←
    governanceError (checkedSubU64 params.providerSlashClawAmount.toNat challengerReward)
  return ()

/-- `u32` addition. -/
def checkedAddU32 (left right : ℕ) : Result ℕ :=
  checkedAddNat (2 ^ 32) left right (.custom .MathOverflow)

def validatePhase1Params (params : Phase1ConfigParams) : Result Unit := do
  let usdcSplitTotal ←
    checkedAddU32 params.providerUsdcShareBps.toNat params.treasuryUsdcShareBps.toNat
  let clawSplitTotal ←
    checkedAddU32 params.userClawShareBps.toNat params.providerClawShareBps.toNat
  let challengeSplitTotal ← checkedAddU32 params.challengerRewardBps.toNat params.burnBps.toNat
  ensure (0 < params.exchangeRateClawPerUsdcE6 ∧ 0 < params.providerStakeUsdc ∧
    0 < params.lockDays ∧ 0 < params.providerSlashClawAmount ∧
    0 < params.challengeBondClawAmount) .InvalidPositiveAmount
  ensure (usdcSplitTotal = BPS_SCALE) .InvalidSplitInvariant
  ensure (clawSplitTotal = BPS_SCALE) .InvalidSplitInvariant
  ensure (challengeSplitTotal = BPS_SCALE) .InvalidSplitInvariant
  validatePhase1ParamBounds params

def validateSupportedReceiptCharge (totalUsdcPaid : ℕ) : Result Unit :=
  ensure (totalUsdcPaid ≤ MAX_RECEIPT_USDC_ATOMIC) .ReceiptChargeTooLarge

def requirePhase1MintDecimals (clawMint usdcMint : Mint Pubkey) : Result Unit :=
  ensure (clawMint.decimals = CLAW_DECIMALS ∧ usdcMint.decimals = USDC_DECIMALS)
    .InvalidMintDecimals

def validateFaucetLimits (limits : FaucetLimits) : Result Unit := do
  ensure (0 < limits.maxClawPerClaim ∧ 0 < limits.maxUsdcPerClaim ∧
    0 < limits.maxClawPerWalletPerDay ∧ 0 < limits.maxUsdcPerWalletPerDay ∧
    0 < limits.maxClawGlobalPerDay ∧ 0 < limits.maxUsdcGlobalPerDay) .InvalidFaucetLimits
  ensure (limits.maxClawPerClaim ≤ limits.maxClawPerWalletPerDay ∧
    limits.maxUsdcPerClaim ≤ limits.maxUsdcPerWalletPerDay) .InvalidFaucetLimits
  ensure (limits.maxClawPerWalletPerDay ≤ limits.maxClawGlobalPerDay ∧
    limits.maxUsdcPerWalletPerDay ≤ limits.maxUsdcGlobalPerDay) .InvalidFaucetLimits

/-! ## Vesting -/

def computeLinearReleasableAmount (totalLocked releasedSoFar : ℕ) (lockStart now : ℤ)
    (lockDays : ℕ) : Result ℕ := do
  let lockSeconds ← checkedInt i64Min i64Max (lockDays * 86400) (.custom .MathOverflow)
  ensure (0 < lockSeconds) .InvalidPositiveAmount
  let elapsed := saturate 0 lockSeconds (saturate i64Min i64Max (now - lockStart))
  let elapsedU128 ← tryIntoU128 elapsed
  let lockSecondsU128 ← tryIntoU128 lockSeconds
  let vested ← tryIntoU64 (totalLocked * elapsedU128 / lockSecondsU128)
  checkedSubU64 vested releasedSoFar

/-! ## Callers, token accounts and reward accounts -/

def requireAttestationCaller (c : Caller MASTERPOOL_ID) (config : GlobalConfig)
    (attestationConfig : AccountInfo) : Result Unit :=
  ensure (attestationConfig.owner = config.attestationProgram ∧
    attestationConfig.key ∈ c.signers) .UnauthorizedAttestationCaller

def requireTokenOwner (tokenAccount : TokenAccount Pubkey) (owner : Pubkey) : Result Unit :=
  ensure (tokenAccount.owner = owner) .InvalidTokenOwner

def requireTokenMint (tokenAccount : TokenAccount Pubkey) (mint : Pubkey) : Result Unit :=
  ensure (tokenAccount.mint = mint) .InvalidTokenMint

@[simp] theorem requireAttestationCaller_eq_ok {c : Caller MASTERPOOL_ID} {config : GlobalConfig}
    {info : AccountInfo} {u : Unit} : requireAttestationCaller c config info = .ok u ↔
      info.owner = config.attestationProgram ∧ info.key ∈ c.signers := ensure_eq_ok

@[simp] theorem requireTokenOwner_eq_ok {x : TokenAccount Pubkey} {k : Pubkey} {u : Unit} :
    requireTokenOwner x k = .ok u ↔ x.owner = k := ensure_eq_ok

@[simp] theorem requireTokenMint_eq_ok {x : TokenAccount Pubkey} {k : Pubkey} {u : Unit} :
    requireTokenMint x k = .ok u ↔ x.mint = k := ensure_eq_ok

def initializeRewardAccount (rewardAccount : RewardAccount) (owner : Pubkey)
    (rewardKind : RewardAccountKind) (now : ℤ) : Result RewardAccount :=
  if rewardAccount.initialized = false then
    .ok { initialized := true, owner := owner, rewardKind := rewardKind
          pendingClawTotal := 0, lockedClawTotal := 0, releasedClawTotal := 0
          claimedClawTotal := 0, createdAt := now, updatedAt := now }
  else do
    ensure (rewardAccount.owner = owner) .InvalidRewardAccountOwner
    ensure (rewardAccount.rewardKind = rewardKind) .InvalidRewardAccountKind
    return rewardAccount

theorem initializeRewardAccount_zeroed (owner : Pubkey) (kind : RewardAccountKind) (now : ℤ) :
    initializeRewardAccount .zeroed owner kind now =
      .ok ⟨true, owner, kind, 0, 0, 0, 0, now, now⟩ := rfl

theorem initializeRewardAccount_of_initialized {r : RewardAccount} (h : r.initialized = true)
    (now : ℤ) : initializeRewardAccount r r.owner r.rewardKind now = .ok r := by
  simp [initializeRewardAccount, h, ensure, require, bind, Except.bind, pure, Except.pure]

end Masterpool
