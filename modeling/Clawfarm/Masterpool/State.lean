import Clawfarm.Runtime

/-!
# Masterpool.State — constants, accounts and errors of the masterpool program

Amounts (`u64`), basis points (`u16`) and counters are naturals, times (`i64`) and the net position
(`i128`) are integers; the checked operations of the source keep them in range.  What a caller
passes in keeps its machine type.  Accounts at addresses derived from a wallet, a receipt or a
challenge are stored under that key.
-/

namespace Masterpool

open Token Checked

def BPS_SCALE : ℕ := 1000
def RATE_SCALE : ℕ := 1000000
def CLAW_DECIMALS : ℕ := 6
def USDC_DECIMALS : ℕ := 6
def GENESIS_TOTAL_SUPPLY : ℕ := 1000000000 * RATE_SCALE
def MAX_RECEIPT_USDC_ATOMIC : ℕ := 1000000000 * RATE_SCALE

def DEFAULT_FAUCET_MAX_CLAW_PER_CLAIM : UInt64 := 10000000
def DEFAULT_FAUCET_MAX_USDC_PER_CLAIM : UInt64 := 10000000
def DEFAULT_FAUCET_MAX_CLAW_PER_WALLET_PER_DAY : UInt64 := 50000000
def DEFAULT_FAUCET_MAX_USDC_PER_WALLET_PER_DAY : UInt64 := 50000000
def DEFAULT_FAUCET_MAX_CLAW_GLOBAL_PER_DAY : UInt64 := 50000000000
def DEFAULT_FAUCET_MAX_USDC_GLOBAL_PER_DAY : UInt64 := 50000000000
def SECONDS_PER_UTC_DAY : ℤ := 86400

def ATTESTATION_RECEIPT_STATUS_FINALIZED : ℕ := 2
def ATTESTATION_RESOLUTION_ACCEPTED : ℕ := 1
def ATTESTATION_RESOLUTION_REJECTED : ℕ := 2
def ATTESTATION_RESOLUTION_RECEIPT_INVALIDATED : ℕ := 3
def ATTESTATION_RESOLUTION_SIGNER_REVOKED : ℕ := 4

/-! ## Addresses -/

def poolAuthority : Pubkey := .pda MASTERPOOL_ID .POOL_AUTHORITY_SEED
def rewardVault : Pubkey := .pda MASTERPOOL_ID .REWARD_VAULT_SEED
def challengeBondVault : Pubkey := .pda MASTERPOOL_ID .CHALLENGE_BOND_VAULT_SEED
def treasuryUsdcVault : Pubkey := .pda MASTERPOOL_ID .TREASURY_USDC_VAULT_SEED
def providerStakeUsdcVault : Pubkey := .pda MASTERPOOL_ID .PROVIDER_STAKE_USDC_VAULT_SEED
def providerPendingUsdcVault : Pubkey := .pda MASTERPOOL_ID .PROVIDER_PENDING_USDC_VAULT_SEED
def faucetClawVault : Pubkey := .pda MASTERPOOL_ID .FAUCET_CLAW_VAULT_SEED
def faucetUsdcVault : Pubkey := .pda MASTERPOOL_ID .FAUCET_USDC_VAULT_SEED

/-! ## Errors -/

inductive ErrorCode
  | UnauthorizedAdmin
  | UnauthorizedAttestationCaller
  | InvalidAttestationProgram
  | InvalidProgramData
  | UnauthorizedInitializer
  | InvalidClawMint
  | InvalidUsdcMint
  | InvalidVaultAccount
  | InvalidTokenOwner
  | InvalidTokenMint
  | InvalidPaymentDelegate
  | InsufficientDelegatedAllowance
  | InvalidRewardAccountOwner
  | InvalidRewardAccountKind
  | InvalidProviderAccount
  | InvalidReceiptSettlement
  | InvalidChallengeBondRecord
  | InvalidMintDecimals
  | InvalidClawMintAuthority
  | InvalidClawFreezeAuthority
  | InvalidGovernanceParameters
  | InvalidSplitInvariant
  | InvalidPositiveAmount
  | MathOverflow
  | GenesisAlreadyMinted
  | ReceiptRecordingPaused
  | ChallengeProcessingPaused
  | FinalizationPaused
  | ClaimsPaused
  | ProviderNotActive
  | ProviderExitBlocked
  | InvalidReceiptSettlementState
  | InvalidChallengeBondState
  | InvalidAttestationReceiptStatus
  | InvalidChallengeResolution
  | ReceiptChargeTooLarge
  | NoClaimableRewards
  | RewardReleaseExceedsLocked
  | RewardReleaseExceedsVested
  | RewardLockNotStarted
  | FaucetDisabled
  | InvalidFaucetAmount
  | InvalidFaucetLimits
  | FaucetClaimLimitExceeded
  | FaucetWalletDailyLimitExceeded
  | FaucetGlobalDailyLimitExceeded
  | FaucetVaultInsufficientBalance
  | InvalidFaucetVault
  | InvalidFaucetUserState
  deriving DecidableEq, Repr

abbrev Result (α : Type) := Except (ProgramError ErrorCode) α

/-! ## Instruction data -/

structure Phase1ConfigParams where
  exchangeRateClawPerUsdcE6 : UInt64
  providerStakeUsdc : UInt64
  providerUsdcShareBps : UInt16
  treasuryUsdcShareBps : UInt16
  userClawShareBps : UInt16
  providerClawShareBps : UInt16
  lockDays : UInt16
  providerSlashClawAmount : UInt64
  challengerRewardBps : UInt16
  burnBps : UInt16
  challengeBondClawAmount : UInt64
  deriving DecidableEq

structure FaucetLimits where
  maxClawPerClaim : UInt64
  maxUsdcPerClaim : UInt64
  maxClawPerWalletPerDay : UInt64
  maxUsdcPerWalletPerDay : UInt64
  maxClawGlobalPerDay : UInt64
  maxUsdcGlobalPerDay : UInt64
  deriving DecidableEq

structure FaucetClaimArgs where
  clawAmount : UInt64
  usdcAmount : UInt64
  deriving DecidableEq

/-! ## Account types -/

inductive ProviderStatus
  | Active
  | Exited
  deriving DecidableEq, Repr

inductive RewardAccountKind
  | User
  | Provider
  deriving DecidableEq, Repr

inductive ReleaseTarget
  | User
  | Provider
  deriving DecidableEq, Repr

inductive ReceiptSettlementStatus
  | Recorded
  | FinalizedSettled
  | ChallengedReverted
  deriving DecidableEq, Repr

inductive ChallengeBondStatus
  | Locked
  | Returned
  | Burned
  deriving DecidableEq, Repr

def ReleaseTarget.tryFrom (value : ℕ) : Result ReleaseTarget :=
  match value with
  | 0 => .ok .User
  | 1 => .ok .Provider
  | _ => .error (.custom .InvalidRewardAccountKind)

structure GlobalConfig where
  version : ℕ
  adminAuthority : Pubkey
  attestationProgram : Pubkey
  clawMint : Pubkey
  usdcMint : Pubkey
  rewardVault : Pubkey
  challengeBondVault : Pubkey
  treasuryUsdcVault : Pubkey
  providerStakeUsdcVault : Pubkey
  providerPendingUsdcVault : Pubkey
  exchangeRateClawPerUsdcE6 : ℕ
  providerStakeUsdc : ℕ
  providerUsdcShareBps : ℕ
  treasuryUsdcShareBps : ℕ
  userClawShareBps : ℕ
  providerClawShareBps : ℕ
  lockDays : ℕ
  providerSlashClawAmount : ℕ
  challengerRewardBps : ℕ
  burnBps : ℕ
  challengeBondClawAmount : ℕ
  genesisMinted : Bool
  pauseReceiptRecording : Bool
  pauseChallengeProcessing : Bool
  pauseFinalization : Bool
  pauseClaims : Bool
  createdAt : ℤ
  updatedAt : ℤ
  deriving DecidableEq

structure ProviderAccount where
  providerWallet : Pubkey
  stakedUsdcAmount : ℕ
  pendingProviderUsdc : ℕ
  clawNetPosition : ℤ
  unsettledReceiptCount : ℕ
  unresolvedChallengeCount : ℕ
  status : ProviderStatus
  createdAt : ℤ
  updatedAt : ℤ
  deriving DecidableEq

structure RewardAccount where
  initialized : Bool
  owner : Pubkey
  rewardKind : RewardAccountKind
  pendingClawTotal : ℕ
  lockedClawTotal : ℕ
  releasedClawTotal : ℕ
  claimedClawTotal : ℕ
  createdAt : ℤ
  updatedAt : ℤ
  deriving DecidableEq

/-- A freshly created, zeroed account. -/
def RewardAccount.zeroed : RewardAccount := ⟨false, .default, .User, 0, 0, 0, 0, 0, 0⟩

structure ReceiptSettlement where
  attestationReceipt : Pubkey
  payerUser : Pubkey
  providerWallet : Pubkey
  usdcTotalPaid : ℕ
  usdcToProvider : ℕ
  usdcToTreasury : ℕ
  clawToUser : ℕ
  clawToProviderTotal : ℕ
  clawProviderDebtOffset : ℕ
  clawToProviderLocked : ℕ
  lockDaysSnapshot : ℕ
  rewardLockStartedAt : ℤ
  userClawReleased : ℕ
  providerClawReleased : ℕ
  status : ReceiptSettlementStatus
  createdAt : ℤ
  updatedAt : ℤ
  deriving DecidableEq

structure ChallengeBondRecord where
  attestationChallenge : Pubkey
  attestationReceipt : Pubkey
  challenger : Pubkey
  payerUser : Pubkey
  providerWallet : Pubkey
  bondAmount : ℕ
  slashClawAmountSnapshot : ℕ
  challengerRewardBpsSnapshot : ℕ
  burnBpsSnapshot : ℕ
  challengerRewardAmount : ℕ
  burnAmount : ℕ
  status : ChallengeBondStatus
  createdAt : ℤ
  updatedAt : ℤ
  deriving DecidableEq

structure FaucetConfig where
  adminAuthority : Pubkey
  enabled : Bool
  faucetClawVault : Pubkey
  faucetUsdcVault : Pubkey
  maxClawPerClaim : ℕ
  maxUsdcPerClaim : ℕ
  maxClawPerWalletPerDay : ℕ
  maxUsdcPerWalletPerDay : ℕ
  maxClawGlobalPerDay : ℕ
  maxUsdcGlobalPerDay : ℕ
  createdAt : ℤ
  updatedAt : ℤ
  deriving DecidableEq

structure FaucetGlobalState where
  currentDayIndex : ℤ
  clawClaimedToday : ℕ
  usdcClaimedToday : ℕ
  updatedAt : ℤ
  deriving DecidableEq

structure FaucetUserState where
  owner : Pubkey
  currentDayIndex : ℤ
  clawClaimedToday : ℕ
  usdcClaimedToday : ℕ
  createdAt : ℤ
  updatedAt : ℤ
  deriving DecidableEq

def FaucetUserState.zeroed : FaucetUserState := ⟨.default, 0, 0, 0, 0, 0⟩

/-- The accounts of the program, and the token ledger they live beside.  Reward accounts are
stored under their kind and wallet, settlements under the receipt, bond records under the
challenge. -/
structure State where
  tokens : Ledger Pubkey
  config : Option GlobalConfig
  providers : Store Pubkey ProviderAccount
  rewards : Store (RewardAccountKind × Pubkey) RewardAccount
  settlements : Store Pubkey ReceiptSettlement
  bonds : Store Pubkey ChallengeBondRecord
  faucetConfig : Option FaucetConfig
  faucetGlobalState : Option FaucetGlobalState
  faucetUserStates : Store Pubkey FaucetUserState

def State.init : State :=
  ⟨Ledger.empty, none, Store.empty, Store.empty, Store.empty, Store.empty, none, none,
    Store.empty⟩

/-- `Account<'info, TokenAccount>` -/
def State.tokenAccount (s : State) (k : Pubkey) : Result (TokenAccount Pubkey) :=
  load (s.tokens.accounts.get k)

/-- `Account<'info, Mint>` -/
def State.mintAccount (s : State) (k : Pubkey) : Result (Mint Pubkey) :=
  load (s.tokens.mints.get k)

@[simp] theorem tokenAccount_eq_ok {s : State} {k : Pubkey} {x : TokenAccount Pubkey} :
    s.tokenAccount k = .ok x ↔ s.tokens.accounts.get k = some x := load_eq_ok

@[simp] theorem mintAccount_eq_ok {s : State} {k : Pubkey} {x : Mint Pubkey} :
    s.mintAccount k = .ok x ↔ s.tokens.mints.get k = some x := load_eq_ok

end Masterpool
