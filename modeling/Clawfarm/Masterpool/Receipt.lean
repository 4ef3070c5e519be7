import Clawfarm.Masterpool.Utils

/-!
# Masterpool.Receipt — recording and settling receipts

The handlers of `instructions/receipt.rs` with their account validation.
-/

namespace Masterpool

open Token Checked

structure RecordMiningFromReceipt where
  attestationConfig : AccountInfo
  payerUser : Pubkey
  feePayer : Pubkey
  paymentDelegate : Pubkey
  payerUsdcToken : Pubkey
  /-- The wallet from which the address of the provider account is derived. -/
  providerAccount : Pubkey
  attestationReceipt : Pubkey
  treasuryUsdcVault : Pubkey
  providerPendingUsdcVault : Pubkey
  usdcMint : Pubkey

/-- The part of a provider reward that pays down a negative net position. -/
def providerDebtOffset (clawNetPosition : ℤ) (providerClawTotal : ℕ) : ℕ :=
  if clawNetPosition < 0 then min clawNetPosition.natAbs providerClawTotal % u64Bound else 0

/-- `init_if_needed`: the stored account, or a zeroed new one. -/
def State.rewardAccountOrNew (s : State) (k : RewardAccountKind × Pubkey) : RewardAccount :=
  (s.rewards.get k).getD .zeroed

/-- The pending reward of the provider grows only by a positive amount. -/
def bookProviderReward (rewardAccount : RewardAccount) (providerLockedClaw : ℕ) (now : ℤ) :
    Result RewardAccount :=
  if 0 < providerLockedClaw then do
    let pending ← checkedAddU64 rewardAccount.pendingClawTotal providerLockedClaw
    return { rewardAccount with pendingClawTotal := pending, updatedAt := now }
  else .ok rewardAccount

def recordMiningFromReceipt (c : Caller MASTERPOOL_ID) (now : ℤ) (ctx : RecordMiningFromReceipt)
    (totalUsdcPaid : ℕ) (s : State) : Result State := do
  let config ← load s.config
  constraint (ctx.attestationConfig.key = .pda config.attestationProgram .CONFIG_SEED)
    .ConstraintSeeds
  c.sign ctx.attestationConfig.key
  c.sign ctx.feePayer
  c.sign ctx.paymentDelegate
  let payerUsdcToken ← s.tokenAccount ctx.payerUsdcToken
  let provider ← load (s.providers.get ctx.providerAccount)
  constraint (ctx.providerAccount = provider.providerWallet) .ConstraintSeeds
  let providerRewardAccount ← load (s.rewards.get (.Provider, provider.providerWallet))
  vacant (s.settlements.get ctx.attestationReceipt)
  let _ ← s.tokenAccount ctx.treasuryUsdcVault
  ensure (ctx.treasuryUsdcVault = config.treasuryUsdcVault) .InvalidVaultAccount
  let _ ← s.tokenAccount ctx.providerPendingUsdcVault
  ensure (ctx.providerPendingUsdcVault = config.providerPendingUsdcVault) .InvalidVaultAccount
  let usdcMint ← s.mintAccount ctx.usdcMint
  ensure (ctx.usdcMint = config.usdcMint) .InvalidUsdcMint
  -- the handler
  requireAttestationCaller c config ctx.attestationConfig
  ensure (config.pauseReceiptRecording = false) .ReceiptRecordingPaused
  ensure (0 < totalUsdcPaid) .InvalidPositiveAmount
  validateSupportedReceiptCharge totalUsdcPaid
  requireTokenOwner payerUsdcToken ctx.payerUser
  requireTokenMint payerUsdcToken config.usdcMint
  ensure (payerUsdcToken.delegate = some ctx.paymentDelegate) .InvalidPaymentDelegate
  ensure (totalUsdcPaid ≤ payerUsdcToken.delegatedAmount) .InsufficientDelegatedAllowance
  ensure (provider.status = .Active) .ProviderNotActive
  let treasuryShare ← calculateBpsAmount totalUsdcPaid config.treasuryUsdcShareBps
  let providerShare ← checkedSubU64 totalUsdcPaid treasuryShare
  let t₁ ← cpi (transferChecked s.tokens ctx.payerUsdcToken ctx.usdcMint ctx.treasuryUsdcVault
    ctx.paymentDelegate treasuryShare usdcMint.decimals)
  let t₂ ← cpi (transferChecked t₁ ctx.payerUsdcToken ctx.usdcMint ctx.providerPendingUsdcVault
    ctx.paymentDelegate providerShare usdcMint.decimals)
  let totalClawReward ← calculateClawAmount totalUsdcPaid config.exchangeRateClawPerUsdcE6
  let userClaw ← calculateBpsAmount totalClawReward config.userClawShareBps
  let providerClawTotal ← checkedSubU64 totalClawReward userClaw
  let userRewardAccount ← initializeRewardAccount
    (s.rewardAccountOrNew (.User, ctx.payerUser)) ctx.payerUser .User now
  let providerRewardAccount ← initializeRewardAccount providerRewardAccount
    provider.providerWallet .Provider now
  let userPending ← checkedAddU64 userRewardAccount.pendingClawTotal userClaw
  let debtOffset := providerDebtOffset provider.clawNetPosition providerClawTotal
  let providerLockedClaw ← checkedSubU64 providerClawTotal debtOffset
  let providerRewardAccount ← bookProviderReward providerRewardAccount providerLockedClaw now
  let clawNetPosition ← checkedAddI128 provider.clawNetPosition providerClawTotal
  let pendingProviderUsdc ← checkedAddU64 provider.pendingProviderUsdc providerShare
  let unsettledReceiptCount ← checkedAddU64 provider.unsettledReceiptCount 1
  return { s with
    tokens := t₂
    providers := s.providers.set ctx.providerAccount
      { provider with
        clawNetPosition := clawNetPosition
        pendingProviderUsdc := pendingProviderUsdc
        unsettledReceiptCount := unsettledReceiptCount
        updatedAt := now }
    rewards := (s.rewards.set (.User, ctx.payerUser)
        { userRewardAccount with pendingClawTotal := userPending, updatedAt := now }).set
      (.Provider, provider.providerWallet) providerRewardAccount
    settlements := s.settlements.set ctx.attestationReceipt
      { attestationReceipt := ctx.attestationReceipt
        payerUser := ctx.payerUser
        providerWallet := provider.providerWallet
        usdcTotalPaid := totalUsdcPaid
        usdcToProvider := providerShare
        usdcToTreasury := treasuryShare
        clawToUser := userClaw
        clawToProviderTotal := providerClawTotal
        clawProviderDebtOffset := debtOffset
        clawToProviderLocked := providerLockedClaw
        lockDaysSnapshot := config.lockDays
        rewardLockStartedAt := 0
        userClawReleased := 0
        providerClawReleased := 0
        status := .Recorded
        createdAt := now
        updatedAt := now } }

structure SettleFinalizedReceipt where
  attestationConfig : AccountInfo
  attestationReceipt : Pubkey
  providerPendingUsdcVault : Pubkey
  providerDestinationUsdc : Pubkey
  usdcMint : Pubkey

def settleFinalizedReceipt (c : Caller MASTERPOOL_ID) (now : ℤ) (ctx : SettleFinalizedReceipt)
    (attestationReceiptStatus : ℕ) (s : State) : Result State := do
  let config ← load s.config
  constraint (ctx.attestationConfig.key = .pda config.attestationProgram .CONFIG_SEED)
    .ConstraintSeeds
  c.sign ctx.attestationConfig.key
  let settlement ← load (s.settlements.get ctx.attestationReceipt)
  let provider ← load (s.providers.get settlement.providerWallet)
  ensure (provider.providerWallet = settlement.providerWallet) .InvalidProviderAccount
  let providerRewardAccount ← load (s.rewards.get (.Provider, settlement.providerWallet))
  let userRewardAccount ← load (s.rewards.get (.User, settlement.payerUser))
  let _ ← s.tokenAccount ctx.providerPendingUsdcVault
  ensure (ctx.providerPendingUsdcVault = config.providerPendingUsdcVault) .InvalidVaultAccount
  let providerDestinationUsdc ← s.tokenAccount ctx.providerDestinationUsdc
  let usdcMint ← s.mintAccount ctx.usdcMint
  ensure (ctx.usdcMint = config.usdcMint) .InvalidUsdcMint
  -- the handler
  requireAttestationCaller c config ctx.attestationConfig
  ensure (config.pauseFinalization = false) .FinalizationPaused
  ensure (attestationReceiptStatus = ATTESTATION_RECEIPT_STATUS_FINALIZED)
    .InvalidAttestationReceiptStatus
  ensure (settlement.attestationReceipt = ctx.attestationReceipt) .InvalidReceiptSettlement
  ensure (settlement.status = .Recorded) .InvalidReceiptSettlementState
  ensure (provider.providerWallet = settlement.providerWallet) .InvalidProviderAccount
  let userPending ← checkedSubU64 userRewardAccount.pendingClawTotal settlement.clawToUser
  let userLocked ← checkedAddU64 userRewardAccount.lockedClawTotal settlement.clawToUser
  let providerPending ←
    checkedSubU64 providerRewardAccount.pendingClawTotal settlement.clawToProviderLocked
  let providerLocked ←
    checkedAddU64 providerRewardAccount.lockedClawTotal settlement.clawToProviderLocked
  requireTokenOwner providerDestinationUsdc settlement.providerWallet
  requireTokenMint providerDestinationUsdc config.usdcMint
  let tokens ← cpi (transferChecked s.tokens ctx.providerPendingUsdcVault ctx.usdcMint
    ctx.providerDestinationUsdc poolAuthority settlement.usdcToProvider usdcMint.decimals)
  let pendingProviderUsdc ← checkedSubU64 provider.pendingProviderUsdc settlement.usdcToProvider
  let unsettledReceiptCount ← checkedSubU64 provider.unsettledReceiptCount 1
  return { s with
    tokens := tokens
    providers := s.providers.set settlement.providerWallet
      { provider with
        pendingProviderUsdc := pendingProviderUsdc
        unsettledReceiptCount := unsettledReceiptCount
        updatedAt := now }
    rewards := (s.rewards.set (.User, settlement.payerUser)
        { userRewardAccount with
          pendingClawTotal := userPending
          lockedClawTotal := userLocked
          updatedAt := now }).set
      (.Provider, settlement.providerWallet)
        { providerRewardAccount with
          pendingClawTotal := providerPending
          lockedClawTotal := providerLocked
          updatedAt := now }
    settlements := s.settlements.set ctx.attestationReceipt
      { settlement with
        rewardLockStartedAt := now
        status := .FinalizedSettled
        updatedAt := now } }

/-! ## What the handlers do -/

/-- The settlement that a receipt of `totalUsdcPaid` gets under the config `g`. -/
def recordedSettlement (g : GlobalConfig) (p : ProviderAccount) (receipt payer : Pubkey) (now : ℤ)
    (totalUsdcPaid : ℕ) : ReceiptSettlement :=
  let treasuryShare := totalUsdcPaid * g.treasuryUsdcShareBps / BPS_SCALE
  let totalClaw := totalUsdcPaid * g.exchangeRateClawPerUsdcE6 / RATE_SCALE
  let userClaw := totalClaw * g.userClawShareBps / BPS_SCALE
  let debtOffset := providerDebtOffset p.clawNetPosition (totalClaw - userClaw)
  { attestationReceipt := receipt
    payerUser := payer
    providerWallet := p.providerWallet
    usdcTotalPaid := totalUsdcPaid
    usdcToProvider := totalUsdcPaid - treasuryShare
    usdcToTreasury := treasuryShare
    clawToUser := userClaw
    clawToProviderTotal := totalClaw - userClaw
    clawProviderDebtOffset := debtOffset
    clawToProviderLocked := totalClaw - userClaw - debtOffset
    lockDaysSnapshot := g.lockDays
    rewardLockStartedAt := 0
    userClawReleased := 0
    providerClawReleased := 0
    status := .Recorded
    createdAt := now
    updatedAt := now }

/-- Under what conditions a receipt is recorded: `x` is the settlement it gets, `pay` the token
account that pays, `p` the provider, `u` and `v` the reward accounts. -/
structure Records (c : Caller MASTERPOOL_ID) (now : ℤ) (ctx : RecordMiningFromReceipt)
    (totalUsdcPaid : ℕ) (s : State) (g : GlobalConfig) (pay : TokenAccount Pubkey)
    (p : ProviderAccount) (u v : RewardAccount) (t₁ t₂ : Ledger Pubkey) (x : ReceiptSettlement) :
    Prop where
  config : s.config = some g
  attestation : ctx.attestationConfig.key = .pda g.attestationProgram .CONFIG_SEED ∧
    ctx.attestationConfig.key ∈ c.signers ∧ ctx.attestationConfig.owner = g.attestationProgram
  signed : ctx.feePayer ∈ c.signers ∧ ctx.paymentDelegate ∈ c.signers
  payer : s.tokens.accounts.get ctx.payerUsdcToken = some pay
  payerOwner : pay.owner = ctx.payerUser
  payerMint : pay.mint = g.usdcMint
  delegate : pay.delegate = some ctx.paymentDelegate
  allowance : totalUsdcPaid ≤ pay.delegatedAmount
  provider : s.providers.get ctx.providerAccount = some p
  wallet : p.providerWallet = ctx.providerAccount
  active : p.status = .Active
  userReward : initializeRewardAccount (s.rewardAccountOrNew (.User, ctx.payerUser)) ctx.payerUser
    .User now = .ok u
  providerReward : ∃ v₀, s.rewards.get (.Provider, ctx.providerAccount) = some v₀ ∧
    initializeRewardAccount v₀ ctx.providerAccount .Provider now = .ok v
  fresh : s.settlements.get ctx.attestationReceipt = none
  vaults : ctx.treasuryUsdcVault = g.treasuryUsdcVault ∧
    ctx.providerPendingUsdcVault = g.providerPendingUsdcVault
  mint : ctx.usdcMint = g.usdcMint
  unpaused : g.pauseReceiptRecording = false
  positive : 0 < totalUsdcPaid
  supported : totalUsdcPaid ≤ MAX_RECEIPT_USDC_ATOMIC
  settlement : x = recordedSettlement g p ctx.attestationReceipt ctx.payerUser now totalUsdcPaid
  split : x.usdcToTreasury ≤ totalUsdcPaid
  total : x.clawToProviderTotal < u64Bound
  debt : x.clawProviderDebtOffset ≤ x.clawToProviderTotal
  position : i128Min ≤ p.clawNetPosition + x.clawToProviderTotal ∧
    p.clawNetPosition + x.clawToProviderTotal ≤ i128Max
  toTreasury : ∃ m, s.tokens.mints.get ctx.usdcMint = some m ∧
    transferChecked s.tokens ctx.payerUsdcToken ctx.usdcMint ctx.treasuryUsdcVault
      ctx.paymentDelegate x.usdcToTreasury m.decimals = .ok t₁ ∧
    transferChecked t₁ ctx.payerUsdcToken ctx.usdcMint ctx.providerPendingUsdcVault
      ctx.paymentDelegate x.usdcToProvider m.decimals = .ok t₂

/-- The state after recording. -/
def recorded (now : ℤ) (ctx : RecordMiningFromReceipt) (s : State) (p : ProviderAccount)
    (u v : RewardAccount) (tokens : Ledger Pubkey) (x : ReceiptSettlement) : State :=
  { s with
    tokens := tokens
    providers := s.providers.set ctx.providerAccount
      { p with
        clawNetPosition := p.clawNetPosition + x.clawToProviderTotal
        pendingProviderUsdc := p.pendingProviderUsdc + x.usdcToProvider
        unsettledReceiptCount := p.unsettledReceiptCount + 1
        updatedAt := now }
    rewards := (s.rewards.set (.User, ctx.payerUser)
        { u with pendingClawTotal := u.pendingClawTotal + x.clawToUser, updatedAt := now }).set
      (.Provider, ctx.providerAccount)
        { v with
          pendingClawTotal := v.pendingClawTotal + x.clawToProviderLocked
          updatedAt := if 0 < x.clawToProviderLocked then now else v.updatedAt }
    settlements := s.settlements.set ctx.attestationReceipt x }

theorem initializeRewardAccount_ok {r r' : RewardAccount} {owner : Pubkey}
    {kind : RewardAccountKind} {now : ℤ} (h : initializeRewardAccount r owner kind now = .ok r') :
    (r.initialized = false ∧ r' = ⟨true, owner, kind, 0, 0, 0, 0, now, now⟩) ∨
      (r.initialized = true ∧ r' = r ∧ r.owner = owner ∧ r.rewardKind = kind) := by
  unfold initializeRewardAccount at h
  split_ifs at h with hi
  · exact Or.inl ⟨hi, (Except.ok.inj h).symm⟩
  · simp only [bind_eq_ok, ensure_eq_ok, exists_unit, pure_eq_ok] at h
    obtain ⟨ho, hk, rfl⟩ := h
    exact Or.inr ⟨by simpa using hi, rfl, ho, hk⟩

theorem bookProviderReward_ok {r r' : RewardAccount} {n : ℕ} {now : ℤ}
    (h : bookProviderReward r n now = .ok r') :
    r' = { r with
      pendingClawTotal := r.pendingClawTotal + n
      updatedAt := if 0 < n then now else r.updatedAt } := by
  unfold bookProviderReward at h
  split_ifs at h with hn
  · simp only [bind_eq_ok, checkedAddU64_eq_ok, pure_eq_ok] at h
    obtain ⟨q, ⟨-, rfl⟩, rfl⟩ := h
    rw [if_pos hn]
  · obtain rfl := Except.ok.inj h
    rw [Nat.eq_zero_of_not_pos hn]
    rfl

theorem recordMiningFromReceipt_ok {c : Caller MASTERPOOL_ID} {now : ℤ}
    {ctx : RecordMiningFromReceipt} {totalUsdcPaid : ℕ} {s s' : State}
    (h : recordMiningFromReceipt c now ctx totalUsdcPaid s = .ok s') :
    ∃ g pay p u v t₁ t₂ x, Records c now ctx totalUsdcPaid s g pay p u v t₁ t₂ x ∧
      s' = recorded now ctx s p u v t₂ x := by
  simp only [recordMiningFromReceipt, bind_eq_ok, load_eq_ok, constraint_eq_ok, sign_eq_ok,
    ensure_eq_ok, tokenAccount_eq_ok, mintAccount_eq_ok, vacant_eq_ok,
    requireAttestationCaller_eq_ok, validateSupportedReceiptCharge, requireTokenOwner_eq_ok,
    requireTokenMint_eq_ok, calculateBpsAmount_eq_ok, calculateClawAmount_eq_ok,
    checkedSubU64_eq_ok, checkedAddU64_eq_ok, checkedAddI128_eq_ok, cpi_eq_ok, exists_unit,
    exists_result, pure_eq_ok] at h
  obtain ⟨g, hg, hkey, hsig, hfee, hpd, payer, hpayer, p, hp, hw, v₀, hv₀, hfresh, -, -, htv, -, -,
    hpv, m, hm, humint, ⟨hown, -⟩, hpause, hpos, hmax, hpo, hpm, hdel, hall, hact, -, hts, t₁, ht₁,
    t₂, ht₂, htotal, -, -, u, hu, v, hv, -, hdebt, v', hv', hpos', -, -, rfl⟩ := h
  refine ⟨g, payer, p, u, v, t₁, t₂, _, ⟨hg, ⟨hkey, hsig, hown⟩, ⟨hfee, hpd⟩, hpayer, hpo, hpm,
    hdel, hall, hp, hw.symm, hact, hu, ⟨v₀, hw ▸ hv₀, hw ▸ hv⟩, hfresh, ⟨htv, hpv⟩, humint, hpause,
    hpos, hmax, rfl, hts, (Nat.sub_le _ _).trans_lt htotal, hdebt, hpos', m, hm, ht₁, ht₂⟩, ?_⟩
  rw [bookProviderReward_ok hv', recorded, hw]
  rfl

/-- Under what conditions a receipt is settled: `x` is its settlement, `p` the provider, `u` and
`v` the reward accounts of payer and provider. -/
structure Settles (c : Caller MASTERPOOL_ID) (ctx : SettleFinalizedReceipt)
    (attestationReceiptStatus : ℕ) (s : State) (g : GlobalConfig) (x : ReceiptSettlement)
    (p : ProviderAccount) (u v : RewardAccount) (tokens : Ledger Pubkey) : Prop where
  config : s.config = some g
  attestation : ctx.attestationConfig.key = .pda g.attestationProgram .CONFIG_SEED ∧
    ctx.attestationConfig.key ∈ c.signers ∧ ctx.attestationConfig.owner = g.attestationProgram
  settlement : s.settlements.get ctx.attestationReceipt = some x
  provider : s.providers.get x.providerWallet = some p
  wallet : p.providerWallet = x.providerWallet
  providerReward : s.rewards.get (.Provider, x.providerWallet) = some v
  userReward : s.rewards.get (.User, x.payerUser) = some u
  vault : ctx.providerPendingUsdcVault = g.providerPendingUsdcVault
  mint : ctx.usdcMint = g.usdcMint
  unpaused : g.pauseFinalization = false
  finalized : attestationReceiptStatus = ATTESTATION_RECEIPT_STATUS_FINALIZED
  receipt : x.attestationReceipt = ctx.attestationReceipt
  recorded : x.status = .Recorded
  userPending : x.clawToUser ≤ u.pendingClawTotal
  userFits : u.lockedClawTotal + x.clawToUser < u64Bound
  providerPending : x.clawToProviderLocked ≤ v.pendingClawTotal
  providerFits : v.lockedClawTotal + x.clawToProviderLocked < u64Bound
  destination : ∃ d, s.tokens.accounts.get ctx.providerDestinationUsdc = some d ∧
    d.owner = x.providerWallet ∧ d.mint = g.usdcMint
  transfer : ∃ m, s.tokens.mints.get ctx.usdcMint = some m ∧
    transferChecked s.tokens ctx.providerPendingUsdcVault ctx.usdcMint ctx.providerDestinationUsdc
      poolAuthority x.usdcToProvider m.decimals = .ok tokens
  pendingUsdc : x.usdcToProvider ≤ p.pendingProviderUsdc
  unsettled : 1 ≤ p.unsettledReceiptCount

/-- The state after settling. -/
def settled (now : ℤ) (ctx : SettleFinalizedReceipt) (s : State) (x : ReceiptSettlement)
    (p : ProviderAccount) (u v : RewardAccount) (tokens : Ledger Pubkey) : State :=
  { s with
    tokens := tokens
    providers := s.providers.set x.providerWallet
      { p with
        pendingProviderUsdc := p.pendingProviderUsdc - x.usdcToProvider
        unsettledReceiptCount := p.unsettledReceiptCount - 1
        updatedAt := now }
    rewards := (s.rewards.set (.User, x.payerUser)
        { u with
          pendingClawTotal := u.pendingClawTotal - x.clawToUser
          lockedClawTotal := u.lockedClawTotal + x.clawToUser
          updatedAt := now }).set
      (.Provider, x.providerWallet)
        { v with
          pendingClawTotal := v.pendingClawTotal - x.clawToProviderLocked
          lockedClawTotal := v.lockedClawTotal + x.clawToProviderLocked
          updatedAt := now }
    settlements := s.settlements.set ctx.attestationReceipt
      { x with rewardLockStartedAt := now, status := .FinalizedSettled, updatedAt := now } }

theorem settleFinalizedReceipt_ok {c : Caller MASTERPOOL_ID} {now : ℤ}
    {ctx : SettleFinalizedReceipt} {attestationReceiptStatus : ℕ} {s s' : State} :
    settleFinalizedReceipt c now ctx attestationReceiptStatus s = .ok s' ↔
      ∃ g x p u v tokens, Settles c ctx attestationReceiptStatus s g x p u v tokens ∧
        s' = settled now ctx s x p u v tokens := by
  simp only [settleFinalizedReceipt, bind_eq_ok, load_eq_ok, constraint_eq_ok, sign_eq_ok,
    ensure_eq_ok, tokenAccount_eq_ok, mintAccount_eq_ok, requireAttestationCaller_eq_ok,
    checkedSubU64_eq_ok, checkedAddU64_eq_ok, requireTokenOwner_eq_ok, requireTokenMint_eq_ok,
    cpi_eq_ok, exists_unit, exists_result, pure_eq_ok]
  constructor
  · rintro ⟨g, hg, hkey, hsig, x, hx, p, hp, hw, v, hv, u, hu, -, -, hvault, d, hd, m, hm, hmint,
      ⟨hown, -⟩, hpause, hstatus, hreceipt, hrec, -, hup, hul, hvp, hvl, hdo, hdm, t, ht, hpp, huc,
      rfl⟩
    exact ⟨g, x, p, u, v, t, ⟨hg, ⟨hkey, hsig, hown⟩, hx, hp, hw, hv, hu, hvault, hmint, hpause,
      hstatus, hreceipt, hrec, hup, hul, hvp, hvl, ⟨d, hd, hdo, hdm⟩, ⟨m, hm, ht⟩, hpp, huc⟩, rfl⟩
  · rintro ⟨g, x, p, u, v, t, h, rfl⟩
    obtain ⟨hkey, hsig, hown⟩ := h.attestation
    obtain ⟨d, hd, hdo, hdm⟩ := h.destination
    obtain ⟨m, hm, ht⟩ := h.transfer
    obtain ⟨src, dst, guards, -⟩ := transferChecked_ok.mp ht
    exact ⟨g, h.config, hkey, hsig, x, h.settlement, p, h.provider, h.wallet, v, h.providerReward,
      u, h.userReward, src, guards.source, h.vault, d, hd, m, hm, h.mint, ⟨hown, hsig⟩, h.unpaused,
      h.finalized, h.receipt, h.recorded, h.wallet, h.userPending, h.userFits, h.providerPending,
      h.providerFits, hdo, hdm, t, ht, h.pendingUsdc, h.unsettled, rfl⟩

end Masterpool
