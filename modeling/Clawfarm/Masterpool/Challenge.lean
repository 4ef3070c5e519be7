import Clawfarm.Masterpool.Utils

/-!
# Masterpool.Challenge — bonds and challenge resolution

The handlers of `instructions/challenge.rs` with their account validation.
-/

namespace Masterpool

open Token Checked

structure RecordChallengeBond where
  attestationConfig : AccountInfo
  challenger : Pubkey
  challengerClawToken : Pubkey
  attestationReceipt : Pubkey
  attestationChallenge : Pubkey
  challengeBondVault : Pubkey
  clawMint : Pubkey

def recordChallengeBond (c : Caller MASTERPOOL_ID) (now : ℤ) (ctx : RecordChallengeBond)
    (s : State) : Result State := do
  let config ← load s.config
  constraint (ctx.attestationConfig.key = .pda config.attestationProgram .CONFIG_SEED)
    .ConstraintSeeds
  c.sign ctx.attestationConfig.key
  c.sign ctx.challenger
  let challengerClawToken ← s.tokenAccount ctx.challengerClawToken
  let settlement ← load (s.settlements.get ctx.attestationReceipt)
  let provider ← load (s.providers.get settlement.providerWallet)
  ensure (provider.providerWallet = settlement.providerWallet) .InvalidProviderAccount
  vacant (s.bonds.get ctx.attestationChallenge)
  ensure (ctx.challengeBondVault = config.challengeBondVault) .InvalidVaultAccount
  let clawMint ← s.mintAccount ctx.clawMint
  ensure (ctx.clawMint = config.clawMint) .InvalidClawMint
  -- the handler
  requireAttestationCaller c config ctx.attestationConfig
  ensure (config.pauseChallengeProcessing = false) .ChallengeProcessingPaused
  ensure (settlement.status = .Recorded) .InvalidReceiptSettlementState
  requireTokenOwner challengerClawToken ctx.challenger
  requireTokenMint challengerClawToken config.clawMint
  let tokens ← cpi (transferChecked s.tokens ctx.challengerClawToken ctx.clawMint
    ctx.challengeBondVault ctx.challenger config.challengeBondClawAmount clawMint.decimals)
  let challengerRewardAmount ←
    calculateBpsAmount config.providerSlashClawAmount config.challengerRewardBps
  let burnAmount ← checkedSubU64 config.providerSlashClawAmount challengerRewardAmount
  let unresolvedChallengeCount ← checkedAddU64 provider.unresolvedChallengeCount 1
  return { s with
    tokens := tokens
    providers := s.providers.set settlement.providerWallet
      { provider with unresolvedChallengeCount := unresolvedChallengeCount, updatedAt := now }
    bonds := s.bonds.set ctx.attestationChallenge
      { attestationChallenge := ctx.attestationChallenge
        attestationReceipt := ctx.attestationReceipt
        challenger := ctx.challenger
        payerUser := settlement.payerUser
        providerWallet := settlement.providerWallet
        bondAmount := config.challengeBondClawAmount
        slashClawAmountSnapshot := config.providerSlashClawAmount
        challengerRewardBpsSnapshot := config.challengerRewardBps
        burnBpsSnapshot := config.burnBps
        challengerRewardAmount := challengerRewardAmount
        burnAmount := burnAmount
        status := .Locked
        createdAt := now
        updatedAt := now } }

structure ResolveChallengeEconomics where
  attestationConfig : AccountInfo
  attestationReceipt : Pubkey
  attestationChallenge : Pubkey
  challengeBondVault : Pubkey
  rewardVault : Pubkey
  providerPendingUsdcVault : Pubkey
  challengerClawToken : Pubkey
  payerUsdcToken : Pubkey
  clawMint : Pubkey
  usdcMint : Pubkey

/-- The mutable accounts of `ResolveChallengeEconomics`, as loaded. -/
structure Resolution where
  tokens : Ledger Pubkey
  settlement : ReceiptSettlement
  record : ChallengeBondRecord
  provider : ProviderAccount
  userRewardAccount : RewardAccount
  providerRewardAccount : RewardAccount

/-- The arm of `resolve_challenge_economics` for the rejecting code. -/
def resolveRejected (ctx : ResolveChallengeEconomics) (r : Resolution) : Result Resolution := do
  let tokens ←
    cpi (burn r.tokens ctx.clawMint ctx.challengeBondVault poolAuthority r.record.bondAmount)
  return { r with tokens := tokens, record := { r.record with status := .Burned } }

/-- A token movement that is skipped for the amount `0`. -/
def ifPositive (amount : ℕ) (move : Except TokenError (Ledger Pubkey)) (tokens : Ledger Pubkey) :
    Result (Ledger Pubkey) :=
  if 0 < amount then cpi move else .ok tokens

/-- The arm of `resolve_challenge_economics` for the accepting codes. -/
def resolveAccepted (config : GlobalConfig) (ctx : ResolveChallengeEconomics) (r : Resolution) :
    Result Resolution := do
  let payerUsdcToken ← load (r.tokens.accounts.get ctx.payerUsdcToken)
  requireTokenOwner payerUsdcToken r.settlement.payerUser
  requireTokenMint payerUsdcToken config.usdcMint
  let challengerClawToken ← load (r.tokens.accounts.get ctx.challengerClawToken)
  requireTokenOwner challengerClawToken r.record.challenger
  requireTokenMint challengerClawToken config.clawMint
  let userPending ← checkedSubU64 r.userRewardAccount.pendingClawTotal r.settlement.clawToUser
  let providerPending ←
    checkedSubU64 r.providerRewardAccount.pendingClawTotal r.settlement.clawToProviderLocked
  let t₁ ← cpi (transferChecked r.tokens ctx.challengeBondVault ctx.clawMint
    ctx.challengerClawToken poolAuthority r.record.bondAmount CLAW_DECIMALS)
  let t₂ ← ifPositive r.record.challengerRewardAmount
    (transferChecked t₁ ctx.rewardVault ctx.clawMint ctx.challengerClawToken poolAuthority
      r.record.challengerRewardAmount CLAW_DECIMALS) t₁
  let t₃ ← ifPositive r.record.burnAmount
    (burn t₂ ctx.clawMint ctx.rewardVault poolAuthority r.record.burnAmount) t₂
  let t₄ ← cpi (transferChecked t₃ ctx.providerPendingUsdcVault ctx.usdcMint ctx.payerUsdcToken
    poolAuthority r.settlement.usdcToProvider USDC_DECIMALS)
  let pendingProviderUsdc ←
    checkedSubU64 r.provider.pendingProviderUsdc r.settlement.usdcToProvider
  let unsettledReceiptCount ← checkedSubU64 r.provider.unsettledReceiptCount 1
  let reversed ← checkedSubI128 r.provider.clawNetPosition r.settlement.clawToProviderTotal
  let slashed ← checkedSubI128 reversed r.record.slashClawAmountSnapshot
  return {
    tokens := t₄
    settlement := { r.settlement with status := .ChallengedReverted }
    record := { r.record with status := .Returned }
    provider := { r.provider with
      pendingProviderUsdc := pendingProviderUsdc
      unsettledReceiptCount := unsettledReceiptCount
      clawNetPosition := slashed }
    userRewardAccount := { r.userRewardAccount with pendingClawTotal := userPending }
    providerRewardAccount := { r.providerRewardAccount with pendingClawTotal := providerPending } }

/-- The codes with which a challenge is accepted. -/
def IsAccepting (resolutionCode : ℕ) : Prop :=
  resolutionCode = ATTESTATION_RESOLUTION_ACCEPTED ∨
    resolutionCode = ATTESTATION_RESOLUTION_RECEIPT_INVALIDATED ∨
    resolutionCode = ATTESTATION_RESOLUTION_SIGNER_REVOKED

instance : DecidablePred IsAccepting := fun _ => inferInstanceAs (Decidable (_ ∨ _ ∨ _))

/-- `match resolution_code` -/
def resolveArm (config : GlobalConfig) (ctx : ResolveChallengeEconomics) (resolutionCode : ℕ)
    (r : Resolution) : Result Resolution :=
  if resolutionCode = ATTESTATION_RESOLUTION_REJECTED then resolveRejected ctx r
  else if IsAccepting resolutionCode then resolveAccepted config ctx r
  else .error (.custom .InvalidChallengeResolution)

def resolveChallengeEconomics (c : Caller MASTERPOOL_ID) (now : ℤ)
    (ctx : ResolveChallengeEconomics) (resolutionCode : ℕ) (s : State) : Result State := do
  let config ← load s.config
  constraint (ctx.attestationConfig.key = .pda config.attestationProgram .CONFIG_SEED)
    .ConstraintSeeds
  c.sign ctx.attestationConfig.key
  let settlement ← load (s.settlements.get ctx.attestationReceipt)
  let record ← load (s.bonds.get ctx.attestationChallenge)
  let provider ← load (s.providers.get settlement.providerWallet)
  ensure (provider.providerWallet = settlement.providerWallet) .InvalidProviderAccount
  let providerRewardAccount ← load (s.rewards.get (.Provider, settlement.providerWallet))
  let userRewardAccount ← load (s.rewards.get (.User, settlement.payerUser))
  let _ ← s.tokenAccount ctx.challengeBondVault
  ensure (ctx.challengeBondVault = config.challengeBondVault) .InvalidVaultAccount
  ensure (ctx.rewardVault = config.rewardVault) .InvalidVaultAccount
  ensure (ctx.providerPendingUsdcVault = config.providerPendingUsdcVault) .InvalidVaultAccount
  ensure (ctx.clawMint = config.clawMint) .InvalidClawMint
  ensure (ctx.usdcMint = config.usdcMint) .InvalidUsdcMint
  -- the handler
  requireAttestationCaller c config ctx.attestationConfig
  ensure (config.pauseChallengeProcessing = false) .ChallengeProcessingPaused
  ensure (settlement.status = .Recorded) .InvalidReceiptSettlementState
  ensure (settlement.attestationReceipt = ctx.attestationReceipt) .InvalidReceiptSettlement
  ensure (record.attestationChallenge = ctx.attestationChallenge ∧
    record.attestationReceipt = settlement.attestationReceipt) .InvalidChallengeBondRecord
  ensure (record.status = .Locked) .InvalidChallengeBondState
  let loaded : Resolution :=
    ⟨s.tokens, settlement, record, provider, userRewardAccount, providerRewardAccount⟩
  let r ← resolveArm config ctx resolutionCode loaded
  let unresolvedChallengeCount ← checkedSubU64 r.provider.unresolvedChallengeCount 1
  return { s with
    tokens := r.tokens
    providers := s.providers.set settlement.providerWallet
      { r.provider with unresolvedChallengeCount := unresolvedChallengeCount, updatedAt := now }
    rewards := (s.rewards.set (.User, settlement.payerUser) r.userRewardAccount).set
      (.Provider, settlement.providerWallet) r.providerRewardAccount
    settlements := s.settlements.set ctx.attestationReceipt
      { r.settlement with updatedAt := now }
    bonds := s.bonds.set ctx.attestationChallenge { r.record with updatedAt := now } }

/-! ## What the handlers do -/

/-- The record of a bond on the settlement `x` under the config `g`. -/
def lockedRecord (g : GlobalConfig) (ctx : RecordChallengeBond) (x : ReceiptSettlement) (now : ℤ) :
    ChallengeBondRecord :=
  let challengerReward := g.providerSlashClawAmount * g.challengerRewardBps / BPS_SCALE
  { attestationChallenge := ctx.attestationChallenge
    attestationReceipt := ctx.attestationReceipt
    challenger := ctx.challenger
    payerUser := x.payerUser
    providerWallet := x.providerWallet
    bondAmount := g.challengeBondClawAmount
    slashClawAmountSnapshot := g.providerSlashClawAmount
    challengerRewardBpsSnapshot := g.challengerRewardBps
    burnBpsSnapshot := g.burnBps
    challengerRewardAmount := challengerReward
    burnAmount := g.providerSlashClawAmount - challengerReward
    status := .Locked
    createdAt := now
    updatedAt := now }

/-- Under what conditions a bond is recorded: `x` is the challenged settlement, `p` its provider,
`b` the new record. -/
structure Bonds (c : Caller MASTERPOOL_ID) (now : ℤ) (ctx : RecordChallengeBond) (s : State)
    (g : GlobalConfig) (x : ReceiptSettlement) (p : ProviderAccount) (tokens : Ledger Pubkey)
    (b : ChallengeBondRecord) : Prop where
  config : s.config = some g
  attestation : ctx.attestationConfig.key = .pda g.attestationProgram .CONFIG_SEED ∧
    ctx.attestationConfig.key ∈ c.signers ∧ ctx.attestationConfig.owner = g.attestationProgram
  signed : ctx.challenger ∈ c.signers
  settlement : s.settlements.get ctx.attestationReceipt = some x
  provider : s.providers.get x.providerWallet = some p
  wallet : p.providerWallet = x.providerWallet
  fresh : s.bonds.get ctx.attestationChallenge = none
  vault : ctx.challengeBondVault = g.challengeBondVault
  mint : ctx.clawMint = g.clawMint
  unpaused : g.pauseChallengeProcessing = false
  recorded : x.status = .Recorded
  source : ∃ y, s.tokens.accounts.get ctx.challengerClawToken = some y ∧
    y.owner = ctx.challenger ∧ y.mint = g.clawMint
  transfer : ∃ m, s.tokens.mints.get ctx.clawMint = some m ∧
    transferChecked s.tokens ctx.challengerClawToken ctx.clawMint ctx.challengeBondVault
      ctx.challenger b.bondAmount m.decimals = .ok tokens
  record : b = lockedRecord g ctx x now
  split : b.challengerRewardAmount ≤ b.slashClawAmountSnapshot

/-- The state after a bond is recorded. -/
def bonded (now : ℤ) (ctx : RecordChallengeBond) (s : State) (x : ReceiptSettlement)
    (p : ProviderAccount) (tokens : Ledger Pubkey) (b : ChallengeBondRecord) : State :=
  { s with
    tokens := tokens
    providers := s.providers.set x.providerWallet
      { p with unresolvedChallengeCount := p.unresolvedChallengeCount + 1, updatedAt := now }
    bonds := s.bonds.set ctx.attestationChallenge b }

theorem recordChallengeBond_ok {c : Caller MASTERPOOL_ID} {now : ℤ} {ctx : RecordChallengeBond}
    {s s' : State} (h : recordChallengeBond c now ctx s = .ok s') :
    ∃ g x p tokens b, Bonds c now ctx s g x p tokens b ∧ s' = bonded now ctx s x p tokens b := by
  simp only [recordChallengeBond, bind_eq_ok, load_eq_ok, constraint_eq_ok, sign_eq_ok,
    ensure_eq_ok, tokenAccount_eq_ok, mintAccount_eq_ok, vacant_eq_ok,
    requireAttestationCaller_eq_ok, requireTokenOwner_eq_ok, requireTokenMint_eq_ok,
    calculateBpsAmount_eq_ok, checkedSubU64_eq_ok, checkedAddU64_eq_ok, cpi_eq_ok, exists_unit,
    exists_result, pure_eq_ok] at h
  obtain ⟨g, hg, hkey, hsig, hch, y, hy, x, hx, p, hp, hw, hfresh, hvault, m, hm, hmint,
    ⟨hown, -⟩, hpause, hrec, hyo, hym, t, ht, -, hb, -, rfl⟩ := h
  exact ⟨g, x, p, t, _, ⟨hg, ⟨hkey, hsig, hown⟩, hch, hx, hp, hw, hfresh, hvault, hmint, hpause,
    hrec, ⟨y, hy, hyo, hym⟩, ⟨m, hm, ht⟩, rfl, hb⟩, rfl⟩

/-- The conditions that both arms of a resolution share: `x` is the settlement, `b` the bond
record, `p` the provider, `u` and `v` the reward accounts of payer and provider. -/
structure Resolves (c : Caller MASTERPOOL_ID) (ctx : ResolveChallengeEconomics) (s : State)
    (g : GlobalConfig) (x : ReceiptSettlement) (b : ChallengeBondRecord) (p : ProviderAccount)
    (u v : RewardAccount) : Prop where
  config : s.config = some g
  attestation : ctx.attestationConfig.key = .pda g.attestationProgram .CONFIG_SEED ∧
    ctx.attestationConfig.key ∈ c.signers ∧ ctx.attestationConfig.owner = g.attestationProgram
  settlement : s.settlements.get ctx.attestationReceipt = some x
  bond : s.bonds.get ctx.attestationChallenge = some b
  provider : s.providers.get x.providerWallet = some p
  wallet : p.providerWallet = x.providerWallet
  providerReward : s.rewards.get (.Provider, x.providerWallet) = some v
  userReward : s.rewards.get (.User, x.payerUser) = some u
  bondAccount : ∃ y, s.tokens.accounts.get ctx.challengeBondVault = some y
  vaults : ctx.challengeBondVault = g.challengeBondVault ∧ ctx.rewardVault = g.rewardVault ∧
    ctx.providerPendingUsdcVault = g.providerPendingUsdcVault
  mints : ctx.clawMint = g.clawMint ∧ ctx.usdcMint = g.usdcMint
  unpaused : g.pauseChallengeProcessing = false
  recorded : x.status = .Recorded
  receipt : x.attestationReceipt = ctx.attestationReceipt
  record : b.attestationChallenge = ctx.attestationChallenge ∧
    b.attestationReceipt = x.attestationReceipt
  locked : b.status = .Locked

theorem resolveChallengeEconomics_iff {c : Caller MASTERPOOL_ID} {now : ℤ}
    {ctx : ResolveChallengeEconomics} {code : ℕ} {s s' : State} :
    resolveChallengeEconomics c now ctx code s = .ok s' ↔
      ∃ g x b p u v r, Resolves c ctx s g x b p u v ∧
        resolveArm g ctx code ⟨s.tokens, x, b, p, u, v⟩ = .ok r ∧
        1 ≤ r.provider.unresolvedChallengeCount ∧
        s' = { s with
          tokens := r.tokens
          providers := s.providers.set x.providerWallet
            { r.provider with
              unresolvedChallengeCount := r.provider.unresolvedChallengeCount - 1
              updatedAt := now }
          rewards := (s.rewards.set (.User, x.payerUser) r.userRewardAccount).set
            (.Provider, x.providerWallet) r.providerRewardAccount
          settlements := s.settlements.set ctx.attestationReceipt
            { r.settlement with updatedAt := now }
          bonds := s.bonds.set ctx.attestationChallenge { r.record with updatedAt := now } } := by
  simp only [resolveChallengeEconomics, bind_eq_ok, load_eq_ok, constraint_eq_ok, sign_eq_ok,
    ensure_eq_ok, tokenAccount_eq_ok, requireAttestationCaller_eq_ok, checkedSubU64_eq_ok,
    exists_unit, exists_result, pure_eq_ok]
  constructor
  · rintro ⟨g, hg, hkey, hsig, x, hx, b, hb, p, hp, hw, v, hv, u, hu, y, hy, h1, h2, h3, h4, h5,
      ⟨hown, -⟩, hpause, hrec, hreceipt, hrecord, hlocked, r, hr, hn, rfl⟩
    exact ⟨g, x, b, p, u, v, r, ⟨hg, ⟨hkey, hsig, hown⟩, hx, hb, hp, hw, hv, hu, ⟨y, hy⟩,
      ⟨h1, h2, h3⟩, ⟨h4, h5⟩, hpause, hrec, hreceipt, hrecord, hlocked⟩, hr, hn, rfl⟩
  · rintro ⟨g, x, b, p, u, v, r, h, hr, hn, rfl⟩
    obtain ⟨hkey, hsig, hown⟩ := h.attestation
    obtain ⟨y, hy⟩ := h.bondAccount
    exact ⟨g, h.config, hkey, hsig, x, h.settlement, b, h.bond, p, h.provider, h.wallet, v,
      h.providerReward, u, h.userReward, y, hy, h.vaults.1, h.vaults.2.1, h.vaults.2.2,
      h.mints.1, h.mints.2, ⟨hown, hsig⟩, h.unpaused, h.recorded, h.receipt, h.record, h.locked,
      r, hr, hn, rfl⟩

theorem resolveRejected_ok {ctx : ResolveChallengeEconomics} {r r' : Resolution} :
    resolveRejected ctx r = .ok r' ↔ ∃ tokens,
      burn r.tokens ctx.clawMint ctx.challengeBondVault poolAuthority r.record.bondAmount
        = .ok tokens ∧
      r' = { r with tokens := tokens, record := { r.record with status := .Burned } } := by
  simp only [resolveRejected, bind_eq_ok, cpi_eq_ok, pure_eq_ok, eq_comm (b := r')]

theorem ifPositive_ok {n : ℕ} {move : Except TokenError (Ledger Pubkey)} {l l' : Ledger Pubkey} :
    ifPositive n move l = .ok l' ↔ (0 < n → move = .ok l') ∧ (n = 0 → l' = l) := by
  unfold ifPositive
  split_ifs with h
  · simp [h, Nat.pos_iff_ne_zero.mp h]
  · simp [Nat.eq_zero_of_not_pos h, eq_comm]

/-- Under what conditions a challenge is accepted, with the ledgers after each movement. -/
structure Accepts (g : GlobalConfig) (ctx : ResolveChallengeEconomics) (r : Resolution)
    (t₁ t₂ t₃ t₄ : Ledger Pubkey) : Prop where
  payer : ∃ y, r.tokens.accounts.get ctx.payerUsdcToken = some y ∧
    y.owner = r.settlement.payerUser ∧ y.mint = g.usdcMint
  challenger : ∃ y, r.tokens.accounts.get ctx.challengerClawToken = some y ∧
    y.owner = r.record.challenger ∧ y.mint = g.clawMint
  userPending : r.settlement.clawToUser ≤ r.userRewardAccount.pendingClawTotal
  providerPending :
    r.settlement.clawToProviderLocked ≤ r.providerRewardAccount.pendingClawTotal
  bondReturn : transferChecked r.tokens ctx.challengeBondVault ctx.clawMint
    ctx.challengerClawToken poolAuthority r.record.bondAmount CLAW_DECIMALS = .ok t₁
  reward : ifPositive r.record.challengerRewardAmount
    (transferChecked t₁ ctx.rewardVault ctx.clawMint ctx.challengerClawToken poolAuthority
      r.record.challengerRewardAmount CLAW_DECIMALS) t₁ = .ok t₂
  slash : ifPositive r.record.burnAmount
    (burn t₂ ctx.clawMint ctx.rewardVault poolAuthority r.record.burnAmount) t₂ = .ok t₃
  refund : transferChecked t₃ ctx.providerPendingUsdcVault ctx.usdcMint ctx.payerUsdcToken
    poolAuthority r.settlement.usdcToProvider USDC_DECIMALS = .ok t₄
  pendingUsdc : r.settlement.usdcToProvider ≤ r.provider.pendingProviderUsdc
  unsettled : 1 ≤ r.provider.unsettledReceiptCount
  reversed : i128Min ≤ r.provider.clawNetPosition - r.settlement.clawToProviderTotal ∧
    r.provider.clawNetPosition - r.settlement.clawToProviderTotal ≤ i128Max
  slashed : i128Min ≤ r.provider.clawNetPosition - r.settlement.clawToProviderTotal -
      r.record.slashClawAmountSnapshot ∧
    r.provider.clawNetPosition - r.settlement.clawToProviderTotal -
      r.record.slashClawAmountSnapshot ≤ i128Max

/-- The accounts after a challenge is accepted. -/
def Resolution.accepted (r : Resolution) (tokens : Ledger Pubkey) : Resolution where
  tokens := tokens
  settlement := { r.settlement with status := .ChallengedReverted }
  record := { r.record with status := .Returned }
  provider := { r.provider with
    pendingProviderUsdc := r.provider.pendingProviderUsdc - r.settlement.usdcToProvider
    unsettledReceiptCount := r.provider.unsettledReceiptCount - 1
    clawNetPosition := r.provider.clawNetPosition - r.settlement.clawToProviderTotal -
      r.record.slashClawAmountSnapshot }
  userRewardAccount := { r.userRewardAccount with
    pendingClawTotal := r.userRewardAccount.pendingClawTotal - r.settlement.clawToUser }
  providerRewardAccount := { r.providerRewardAccount with
    pendingClawTotal :=
      r.providerRewardAccount.pendingClawTotal - r.settlement.clawToProviderLocked }

theorem resolveAccepted_ok {g : GlobalConfig} {ctx : ResolveChallengeEconomics}
    {r r' : Resolution} : resolveAccepted g ctx r = .ok r' ↔
      ∃ t₁ t₂ t₃ t₄, Accepts g ctx r t₁ t₂ t₃ t₄ ∧ r' = r.accepted t₄ := by
  simp only [resolveAccepted, bind_eq_ok, load_eq_ok, requireTokenOwner_eq_ok,
    requireTokenMint_eq_ok, checkedSubU64_eq_ok, checkedSubI128_eq_ok, cpi_eq_ok, exists_unit,
    exists_result, pure_eq_ok]
  constructor
  · rintro ⟨y, hy, hyo, hym, z, hz, hzo, hzm, hup, hvp, t₁, ht₁, t₂, ht₂, t₃, ht₃, t₄, ht₄, hpp, hn,
      hq, hq', rfl⟩
    exact ⟨t₁, t₂, t₃, t₄, ⟨⟨y, hy, hyo, hym⟩, ⟨z, hz, hzo, hzm⟩, hup, hvp, ht₁, ht₂, ht₃, ht₄,
      hpp, hn, hq, hq'⟩, rfl⟩
  · rintro ⟨t₁, t₂, t₃, t₄, h, rfl⟩
    obtain ⟨y, hy, hyo, hym⟩ := h.payer
    obtain ⟨z, hz, hzo, hzm⟩ := h.challenger
    exact ⟨y, hy, hyo, hym, z, hz, hzo, hzm, h.userPending, h.providerPending, t₁, h.bondReturn, t₂,
      h.reward, t₃, h.slash, t₄, h.refund, h.pendingUsdc, h.unsettled, h.reversed, h.slashed, rfl⟩

/-- The state after a rejected challenge. -/
def rejected (now : ℤ) (ctx : ResolveChallengeEconomics) (s : State) (x : ReceiptSettlement)
    (b : ChallengeBondRecord) (p : ProviderAccount) (tokens : Ledger Pubkey) : State :=
  { s with
    tokens := tokens
    providers := s.providers.set x.providerWallet
      { p with unresolvedChallengeCount := p.unresolvedChallengeCount - 1, updatedAt := now }
    settlements := s.settlements.set ctx.attestationReceipt { x with updatedAt := now }
    bonds := s.bonds.set ctx.attestationChallenge { b with status := .Burned, updatedAt := now } }

/-- The state after an accepted challenge. -/
def reverted (now : ℤ) (ctx : ResolveChallengeEconomics) (s : State) (x : ReceiptSettlement)
    (b : ChallengeBondRecord) (p : ProviderAccount) (u v : RewardAccount)
    (tokens : Ledger Pubkey) : State :=
  { s with
    tokens := tokens
    providers := s.providers.set x.providerWallet
      { p with
        pendingProviderUsdc := p.pendingProviderUsdc - x.usdcToProvider
        unsettledReceiptCount := p.unsettledReceiptCount - 1
        unresolvedChallengeCount := p.unresolvedChallengeCount - 1
        clawNetPosition := p.clawNetPosition - x.clawToProviderTotal - b.slashClawAmountSnapshot
        updatedAt := now }
    rewards := (s.rewards.set (.User, x.payerUser)
        { u with pendingClawTotal := u.pendingClawTotal - x.clawToUser }).set
      (.Provider, x.providerWallet)
        { v with pendingClawTotal := v.pendingClawTotal - x.clawToProviderLocked }
    settlements := s.settlements.set ctx.attestationReceipt
      { x with status := .ChallengedReverted, updatedAt := now }
    bonds := s.bonds.set ctx.attestationChallenge
      { b with status := .Returned, updatedAt := now } }

theorem resolveChallengeEconomics_rejecting {c : Caller MASTERPOOL_ID} {now : ℤ}
    {ctx : ResolveChallengeEconomics} {s s' : State}
    (h : resolveChallengeEconomics c now ctx ATTESTATION_RESOLUTION_REJECTED s = .ok s') :
    ∃ g x b p u v tokens, Resolves c ctx s g x b p u v ∧
      burn s.tokens ctx.clawMint ctx.challengeBondVault poolAuthority b.bondAmount = .ok tokens ∧
      1 ≤ p.unresolvedChallengeCount ∧ s' = rejected now ctx s x b p tokens := by
  obtain ⟨g, x, b, p, u, v, r, hres, hr, hn, rfl⟩ := resolveChallengeEconomics_iff.mp h
  rw [resolveArm, if_pos rfl, resolveRejected_ok] at hr
  obtain ⟨tokens, ht, rfl⟩ := hr
  refine ⟨g, x, b, p, u, v, tokens, hres, ht, hn, ?_⟩
  simp only [Store.set_get_self hres.userReward, Store.set_get_self hres.providerReward, rejected]

theorem resolveChallengeEconomics_accepting {c : Caller MASTERPOOL_ID} {now : ℤ}
    {ctx : ResolveChallengeEconomics} {code : ℕ} {s s' : State} (hcode : IsAccepting code) :
    resolveChallengeEconomics c now ctx code s = .ok s' ↔
      ∃ g x b p u v t₁ t₂ t₃ t₄, Resolves c ctx s g x b p u v ∧
        Accepts g ctx ⟨s.tokens, x, b, p, u, v⟩ t₁ t₂ t₃ t₄ ∧
        1 ≤ p.unresolvedChallengeCount ∧ s' = reverted now ctx s x b p u v t₄ := by
  have hne : code ≠ ATTESTATION_RESOLUTION_REJECTED := by
    rcases hcode with rfl | rfl | rfl <;> decide
  rw [resolveChallengeEconomics_iff]
  constructor
  · rintro ⟨g, x, b, p, u, v, r, hres, hr, hn, rfl⟩
    rw [resolveArm, if_neg hne, if_pos hcode, resolveAccepted_ok] at hr
    obtain ⟨t₁, t₂, t₃, t₄, hacc, rfl⟩ := hr
    exact ⟨g, x, b, p, u, v, t₁, t₂, t₃, t₄, hres, hacc, hn, rfl⟩
  · rintro ⟨g, x, b, p, u, v, t₁, t₂, t₃, t₄, hres, hacc, hn, rfl⟩
    refine ⟨g, x, b, p, u, v, Resolution.accepted ⟨s.tokens, x, b, p, u, v⟩ t₄, hres, ?_, hn, rfl⟩
    rw [resolveArm, if_neg hne, if_pos hcode, resolveAccepted_ok]
    exact ⟨t₁, t₂, t₃, t₄, hacc, rfl⟩

/-- Only the rejecting and the accepting codes resolve a challenge. -/
theorem resolveChallengeEconomics_code {c : Caller MASTERPOOL_ID} {now : ℤ}
    {ctx : ResolveChallengeEconomics} {code : ℕ} {s s' : State}
    (h : resolveChallengeEconomics c now ctx code s = .ok s') :
    code = ATTESTATION_RESOLUTION_REJECTED ∨ IsAccepting code := by
  obtain ⟨g, x, b, p, u, v, r, -, hr, -⟩ := resolveChallengeEconomics_iff.mp h
  unfold resolveArm at hr
  split_ifs at hr with h1 h2
  · exact Or.inl h1
  · exact Or.inr h2

end Masterpool
