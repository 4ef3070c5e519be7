import Clawfarm.Masterpool.Utils

/-!
# Masterpool.Config — initialization, genesis and governance

The handlers of `instructions/config.rs` with their account validation.
-/

namespace Masterpool

open Token Checked

def applyPhase1Params (config : GlobalConfig) (params : Phase1ConfigParams) : GlobalConfig :=
  { config with
    exchangeRateClawPerUsdcE6 := params.exchangeRateClawPerUsdcE6.toNat
    providerStakeUsdc := params.providerStakeUsdc.toNat
    providerUsdcShareBps := params.providerUsdcShareBps.toNat
    treasuryUsdcShareBps := params.treasuryUsdcShareBps.toNat
    userClawShareBps := params.userClawShareBps.toNat
    providerClawShareBps := params.providerClawShareBps.toNat
    lockDays := params.lockDays.toNat
    providerSlashClawAmount := params.providerSlashClawAmount.toNat
    challengerRewardBps := params.challengerRewardBps.toNat
    burnBps := params.burnBps.toNat
    challengeBondClawAmount := params.challengeBondClawAmount.toNat }

/-- What the runtime says about the program accounts (their loader data, the executable bit) is
part of the context. -/
structure InitializeMasterpool where
  clawMint : Pubkey
  usdcMint : Pubkey
  attestationProgram : Pubkey
  attestationProgramExecutable : Bool
  programdataAddress : Option Pubkey
  selfProgramData : Pubkey
  upgradeAuthorityAddress : Option Pubkey
  initializer : Pubkey
  admin : Pubkey

def initializeMasterpool (c : Caller MASTERPOOL_ID) (now : ℤ) (ctx : InitializeMasterpool)
    (params : Phase1ConfigParams) (s : State) : Result State := do
  vacant s.config
  let clawMint ← s.mintAccount ctx.clawMint
  let usdcMint ← s.mintAccount ctx.usdcMint
  let t₁ ← cpi (initializeAccount s.tokens rewardVault ctx.clawMint poolAuthority)
  let t₂ ← cpi (initializeAccount t₁ challengeBondVault ctx.clawMint poolAuthority)
  let t₃ ← cpi (initializeAccount t₂ treasuryUsdcVault ctx.usdcMint poolAuthority)
  let t₄ ← cpi (initializeAccount t₃ providerStakeUsdcVault ctx.usdcMint poolAuthority)
  let t₅ ← cpi (initializeAccount t₄ providerPendingUsdcVault ctx.usdcMint poolAuthority)
  ensure (ctx.programdataAddress = some ctx.selfProgramData) .InvalidProgramData
  ensure (ctx.upgradeAuthorityAddress = some ctx.initializer) .UnauthorizedInitializer
  c.sign ctx.initializer
  validatePhase1Params params
  ensure (ctx.attestationProgramExecutable = true) .InvalidAttestationProgram
  requirePhase1MintDecimals clawMint usdcMint
  return { s with
    tokens := t₅
    config := some <| applyPhase1Params
      { version := 1
        adminAuthority := ctx.admin
        attestationProgram := ctx.attestationProgram
        clawMint := ctx.clawMint
        usdcMint := ctx.usdcMint
        rewardVault := rewardVault
        challengeBondVault := challengeBondVault
        treasuryUsdcVault := treasuryUsdcVault
        providerStakeUsdcVault := providerStakeUsdcVault
        providerPendingUsdcVault := providerPendingUsdcVault
        exchangeRateClawPerUsdcE6 := 0
        providerStakeUsdc := 0
        providerUsdcShareBps := 0
        treasuryUsdcShareBps := 0
        userClawShareBps := 0
        providerClawShareBps := 0
        lockDays := 0
        providerSlashClawAmount := 0
        challengerRewardBps := 0
        burnBps := 0
        challengeBondClawAmount := 0
        genesisMinted := false
        pauseReceiptRecording := false
        pauseChallengeProcessing := false
        pauseFinalization := false
        pauseClaims := false
        createdAt := now
        updatedAt := now } params }

structure MintGenesisSupply where
  adminAuthority : Pubkey
  rewardVault : Pubkey
  clawMint : Pubkey

def mintGenesisSupply (c : Caller MASTERPOOL_ID) (now : ℤ) (ctx : MintGenesisSupply) (s : State) :
    Result State := do
  let config ← load s.config
  ensure (config.adminAuthority = ctx.adminAuthority) .UnauthorizedAdmin
  ensure (config.clawMint = ctx.clawMint) .InvalidClawMint
  c.sign ctx.adminAuthority
  let _ ← s.tokenAccount ctx.rewardVault
  ensure (ctx.rewardVault = config.rewardVault) .InvalidVaultAccount
  let clawMint ← s.mintAccount ctx.clawMint
  ensure (ctx.clawMint = config.clawMint) .InvalidClawMint
  ensure (config.genesisMinted = false) .GenesisAlreadyMinted
  ensure (clawMint.mintAuthority = some poolAuthority) .InvalidClawMintAuthority
  ensure (clawMint.freezeAuthority = some poolAuthority) .InvalidClawFreezeAuthority
  let t₁ ← cpi (mintTo s.tokens ctx.clawMint ctx.rewardVault poolAuthority GENESIS_TOTAL_SUPPLY)
  let t₂ ← cpi (setMintAuthority t₁ ctx.clawMint poolAuthority none)
  let t₃ ← cpi (setFreezeAuthority t₂ ctx.clawMint poolAuthority none)
  return { s with
    tokens := t₃
    config := some { config with genesisMinted := true, updatedAt := now } }

structure UpdateConfig where
  adminAuthority : Pubkey

def updateConfig (c : Caller MASTERPOOL_ID) (now : ℤ) (ctx : UpdateConfig)
    (params : Phase1ConfigParams) (s : State) : Result State := do
  let config ← load s.config
  ensure (config.adminAuthority = ctx.adminAuthority) .UnauthorizedAdmin
  c.sign ctx.adminAuthority
  validatePhase1Params params
  return { s with config := some { applyPhase1Params config params with updatedAt := now } }

structure SetPauseFlags where
  adminAuthority : Pubkey

def setPauseFlags (c : Caller MASTERPOOL_ID) (now : ℤ) (ctx : SetPauseFlags)
    (pauseReceiptRecording pauseChallengeProcessing pauseFinalization pauseClaims : Bool)
    (s : State) : Result State := do
  let config ← load s.config
  ensure (config.adminAuthority = ctx.adminAuthority) .UnauthorizedAdmin
  c.sign ctx.adminAuthority
  return { s with
    config := some { config with
      pauseReceiptRecording := pauseReceiptRecording
      pauseChallengeProcessing := pauseChallengeProcessing
      pauseFinalization := pauseFinalization
      pauseClaims := pauseClaims
      updatedAt := now } }

/-! ## What the handlers do -/

/-- The config that `initialize_masterpool` writes. -/
def initialConfig (ctx : InitializeMasterpool) (params : Phase1ConfigParams) (now : ℤ) :
    GlobalConfig :=
  applyPhase1Params ⟨1, ctx.admin, ctx.attestationProgram, ctx.clawMint, ctx.usdcMint, rewardVault,
    challengeBondVault, treasuryUsdcVault, providerStakeUsdcVault, providerPendingUsdcVault,
    0, 0, 0, 0, 0, 0, 0, 0, 0, 0, 0, false, false, false, false, false, now, now⟩ params

theorem initializeMasterpool_ok {c : Caller MASTERPOOL_ID} {now : ℤ} {ctx : InitializeMasterpool}
    {params : Phase1ConfigParams} {s s' : State}
    (h : initializeMasterpool c now ctx params s = .ok s') :
    ∃ x y t₁ t₂ t₃ t₄ t₅, s.config = none ∧ validatePhase1Params params = .ok () ∧
      s.tokens.mints.get ctx.clawMint = some x ∧ x.decimals = CLAW_DECIMALS ∧
      s.tokens.mints.get ctx.usdcMint = some y ∧ y.decimals = USDC_DECIMALS ∧
      initializeAccount s.tokens rewardVault ctx.clawMint poolAuthority = .ok t₁ ∧
      initializeAccount t₁ challengeBondVault ctx.clawMint poolAuthority = .ok t₂ ∧
      initializeAccount t₂ treasuryUsdcVault ctx.usdcMint poolAuthority = .ok t₃ ∧
      initializeAccount t₃ providerStakeUsdcVault ctx.usdcMint poolAuthority = .ok t₄ ∧
      initializeAccount t₄ providerPendingUsdcVault ctx.usdcMint poolAuthority = .ok t₅ ∧
      s' = { s with tokens := t₅, config := some (initialConfig ctx params now) } := by
  simp only [initializeMasterpool, bind_eq_ok, sign_eq_ok, ensure_eq_ok, mintAccount_eq_ok,
    vacant_eq_ok, requirePhase1MintDecimals, cpi_eq_ok, exists_unit, pure_eq_ok] at h
  obtain ⟨hnone, x, hx, y, hy, t₁, h₁, t₂, h₂, t₃, h₃, t₄, h₄, t₅, h₅, -, -, -, hparams, -,
    ⟨hxd, hyd⟩, rfl⟩ := h
  exact ⟨x, y, t₁, t₂, t₃, t₄, t₅, hnone, hparams, hx, hxd, hy, hyd, h₁, h₂, h₃, h₄, h₅, rfl⟩

theorem mintGenesisSupply_ok {c : Caller MASTERPOOL_ID} {now : ℤ} {ctx : MintGenesisSupply}
    {s s' : State} (h : mintGenesisSupply c now ctx s = .ok s') :
    ∃ g t₁ t₂ t₃, s.config = some g ∧ g.genesisMinted = false ∧ g.clawMint = ctx.clawMint ∧
      ctx.rewardVault = g.rewardVault ∧
      mintTo s.tokens ctx.clawMint ctx.rewardVault poolAuthority GENESIS_TOTAL_SUPPLY = .ok t₁ ∧
      setMintAuthority t₁ ctx.clawMint poolAuthority none = .ok t₂ ∧
      setFreezeAuthority t₂ ctx.clawMint poolAuthority none = .ok t₃ ∧
      s' = { s with
        tokens := t₃
        config := some { g with genesisMinted := true, updatedAt := now } } := by
  simp only [mintGenesisSupply, bind_eq_ok, load_eq_ok, sign_eq_ok, ensure_eq_ok,
    tokenAccount_eq_ok, mintAccount_eq_ok, cpi_eq_ok, exists_unit, pure_eq_ok] at h
  obtain ⟨g, hg, -, hmint, -, -, -, hvault, -, -, -, hgen, -, -, t₁, h₁, t₂, h₂, t₃, h₃, rfl⟩ := h
  exact ⟨g, t₁, t₂, t₃, hg, hgen, hmint, hvault, h₁, h₂, h₃, rfl⟩

theorem updateConfig_ok {c : Caller MASTERPOOL_ID} {now : ℤ} {ctx : UpdateConfig}
    {params : Phase1ConfigParams} {s s' : State} (h : updateConfig c now ctx params s = .ok s') :
    ∃ g, s.config = some g ∧ validatePhase1Params params = .ok () ∧
      s' = { s with config := some { applyPhase1Params g params with updatedAt := now } } := by
  simp only [updateConfig, bind_eq_ok, load_eq_ok, sign_eq_ok, ensure_eq_ok, exists_unit,
    pure_eq_ok] at h
  obtain ⟨g, hg, -, -, hparams, rfl⟩ := h
  exact ⟨g, hg, hparams, rfl⟩

theorem setPauseFlags_ok {c : Caller MASTERPOOL_ID} {now : ℤ} {ctx : SetPauseFlags}
    {receipts challenges finalization claims : Bool} {s s' : State}
    (h : setPauseFlags c now ctx receipts challenges finalization claims s = .ok s') :
    ∃ g, s.config = some g ∧ s' = { s with
      config := some { g with
        pauseReceiptRecording := receipts
        pauseChallengeProcessing := challenges
        pauseFinalization := finalization
        pauseClaims := claims
        updatedAt := now } } := by
  simp only [setPauseFlags, bind_eq_ok, load_eq_ok, sign_eq_ok, ensure_eq_ok, exists_unit,
    pure_eq_ok] at h
  obtain ⟨g, hg, -, -, rfl⟩ := h
  exact ⟨g, hg, rfl⟩

end Masterpool
