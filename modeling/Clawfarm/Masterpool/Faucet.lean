import Clawfarm.Masterpool.Utils

/-!
# Masterpool.Faucet — the test-token faucet

The handlers of `instructions/faucet.rs` with their account validation.
-/

namespace Masterpool

open Token Checked

/-- `checked_div` by the length of a day truncates towards zero and never fails. -/
def currentDayIndex (unixTimestamp : ℤ) : ℤ := unixTimestamp.tdiv SECONDS_PER_UTC_DAY

def applyFaucetLimits (config : FaucetConfig) (limits : FaucetLimits) : FaucetConfig :=
  { config with
    maxClawPerClaim := limits.maxClawPerClaim.toNat
    maxUsdcPerClaim := limits.maxUsdcPerClaim.toNat
    maxClawPerWalletPerDay := limits.maxClawPerWalletPerDay.toNat
    maxUsdcPerWalletPerDay := limits.maxUsdcPerWalletPerDay.toNat
    maxClawGlobalPerDay := limits.maxClawGlobalPerDay.toNat
    maxUsdcGlobalPerDay := limits.maxUsdcGlobalPerDay.toNat }

def defaultFaucetLimits : FaucetLimits where
  maxClawPerClaim := DEFAULT_FAUCET_MAX_CLAW_PER_CLAIM
  maxUsdcPerClaim := DEFAULT_FAUCET_MAX_USDC_PER_CLAIM
  maxClawPerWalletPerDay := DEFAULT_FAUCET_MAX_CLAW_PER_WALLET_PER_DAY
  maxUsdcPerWalletPerDay := DEFAULT_FAUCET_MAX_USDC_PER_WALLET_PER_DAY
  maxClawGlobalPerDay := DEFAULT_FAUCET_MAX_CLAW_GLOBAL_PER_DAY
  maxUsdcGlobalPerDay := DEFAULT_FAUCET_MAX_USDC_GLOBAL_PER_DAY

structure InitializeFaucet where
  clawMint : Pubkey
  usdcMint : Pubkey
  adminAuthority : Pubkey
  payer : Pubkey

def initializeFaucet (c : Caller MASTERPOOL_ID) (now : ℤ) (ctx : InitializeFaucet) (s : State) :
    Result State := do
  let config ← load s.config
  ensure (config.adminAuthority = ctx.adminAuthority) .UnauthorizedAdmin
  ensure (config.clawMint = ctx.clawMint) .InvalidClawMint
  ensure (config.usdcMint = ctx.usdcMint) .InvalidUsdcMint
  vacant s.faucetConfig
  vacant s.faucetGlobalState
  let t₁ ← cpi (initializeAccount s.tokens faucetClawVault ctx.clawMint poolAuthority)
  let t₂ ← cpi (initializeAccount t₁ faucetUsdcVault ctx.usdcMint poolAuthority)
  c.sign ctx.adminAuthority
  c.sign ctx.payer
  -- the handler
  validateFaucetLimits defaultFaucetLimits
  return { s with
    tokens := t₂
    faucetConfig := some <| applyFaucetLimits
      { adminAuthority := ctx.adminAuthority
        enabled := false
        faucetClawVault := faucetClawVault
        faucetUsdcVault := faucetUsdcVault
        maxClawPerClaim := 0
        maxUsdcPerClaim := 0
        maxClawPerWalletPerDay := 0
        maxUsdcPerWalletPerDay := 0
        maxClawGlobalPerDay := 0
        maxUsdcGlobalPerDay := 0
        createdAt := now
        updatedAt := now } defaultFaucetLimits
    faucetGlobalState := some
      { currentDayIndex := currentDayIndex now
        clawClaimedToday := 0
        usdcClaimedToday := 0
        updatedAt := now } }

/-- The account validation shared by `SetFaucetEnabled` and `UpdateFaucetLimits`. -/
def loadFaucetAsAdmin (c : Caller MASTERPOOL_ID) (adminAuthority : Pubkey) (s : State) :
    Result FaucetConfig := do
  let config ← load s.config
  ensure (config.adminAuthority = adminAuthority) .UnauthorizedAdmin
  let faucetConfig ← load s.faucetConfig
  ensure (faucetConfig.adminAuthority = adminAuthority) .UnauthorizedAdmin
  c.sign adminAuthority
  return faucetConfig

structure SetFaucetEnabled where
  adminAuthority : Pubkey

def setFaucetEnabled (c : Caller MASTERPOOL_ID) (now : ℤ) (ctx : SetFaucetEnabled)
    (enabled : Bool) (s : State) : Result State := do
  let faucetConfig ← loadFaucetAsAdmin c ctx.adminAuthority s
  return { s with
    faucetConfig := some { faucetConfig with enabled := enabled, updatedAt := now } }

structure UpdateFaucetLimits where
  adminAuthority : Pubkey

def updateFaucetLimits (c : Caller MASTERPOOL_ID) (now : ℤ) (ctx : UpdateFaucetLimits)
    (limits : FaucetLimits) (s : State) : Result State := do
  let faucetConfig ← loadFaucetAsAdmin c ctx.adminAuthority s
  validateFaucetLimits limits
  return { s with
    faucetConfig := some { applyFaucetLimits faucetConfig limits with updatedAt := now } }

structure FundFaucetClaw where
  rewardVault : Pubkey
  faucetClawVault : Pubkey
  clawMint : Pubkey
  adminAuthority : Pubkey

def fundFaucetClaw (c : Caller MASTERPOOL_ID) (now : ℤ) (ctx : FundFaucetClaw) (amount : ℕ)
    (s : State) : Result State := do
  let config ← load s.config
  ensure (config.adminAuthority = ctx.adminAuthority) .UnauthorizedAdmin
  ensure (config.clawMint = ctx.clawMint) .InvalidClawMint
  let faucetConfig ← load s.faucetConfig
  ensure (faucetConfig.adminAuthority = ctx.adminAuthority) .UnauthorizedAdmin
  ensure (faucetConfig.faucetClawVault = ctx.faucetClawVault) .InvalidFaucetVault
  let rewardVault ← s.tokenAccount ctx.rewardVault
  ensure (ctx.rewardVault = config.rewardVault) .InvalidVaultAccount
  ensure (rewardVault.mint = config.clawMint) .InvalidTokenMint
  ensure (rewardVault.owner = poolAuthority) .InvalidVaultAccount
  let faucetClawVault ← s.tokenAccount ctx.faucetClawVault
  ensure (ctx.faucetClawVault = faucetConfig.faucetClawVault) .InvalidFaucetVault
  ensure (faucetClawVault.mint = config.clawMint) .InvalidTokenMint
  ensure (faucetClawVault.owner = poolAuthority) .InvalidFaucetVault
  let clawMint ← s.mintAccount ctx.clawMint
  ensure (ctx.clawMint = config.clawMint) .InvalidClawMint
  c.sign ctx.adminAuthority
  -- the handler
  ensure (0 < amount) .InvalidFaucetAmount
  ensure (amount ≤ rewardVault.amount) .FaucetVaultInsufficientBalance
  let tokens ← cpi (transferChecked s.tokens ctx.rewardVault ctx.clawMint ctx.faucetClawVault
    poolAuthority amount clawMint.decimals)
  return { s with
    tokens := tokens
    faucetConfig := some { faucetConfig with updatedAt := now } }

def resetGlobalIfNeeded (global : FaucetGlobalState) (dayIndex now : ℤ) : FaucetGlobalState :=
  if global.currentDayIndex ≠ dayIndex then
    { currentDayIndex := dayIndex, clawClaimedToday := 0, usdcClaimedToday := 0, updatedAt := now }
  else global

def initializeOrResetUserIfNeeded (userState : FaucetUserState) (owner : Pubkey)
    (dayIndex now : ℤ) : Result FaucetUserState :=
  if userState.owner = .default then
    .ok { owner := owner, currentDayIndex := dayIndex, clawClaimedToday := 0
          usdcClaimedToday := 0, createdAt := now, updatedAt := now }
  else do
    ensure (userState.owner = owner) .InvalidFaucetUserState
    return if userState.currentDayIndex ≠ dayIndex then
      { userState with
        currentDayIndex := dayIndex
        clawClaimedToday := 0
        usdcClaimedToday := 0
        updatedAt := now }
    else userState

structure ClaimFaucet where
  faucetClawVault : Pubkey
  faucetUsdcVault : Pubkey
  userClawToken : Pubkey
  userUsdcToken : Pubkey
  clawMint : Pubkey
  usdcMint : Pubkey
  user : Pubkey
  payer : Pubkey

/-- A transfer out of a faucet vault, skipped for the amount `0`. -/
def faucetTransfer (tokens : Ledger Pubkey) (vault mint destination : Pubkey)
    (amount decimals : ℕ) : Result (Ledger Pubkey) :=
  if 0 < amount then
    cpi (transferChecked tokens vault mint destination poolAuthority amount decimals)
  else .ok tokens

def claimFaucet (c : Caller MASTERPOOL_ID) (now : ℤ) (ctx : ClaimFaucet)
    (clawAmount usdcAmount : ℕ) (s : State) : Result State := do
  let config ← load s.config
  let faucetConfig ← load s.faucetConfig
  ensure (faucetConfig.faucetClawVault = ctx.faucetClawVault) .InvalidFaucetVault
  ensure (faucetConfig.faucetUsdcVault = ctx.faucetUsdcVault) .InvalidFaucetVault
  let global ← load s.faucetGlobalState
  let faucetClawVault ← s.tokenAccount ctx.faucetClawVault
  ensure (ctx.faucetClawVault = faucetConfig.faucetClawVault) .InvalidFaucetVault
  ensure (faucetClawVault.mint = config.clawMint) .InvalidTokenMint
  ensure (faucetClawVault.owner = poolAuthority) .InvalidFaucetVault
  let faucetUsdcVault ← s.tokenAccount ctx.faucetUsdcVault
  ensure (ctx.faucetUsdcVault = faucetConfig.faucetUsdcVault) .InvalidFaucetVault
  ensure (faucetUsdcVault.mint = config.usdcMint) .InvalidTokenMint
  ensure (faucetUsdcVault.owner = poolAuthority) .InvalidFaucetVault
  let userClawToken ← s.tokenAccount ctx.userClawToken
  let userUsdcToken ← s.tokenAccount ctx.userUsdcToken
  let clawMint ← s.mintAccount ctx.clawMint
  ensure (ctx.clawMint = config.clawMint) .InvalidClawMint
  let usdcMint ← s.mintAccount ctx.usdcMint
  ensure (ctx.usdcMint = config.usdcMint) .InvalidUsdcMint
  c.sign ctx.payer
  -- the handler
  let dayIndex := currentDayIndex now
  ensure (faucetConfig.enabled = true) .FaucetDisabled
  ensure (0 < clawAmount ∨ 0 < usdcAmount) .InvalidFaucetAmount
  ensure (clawAmount ≤ faucetConfig.maxClawPerClaim ∧ usdcAmount ≤ faucetConfig.maxUsdcPerClaim)
    .FaucetClaimLimitExceeded
  let global := resetGlobalIfNeeded global dayIndex now
  let user ← initializeOrResetUserIfNeeded
    ((s.faucetUserStates.get ctx.user).getD .zeroed) ctx.user dayIndex now
  let nextUserClaw ← checkedAddU64 user.clawClaimedToday clawAmount
  let nextUserUsdc ← checkedAddU64 user.usdcClaimedToday usdcAmount
  ensure (nextUserClaw ≤ faucetConfig.maxClawPerWalletPerDay ∧
    nextUserUsdc ≤ faucetConfig.maxUsdcPerWalletPerDay) .FaucetWalletDailyLimitExceeded
  let nextGlobalClaw ← checkedAddU64 global.clawClaimedToday clawAmount
  let nextGlobalUsdc ← checkedAddU64 global.usdcClaimedToday usdcAmount
  ensure (nextGlobalClaw ≤ faucetConfig.maxClawGlobalPerDay ∧
    nextGlobalUsdc ≤ faucetConfig.maxUsdcGlobalPerDay) .FaucetGlobalDailyLimitExceeded
  requireTokenOwner userClawToken ctx.user
  requireTokenMint userClawToken config.clawMint
  requireTokenOwner userUsdcToken ctx.user
  requireTokenMint userUsdcToken config.usdcMint
  ensure (clawAmount ≤ faucetClawVault.amount ∧ usdcAmount ≤ faucetUsdcVault.amount)
    .FaucetVaultInsufficientBalance
  let t₁ ← faucetTransfer s.tokens ctx.faucetClawVault ctx.clawMint ctx.userClawToken clawAmount
    clawMint.decimals
  let t₂ ← faucetTransfer t₁ ctx.faucetUsdcVault ctx.usdcMint ctx.userUsdcToken usdcAmount
    usdcMint.decimals
  return { s with
    tokens := t₂
    faucetUserStates := s.faucetUserStates.set ctx.user
      { user with
        clawClaimedToday := nextUserClaw
        usdcClaimedToday := nextUserUsdc
        updatedAt := now }
    faucetGlobalState := some { global with
      clawClaimedToday := nextGlobalClaw
      usdcClaimedToday := nextGlobalUsdc
      updatedAt := now } }

/-! ## What the handlers do -/

theorem initializeFaucet_ok {c : Caller MASTERPOOL_ID} {now : ℤ} {ctx : InitializeFaucet}
    {s s' : State} (h : initializeFaucet c now ctx s = .ok s') :
    ∃ g f global t₁ t₂, s.config = some g ∧
      initializeAccount s.tokens faucetClawVault g.clawMint poolAuthority = .ok t₁ ∧
      initializeAccount t₁ faucetUsdcVault g.usdcMint poolAuthority = .ok t₂ ∧
      f.faucetClawVault = faucetClawVault ∧ f.faucetUsdcVault = faucetUsdcVault ∧
      s' = { s with
        tokens := t₂, faucetConfig := some f, faucetGlobalState := some global } := by
  simp only [initializeFaucet, bind_eq_ok, load_eq_ok, sign_eq_ok, ensure_eq_ok, vacant_eq_ok,
    cpi_eq_ok, exists_unit, pure_eq_ok] at h
  obtain ⟨g, hg, -, hclaw, husdc, -, -, t₁, h₁, t₂, h₂, -, -, -, rfl⟩ := h
  exact ⟨g, _, _, t₁, t₂, hg, hclaw ▸ h₁, husdc ▸ h₂, rfl, rfl, rfl⟩

theorem loadFaucetAsAdmin_ok {c : Caller MASTERPOOL_ID} {admin : Pubkey} {s : State}
    {f : FaucetConfig} (h : loadFaucetAsAdmin c admin s = .ok f) : s.faucetConfig = some f := by
  simp only [loadFaucetAsAdmin, bind_eq_ok, load_eq_ok, sign_eq_ok, ensure_eq_ok, exists_unit,
    pure_eq_ok] at h
  obtain ⟨-, -, -, f', hf, -, -, rfl⟩ := h
  exact hf

theorem setFaucetEnabled_ok {c : Caller MASTERPOOL_ID} {now : ℤ} {ctx : SetFaucetEnabled}
    {enabled : Bool} {s s' : State} (h : setFaucetEnabled c now ctx enabled s = .ok s') :
    ∃ f, s.faucetConfig = some f ∧ s' = { s with
      faucetConfig := some { f with enabled := enabled, updatedAt := now } } := by
  simp only [setFaucetEnabled, bind_eq_ok, pure_eq_ok] at h
  obtain ⟨f, hf, rfl⟩ := h
  exact ⟨f, loadFaucetAsAdmin_ok hf, rfl⟩

theorem updateFaucetLimits_ok {c : Caller MASTERPOOL_ID} {now : ℤ} {ctx : UpdateFaucetLimits}
    {limits : FaucetLimits} {s s' : State} (h : updateFaucetLimits c now ctx limits s = .ok s') :
    ∃ f, s.faucetConfig = some f ∧ validateFaucetLimits limits = .ok () ∧ s' = { s with
      faucetConfig := some { applyFaucetLimits f limits with updatedAt := now } } := by
  simp only [updateFaucetLimits, bind_eq_ok, exists_unit, pure_eq_ok] at h
  obtain ⟨f, hf, hlim, rfl⟩ := h
  exact ⟨f, loadFaucetAsAdmin_ok hf, hlim, rfl⟩

theorem fundFaucetClaw_ok {c : Caller MASTERPOOL_ID} {now : ℤ} {ctx : FundFaucetClaw}
    {amount : ℕ} {s s' : State} (h : fundFaucetClaw c now ctx amount s = .ok s') :
    ∃ g f tokens dec, s.config = some g ∧ s.faucetConfig = some f ∧
      ctx.rewardVault = g.rewardVault ∧ ctx.faucetClawVault = f.faucetClawVault ∧
      transferChecked s.tokens ctx.rewardVault ctx.clawMint ctx.faucetClawVault poolAuthority amount
        dec = .ok tokens ∧
      s' = { s with
        tokens := tokens
        faucetConfig := some { f with updatedAt := now } } := by
  simp only [fundFaucetClaw, bind_eq_ok, load_eq_ok, sign_eq_ok, ensure_eq_ok, tokenAccount_eq_ok,
    mintAccount_eq_ok, cpi_eq_ok, exists_unit, pure_eq_ok] at h
  obtain ⟨g, hg, -, -, f, hf, -, -, -, -, hrv, -, -, -, -, hfv, -, -, m, -, -, -, -, -, t, ht, rfl⟩ := h
  exact ⟨g, f, t, m.decimals, hg, hf, hrv, hfv, ht, rfl⟩

theorem faucetTransfer_ok {l l' : Ledger Pubkey} {vault mint dest : Pubkey} {amount dec : ℕ}
    (h : faucetTransfer l vault mint dest amount dec = .ok l') :
    transferChecked l vault mint dest poolAuthority amount dec = .ok l' ∨
      (amount = 0 ∧ l' = l) := by
  unfold faucetTransfer at h
  split_ifs at h with hpos
  · exact Or.inl (cpi_eq_ok.mp h)
  · exact Or.inr ⟨Nat.eq_zero_of_not_pos hpos, (Except.ok.inj h).symm⟩

/-- An account in use belongs to `owner`; its counters start again on a new day. -/
theorem initializeOrResetUserIfNeeded_ok {st u : FaucetUserState} {owner : Pubkey} {day now : ℤ}
    (h : initializeOrResetUserIfNeeded st owner day now = .ok u) :
    u.owner = owner ∧ u.currentDayIndex = day ∧ (st.owner ≠ .default →
      u.clawClaimedToday = (if st.currentDayIndex = day then st.clawClaimedToday else 0) ∧
      u.usdcClaimedToday = if st.currentDayIndex = day then st.usdcClaimedToday else 0) := by
  unfold initializeOrResetUserIfNeeded at h
  by_cases hst : st.owner = .default
  · rw [if_pos hst] at h
    obtain rfl := Except.ok.inj h
    exact ⟨rfl, rfl, fun hne => absurd hst hne⟩
  · simp only [if_neg hst, bind_eq_ok, ensure_eq_ok, exists_unit, pure_eq_ok] at h
    obtain ⟨ho, rfl⟩ := h
    by_cases hd : st.currentDayIndex = day
    · rw [if_neg (not_not.mpr hd)]
      exact ⟨ho, hd, fun _ => ⟨(if_pos hd).symm, (if_pos hd).symm⟩⟩
    · rw [if_pos hd]
      exact ⟨ho, rfl, fun _ => ⟨(if_neg hd).symm, (if_neg hd).symm⟩⟩

/-- Under what conditions the faucet pays: `f` is its config, `gl` its global state and `u` the
state of the recipient, reset for the day. -/
structure FaucetPays (now : ℤ) (ctx : ClaimFaucet) (clawAmount usdcAmount : ℕ) (s : State)
    (f : FaucetConfig) (gl : FaucetGlobalState) (u : FaucetUserState) (t₁ t₂ : Ledger Pubkey) :
    Prop where
  faucet : s.faucetConfig = some f
  global : ∃ gl₀, s.faucetGlobalState = some gl₀ ∧
    gl = resetGlobalIfNeeded gl₀ (currentDayIndex now) now
  user : initializeOrResetUserIfNeeded ((s.faucetUserStates.get ctx.user).getD .zeroed) ctx.user
    (currentDayIndex now) now = .ok u
  vaults : ctx.faucetClawVault = f.faucetClawVault ∧ ctx.faucetUsdcVault = f.faucetUsdcVault
  perWallet : u.clawClaimedToday + clawAmount ≤ f.maxClawPerWalletPerDay ∧
    u.usdcClaimedToday + usdcAmount ≤ f.maxUsdcPerWalletPerDay
  globally : gl.clawClaimedToday + clawAmount ≤ f.maxClawGlobalPerDay ∧
    gl.usdcClaimedToday + usdcAmount ≤ f.maxUsdcGlobalPerDay
  claw : ∃ dec, faucetTransfer s.tokens ctx.faucetClawVault ctx.clawMint ctx.userClawToken
    clawAmount dec = .ok t₁
  usdc : ∃ dec, faucetTransfer t₁ ctx.faucetUsdcVault ctx.usdcMint ctx.userUsdcToken
    usdcAmount dec = .ok t₂

/-- The state after a claim. -/
def faucetPaid (now : ℤ) (ctx : ClaimFaucet) (clawAmount usdcAmount : ℕ) (s : State)
    (gl : FaucetGlobalState) (u : FaucetUserState) (tokens : Ledger Pubkey) : State :=
  { s with
    tokens := tokens
    faucetUserStates := s.faucetUserStates.set ctx.user
      { u with
        clawClaimedToday := u.clawClaimedToday + clawAmount
        usdcClaimedToday := u.usdcClaimedToday + usdcAmount
        updatedAt := now }
    faucetGlobalState := some { gl with
      clawClaimedToday := gl.clawClaimedToday + clawAmount
      usdcClaimedToday := gl.usdcClaimedToday + usdcAmount
      updatedAt := now } }

theorem claimFaucet_ok {c : Caller MASTERPOOL_ID} {now : ℤ} {ctx : ClaimFaucet}
    {clawAmount usdcAmount : ℕ} {s s' : State}
    (h : claimFaucet c now ctx clawAmount usdcAmount s = .ok s') :
    ∃ f gl u t₁ t₂, FaucetPays now ctx clawAmount usdcAmount s f gl u t₁ t₂ ∧
      s' = faucetPaid now ctx clawAmount usdcAmount s gl u t₂ := by
  simp only [claimFaucet, bind_eq_ok, load_eq_ok, sign_eq_ok, ensure_eq_ok, tokenAccount_eq_ok,
    mintAccount_eq_ok, checkedAddU64_eq_ok, requireTokenOwner_eq_ok, requireTokenMint_eq_ok,
    exists_unit, exists_result, pure_eq_ok] at h
  obtain ⟨g, -, f, hf, hcv, huv, gl, hgl, v, -, -, -, -, w, -, -, -, -, x, -, y, -, m, -, -, m', -,
    -, -, -, -, -, u, hu, -, -, hwallet, -, -, hglobal, -, -, -, -, -, t₁, h₁, t₂, h₂, rfl⟩ := h
  exact ⟨f, _, u, t₁, t₂, ⟨hf, ⟨gl, hgl, rfl⟩, hu, ⟨hcv.symm, huv.symm⟩, hwallet, hglobal,
    ⟨_, h₁⟩, _, h₂⟩, rfl⟩

end Masterpool
