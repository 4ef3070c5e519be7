import Clawfarm.Masterpool.Utils

/-!
# Masterpool.Provider — registration and exit

The handlers of `instructions/provider.rs` with their account validation.
-/

namespace Masterpool

open Token Checked

structure RegisterProvider where
  providerWallet : Pubkey
  providerStakeUsdcVault : Pubkey
  providerUsdcToken : Pubkey
  usdcMint : Pubkey

def registerProvider (c : Caller MASTERPOOL_ID) (now : ℤ) (ctx : RegisterProvider) (s : State) :
    Result State := do
  let config ← load s.config
  vacant (s.providers.get ctx.providerWallet)
  vacant (s.rewards.get (.Provider, ctx.providerWallet))
  c.sign ctx.providerWallet
  let _ ← s.tokenAccount ctx.providerStakeUsdcVault
  ensure (ctx.providerStakeUsdcVault = config.providerStakeUsdcVault) .InvalidVaultAccount
  let providerUsdcToken ← s.tokenAccount ctx.providerUsdcToken
  let usdcMint ← s.mintAccount ctx.usdcMint
  ensure (ctx.usdcMint = config.usdcMint) .InvalidUsdcMint
  requireTokenOwner providerUsdcToken ctx.providerWallet
  requireTokenMint providerUsdcToken config.usdcMint
  let tokens ← cpi (transferChecked s.tokens ctx.providerUsdcToken ctx.usdcMint
    ctx.providerStakeUsdcVault ctx.providerWallet config.providerStakeUsdc usdcMint.decimals)
  let rewardAccount ← initializeRewardAccount .zeroed ctx.providerWallet .Provider now
  return { s with
    tokens := tokens
    providers := s.providers.set ctx.providerWallet
      { providerWallet := ctx.providerWallet
        stakedUsdcAmount := config.providerStakeUsdc
        pendingProviderUsdc := 0
        clawNetPosition := 0
        unsettledReceiptCount := 0
        unresolvedChallengeCount := 0
        status := .Active
        createdAt := now
        updatedAt := now }
    rewards := s.rewards.set (.Provider, ctx.providerWallet) rewardAccount }

structure ExitProvider where
  providerWallet : Pubkey
  providerStakeUsdcVault : Pubkey
  providerDestinationUsdc : Pubkey
  usdcMint : Pubkey

def exitProvider (c : Caller MASTERPOOL_ID) (now : ℤ) (ctx : ExitProvider) (s : State) :
    Result State := do
  let config ← load s.config
  let provider ← load (s.providers.get ctx.providerWallet)
  ensure (provider.providerWallet = ctx.providerWallet) .InvalidProviderAccount
  c.sign ctx.providerWallet
  let _ ← s.tokenAccount ctx.providerStakeUsdcVault
  ensure (ctx.providerStakeUsdcVault = config.providerStakeUsdcVault) .InvalidVaultAccount
  let _ ← s.tokenAccount ctx.providerDestinationUsdc
  let usdcMint ← s.mintAccount ctx.usdcMint
  ensure (ctx.usdcMint = config.usdcMint) .InvalidUsdcMint
  ensure (provider.status = .Active) .ProviderNotActive
  ensure (provider.pendingProviderUsdc = 0 ∧ provider.unsettledReceiptCount = 0 ∧
    provider.unresolvedChallengeCount = 0 ∧ 0 ≤ provider.clawNetPosition) .ProviderExitBlocked
  let tokens ← cpi (transferChecked s.tokens ctx.providerStakeUsdcVault ctx.usdcMint
    ctx.providerDestinationUsdc poolAuthority provider.stakedUsdcAmount usdcMint.decimals)
  let stakedUsdcAmount ← checkedSubU64 provider.stakedUsdcAmount provider.stakedUsdcAmount
  return { s with
    tokens := tokens
    providers := s.providers.set ctx.providerWallet
      { provider with
        stakedUsdcAmount := stakedUsdcAmount
        status := .Exited
        updatedAt := now } }

/-! ## What the handlers do -/

/-- Under what conditions a provider is registered. -/
structure Registers (c : Caller MASTERPOOL_ID) (ctx : RegisterProvider) (s : State)
    (g : GlobalConfig) (tokens : Ledger Pubkey) : Prop where
  config : s.config = some g
  fresh : s.providers.get ctx.providerWallet = none
  freshReward : s.rewards.get (.Provider, ctx.providerWallet) = none
  signed : ctx.providerWallet ∈ c.signers
  vault : ctx.providerStakeUsdcVault = g.providerStakeUsdcVault
  mint : ctx.usdcMint = g.usdcMint
  source : ∃ y, s.tokens.accounts.get ctx.providerUsdcToken = some y ∧
    y.owner = ctx.providerWallet ∧ y.mint = g.usdcMint
  transfer : ∃ m, s.tokens.mints.get ctx.usdcMint = some m ∧
    transferChecked s.tokens ctx.providerUsdcToken ctx.usdcMint ctx.providerStakeUsdcVault
      ctx.providerWallet g.providerStakeUsdc m.decimals = .ok tokens

/-- The state after a registration. -/
def registered (now : ℤ) (ctx : RegisterProvider) (s : State) (g : GlobalConfig)
    (tokens : Ledger Pubkey) : State :=
  { s with
    tokens := tokens
    providers := s.providers.set ctx.providerWallet
      ⟨ctx.providerWallet, g.providerStakeUsdc, 0, 0, 0, 0, .Active, now, now⟩
    rewards := s.rewards.set (.Provider, ctx.providerWallet)
      ⟨true, ctx.providerWallet, .Provider, 0, 0, 0, 0, now, now⟩ }

theorem registerProvider_ok {c : Caller MASTERPOOL_ID} {now : ℤ} {ctx : RegisterProvider}
    {s s' : State} (h : registerProvider c now ctx s = .ok s') :
    ∃ g tokens, Registers c ctx s g tokens ∧ s' = registered now ctx s g tokens := by
  simp only [registerProvider, bind_eq_ok, load_eq_ok, sign_eq_ok, ensure_eq_ok,
    tokenAccount_eq_ok, mintAccount_eq_ok, vacant_eq_ok, requireTokenOwner_eq_ok,
    requireTokenMint_eq_ok, cpi_eq_ok, exists_unit, pure_eq_ok] at h
  obtain ⟨g, hg, hp, hr, hsig, -, -, hvault, y, hy, m, hm, hmint, hyo, hym, t, ht, r, hr', rfl⟩ := h
  obtain rfl := Except.ok.inj hr'
  exact ⟨g, t, ⟨hg, hp, hr, hsig, hvault, hmint, ⟨y, hy, hyo, hym⟩, m, hm, ht⟩, rfl⟩

/-- Under what conditions a provider exits. -/
structure Exits (c : Caller MASTERPOOL_ID) (ctx : ExitProvider) (s : State) (g : GlobalConfig)
    (p : ProviderAccount) (tokens : Ledger Pubkey) : Prop where
  config : s.config = some g
  provider : s.providers.get ctx.providerWallet = some p
  wallet : p.providerWallet = ctx.providerWallet
  signed : ctx.providerWallet ∈ c.signers
  vault : ctx.providerStakeUsdcVault = g.providerStakeUsdcVault
  mint : ctx.usdcMint = g.usdcMint
  active : p.status = .Active
  clear : p.pendingProviderUsdc = 0 ∧ p.unsettledReceiptCount = 0 ∧
    p.unresolvedChallengeCount = 0 ∧ 0 ≤ p.clawNetPosition
  transfer : ∃ m, s.tokens.mints.get ctx.usdcMint = some m ∧
    transferChecked s.tokens ctx.providerStakeUsdcVault ctx.usdcMint ctx.providerDestinationUsdc
      poolAuthority p.stakedUsdcAmount m.decimals = .ok tokens

/-- The state after an exit. -/
def exited (now : ℤ) (ctx : ExitProvider) (s : State) (p : ProviderAccount)
    (tokens : Ledger Pubkey) : State :=
  { s with
    tokens := tokens
    providers := s.providers.set ctx.providerWallet
      { p with stakedUsdcAmount := 0, status := .Exited, updatedAt := now } }

theorem exitProvider_ok {c : Caller MASTERPOOL_ID} {now : ℤ} {ctx : ExitProvider} {s s' : State}
    (h : exitProvider c now ctx s = .ok s') :
    ∃ g p tokens, Exits c ctx s g p tokens ∧ s' = exited now ctx s p tokens := by
  simp only [exitProvider, bind_eq_ok, load_eq_ok, sign_eq_ok, ensure_eq_ok, tokenAccount_eq_ok,
    mintAccount_eq_ok, checkedSubU64_eq_ok, cpi_eq_ok, exists_unit, exists_result, pure_eq_ok] at h
  obtain ⟨g, hg, p, hp, hw, hsig, -, -, hvault, -, -, m, hm, hmint, hact, hclear, t, ht, -,
    rfl⟩ := h
  refine ⟨g, p, t, ⟨hg, hp, hw, hsig, hvault, hmint, hact, hclear, m, hm, ht⟩, ?_⟩
  rw [exited, Nat.sub_self]

/-- The conditions are all that an exit needs. -/
theorem Exits.exitProvider {c : Caller MASTERPOOL_ID} {ctx : ExitProvider} {s : State}
    {g : GlobalConfig} {p : ProviderAccount} {tokens : Ledger Pubkey}
    (h : Exits c ctx s g p tokens) (now : ℤ) :
    exitProvider c now ctx s = .ok (exited now ctx s p tokens) := by
  obtain ⟨m, hm, ht⟩ := h.transfer
  obtain ⟨src, dst, hguards, -⟩ := transferChecked_ok.mp ht
  simp only [Masterpool.exitProvider, bind_eq_ok, load_eq_ok, sign_eq_ok, ensure_eq_ok,
    tokenAccount_eq_ok, mintAccount_eq_ok, checkedSubU64_eq_ok, cpi_eq_ok, exists_unit,
    exists_result, pure_eq_ok]
  refine ⟨g, h.config, p, h.provider, h.wallet, h.signed, src, hguards.source, h.vault, dst,
    hguards.destination, m, hm, h.mint, h.active, h.clear, tokens, ht, le_rfl, ?_⟩
  rw [exited, Nat.sub_self]

end Masterpool
