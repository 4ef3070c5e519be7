import Clawfarm.Masterpool.Vaults

/-!
# Masterpool.Effect — everything a step can do

`Effect s a s'` lists the outcomes of the action `a` in the state `s`: it fails, it leaves
providers, rewards, settlements and bond records aside, or it is one of the ten movements of the
economy, each with its conditions and the state it leads to.  `step_effect` is the one place where
the handlers are taken apart; the invariants are case analyses over `Effect`.
-/

namespace Masterpool

open Token Checked

/-- Instructions that touch no provider, reward account, settlement or bond record, and take
nothing out of a vault of the economy. -/
def Instruction.IsAside : Instruction → Prop
  | .initializeMasterpool .. => True
  | .updateConfig .. => True
  | .setPauseFlags .. => True
  | .initializeFaucet .. => True
  | .setFaucetEnabled .. => True
  | .updateFaucetLimits .. => True
  | .claimFaucet .. => True
  | _ => False

def Action.IsAside : Action → Prop
  | .call _ _ i => i.IsAside
  | .token _ _ => True

/-- What an action destroys of the mint `m` from outside the program. -/
def Action.burned (m : Pubkey) : Action → ℕ
  | .call .. => 0
  | .token _ i => i.burned m

/-- The outcome of an instruction of the first kind. -/
structure Aside (s : State) (a : Action) (s' : State) : Prop where
  providers : s'.providers = s.providers
  rewards : s'.rewards = s.rewards
  settlements : s'.settlements = s.settlements
  bonds : s'.bonds = s.bonds
  noLoss : ∀ k, Owned k → k ≠ faucetClawVault → k ≠ faucetUsdcVault →
    s.tokens.amount k ≤ s'.tokens.amount k
  supply : ∀ m x, s.tokens.mints.get m = some x → x.mintAuthority = none →
    s'.tokens.supply m + a.burned m = s.tokens.supply m
  config : ∀ g, s.config = some g → ∃ g', s'.config = some g' ∧ SameIdentity g g' ∧
    g'.genesisMinted = g.genesisMinted
  created : ∀ g', s.config = none → s'.config = some g' → g'.genesisMinted = false

/-- The outcome of genesis minting under the config `g`. -/
structure Genesis (s : State) (g : GlobalConfig) (t : Ledger Pubkey) : Prop where
  config : s.config = some g
  first : g.genesisMinted = false
  amount : ∀ k, t.amount k = s.tokens.amount k +
    (if k = rewardVault then GENESIS_TOTAL_SUPPLY else 0)
  supply : ∀ m, t.supply m = s.tokens.supply m +
    (if m = g.clawMint then GENESIS_TOTAL_SUPPLY else 0)

/-- The outcome of funding the faucet. -/
structure Funds (s : State) (f : FaucetConfig) (amount : ℕ) (t : Ledger Pubkey) : Prop where
  faucet : s.faucetConfig = some f
  amount : ∀ k, t.amount k + (if k = rewardVault then amount else 0) = s.tokens.amount k +
    (if k = faucetClawVault then amount else 0)
  mints : t.mints = s.tokens.mints

inductive Effect (s : State) : Action → State → Prop
  | failed {a : Action} {e : ProgramError ErrorCode} (h : a.exec s = .error e) : Effect s a s
  | aside {a : Action} {s' : State} (ha : a.IsAside) (h : Aside s a s') : Effect s a s'
  | genesis {c now ctx g t} (h : Genesis s g t) :
    Effect s (.call c now (.mintGenesisSupply ctx))
      { s with tokens := t, config := some { g with genesisMinted := true, updatedAt := now.toInt } }
  | fund {c now ctx amount f t} (h : Funds s f amount.toNat t) :
    Effect s (.call c now (.fundFaucetClaw ctx amount))
      { s with tokens := t, faucetConfig := some { f with updatedAt := now.toInt } }
  | register {c now ctx g t} (h : Registers c ctx s g t) :
    Effect s (.call c now (.registerProvider ctx)) (registered now.toInt ctx s g t)
  | exit {c now ctx g p t} (h : Exits c ctx s g p t) :
    Effect s (.call c now (.exitProvider ctx)) (exited now.toInt ctx s p t)
  | record {c now ctx n g pay p u v t₁ t₂ x}
    (h : Records c now.toInt ctx n.toNat s g pay p u v t₁ t₂ x) :
    Effect s (.call c now (.recordMiningFromReceipt ctx n)) (recorded now.toInt ctx s p u v t₂ x)
  | settle {c now ctx n g x p u v t} (h : Settles c ctx n.toNat s g x p u v t) :
    Effect s (.call c now (.settleFinalizedReceipt ctx n)) (settled now.toInt ctx s x p u v t)
  | bond {c now ctx g x p t b} (h : Bonds c now.toInt ctx s g x p t b) :
    Effect s (.call c now (.recordChallengeBond ctx)) (bonded now.toInt ctx s x p t b)
  | reject {c now ctx n g x b p u v t} (hn : n.toNat = ATTESTATION_RESOLUTION_REJECTED)
    (h : Resolves c ctx s g x b p u v)
    (ht : burn s.tokens ctx.clawMint ctx.challengeBondVault poolAuthority b.bondAmount = .ok t)
    (hp : 1 ≤ p.unresolvedChallengeCount) :
    Effect s (.call c now (.resolveChallengeEconomics ctx n)) (rejected now.toInt ctx s x b p t)
  | revert {c now ctx n g x b p u v t₁ t₂ t₃ t₄} (hn : IsAccepting n.toNat)
    (h : Resolves c ctx s g x b p u v) (ht : Accepts g ctx ⟨s.tokens, x, b, p, u, v⟩ t₁ t₂ t₃ t₄)
    (hp : 1 ≤ p.unresolvedChallengeCount) :
    Effect s (.call c now (.resolveChallengeEconomics ctx n))
      (reverted now.toInt ctx s x b p u v t₄)
  | materialize {c now ctx target n tgt x r}
    (h : Materializes c now.toInt ctx tgt n.toNat s x r) :
    Effect s (.call c now (.materializeRewardRelease ctx target n))
      (materialized now.toInt ctx tgt n.toNat s x r)
  | claim {c now ctx g r t} (h : Claims c ctx s g r t) :
    Effect s (.call c now (.claimReleasedClaw ctx)) (claimed now.toInt ctx s r t)

/-! ## Movements in and out of the vaults -/

/-- A transfer from an account of somebody else reaches a vault in full. -/
theorem inbound {l l' : Ledger Pubkey} {a m d au k : Pubkey} {n dec : ℕ}
    (h : transferChecked l a m d au n dec = .ok l') (ha : ¬ Owned a) (hk : Owned k) :
    l'.amount k = l.amount k + (if k = d then n else 0) := by
  have hmove := transferChecked_amount h k
  rwa [if_neg (fun e => ha (e ▸ hk) : ¬ k = a), Nat.add_zero] at hmove

/-- A transfer to an account of somebody else leaves a vault in full. -/
theorem outbound {l l' : Ledger Pubkey} {a m d au k : Pubkey} {n dec : ℕ}
    (h : transferChecked l a m d au n dec = .ok l') (hd : ¬ Owned d) (hk : Owned k) :
    l'.amount k + (if k = a then n else 0) = l.amount k := by
  have hmove := transferChecked_amount h k
  rwa [if_neg (fun e => hd (e ▸ hk) : ¬ k = d), Nat.add_zero] at hmove

theorem initializeAccount_amount {l l' : Ledger Pubkey} {k m o : Pubkey}
    (h : initializeAccount l k m o = .ok l') (k' : Pubkey) : l'.amount k' = l.amount k' := by
  obtain ⟨-, hnone, -, rfl⟩ := initializeAccount_ok h
  refine (amount_set (l := l) rfl k').trans ?_
  split_ifs with hk
  · rw [hk, amount_of_none hnone]
  · rfl

theorem initializeAccount_mints {l l' : Ledger Pubkey} {k m o : Pubkey}
    (h : initializeAccount l k m o = .ok l') : l'.mints = l.mints := by
  obtain ⟨-, -, -, rfl⟩ := initializeAccount_ok h
  rfl

/-- A payment out of a faucet vault takes nothing from another vault. -/
theorem faucetTransfer_amount {l l' : Ledger Pubkey} {a m d k : Pubkey} {n dec : ℕ}
    (h : faucetTransfer l a m d n dec = .ok l') (hk : k ≠ a) :
    l.amount k ≤ l'.amount k ∧ l'.mints = l.mints := by
  rcases faucetTransfer_ok h with h | ⟨-, rfl⟩
  · have hmove := transferChecked_amount h k
    rw [if_neg hk] at hmove
    exact ⟨by omega, transferChecked_mints h⟩
  · exact ⟨le_rfl, rfl⟩

/-! ## Every step is one of the effects -/

variable {s s' : State}

/-- An instruction over the configs alone. -/
theorem aside_of_config {c : Caller MASTERPOOL_ID} {now : Int64} {i : Instruction}
    {g' : Option GlobalConfig} {f' : Option FaucetConfig} {gl : Option FaucetGlobalState}
    (hg : ∀ g, s.config = some g → ∃ g₁, g' = some g₁ ∧ SameIdentity g g₁ ∧
      g₁.genesisMinted = g.genesisMinted)
    (hnew : ∀ g₁, s.config = none → g' = some g₁ → g₁.genesisMinted = false) :
    Aside s (.call c now i)
      { s with config := g', faucetConfig := f', faucetGlobalState := gl } where
  providers := rfl
  rewards := rfl
  settlements := rfl
  bonds := rfl
  noLoss _ _ _ _ := le_rfl
  supply _ _ _ _ := rfl
  config := hg
  created := hnew

/-- An instruction that keeps the config and takes nothing from a vault. -/
theorem aside_of_tokens {a : Action} {t : Ledger Pubkey} {f : Option FaucetConfig}
    {gl : Option FaucetGlobalState} {us : Store Pubkey FaucetUserState}
    (hamt : ∀ k, Owned k → k ≠ faucetClawVault → k ≠ faucetUsdcVault →
      s.tokens.amount k ≤ t.amount k)
    (hsup : ∀ m x, s.tokens.mints.get m = some x → x.mintAuthority = none →
      t.supply m + a.burned m = s.tokens.supply m) :
    Aside s a { s with
      tokens := t, faucetConfig := f, faucetGlobalState := gl, faucetUserStates := us } where
  providers := rfl
  rewards := rfl
  settlements := rfl
  bonds := rfl
  noLoss := hamt
  supply := hsup
  config g hg := ⟨g, hg, .refl g, rfl⟩
  created g' h h' := by
    rw [show s.config = some g' from h'] at h
    cases h

theorem initializeMasterpool_aside {c : Caller MASTERPOOL_ID} {now : Int64}
    {ctx : InitializeMasterpool} {params : Phase1ConfigParams}
    (h : initializeMasterpool c now.toInt ctx params s = .ok s') :
    Aside s (.call c now (.initializeMasterpool ctx params)) s' := by
  obtain ⟨x, y, t₁, t₂, t₃, t₄, t₅, hnone, -, -, -, -, -, h₁, h₂, h₃, h₄, h₅, rfl⟩ :=
    initializeMasterpool_ok h
  refine ⟨rfl, rfl, rfl, rfl, fun k _ _ _ => ?_, fun m _ _ _ => ?_, fun g hg => ?_, fun g' _ hg' => ?_⟩
  · show s.tokens.amount k ≤ t₅.amount k
    rw [initializeAccount_amount h₅, initializeAccount_amount h₄, initializeAccount_amount h₃,
      initializeAccount_amount h₂, initializeAccount_amount h₁]
  · have hmints : t₅.mints = s.tokens.mints := by
      rw [initializeAccount_mints h₅, initializeAccount_mints h₄, initializeAccount_mints h₃,
        initializeAccount_mints h₂, initializeAccount_mints h₁]
    exact supply_congr hmints m
  · rw [hnone] at hg
    cases hg
  · obtain rfl := Option.some.inj hg'
    rfl

theorem mintGenesisSupply_effect {c : Caller MASTERPOOL_ID} {now : Int64}
    {ctx : MintGenesisSupply} (hs : Sound s)
    (h : mintGenesisSupply c now.toInt ctx s = .ok s') :
    Effect s (.call c now (.mintGenesisSupply ctx)) s' := by
  obtain ⟨g, t₁, t₂, t₃, hg, hgen, hmint, hvault, h₁, h₂, h₃, rfl⟩ := mintGenesisSupply_ok h
  have hrv : ctx.rewardVault = rewardVault := hvault.trans (hs.config g hg).rewardVault
  obtain ⟨y, hy, -, rfl⟩ := setMintAuthority_ok h₂
  obtain ⟨z, hz, rfl⟩ := setFreezeAuthority_ok h₃
  refine .genesis ⟨hg, hgen, fun k => ?_, fun m => ?_⟩
  · rw [← hrv]
    exact mintTo_amount h₁ k
  · rw [hmint, ← mintTo_supply h₁ m]
    simp only [Store.get_set_self, Option.some.injEq] at hz
    rw [supply_set (l := { t₁ with mints := t₁.mints.set ctx.clawMint _ }) rfl m,
      supply_set (l := t₁) rfl m]
    split_ifs with hm
    · rw [← hz, hm, supply_of_get hy]
    · rfl

theorem fundFaucetClaw_effect {c : Caller MASTERPOOL_ID} {now : Int64} {ctx : FundFaucetClaw}
    {amount : UInt64} (hs : Sound s)
    (h : fundFaucetClaw c now.toInt ctx amount.toNat s = .ok s') :
    Effect s (.call c now (.fundFaucetClaw ctx amount)) s' := by
  obtain ⟨g, f, t, dec, hg, hf, hrv, hfv, ht, rfl⟩ := fundFaucetClaw_ok h
  rw [hrv, (hs.config g hg).rewardVault, hfv, (hs.faucet f hf).1] at ht
  exact .fund ⟨hf, transferChecked_amount ht, transferChecked_mints ht⟩

theorem claimFaucet_aside {c : Caller MASTERPOOL_ID} {now : Int64} {ctx : ClaimFaucet}
    {args : FaucetClaimArgs} (hs : Sound s)
    (h : claimFaucet c now.toInt ctx args.clawAmount.toNat args.usdcAmount.toNat s = .ok s') :
    Aside s (.call c now (.claimFaucet ctx args)) s' := by
  obtain ⟨f, gl, u, t₁, t₂, hpays, rfl⟩ := claimFaucet_ok h
  obtain ⟨dec, h₁⟩ := hpays.claw
  obtain ⟨dec', h₂⟩ := hpays.usdc
  obtain ⟨hcv, huv⟩ := hpays.vaults
  rw [hcv, (hs.faucet f hpays.faucet).1] at h₁
  rw [huv, (hs.faucet f hpays.faucet).2] at h₂
  refine aside_of_tokens (f := s.faucetConfig) (fun k _ hk₁ hk₂ => ?_) fun m _ _ _ => ?_
  · exact (faucetTransfer_amount h₁ hk₁).1.trans (faucetTransfer_amount h₂ hk₂).1
  · have hne : rewardVault ≠ faucetClawVault ∧ rewardVault ≠ faucetUsdcVault := by decide
    exact supply_congr ((faucetTransfer_amount h₂ hne.2).2.trans
      (faucetTransfer_amount h₁ hne.1).2) m

theorem token_aside {c : Caller MASTERPOOL_ID} {i : Token.Instruction Pubkey} {t : Ledger Pubkey}
    (hs : Sound s) (h : Token.exec (· ∈ c.signers) s.tokens i = .ok t) :
    Aside s (.token c i) { s with tokens := t } :=
  aside_of_tokens (fun k hk _ _ => exec_amount_le poolAuthority_somebody
    (poolAuthority_not_signed c) hs.custody h fun x hx => hs.custody.reserved k x hk hx)
    fun _ _ hm hau => exec_supply hm hau h

theorem exec_effect {c : Caller MASTERPOOL_ID} {now : Int64} {i : Instruction} (hs : Sound s)
    (h : exec c now.toInt s i = .ok s') : Effect s (.call c now i) s' := by
  cases i with
  | initializeMasterpool ctx params => exact .aside trivial (initializeMasterpool_aside h)
  | mintGenesisSupply ctx => exact mintGenesisSupply_effect hs h
  | updateConfig ctx params =>
    obtain ⟨g, hg, -, rfl⟩ := updateConfig_ok h
    refine .aside trivial (aside_of_config (fun g₁ hg₁ => ?_) fun g₁ hnone => ?_)
    · obtain rfl := Option.some.inj (hg.symm.trans hg₁)
      exact ⟨_, rfl, ⟨rfl, rfl, rfl, rfl, rfl, rfl, rfl, rfl, rfl⟩, rfl⟩
    · rw [hg] at hnone
      cases hnone
  | setPauseFlags ctx a b d e =>
    obtain ⟨g, hg, rfl⟩ := setPauseFlags_ok h
    refine .aside trivial (aside_of_config (fun g₁ hg₁ => ?_) fun g₁ hnone => ?_)
    · obtain rfl := Option.some.inj (hg.symm.trans hg₁)
      exact ⟨_, rfl, ⟨rfl, rfl, rfl, rfl, rfl, rfl, rfl, rfl, rfl⟩, rfl⟩
    · rw [hg] at hnone
      cases hnone
  | initializeFaucet ctx =>
    obtain ⟨g, f, global, t₁, t₂, -, h₁, h₂, -, -, rfl⟩ := initializeFaucet_ok h
    refine .aside trivial (aside_of_tokens (fun k _ _ _ => ?_) fun m _ _ _ => ?_)
    · rw [initializeAccount_amount h₂, initializeAccount_amount h₁]
    · exact supply_congr ((initializeAccount_mints h₂).trans (initializeAccount_mints h₁)) m
  | setFaucetEnabled ctx enabled =>
    obtain ⟨f, hf, rfl⟩ := setFaucetEnabled_ok h
    exact .aside trivial (aside_of_tokens (fun _ _ _ _ => le_rfl) fun _ _ _ _ => rfl)
  | updateFaucetLimits ctx limits =>
    obtain ⟨f, hf, -, rfl⟩ := updateFaucetLimits_ok h
    exact .aside trivial (aside_of_tokens (fun _ _ _ _ => le_rfl) fun _ _ _ _ => rfl)
  | fundFaucetClaw ctx amount => exact fundFaucetClaw_effect hs h
  | claimFaucet ctx args => exact .aside trivial (claimFaucet_aside hs h)
  | registerProvider ctx =>
    obtain ⟨g, t, hr, rfl⟩ := registerProvider_ok h
    exact .register hr
  | exitProvider ctx =>
    obtain ⟨g, p, t, hr, rfl⟩ := exitProvider_ok h
    exact .exit hr
  | materializeRewardRelease ctx target amount =>
    obtain ⟨tgt, x, r, -, hr, rfl⟩ := materializeRewardRelease_ok h
    exact .materialize hr
  | claimReleasedClaw ctx =>
    obtain ⟨g, r, t, hr, rfl⟩ := claimReleasedClaw_ok h
    exact .claim hr
  | recordMiningFromReceipt ctx n =>
    obtain ⟨g, pay, p, u, v, t₁, t₂, x, hr, rfl⟩ := recordMiningFromReceipt_ok h
    exact .record hr
  | settleFinalizedReceipt ctx status =>
    obtain ⟨g, x, p, u, v, t, hr, rfl⟩ := settleFinalizedReceipt_ok.mp h
    exact .settle hr
  | recordChallengeBond ctx =>
    obtain ⟨g, x, p, t, b, hr, rfl⟩ := recordChallengeBond_ok h
    exact .bond hr
  | resolveChallengeEconomics ctx code =>
    rcases resolveChallengeEconomics_code h with hcode | hcode
    · have h' : resolveChallengeEconomics c now.toInt ctx code.toNat s = .ok s' := h
      rw [hcode] at h'
      obtain ⟨g, x, b, p, u, v, t, hr, ht, hp, rfl⟩ := resolveChallengeEconomics_rejecting h'
      exact .reject hcode hr ht hp
    · obtain ⟨g, x, b, p, u, v, t₁, t₂, t₃, t₄, hr, ht, hp, rfl⟩ :=
        (resolveChallengeEconomics_accepting hcode).mp h
      exact .revert hcode hr ht hp

/-- **Effects**: what a step from a sound state can do. -/
theorem step_effect (hs : Sound s) (a : Action) : Effect s a (step s a) := by
  rcases step_cases s a with ⟨e, he, h⟩ | h
  · rw [h]
    exact .failed he
  · cases a with
    | call c now i => exact exec_effect hs h
    | token c i =>
      simp only [Action.exec, bind_eq_ok, cpi_eq_ok, pure_eq_ok] at h
      obtain ⟨t, ht, heq⟩ := h
      rw [← heq]
      exact .aside trivial (token_aside hs ht)

end Masterpool
