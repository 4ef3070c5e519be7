import Clawfarm.Masterpool.Program

/-!
# Masterpool.Vaults — the vaults stay the program's own

`Sound` is the part of the invariant that is about tokens: the pool authority has custody of every
account at an address derived from the program, the config and the faucet config point at the
vaults, and the vaults exist with the right mints.  Every action keeps it (`step_sound`).
-/

namespace Masterpool

open Token Checked

/-- Addresses derived from the program. -/
abbrev Owned : Pubkey → Prop := Pubkey.IsDerived MASTERPOOL_ID

/-- `k` is a token account of the pool authority for the mint `m`. -/
def Holds (l : Ledger Pubkey) (k m : Pubkey) : Prop :=
  ∃ x, l.accounts.get k = some x ∧ x.owner = poolAuthority ∧ x.mint = m

/-- Nobody else can close an account at an address of the program. -/
theorem Holds.keeps {l l' : Ledger Pubkey} {k m : Pubkey} (h : Holds l k m)
    (hc : Custody poolAuthority Owned l) (ho : Owned k) (hk : Keeps poolAuthority l l') :
    Holds l' k m := by
  obtain ⟨x, hx, ho', hm⟩ := h
  obtain ⟨x', hx', ho', hm', -⟩ := hk.held k x hx ho' (hc.noCloser k x ho hx)
  exact ⟨x', hx', ho', hm'.trans hm⟩

theorem holds_initializeAccount {l l' : Ledger Pubkey} {k m : Pubkey}
    (h : initializeAccount l k m poolAuthority = .ok l') : Holds l' k m := by
  obtain ⟨-, -, -, rfl⟩ := initializeAccount_ok h
  exact ⟨_, Store.get_set_self _ _ _, rfl, rfl⟩

/-- The mint `m` has `decimals`, and no mint authority if `fixed`. -/
def HasMint (l : Ledger Pubkey) (m : Pubkey) (decimals : ℕ) (fixed : Prop) : Prop :=
  ∃ x, l.mints.get m = some x ∧ x.decimals = decimals ∧ (fixed → x.mintAuthority = none)

theorem HasMint.keeps {l l' : Ledger Pubkey} {m : Pubkey} {decimals : ℕ} {fixed : Prop}
    (h : HasMint l m decimals fixed) (hk : Keeps poolAuthority l l') :
    HasMint l' m decimals fixed := by
  obtain ⟨x, hx, hd, hf⟩ := h
  obtain ⟨x', hx', hd', hs⟩ := hk.mint m x hx
  exact ⟨x', hx', hd'.trans hd, fun h => (hs (hf h)).1⟩

/-- The config points at the vaults, and these and the two mints exist. -/
structure ConfigSound (l : Ledger Pubkey) (g : GlobalConfig) : Prop where
  rewardVault : g.rewardVault = rewardVault
  challengeBondVault : g.challengeBondVault = challengeBondVault
  treasuryUsdcVault : g.treasuryUsdcVault = treasuryUsdcVault
  providerStakeUsdcVault : g.providerStakeUsdcVault = providerStakeUsdcVault
  providerPendingUsdcVault : g.providerPendingUsdcVault = providerPendingUsdcVault
  clawMint : HasMint l g.clawMint CLAW_DECIMALS (g.genesisMinted = true)
  usdcMint : HasMint l g.usdcMint USDC_DECIMALS False
  reward : Holds l Masterpool.rewardVault g.clawMint
  bond : Holds l Masterpool.challengeBondVault g.clawMint
  treasury : Holds l Masterpool.treasuryUsdcVault g.usdcMint
  stake : Holds l Masterpool.providerStakeUsdcVault g.usdcMint
  pending : Holds l Masterpool.providerPendingUsdcVault g.usdcMint

/-- Two configs name the same authorities, programs, mints and vaults. -/
structure SameIdentity (g g' : GlobalConfig) : Prop where
  adminAuthority : g'.adminAuthority = g.adminAuthority
  attestationProgram : g'.attestationProgram = g.attestationProgram
  clawMint : g'.clawMint = g.clawMint
  usdcMint : g'.usdcMint = g.usdcMint
  rewardVault : g'.rewardVault = g.rewardVault
  challengeBondVault : g'.challengeBondVault = g.challengeBondVault
  treasuryUsdcVault : g'.treasuryUsdcVault = g.treasuryUsdcVault
  providerStakeUsdcVault : g'.providerStakeUsdcVault = g.providerStakeUsdcVault
  providerPendingUsdcVault : g'.providerPendingUsdcVault = g.providerPendingUsdcVault

theorem SameIdentity.refl (g : GlobalConfig) : SameIdentity g g :=
  ⟨rfl, rfl, rfl, rfl, rfl, rfl, rfl, rfl, rfl⟩

theorem SameIdentity.trans {g g' g'' : GlobalConfig} (h : SameIdentity g g')
    (h' : SameIdentity g' g'') : SameIdentity g g'' :=
  ⟨h'.1.trans h.1, h'.2.trans h.2, h'.3.trans h.3, h'.4.trans h.4, h'.5.trans h.5, h'.6.trans h.6,
    h'.7.trans h.7, h'.8.trans h.8, h'.9.trans h.9⟩

theorem ConfigSound.keeps {l l' : Ledger Pubkey} {g g' : GlobalConfig} (h : ConfigSound l g)
    (hc : Custody poolAuthority Owned l) (hk : Keeps poolAuthority l l') (hid : SameIdentity g g')
    (hgen : g'.genesisMinted = g.genesisMinted) : ConfigSound l' g' where
  rewardVault := hid.rewardVault.trans h.rewardVault
  challengeBondVault := hid.challengeBondVault.trans h.challengeBondVault
  treasuryUsdcVault := hid.treasuryUsdcVault.trans h.treasuryUsdcVault
  providerStakeUsdcVault := hid.providerStakeUsdcVault.trans h.providerStakeUsdcVault
  providerPendingUsdcVault := hid.providerPendingUsdcVault.trans h.providerPendingUsdcVault
  clawMint := hid.clawMint ▸ hgen ▸ h.clawMint.keeps hk
  usdcMint := hid.usdcMint ▸ h.usdcMint.keeps hk
  reward := hid.clawMint ▸ h.reward.keeps hc rfl hk
  bond := hid.clawMint ▸ h.bond.keeps hc rfl hk
  treasury := hid.usdcMint ▸ h.treasury.keeps hc rfl hk
  stake := hid.usdcMint ▸ h.stake.keeps hc rfl hk
  pending := hid.usdcMint ▸ h.pending.keeps hc rfl hk

structure Sound (s : State) : Prop where
  custody : Custody poolAuthority Owned s.tokens
  balanced : Balanced s.tokens
  config : ∀ g, s.config = some g → ConfigSound s.tokens g
  faucet : ∀ f, s.faucetConfig = some f →
    f.faucetClawVault = faucetClawVault ∧ f.faucetUsdcVault = faucetUsdcVault

theorem sound_init : Sound .init where
  custody := ⟨fun _ _ h => (nomatch h), fun _ _ _ h => (nomatch h), fun _ _ _ h => (nomatch h)⟩
  balanced := balanced_empty
  config _ h := nomatch h
  faucet _ h := nomatch h

/-- A step over the token ledger alone, with the config and faucet config up to what they point
at. -/
theorem Sound.next {s s' : State} (h : Sound s)
    (ht : Safe poolAuthority Owned s.tokens s'.tokens)
    (hg : ∀ g', s'.config = some g' → ∃ g, s.config = some g ∧ SameIdentity g g' ∧
      g'.genesisMinted = g.genesisMinted)
    (hf : ∀ f', s'.faucetConfig = some f' → ∃ f, s.faucetConfig = some f ∧
      f'.faucetClawVault = f.faucetClawVault ∧ f'.faucetUsdcVault = f.faucetUsdcVault) :
    Sound s' where
  custody := ht.custody h.custody
  balanced := ht.balanced h.balanced
  config g' hg' := by
    obtain ⟨g, hs, hid, hgen⟩ := hg g' hg'
    exact (h.config g hs).keeps h.custody ht.keeps hid hgen
  faucet f' hf' := by
    obtain ⟨f, hs, h1, h2⟩ := hf f' hf'
    exact ⟨h1.trans (h.faucet f hs).1, h2.trans (h.faucet f hs).2⟩

/-- A step that leaves both configs alone. -/
theorem Sound.tokens {s s' : State} (h : Sound s)
    (ht : Safe poolAuthority Owned s.tokens s'.tokens) (hg : s'.config = s.config)
    (hf : s'.faucetConfig = s.faucetConfig) : Sound s' :=
  h.next ht (fun g' hg' => ⟨g', hg ▸ hg', .refl g', rfl⟩) fun f' hf' => ⟨f', hf ▸ hf', rfl, rfl⟩

/-! ## Every instruction is safe for the pool authority -/

variable {c : Caller MASTERPOOL_ID} {now : ℤ} {s s' : State}

theorem safe_poolAccount {l l' : Ledger Pubkey} {k m : Pubkey}
    (h : initializeAccount l k m poolAuthority = .ok l') :
    Safe poolAuthority Owned l l' := initializeAccount_safe (fun _ => rfl) h

theorem safe_ifPositive_transfer {l l' : Ledger Pubkey} {a m d au : Pubkey} {n dec : ℕ}
    (h : ifPositive n (transferChecked l a m d au n dec) l = .ok l') :
    Safe poolAuthority Owned l l' := by
  rw [ifPositive_ok] at h
  rcases Nat.eq_zero_or_pos n with hn | hn
  · rw [h.2 hn]
    exact Safe.refl l
  · exact transferChecked_safe (h.1 hn)

theorem safe_ifPositive_burn {l l' : Ledger Pubkey} {m a au : Pubkey} {n : ℕ}
    (h : ifPositive n (burn l m a au n) l = .ok l') : Safe poolAuthority Owned l l' := by
  rw [ifPositive_ok] at h
  rcases Nat.eq_zero_or_pos n with hn | hn
  · rw [h.2 hn]
    exact Safe.refl l
  · exact burn_safe (h.1 hn)

theorem Accepts.safe {g : GlobalConfig} {ctx : ResolveChallengeEconomics} {r : Resolution}
    {t₁ t₂ t₃ t₄ : Ledger Pubkey} (h : Accepts g ctx r t₁ t₂ t₃ t₄) :
    Safe poolAuthority Owned r.tokens t₄ :=
  (((transferChecked_safe h.bondReturn).trans (safe_ifPositive_transfer h.reward)).trans
    (safe_ifPositive_burn h.slash)).trans (transferChecked_safe h.refund)

theorem Records.safe {ctx : RecordMiningFromReceipt} {n : ℕ} {g : GlobalConfig}
    {pay : TokenAccount Pubkey} {p : ProviderAccount} {u v : RewardAccount}
    {t₁ t₂ : Ledger Pubkey} {x : ReceiptSettlement} (h : Records c now ctx n s g pay p u v t₁ t₂ x) :
    Safe poolAuthority Owned s.tokens t₂ := by
  obtain ⟨m, -, h₁, h₂⟩ := h.toTreasury
  exact (transferChecked_safe h₁).trans (transferChecked_safe h₂)

theorem safe_faucetTransfer {l l' : Ledger Pubkey} {vault m d : Pubkey} {n dec : ℕ}
    (h : faucetTransfer l vault m d n dec = .ok l') : Safe poolAuthority Owned l l' := by
  rcases faucetTransfer_ok h with h | ⟨-, rfl⟩
  · exact transferChecked_safe h
  · exact Safe.refl _

theorem initializeMasterpool_sound {ctx : InitializeMasterpool} {params : Phase1ConfigParams}
    (hs : Sound s) (h : initializeMasterpool c now ctx params s = .ok s') : Sound s' := by
  obtain ⟨x, y, t₁, t₂, t₃, t₄, t₅, -, -, hx, hxd, hy, hyd, h₁, h₂, h₃, h₄, h₅, rfl⟩ :=
    initializeMasterpool_ok h
  have k₁ := safe_poolAccount h₁
  have k₂ := safe_poolAccount h₂
  have k₃ := safe_poolAccount h₃
  have k₄ := safe_poolAccount h₄
  have k₅ := safe_poolAccount h₅
  have k₄₅ := k₄.keeps.trans k₅.keeps
  have k₃₅ := k₃.keeps.trans k₄₅
  have k₂₅ := k₂.keeps.trans k₃₅
  have c₁ := k₁.custody hs.custody
  have c₂ := k₂.custody c₁
  have c₃ := k₃.custody c₂
  have c₄ := k₄.custody c₃
  have hall := k₁.trans (k₂.trans (k₃.trans (k₄.trans k₅)))
  have hclaw : HasMint s.tokens ctx.clawMint CLAW_DECIMALS (false = true) :=
    ⟨x, hx, hxd, fun h => by cases h⟩
  have husdc : HasMint s.tokens ctx.usdcMint USDC_DECIMALS False := ⟨y, hy, hyd, False.elim⟩
  refine ⟨hall.custody hs.custody, hall.balanced hs.balanced, fun g hg => ?_, hs.faucet⟩
  obtain rfl := Option.some.inj hg
  exact ⟨rfl, rfl, rfl, rfl, rfl, hclaw.keeps hall.keeps, husdc.keeps hall.keeps,
    (holds_initializeAccount h₁).keeps c₁ rfl k₂₅, (holds_initializeAccount h₂).keeps c₂ rfl k₃₅,
    (holds_initializeAccount h₃).keeps c₃ rfl k₄₅,
    (holds_initializeAccount h₄).keeps c₄ rfl k₅.keeps, holds_initializeAccount h₅⟩

theorem mintGenesisSupply_safe {ctx : MintGenesisSupply}
    (h : mintGenesisSupply c now ctx s = .ok s') :
    Safe poolAuthority Owned s.tokens s'.tokens := by
  obtain ⟨g, t₁, t₂, t₃, -, -, -, -, h₁, h₂, h₃, rfl⟩ := mintGenesisSupply_ok h
  exact ((mintTo_safe h₁).trans (setMintAuthority_safe h₂)).trans (setFreezeAuthority_safe h₃)

theorem mintGenesisSupply_sound {ctx : MintGenesisSupply} (hs : Sound s)
    (h : mintGenesisSupply c now ctx s = .ok s') : Sound s' := by
  have hsafe := mintGenesisSupply_safe h
  obtain ⟨g, t₁, t₂, t₃, hg, -, hmint, -, -, h₂, h₃, rfl⟩ := mintGenesisSupply_ok h
  refine ⟨hsafe.custody hs.custody, hsafe.balanced hs.balanced, fun g' hg' => ?_, hs.faucet⟩
  obtain rfl := Option.some.inj hg'
  have hold := hs.config g hg
  have hnew : ConfigSound t₃ g := hold.keeps hs.custody hsafe.keeps (.refl g) rfl
  obtain ⟨x, hx, hxd, -⟩ := hnew.clawMint
  have hnone : x.mintAuthority = none := by
    obtain ⟨y, -, -, rfl⟩ := setMintAuthority_ok h₂
    obtain ⟨z, hz, rfl⟩ := setFreezeAuthority_ok h₃
    simp only [Store.get_set_self, Option.some.injEq] at hz
    simp only [hmint, Store.get_set_self, Option.some.injEq] at hx
    rw [← hx, ← hz]
  exact { hnew with clawMint := ⟨x, hx, hxd, fun _ => hnone⟩ }

theorem initializeFaucet_sound {ctx : InitializeFaucet} (hs : Sound s)
    (h : initializeFaucet c now ctx s = .ok s') : Sound s' := by
  obtain ⟨g, f, global, t₁, t₂, -, h₁, h₂, hf₁, hf₂, rfl⟩ := initializeFaucet_ok h
  have hsafe := (safe_poolAccount h₁).trans (safe_poolAccount h₂)
  refine ⟨hsafe.custody hs.custody, hsafe.balanced hs.balanced,
    fun g hg => (hs.config g hg).keeps hs.custody hsafe.keeps (.refl g) rfl, fun f' hf' => ?_⟩
  obtain rfl := Option.some.inj hf'
  exact ⟨hf₁, hf₂⟩

theorem resolveChallengeEconomics_tokens {ctx : ResolveChallengeEconomics} {code : ℕ}
    (h : resolveChallengeEconomics c now ctx code s = .ok s') :
    Safe poolAuthority Owned s.tokens s'.tokens ∧ s'.config = s.config ∧
      s'.faucetConfig = s.faucetConfig := by
  rcases resolveChallengeEconomics_code h with rfl | hcode
  · obtain ⟨g, x, b, p, u, v, t, -, ht, -, rfl⟩ := resolveChallengeEconomics_rejecting h
    exact ⟨burn_safe ht, rfl, rfl⟩
  · obtain ⟨g, x, b, p, u, v, t₁, t₂, t₃, t₄, -, hacc, -, rfl⟩ :=
      (resolveChallengeEconomics_accepting hcode).mp h
    exact ⟨hacc.safe, rfl, rfl⟩

theorem exec_sound {i : Instruction} (hs : Sound s) (h : exec c now s i = .ok s') : Sound s' := by
  cases i with
  | initializeMasterpool ctx params => exact initializeMasterpool_sound hs h
  | mintGenesisSupply ctx => exact mintGenesisSupply_sound hs h
  | updateConfig ctx params =>
    obtain ⟨g, hg, -, rfl⟩ := updateConfig_ok h
    refine hs.next (Safe.refl _) (fun g' hg' => ?_) fun f hf => ⟨f, hf, rfl, rfl⟩
    obtain rfl := Option.some.inj hg'
    exact ⟨g, hg, ⟨rfl, rfl, rfl, rfl, rfl, rfl, rfl, rfl, rfl⟩, rfl⟩
  | setPauseFlags ctx a b d e =>
    obtain ⟨g, hg, rfl⟩ := setPauseFlags_ok h
    refine hs.next (Safe.refl _) (fun g' hg' => ?_) fun f hf => ⟨f, hf, rfl, rfl⟩
    obtain rfl := Option.some.inj hg'
    exact ⟨g, hg, ⟨rfl, rfl, rfl, rfl, rfl, rfl, rfl, rfl, rfl⟩, rfl⟩
  | initializeFaucet ctx => exact initializeFaucet_sound hs h
  | setFaucetEnabled ctx enabled =>
    obtain ⟨f, hf, rfl⟩ := setFaucetEnabled_ok h
    refine hs.next (Safe.refl _) (fun g hg => ⟨g, hg, .refl g, rfl⟩) fun f' hf' => ?_
    obtain rfl := Option.some.inj hf'
    exact ⟨f, hf, rfl, rfl⟩
  | updateFaucetLimits ctx limits =>
    obtain ⟨f, hf, -, rfl⟩ := updateFaucetLimits_ok h
    refine hs.next (Safe.refl _) (fun g hg => ⟨g, hg, .refl g, rfl⟩) fun f' hf' => ?_
    obtain rfl := Option.some.inj hf'
    exact ⟨f, hf, rfl, rfl⟩
  | fundFaucetClaw ctx amount =>
    obtain ⟨g, f, t, dec, -, hf, -, -, ht, rfl⟩ := fundFaucetClaw_ok h
    refine hs.next (transferChecked_safe ht) (fun g hg => ⟨g, hg, .refl g, rfl⟩) fun f' hf' => ?_
    obtain rfl := Option.some.inj hf'
    exact ⟨f, hf, rfl, rfl⟩
  | claimFaucet ctx args =>
    obtain ⟨f, gl, u, t₁, t₂, hpays, rfl⟩ := claimFaucet_ok h
    obtain ⟨dec, h₁⟩ := hpays.claw
    obtain ⟨dec', h₂⟩ := hpays.usdc
    exact hs.tokens ((safe_faucetTransfer h₁).trans (safe_faucetTransfer h₂)) rfl rfl
  | registerProvider ctx =>
    obtain ⟨g, t, hr, rfl⟩ := registerProvider_ok h
    obtain ⟨m, -, ht⟩ := hr.transfer
    exact hs.tokens (transferChecked_safe ht) rfl rfl
  | exitProvider ctx =>
    obtain ⟨g, p, t, hr, rfl⟩ := exitProvider_ok h
    obtain ⟨m, -, ht⟩ := hr.transfer
    exact hs.tokens (transferChecked_safe ht) rfl rfl
  | materializeRewardRelease ctx target amount =>
    obtain ⟨tgt, x, r, -, -, rfl⟩ := materializeRewardRelease_ok h
    exact hs.tokens (Safe.refl _) rfl rfl
  | claimReleasedClaw ctx =>
    obtain ⟨g, r, t, hc, rfl⟩ := claimReleasedClaw_ok h
    obtain ⟨m, -, ht⟩ := hc.transfer
    exact hs.tokens (transferChecked_safe ht) rfl rfl
  | recordMiningFromReceipt ctx n =>
    obtain ⟨g, pay, p, u, v, t₁, t₂, x, hr, rfl⟩ := recordMiningFromReceipt_ok h
    exact hs.tokens hr.safe rfl rfl
  | settleFinalizedReceipt ctx status =>
    obtain ⟨g, x, p, u, v, t, hr, rfl⟩ := settleFinalizedReceipt_ok.mp h
    obtain ⟨m, -, ht⟩ := hr.transfer
    exact hs.tokens (transferChecked_safe ht) rfl rfl
  | recordChallengeBond ctx =>
    obtain ⟨g, x, p, t, b, hr, rfl⟩ := recordChallengeBond_ok h
    obtain ⟨m, -, ht⟩ := hr.transfer
    exact hs.tokens (transferChecked_safe ht) rfl rfl
  | resolveChallengeEconomics ctx code =>
    obtain ⟨hsafe, hg, hf⟩ := resolveChallengeEconomics_tokens h
    exact hs.tokens hsafe hg hf

theorem poolAuthority_somebody : ¬ Nobody poolAuthority := by decide

theorem poolAuthority_not_signed (c : Caller MASTERPOOL_ID) : poolAuthority ∉ c.signers :=
  fun h => c.foreign _ h rfl

theorem owned_not_signed (c : Caller MASTERPOOL_ID) (k : Pubkey) (h : Owned k) : k ∉ c.signers :=
  fun hk => c.foreign k hk h

theorem step_sound (hs : Sound s) (a : Action) : Sound (step s a) := by
  rcases step_cases s a with ⟨e, -, h⟩ | h
  · rw [h]
    exact hs
  · cases a with
    | call c now i => exact exec_sound hs h
    | token c i =>
      simp only [Action.exec, bind_eq_ok, cpi_eq_ok, pure_eq_ok] at h
      obtain ⟨t, ht, heq⟩ := h
      rw [← heq]
      exact hs.tokens (exec_safe poolAuthority_somebody (poolAuthority_not_signed c)
        (owned_not_signed c) ht) rfl rfl

theorem reached_sound (as : List Action) : Sound (reached as) :=
  Machine.run_induction (P := Sound) (fun _ a h => step_sound h a) sound_init as

/-! ## Accounts of others are not vaults -/

/-- A token account that does not belong to the pool authority is not at a vault's address. -/
theorem Sound.not_owned (hs : Sound s) {k : Pubkey} {x : TokenAccount Pubkey}
    (hx : s.tokens.accounts.get k = some x) (ho : x.owner ≠ poolAuthority) : ¬ Owned k :=
  fun hk => ho (hs.custody.reserved k x hk hx)

/-- A token account with a delegate is not at a vault's address, and its owner is not the pool
authority. -/
theorem Sound.delegated (hs : Sound s) {k d : Pubkey} {x : TokenAccount Pubkey}
    (hx : s.tokens.accounts.get k = some x) (hd : x.delegate = some d) :
    ¬ Owned k ∧ x.owner ≠ poolAuthority := by
  have ho : x.owner ≠ poolAuthority := by
    intro ho
    rw [hs.custody.noDelegate k x hx ho] at hd
    cases hd
  exact ⟨hs.not_owned hx ho, ho⟩

/-- The wallet of a signer is not the pool authority. -/
theorem signer_ne_poolAuthority {c : Caller MASTERPOOL_ID} {k : Pubkey} (h : k ∈ c.signers) :
    k ≠ poolAuthority := fun e => poolAuthority_not_signed c (e ▸ h)

end Masterpool
