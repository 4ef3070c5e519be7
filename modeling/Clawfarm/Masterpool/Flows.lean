import Clawfarm.Masterpool.Wf

/-!
# Masterpool.Flows — what each movement does to the vaults and to the supply

For every effect, the balance of each account of the program after it, in the form
"new + out = old + in".  The counterparties are never vaults themselves: they belong to a wallet
that is not the pool authority (`Sound.not_owned`), with the one exception of the destination of
`exit_provider`, which nothing checks.
-/

namespace Masterpool

open Token Checked

variable {s : State} {c : Caller MASTERPOOL_ID} {now : ℤ} {t : Ledger Pubkey}

theorem Owned.ne {k d : Pubkey} (hk : Owned k) (hd : ¬ Owned d) : k ≠ d := fun e => hd (e ▸ hk)

theorem owned_rewardVault : Owned rewardVault := rfl

theorem owned_pendingVault : Owned providerPendingUsdcVault := rfl

theorem Registers.amount {ctx : RegisterProvider} {g : GlobalConfig} (hs : Sound s)
    (h : Registers c ctx s g t) {k : Pubkey} (hk : Owned k) :
    t.amount k = s.tokens.amount k +
      (if k = providerStakeUsdcVault then g.providerStakeUsdc else 0) := by
  obtain ⟨y, hy, ho, -⟩ := h.source
  obtain ⟨m, -, ht⟩ := h.transfer
  have hout := hs.not_owned hy (ho ▸ signer_ne_poolAuthority h.signed)
  rw [← (hs.config g h.config).providerStakeUsdcVault, ← h.vault]
  exact inbound ht hout hk

theorem Exits.amount {ctx : ExitProvider} {g : GlobalConfig} {p : ProviderAccount} (hs : Sound s)
    (h : Exits c ctx s g p t) (k : Pubkey) :
    t.amount k + (if k = providerStakeUsdcVault then p.stakedUsdcAmount else 0) =
      s.tokens.amount k + (if k = ctx.providerDestinationUsdc then p.stakedUsdcAmount else 0) := by
  obtain ⟨m, -, ht⟩ := h.transfer
  rw [← (hs.config g h.config).providerStakeUsdcVault, ← h.vault]
  exact transferChecked_amount ht k

theorem Records.amount {ctx : RecordMiningFromReceipt} {n : ℕ} {g : GlobalConfig}
    {pay : TokenAccount Pubkey} {p : ProviderAccount} {u v : RewardAccount}
    {t₁ t₂ : Ledger Pubkey} {x : ReceiptSettlement} (hs : Sound s)
    (h : Records c now ctx n s g pay p u v t₁ t₂ x) {k : Pubkey} (hk : Owned k) :
    t₂.amount k = s.tokens.amount k + (if k = treasuryUsdcVault then x.usdcToTreasury else 0) +
      (if k = providerPendingUsdcVault then x.usdcToProvider else 0) := by
  obtain ⟨m, -, h₁, h₂⟩ := h.toTreasury
  have hout := (hs.delegated h.payer h.delegate).1
  have hcfg := hs.config g h.config
  rw [← hcfg.treasuryUsdcVault, ← hcfg.providerPendingUsdcVault, ← h.vaults.1, ← h.vaults.2,
    inbound h₂ hout hk, inbound h₁ hout hk]

theorem Settles.amount {ctx : SettleFinalizedReceipt} {n : ℕ} {g : GlobalConfig}
    {x : ReceiptSettlement} {p : ProviderAccount} {u v : RewardAccount} (hw : Wf s)
    (h : Settles c ctx n s g x p u v t) :
    ¬ Owned ctx.providerDestinationUsdc ∧ ∀ k, t.amount k +
        (if k = providerPendingUsdcVault then x.usdcToProvider else 0) =
      s.tokens.amount k + (if k = ctx.providerDestinationUsdc then x.usdcToProvider else 0) := by
  obtain ⟨d, hd, ho, -⟩ := h.destination
  obtain ⟨m, -, ht⟩ := h.transfer
  have hne := (hw.provider _ _ h.provider).outside
  refine ⟨hw.sound.not_owned hd (ho ▸ hne), fun k => ?_⟩
  rw [← (hw.sound.config g h.config).providerPendingUsdcVault, ← h.vault]
  exact transferChecked_amount ht k

theorem Bonds.amount {ctx : RecordChallengeBond} {g : GlobalConfig} {x : ReceiptSettlement}
    {p : ProviderAccount} {b : ChallengeBondRecord} (hs : Sound s)
    (h : Bonds c now ctx s g x p t b) {k : Pubkey} (hk : Owned k) :
    t.amount k = s.tokens.amount k + (if k = challengeBondVault then b.bondAmount else 0) := by
  obtain ⟨y, hy, ho, -⟩ := h.source
  obtain ⟨m, -, ht⟩ := h.transfer
  have hout := hs.not_owned hy (ho ▸ signer_ne_poolAuthority h.signed)
  rw [← (hs.config g h.config).challengeBondVault, ← h.vault]
  exact inbound ht hout hk

theorem Claims.amount {ctx : ClaimReleasedClaw} {g : GlobalConfig} {r : RewardAccount}
    (hs : Sound s) (h : Claims c ctx s g r t) :
    ¬ Owned ctx.claimantClawToken ∧ ∀ k, t.amount k +
        (if k = rewardVault then r.releasedClawTotal - r.claimedClawTotal else 0) =
      s.tokens.amount k +
        (if k = ctx.claimantClawToken then r.releasedClawTotal - r.claimedClawTotal else 0) := by
  obtain ⟨y, hy, ho, -⟩ := h.destination
  obtain ⟨m, -, ht⟩ := h.transfer
  refine ⟨hs.not_owned hy (ho ▸ signer_ne_poolAuthority h.signed), fun k => ?_⟩
  rw [← (hs.config g h.config).rewardVault, ← h.vault]
  exact transferChecked_amount ht k

/-! ## Resolutions -/

variable {ctx : ResolveChallengeEconomics} {g : GlobalConfig} {x : ReceiptSettlement}
  {b : ChallengeBondRecord} {p : ProviderAccount} {u v : RewardAccount}

/-- The accounts that a resolution names are the vaults and mints of the config. -/
theorem Resolves.vaults_eq (hs : Sound s) (h : Resolves c ctx s g x b p u v) :
    ctx.challengeBondVault = challengeBondVault ∧ ctx.rewardVault = rewardVault ∧
      ctx.providerPendingUsdcVault = providerPendingUsdcVault := by
  have hcfg := hs.config g h.config
  exact ⟨h.vaults.1.trans hcfg.challengeBondVault, h.vaults.2.1.trans hcfg.rewardVault,
    h.vaults.2.2.trans hcfg.providerPendingUsdcVault⟩

theorem Resolves.burn_bond (hs : Sound s) (h : Resolves c ctx s g x b p u v)
    (ht : burn s.tokens ctx.clawMint ctx.challengeBondVault poolAuthority b.bondAmount = .ok t) :
    (∀ k, t.amount k + (if k = challengeBondVault then b.bondAmount else 0) =
        s.tokens.amount k) ∧
      ∀ m, t.supply m + (if m = g.clawMint then b.bondAmount else 0) = s.tokens.supply m := by
  rw [(h.vaults_eq hs).1, h.mints.1] at ht
  exact ⟨burn_amount ht, burn_supply ht⟩

/-- A skipped transfer moves its zero amount, too. -/
theorem ifPositive_outbound {l l' : Ledger Pubkey} {a m d au k : Pubkey} {n dec : ℕ}
    (h : ifPositive n (transferChecked l a m d au n dec) l = .ok l') (hd : ¬ Owned d)
    (hk : Owned k) :
    l'.amount k + (if k = a then n else 0) = l.amount k ∧ l'.mints = l.mints := by
  rw [ifPositive_ok] at h
  rcases Nat.eq_zero_or_pos n with hn | hn
  · rw [h.2 hn, hn, ite_self]
    exact ⟨rfl, rfl⟩
  · exact ⟨outbound (h.1 hn) hd hk, transferChecked_mints (h.1 hn)⟩

theorem ifPositive_burn {l l' : Ledger Pubkey} {m a au : Pubkey} {n : ℕ}
    (h : ifPositive n (burn l m a au n) l = .ok l') :
    (∀ k, l'.amount k + (if k = a then n else 0) = l.amount k) ∧
      ∀ m', l'.supply m' + (if m' = m then n else 0) = l.supply m' := by
  rw [ifPositive_ok] at h
  rcases Nat.eq_zero_or_pos n with hn | hn
  · rw [h.2 hn, hn]
    exact ⟨fun k => by rw [ite_self]; rfl, fun m' => by rw [ite_self]; rfl⟩
  · exact ⟨burn_amount (h.1 hn), burn_supply (h.1 hn)⟩

variable {t₁ t₂ t₃ t₄ : Ledger Pubkey}

/-- The token accounts that an acceptance pays are not vaults. -/
theorem Resolves.outside (hw : Wf s) (h : Resolves c ctx s g x b p u v)
    (ha : Accepts g ctx ⟨s.tokens, x, b, p, u, v⟩ t₁ t₂ t₃ t₄) :
    ¬ Owned ctx.payerUsdcToken ∧ ¬ Owned ctx.challengerClawToken := by
  obtain ⟨y, hy, hyo, -⟩ := ha.payer
  obtain ⟨z, hz, hzo, -⟩ := ha.challenger
  exact ⟨hw.sound.not_owned hy (hyo ▸ (hw.settlement _ _ h.settlement).payer),
    hw.sound.not_owned hz (hzo ▸ (hw.bond _ _ h.bond).outside)⟩

/-- **Acceptance**: the bond, the slash and the refund leave the three vaults. -/
theorem Resolves.amount (hw : Wf s) (h : Resolves c ctx s g x b p u v)
    (ha : Accepts g ctx ⟨s.tokens, x, b, p, u, v⟩ t₁ t₂ t₃ t₄) {k : Pubkey} (hk : Owned k) :
    t₄.amount k + (if k = challengeBondVault then b.bondAmount else 0) +
        (if k = rewardVault then b.slashClawAmountSnapshot else 0) +
        (if k = providerPendingUsdcVault then x.usdcToProvider else 0) = s.tokens.amount k := by
  obtain ⟨hpay, hch⟩ := h.outside hw ha
  obtain ⟨hbv, hrv, hpv⟩ := h.vaults_eq hw.sound
  have h₁ := outbound ha.bondReturn hch hk
  have h₂ := (ifPositive_outbound ha.reward hch hk).1
  have h₃ := (ifPositive_burn ha.slash).1 k
  have h₄ := outbound ha.refund hpay hk
  have hslash := (hw.bond _ _ h.bond).slash
  rw [hbv] at h₁
  rw [hrv] at h₂ h₃
  rw [hpv] at h₄
  have hboth : (if k = rewardVault then b.challengerRewardAmount else 0) +
      (if k = rewardVault then b.burnAmount else 0) =
        if k = rewardVault then b.slashClawAmountSnapshot else 0 := by
    split_ifs
    · exact hslash
    · rfl
  simp only at h₁ h₂ h₃ h₄
  omega

theorem Resolves.supply (h : Resolves c ctx s g x b p u v)
    (ha : Accepts g ctx ⟨s.tokens, x, b, p, u, v⟩ t₁ t₂ t₃ t₄) (m : Pubkey) :
    t₄.supply m + (if m = g.clawMint then b.burnAmount else 0) = s.tokens.supply m := by
  have h₁ := supply_congr (transferChecked_mints ha.bondReturn) m
  have h₃ := (ifPositive_burn ha.slash).2 m
  have h₄ := supply_congr (transferChecked_mints ha.refund) m
  have h₂ : t₂.supply m = t₁.supply m := by
    have hr := ifPositive_ok.mp ha.reward
    rcases Nat.eq_zero_or_pos b.challengerRewardAmount with hn | hn
    · rw [hr.2 hn]
    · exact supply_congr (transferChecked_mints (hr.1 hn)) m
  rw [h₄, ← h.mints.1]
  exact h₃.trans (h₂.trans h₁)

end Masterpool
