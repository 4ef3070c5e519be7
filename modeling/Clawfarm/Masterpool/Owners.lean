import Clawfarm.Lib.TokenOwner
import Clawfarm.Masterpool.Flows

/-!
# Masterpool.Owners — what the program takes out of the token accounts of others

The pool authority pays out of the vaults only, and everybody else moves tokens over the own
signature.  So the one instruction that takes something out of an account whose owner has not
signed is the recording of a receipt, and it draws on the allowance of a payment delegate that
signs (`exec_spends`).
-/

namespace Masterpool

open Token Checked

/-- What an action takes out of the token account `k`: the charge of a receipt, or what an
instruction sent to the token program moves or burns. -/
def Action.spent (k : Pubkey) : Action → ℕ
  | .call _ _ (.recordMiningFromReceipt ctx totalUsdcPaid) =>
    if k = ctx.payerUsdcToken then totalUsdcPaid.toNat else 0
  | .call .. => 0
  | .token _ i => i.spent k

def Action.signers : Action → List Pubkey
  | .call c _ _ => c.signers
  | .token c _ => c.signers

variable {c : Caller MASTERPOOL_ID} {now : ℤ} {s s' : State} {w : Pubkey} {quiet : Pubkey → Prop}
  {l l' : Ledger Pubkey}

/-! ## Payments out of the vaults -/

theorem vault_spares {k m d : Pubkey} {n dec : ℕ} (hc : Custody poolAuthority Owned l)
    (hw : w ≠ poolAuthority) (hk : Owned k)
    (h : transferChecked l k m d poolAuthority n dec = .ok l') : Spends w quiet 0 l l' :=
  transferChecked_spares (fun x hx ho => hw (ho.symm.trans (hc.reserved k x hk hx))) h

theorem vault_burn_spares {k m : Pubkey} {n : ℕ} (hc : Custody poolAuthority Owned l)
    (hw : w ≠ poolAuthority) (hk : Owned k) (h : burn l m k poolAuthority n = .ok l') :
    Spends w quiet 0 l l' :=
  burn_spares (fun x hx ho => hw (ho.symm.trans (hc.reserved k x hk hx))) h

theorem ifPositive_spares {n : ℕ} {move : Except TokenError (Ledger Pubkey)}
    (hmove : move = .ok l' → Spends w quiet 0 l l') (h : ifPositive n move l = .ok l') :
    Spends w quiet 0 l l' := by
  rw [ifPositive_ok] at h
  rcases Nat.eq_zero_or_pos n with hn | hn
  · rw [h.2 hn]
    exact Spends.refl l
  · exact hmove (h.1 hn)

theorem faucet_spares {k m d : Pubkey} {n dec : ℕ} (hc : Custody poolAuthority Owned l)
    (hw : w ≠ poolAuthority) (hk : Owned k) (h : faucetTransfer l k m d n dec = .ok l') :
    Spends w quiet 0 l l' := by
  rcases faucetTransfer_ok h with h | ⟨-, rfl⟩
  · exact vault_spares hc hw hk h
  · exact Spends.refl _

/-- A signer pays out of an account of its own. -/
theorem signer_spares {k m d au : Pubkey} {n dec : ℕ} {y : TokenAccount Pubkey} (hau : au ≠ w)
    (hy : l.accounts.get k = some y) (ho : y.owner = au)
    (h : transferChecked l k m d au n dec = .ok l') : Spends w quiet 0 l l' := by
  refine transferChecked_spares (fun x hx hxo => ?_) h
  obtain rfl := Option.some.inj (hy.symm.trans hx)
  exact hau (ho.symm.trans hxo)

/-- **Acceptance** pays out of the vaults. -/
theorem Accepts.spares {g : GlobalConfig} {ctx : ResolveChallengeEconomics} {r : Resolution}
    {t₁ t₂ t₃ t₄ : Ledger Pubkey} (hc : Custody poolAuthority Owned r.tokens)
    (hw : w ≠ poolAuthority) (hbond : Owned ctx.challengeBondVault)
    (hreward : Owned ctx.rewardVault) (hpending : Owned ctx.providerPendingUsdcVault)
    (h : Accepts g ctx r t₁ t₂ t₃ t₄) : Spends w quiet 0 r.tokens t₄ := by
  have hc₁ := (transferChecked_safe h.bondReturn).custody hc
  have hc₂ := (safe_ifPositive_transfer h.reward).custody hc₁
  have hc₃ := (safe_ifPositive_burn h.slash).custody hc₂
  have h₁ : Spends w quiet 0 r.tokens t₁ := vault_spares hc hw hbond h.bondReturn
  have h₂ : Spends w quiet 0 t₁ t₂ := ifPositive_spares (vault_spares hc₁ hw hreward) h.reward
  have h₃ : Spends w quiet 0 t₂ t₃ := ifPositive_spares (vault_burn_spares hc₂ hw hreward) h.slash
  exact ((h₁.trans h₂).trans h₃).trans (vault_spares hc₃ hw hpending h.refund)

/-! ## The charge of a receipt -/

/-- **Charge**: a receipt takes its price out of the account that pays, over the allowance of a
delegate that signs. -/
theorem Records.spends {ctx : RecordMiningFromReceipt} {n : ℕ} {g : GlobalConfig}
    {pay : TokenAccount Pubkey} {p : ProviderAccount} {u v : RewardAccount}
    {t₁ t₂ : Ledger Pubkey} {x : ReceiptSettlement} (hs : Sound s) (hw : w ∉ c.signers)
    (hq : ∀ d, quiet d → d ∉ c.signers) (h : Records c now ctx n s g pay p u v t₁ t₂ x) :
    Spends w quiet (fun k => if k = ctx.payerUsdcToken then n else 0) s.tokens t₂ := by
  obtain ⟨m, -, h₁, h₂⟩ := h.toTreasury
  have hcfg := hs.config g h.config
  have hau : ctx.paymentDelegate ≠ w := fun e => hw (e ▸ h.signed.2)
  have hloud : ¬ quiet ctx.paymentDelegate := fun hquiet => hq _ hquiet h.signed.2
  have hout : ¬ Owned ctx.payerUsdcToken := (hs.delegated h.payer h.delegate).1
  have hne₁ : ctx.payerUsdcToken ≠ ctx.treasuryUsdcVault := by
    rw [h.vaults.1, hcfg.treasuryUsdcVault]
    exact (Owned.ne (k := treasuryUsdcVault) rfl hout).symm
  have hne₂ : ctx.payerUsdcToken ≠ ctx.providerPendingUsdcVault := by
    rw [h.vaults.2, hcfg.providerPendingUsdcVault]
    exact (owned_pendingVault.ne hout).symm
  have hsplit : x.usdcToTreasury + x.usdcToProvider = n := by
    rw [h.settlement] at *
    exact Nat.add_sub_cancel' h.split
  refine ((transferChecked_spends hau hloud h₁).trans
    (transferChecked_spends hau hloud h₂)).congr fun k _ _ _ => ?_
  simp only [Pi.add_apply, hne₁, hne₂, ne_eq, not_false_eq_true, and_true]
  split_ifs <;> omega

/-! ## Actions -/

theorem call_spends {i : Instruction} {t : Int64} (hs : Sound s) (hw : w ≠ poolAuthority)
    (hsig : w ∉ c.signers) (hq : ∀ d, quiet d → d ∉ c.signers)
    (h : exec c t.toInt s i = .ok s') :
    Spends w quiet (Action.call c t i).spent s.tokens s'.tokens := by
  have hne : ∀ {k : Pubkey}, k ∈ c.signers → k ≠ w := fun hk e => hsig (e ▸ hk)
  cases i with
  | initializeMasterpool ctx params =>
    obtain ⟨x, y, t₁, t₂, t₃, t₄, t₅, -, -, -, -, -, -, h₁, h₂, h₃, h₄, h₅, rfl⟩ :=
      initializeMasterpool_ok h
    exact (initializeAccount_spends h₁).trans ((initializeAccount_spends h₂).trans
      ((initializeAccount_spends h₃).trans ((initializeAccount_spends h₄).trans
        (initializeAccount_spends h₅))))
  | mintGenesisSupply ctx =>
    obtain ⟨g, t₁, t₂, t₃, -, -, -, -, h₁, h₂, h₃, rfl⟩ := mintGenesisSupply_ok h
    exact (mintTo_spends h₁).trans ((setMintAuthority_spends h₂).trans
      (setFreezeAuthority_spends h₃))
  | updateConfig ctx params =>
    obtain ⟨g, -, -, rfl⟩ := updateConfig_ok h
    exact Spends.refl _
  | setPauseFlags ctx a b d e =>
    obtain ⟨g, -, rfl⟩ := setPauseFlags_ok h
    exact Spends.refl _
  | initializeFaucet ctx =>
    obtain ⟨g, f, global, t₁, t₂, -, h₁, h₂, -, -, rfl⟩ := initializeFaucet_ok h
    exact (initializeAccount_spends h₁).trans (initializeAccount_spends h₂)
  | setFaucetEnabled ctx enabled =>
    obtain ⟨f, -, rfl⟩ := setFaucetEnabled_ok h
    exact Spends.refl _
  | updateFaucetLimits ctx limits =>
    obtain ⟨f, -, -, rfl⟩ := updateFaucetLimits_ok h
    exact Spends.refl _
  | fundFaucetClaw ctx amount =>
    obtain ⟨g, f, t, dec, hg, -, hvault, -, ht, rfl⟩ := fundFaucetClaw_ok h
    have hk : Owned ctx.rewardVault := by
      rw [hvault, (hs.config g hg).rewardVault]
      rfl
    exact vault_spares hs.custody hw hk ht
  | claimFaucet ctx args =>
    obtain ⟨f, gl, u, t₁, t₂, hpays, rfl⟩ := claimFaucet_ok h
    obtain ⟨dec, h₁⟩ := hpays.claw
    obtain ⟨dec', h₂⟩ := hpays.usdc
    have hk₁ : Owned ctx.faucetClawVault := by
      rw [hpays.vaults.1, (hs.faucet f hpays.faucet).1]
      rfl
    have hk₂ : Owned ctx.faucetUsdcVault := by
      rw [hpays.vaults.2, (hs.faucet f hpays.faucet).2]
      rfl
    have hc₁ := (safe_faucetTransfer h₁).custody hs.custody
    exact (faucet_spares hs.custody hw hk₁ h₁).trans (faucet_spares hc₁ hw hk₂ h₂)
  | registerProvider ctx =>
    obtain ⟨g, t, hr, rfl⟩ := registerProvider_ok h
    obtain ⟨m, -, ht⟩ := hr.transfer
    obtain ⟨y, hy, ho, -⟩ := hr.source
    exact signer_spares (hne hr.signed) hy ho ht
  | exitProvider ctx =>
    obtain ⟨g, p, t, hr, rfl⟩ := exitProvider_ok h
    obtain ⟨m, -, ht⟩ := hr.transfer
    have hk : Owned ctx.providerStakeUsdcVault := by
      rw [hr.vault, (hs.config g hr.config).providerStakeUsdcVault]
      rfl
    exact vault_spares hs.custody hw hk ht
  | materializeRewardRelease ctx target amount =>
    obtain ⟨tgt, x, r, -, -, rfl⟩ := materializeRewardRelease_ok h
    exact Spends.refl _
  | claimReleasedClaw ctx =>
    obtain ⟨g, r, t, hr, rfl⟩ := claimReleasedClaw_ok h
    obtain ⟨m, -, ht⟩ := hr.transfer
    have hk : Owned ctx.rewardVault := by
      rw [hr.vault, (hs.config g hr.config).rewardVault]
      rfl
    exact vault_spares hs.custody hw hk ht
  | recordMiningFromReceipt ctx n =>
    obtain ⟨g, pay, p, u, v, t₁, t₂, x, hr, rfl⟩ := recordMiningFromReceipt_ok h
    exact hr.spends hs hsig hq
  | settleFinalizedReceipt ctx status =>
    obtain ⟨g, x, p, u, v, t, hr, rfl⟩ := settleFinalizedReceipt_ok.mp h
    obtain ⟨m, -, ht⟩ := hr.transfer
    have hk : Owned ctx.providerPendingUsdcVault := by
      rw [hr.vault, (hs.config g hr.config).providerPendingUsdcVault]
      rfl
    exact vault_spares hs.custody hw hk ht
  | recordChallengeBond ctx =>
    obtain ⟨g, x, p, t, b, hr, rfl⟩ := recordChallengeBond_ok h
    obtain ⟨m, -, ht⟩ := hr.transfer
    obtain ⟨y, hy, ho, -⟩ := hr.source
    exact signer_spares (hne hr.signed) hy ho ht
  | resolveChallengeEconomics ctx code =>
    have hvaults : ∀ {g x b p u v}, Resolves c ctx s g x b p u v → Owned ctx.challengeBondVault ∧
        Owned ctx.rewardVault ∧ Owned ctx.providerPendingUsdcVault := fun {g _ _ _ _ _} hr => by
      have hcfg := hs.config g hr.config
      rw [hr.vaults.1, hr.vaults.2.1, hr.vaults.2.2, hcfg.challengeBondVault, hcfg.rewardVault,
        hcfg.providerPendingUsdcVault]
      exact ⟨rfl, rfl, rfl⟩
    rcases resolveChallengeEconomics_code h with hcode | hcode
    · rw [exec, hcode] at h
      obtain ⟨g, x, b, p, u, v, t, hr, ht, -, rfl⟩ := resolveChallengeEconomics_rejecting h
      exact vault_burn_spares hs.custody hw (hvaults hr).1 ht
    · obtain ⟨g, x, b, p, u, v, t₁, t₂, t₃, t₄, hr, hacc, -, rfl⟩ :=
        (resolveChallengeEconomics_accepting hcode).mp h
      obtain ⟨hbond, hreward, hpending⟩ := hvaults hr
      exact hacc.spares hs.custody hw hbond hreward hpending

/-- **Ownership**: an action that neither `w` nor a quiet key has signed takes out of the accounts
of `w` what `Action.spent` says, over the allowance of a delegate that is not quiet. -/
theorem Action.exec_spends {a : Action} (hs : Sound s) (hw : w ≠ poolAuthority) (hno : ¬ Nobody w)
    (hsig : w ∉ a.signers) (hq : ∀ d, quiet d → d ∉ a.signers) (h : a.exec s = .ok s') :
    Spends w quiet a.spent s.tokens s'.tokens := by
  cases a with
  | call c now i => exact call_spends hs hw hsig hq h
  | token c i =>
    simp only [Action.exec, bind_eq_ok, cpi_eq_ok, pure_eq_ok] at h
    obtain ⟨t, ht, rfl⟩ := h
    exact Token.exec_spends hno hsig hq ht

end Masterpool
