import Clawfarm.Masterpool.Balances
import Clawfarm.Masterpool.Charge
import Clawfarm.Masterpool.Rollback
import Clawfarm.Masterpool.Types
import Clawfarm.Masterpool.Vesting

/-!
# Masterpool.Enabled — when the other instructions succeed

Every checked addition and subtraction of a handler is a way to fail.  In a reached state most of
them cannot: what is subtracted is booked, what a vault pays out it has, and counters of recorded
receipts and locked bonds stay below the supply of the mint, since each of them holds at least one
unit of it.  What is left are the conditions of the theorems here.
-/

namespace Masterpool

open Token Checked

variable {s s' : State}

/-! ## The ledgers of a run -/

/-- Every charge and every bond is positive. -/
structure Positive (s : State) : Prop where
  charge : ∀ k x, s.settlements.get k = some x → 0 < x.usdcTotalPaid
  bond : ∀ k b, s.bonds.get k = some b → 0 < b.bondAmount

theorem positive_init : Positive .init where
  charge _ _ h := nomatch h
  bond _ _ h := nomatch h

theorem ConfigValid.bond_pos {g : GlobalConfig} (h : ConfigValid g) :
    0 < g.challengeBondClawAmount := by
  obtain ⟨params, hparams, happly⟩ := h
  have hpos := (validatePhase1Params_iff.mp hparams).1.bond
  rw [← happly]
  exact UInt64.lt_iff_toNat_lt.mp hpos

/-- Under a config in force the shares of a charge, its rewards and the parts of a slash fit. -/
theorem ConfigValid.computable {g : GlobalConfig} (h : ConfigValid g) :
    (∀ n ≤ MAX_RECEIPT_USDC_ATOMIC, n * g.exchangeRateClawPerUsdcE6 / RATE_SCALE < u64Bound) ∧
      SlashComputable g.providerSlashClawAmount g.challengerRewardBps := by
  obtain ⟨params, hparams, happly⟩ := h
  obtain ⟨-, hsplits, hcharges, hslash⟩ := validatePhase1Params_covers.mp hparams
  have husdc := hsplits.usdc
  have hclaw := hsplits.claw
  rw [← happly]
  refine ⟨fun n hn => ?_, hslash⟩
  exact (chargeComputable_iff (by omega) (by omega) (hn.trans_lt maxReceipt_lt_u64Bound)).mp
    (hcharges n hn)

theorem Effect.positive {a : Action} (hc : ∀ g, s.config = some g → ConfigValid g)
    (hp : Positive s) (h : Effect s a s') : Positive s' := by
  obtain ⟨hx, hb⟩ := hp
  cases h with
  | failed _ => exact ⟨hx, hb⟩
  | aside _ h => exact ⟨h.settlements ▸ hx, h.bonds ▸ hb⟩
  | genesis _ => exact ⟨hx, hb⟩
  | fund _ => exact ⟨hx, hb⟩
  | register _ => exact ⟨hx, hb⟩
  | exit _ => exact ⟨hx, hb⟩
  | record h =>
    refine ⟨Store.forall_set hx (fun _ _ => id) ?_, hb⟩
    rw [h.settlement]
    exact h.positive
  | settle h =>
    have hpos := hx _ _ h.settlement
    exact ⟨Store.forall_set hx (fun _ _ => id) hpos, hb⟩
  | bond h =>
    refine ⟨hx, Store.forall_set hb (fun _ _ => id) ?_⟩
    rw [h.record]
    exact (hc _ h.config).bond_pos
  | reject _ h _ _ =>
    have hpos := hx _ _ h.settlement
    have hpos' := hb _ _ h.bond
    exact ⟨Store.forall_set hx (fun _ _ => id) hpos, Store.forall_set hb (fun _ _ => id) hpos'⟩
  | revert _ h _ _ =>
    have hpos := hx _ _ h.settlement
    have hpos' := hb _ _ h.bond
    exact ⟨Store.forall_set hx (fun _ _ => id) hpos, Store.forall_set hb (fun _ _ => id) hpos'⟩
  | @materialize c now ctx target n tgt x r h =>
    have hpos := hx _ _ h.settlement
    refine ⟨Store.forall_set hx (fun _ _ => id) ?_, hb⟩
    cases tgt <;> exact hpos
  | claim _ => exact ⟨hx, hb⟩

/-- What holds of the ledgers in every run. -/
structure Ledgers (s : State) : Prop where
  wf : Wf s
  booked : Booked s
  credited : Credited s
  unclaimed : Unclaimed s
  config : ∀ g, s.config = some g → ConfigValid g
  positions : PositionsFit s
  positive : Positive s
  typed : Typed s
  covered : ∀ v : Vault, v.held s ≤ s.tokens.amount v.address

theorem Ledgers.solvent (h : Ledgers s) : Solvent s :=
  ⟨h.covered .pending, h.covered .stake, h.covered .bond⟩

theorem reached_positive (as : List Action) : Positive (reached as) := by
  refine (Machine.run_induction
    (P := fun s => Wf s ∧ (∀ g, s.config = some g → ConfigValid g) ∧ Positive s)
    (fun s a h => ?_) ⟨wf_init, (fun _ h => nomatch h), positive_init⟩ as).2.2
  exact ⟨step_wf h.1 a, step_configValid h.2.1 a, (step_effect h.1.sound a).positive h.2.1 h.2.2⟩

theorem reached_ledgers (as : List Action) : Ledgers (reached as) where
  wf := reached_wf as
  booked := reached_booked as
  credited := reached_credited as
  unclaimed := reached_unclaimed as
  config := reached_configValid as
  positions := reached_positionsFit as
  positive := reached_positive as
  typed := reached_typed as
  covered := fun v => (reached_balances as v).amount.symm ▸ Nat.le_add_right _ _

/-! ## Recording -/

/-- A call to record a receipt over `n` that is in order: every account is the one it has to be, the
delegate of the token account `pay` has the allowance, the provider `p` is active, recording is not
paused, and the amount is positive and supported. -/
structure RecordingCall (c : Caller MASTERPOOL_ID) (ctx : RecordMiningFromReceipt) (n : ℕ)
    (s : State) (g : GlobalConfig) (pay : TokenAccount Pubkey) (p : ProviderAccount) : Prop where
  config : s.config = some g
  attestation : ctx.attestationConfig.key = .pda g.attestationProgram .CONFIG_SEED ∧
    ctx.attestationConfig.key ∈ c.signers ∧ ctx.attestationConfig.owner = g.attestationProgram
  signed : ctx.feePayer ∈ c.signers ∧ ctx.paymentDelegate ∈ c.signers
  payer : s.tokens.accounts.get ctx.payerUsdcToken = some pay
  payerOwner : pay.owner = ctx.payerUser
  payerMint : pay.mint = g.usdcMint
  delegate : pay.delegate = some ctx.paymentDelegate
  allowance : n ≤ pay.delegatedAmount
  provider : s.providers.get ctx.providerAccount = some p
  active : p.status = .Active
  fresh : s.settlements.get ctx.attestationReceipt = none
  vaults : ctx.treasuryUsdcVault = g.treasuryUsdcVault ∧
    ctx.providerPendingUsdcVault = g.providerPendingUsdcVault
  mint : ctx.usdcMint = g.usdcMint
  unpaused : g.pauseReceiptRecording = false
  positive : 0 < n
  supported : n ≤ MAX_RECEIPT_USDC_ATOMIC

/-- The payer has the charge, the delegate keeps something for the second transfer, no account is
frozen, and the rewards of the settlement `x` fit the totals that they are added to. -/
structure RecordFits (ctx : RecordMiningFromReceipt) (n : ℕ) (s : State) (g : GlobalConfig)
    (pay : TokenAccount Pubkey) (p : ProviderAccount) (x : ReceiptSettlement) : Prop where
  balance : n ≤ pay.amount
  thawed : pay.frozen = false ∧ s.tokens.frozen treasuryUsdcVault = false ∧
    s.tokens.frozen providerPendingUsdcVault = false
  delegate : ¬ (g.treasuryUsdcShareBps = BPS_SCALE ∧ pay.delegatedAmount = n) ∨
    ctx.payerUser = ctx.paymentDelegate
  user : s.pendingClaw (.User, ctx.payerUser) + x.clawToUser < u64Bound
  provider : x.clawToProviderLocked = 0 ∨
    s.pendingClaw (.Provider, ctx.providerAccount) + x.clawToProviderLocked < u64Bound
  position : p.clawNetPosition + x.clawToProviderTotal ≤ i128Max

theorem RecordingCall.vault (hs : Sound s) {c : Caller MASTERPOOL_ID}
    {ctx : RecordMiningFromReceipt} {n : ℕ} {g : GlobalConfig} {pay : TokenAccount Pubkey}
    {p : ProviderAccount}
    (h : RecordingCall c ctx n s g pay p) : ctx.treasuryUsdcVault = treasuryUsdcVault ∧
      ctx.providerPendingUsdcVault = providerPendingUsdcVault :=
  ⟨h.vaults.1.trans (hs.config g h.config).treasuryUsdcVault,
    h.vaults.2.trans (hs.config g h.config).providerPendingUsdcVault⟩

/-- The two transfers of a receipt. -/
theorem RecordingCall.transfers_iff (hl : Ledgers s) {c : Caller MASTERPOOL_ID}
    {ctx : RecordMiningFromReceipt} {n : ℕ} {g : GlobalConfig} {pay : TokenAccount Pubkey}
    {p : ProviderAccount} (h : RecordingCall c ctx n s g pay p) {m : Mint Pubkey}
    (hm : s.tokens.mints.get ctx.usdcMint = some m) {n₁ : ℕ}
    (hn₁ : n₁ = n * g.treasuryUsdcShareBps / BPS_SCALE) :
    (∃ t₁ t₂, transferChecked s.tokens ctx.payerUsdcToken ctx.usdcMint ctx.treasuryUsdcVault
        ctx.paymentDelegate n₁ m.decimals = .ok t₁ ∧
      transferChecked t₁ ctx.payerUsdcToken ctx.usdcMint ctx.providerPendingUsdcVault
        ctx.paymentDelegate (n - n₁) m.decimals = .ok t₂) ↔
      n ≤ pay.amount ∧ (pay.frozen = false ∧ s.tokens.frozen treasuryUsdcVault = false ∧
        s.tokens.frozen providerPendingUsdcVault = false) ∧
      (¬ (g.treasuryUsdcShareBps = BPS_SCALE ∧ pay.delegatedAmount = n) ∨
        ctx.payerUser = ctx.paymentDelegate) := by
  have hs := hl.wf.sound
  have hcfg := hs.config g h.config
  have hsplit := (hl.config g h.config).splits.1
  have hbps : g.treasuryUsdcShareBps ≤ BPS_SCALE := by omega
  have hwhole := Rounding.mul_div_eq_self_iff (by decide : 0 < BPS_SCALE) hbps h.positive
  have hle : n₁ ≤ n := hn₁.trans_le (Rounding.mul_div_le hbps)
  have hallow := h.allowance
  obtain ⟨htv, hpv⟩ := h.vault hs
  obtain ⟨y₁, hy₁, -, hm₁⟩ := hcfg.treasury
  obtain ⟨y₂, hy₂, -, hm₂⟩ := hcfg.pending
  have hne : ctx.payerUsdcToken ≠ treasuryUsdcVault := fun e =>
    (hs.delegated h.payer h.delegate).1 (e ▸ rfl)
  rw [htv, hpv, transferChecked_both_iff hs.balanced h.payer (h.payerMint.trans h.mint.symm)
    h.delegate (by omega) hne hy₁ (hm₁.trans h.mint.symm) hy₂ (hm₂.trans h.mint.symm) hm rfl,
    frozen_of_get hy₁, frozen_of_get hy₂, h.payerOwner, ← hwhole, ← hn₁]
  constructor
  · rintro ⟨hf, hf₁, hf₂, hn, hlt⟩
    exact ⟨by omega, ⟨hf, hf₁, hf₂⟩, hlt.imp (fun hlt => by omega) id⟩
  · rintro ⟨hn, ⟨hf, hf₁, hf₂⟩, hlt⟩
    exact ⟨hf, hf₁, hf₂, by omega, hlt.imp (fun hlt => by omega) id⟩

/-- Each recorded receipt holds at least one unit in the two vaults that it was paid into. -/
theorem Ledgers.provider_le (hl : Ledgers s) {w : Pubkey} {p : ProviderAccount}
    (hp : s.providers.get w = some p) :
    p.pendingProviderUsdc ≤ s.tokens.amount providerPendingUsdcVault ∧
      p.unsettledReceiptCount ≤
        s.tokens.amount treasuryUsdcVault + s.tokens.amount providerPendingUsdcVault := by
  have hledger := hl.booked.ledger hp
  have hpending := hl.covered .pending
  have htreasury := hl.covered .treasury
  rw [hledger.pendingProviderUsdc, hledger.unsettledReceiptCount]
  constructor
  · refine (Store.sum_mono fun k x _ => ?_).trans hpending
    unfold ReceiptSettlement.owed
    split_ifs with h h'
    · exact le_rfl
    · exact absurd h.2 h'
    · exact Nat.zero_le _
    · exact le_rfl
  · refine le_trans ?_ (Nat.add_le_add htreasury hpending)
    rw [Vault.held, Vault.held, ← Store.sum_add]
    refine Store.sum_mono fun k x hx => ?_
    have hpos := hl.positive.charge k x hx
    have husdc := (hl.wf.settlement k x hx).usdc
    split_ifs with h
    · rw [ReceiptSettlement.owed_of_recorded h.2]
      omega
    · exact Nat.zero_le _

/-- Two vaults for one mint together hold less than its supply can be. -/
theorem Holds.add_lt {l : Ledger Pubkey} {k k' m : Pubkey} (hb : Balanced l) (hk : Holds l k m)
    (hk' : Holds l k' m) (hne : k' ≠ k) : l.amount k + l.amount k' < u64Bound := by
  obtain ⟨x, hx, -, hm⟩ := hk
  obtain ⟨y, hy, -, hm'⟩ := hk'
  rw [amount_of_get hx, amount_of_get hy]
  exact hb.fits_transfer hy hx (hm'.trans hm.symm) hne le_rfl

/-- After the two transfers the counters of the provider have room for the receipt. -/
theorem RecordingCall.room (hl : Ledgers s) {c : Caller MASTERPOOL_ID}
    {ctx : RecordMiningFromReceipt} {n n₁ dec : ℕ} {g : GlobalConfig} {pay : TokenAccount Pubkey}
    {p : ProviderAccount}
    {t₁ t₂ : Ledger Pubkey} (h : RecordingCall c ctx n s g pay p) (hle : n₁ ≤ n)
    (h₁ : transferChecked s.tokens ctx.payerUsdcToken ctx.usdcMint ctx.treasuryUsdcVault
      ctx.paymentDelegate n₁ dec = .ok t₁)
    (h₂ : transferChecked t₁ ctx.payerUsdcToken ctx.usdcMint ctx.providerPendingUsdcVault
      ctx.paymentDelegate (n - n₁) dec = .ok t₂) :
    p.pendingProviderUsdc + (n - n₁) < u64Bound ∧ p.unsettledReceiptCount + 1 < u64Bound := by
  have hs := hl.wf.sound
  have hcfg := hs.config g h.config
  have hout := (hs.delegated h.payer h.delegate).1
  have hsafe := (transferChecked_safe (a := poolAuthority) (R := Owned) h₁).trans
    (transferChecked_safe h₂)
  obtain ⟨htv, hpv⟩ := h.vault hs
  obtain ⟨hpending, hcount⟩ := hl.provider_le h.provider
  have hvaults : t₂.amount treasuryUsdcVault + t₂.amount providerPendingUsdcVault < u64Bound :=
    Holds.add_lt (hsafe.balanced hs.balanced) (hcfg.treasury.keeps hs.custody rfl hsafe.keeps)
      (hcfg.pending.keeps hs.custody rfl hsafe.keeps) (by decide)
  have htreasury₁ := inbound (k := treasuryUsdcVault) h₁ hout rfl
  have htreasury₂ := inbound (k := treasuryUsdcVault) h₂ hout rfl
  have hpending₁ := inbound (k := providerPendingUsdcVault) h₁ hout rfl
  have hpending₂ := inbound (k := providerPendingUsdcVault) h₂ hout rfl
  rw [htv, if_pos rfl] at htreasury₁
  rw [hpv, if_neg (by decide)] at htreasury₂
  rw [htv, if_neg (by decide)] at hpending₁
  rw [hpv, if_pos rfl] at hpending₂
  have hpos := h.positive
  omega

theorem Ledgers.userReward (hl : Ledgers s) (k : RewardAccountKind × Pubkey) (now : ℤ) :
    ∃ u, initializeRewardAccount (s.rewardAccountOrNew k) k.2 k.1 now = .ok u ∧
      u.pendingClawTotal = s.pendingClaw k := by
  unfold State.rewardAccountOrNew State.pendingClaw
  cases hr : s.rewards.get k with
  | none =>
    rw [Store.term_none hr]
    exact ⟨_, initializeRewardAccount_zeroed k.2 k.1 now, rfl⟩
  | some r =>
    rw [Store.term_some hr]
    have hwf := hl.wf.reward k r hr
    refine ⟨r, ?_, rfl⟩
    rw [Option.getD_some, ← hwf.owner, ← hwf.kind]
    exact initializeRewardAccount_of_initialized hwf.initialized now

theorem bookProviderReward_succeeds_iff {r : RewardAccount} {n : ℕ} {now : ℤ} :
    (∃ r', bookProviderReward r n now = .ok r') ↔ n = 0 ∨ r.pendingClawTotal + n < u64Bound := by
  unfold bookProviderReward
  split_ifs with hn
  · simp only [bind_eq_ok, checkedAddU64_eq_ok, pure_eq_ok, exists_result]
    refine ⟨?_, fun h => ⟨_, h.resolve_left hn.ne', rfl⟩⟩
    rintro ⟨-, h, -⟩
    exact Or.inr h
  · exact ⟨fun _ => Or.inl (Nat.eq_zero_of_not_pos hn), fun _ => ⟨r, rfl⟩⟩

theorem providerDebtOffset_le (position : ℤ) (total : ℕ) :
    providerDebtOffset position total ≤ total := by
  unfold providerDebtOffset
  split_ifs
  · exact (Nat.mod_le _ _).trans (min_le_right _ _)
  · exact Nat.zero_le _

/-- **Recording**, in any state with sound ledgers. -/
theorem RecordingCall.succeeds_iff (hl : Ledgers s) {c : Caller MASTERPOOL_ID} {now : ℤ}
    {ctx : RecordMiningFromReceipt} {n : ℕ} {g : GlobalConfig} {pay : TokenAccount Pubkey}
    {p : ProviderAccount} (h : RecordingCall c ctx n s g pay p) {x : ReceiptSettlement}
    (hx : x = recordedSettlement g p ctx.attestationReceipt ctx.payerUser now n) :
    (∃ s', recordMiningFromReceipt c now ctx n s = .ok s') ↔ RecordFits ctx n s g pay p x := by
  have hw := hl.wf
  have hcfg := hw.sound.config g h.config
  have hpw := hw.provider _ p h.provider
  obtain ⟨m, hm, -⟩ := hcfg.usdcMint
  rw [← h.mint] at hm
  obtain ⟨u, hu, hup⟩ := hl.userReward (.User, ctx.payerUser) now
  obtain ⟨v₀, hv₀⟩ := hpw.reward
  obtain ⟨v, hv, hvp⟩ := hl.userReward (.Provider, ctx.providerAccount) now
  rw [State.rewardAccountOrNew, hv₀, Option.getD_some] at hv
  have htransfers := h.transfers_iff hl hm rfl
  simp only [recordMiningFromReceipt, bind_eq_ok, load_eq_ok, constraint_eq_ok, sign_eq_ok,
    ensure_eq_ok, tokenAccount_eq_ok, mintAccount_eq_ok, vacant_eq_ok,
    requireAttestationCaller_eq_ok, validateSupportedReceiptCharge, requireTokenOwner_eq_ok,
    requireTokenMint_eq_ok, calculateBpsAmount_eq_ok, calculateClawAmount_eq_ok,
    checkedSubU64_eq_ok, checkedAddU64_eq_ok, checkedAddI128_eq_ok, cpi_eq_ok, exists_unit,
    exists_result, pure_eq_ok]
  constructor
  · rintro ⟨s', g', hg, -, -, -, -, pay', hpay, p', hp, hpwallet, v₀', hv₀', -, -, -, -, -, -, -,
      m', hm', -, -, -, -, -, -, -, -, -, -, -, -, t₁, ht₁, t₂, ht₂, -, -, -, u', hu', v', hv',
      hroom, -, v'', hbook, hposition, -, -, -⟩
    obtain rfl := Option.some.inj (h.config.symm.trans hg)
    obtain rfl := Option.some.inj (h.provider.symm.trans hp)
    obtain rfl := Option.some.inj (hm.symm.trans hm')
    rw [← hpwallet] at hv₀' hv'
    obtain rfl := Option.some.inj (hv₀.symm.trans hv₀')
    obtain rfl := Except.ok.inj (hu.symm.trans hu')
    obtain rfl := Except.ok.inj (hv.symm.trans hv')
    obtain ⟨hbalance, hthawed, hdelegate⟩ := htransfers.mp ⟨t₁, t₂, ht₁, ht₂⟩
    have hpending := bookProviderReward_succeeds_iff.mp ⟨v'', hbook⟩
    subst hx
    exact ⟨hbalance, hthawed, hdelegate, hup ▸ hroom, hvp ▸ hpending, hposition.2⟩
  · rintro ⟨hbalance, hthawed, hdelegate, huser, hprovider, hposition⟩
    subst hx
    have hsplits := (hl.config g h.config).splits
    have hmax := h.supported.trans_lt maxReceipt_lt_u64Bound
    have hshare : n * g.treasuryUsdcShareBps / BPS_SCALE ≤ n := Rounding.mul_div_le (by omega)
    have htotal := (hl.config g h.config).computable.1 n h.supported
    have hclaw : n * g.exchangeRateClawPerUsdcE6 / RATE_SCALE * g.userClawShareBps / BPS_SCALE ≤
        n * g.exchangeRateClawPerUsdcE6 / RATE_SCALE := Rounding.mul_div_le (by omega)
    obtain ⟨hkey, hsig, hown⟩ := h.attestation
    obtain ⟨y₁, hy₁, -⟩ := hcfg.treasury
    obtain ⟨y₂, hy₂, -⟩ := hcfg.pending
    rw [← hcfg.treasuryUsdcVault, ← h.vaults.1] at hy₁
    rw [← hcfg.providerPendingUsdcVault, ← h.vaults.2] at hy₂
    obtain ⟨t₁, t₂, ht₁, ht₂⟩ := htransfers.mpr ⟨hbalance, hthawed, hdelegate⟩
    obtain ⟨hpending, hcount⟩ := h.room hl hshare ht₁ ht₂
    obtain ⟨v', hv'⟩ := bookProviderReward_succeeds_iff.mpr (hvp.symm ▸ hprovider)
    obtain ⟨hmin, -⟩ := hl.positions _ p h.provider
    exact ⟨_, g, h.config, hkey, hsig, h.signed.1, h.signed.2, pay, h.payer, p, h.provider,
      hpw.wallet.symm, v₀, hpw.wallet.symm ▸ hv₀, h.fresh, y₁, hy₁, h.vaults.1, y₂, hy₂,
      h.vaults.2, m, hm, h.mint, ⟨hown, hsig⟩, h.unpaused, h.positive, h.supported, h.payerOwner,
      h.payerMint, h.delegate, h.allowance, h.active, hshare.trans_lt hmax, hshare, t₁, ht₁, t₂,
      ht₂, htotal, hclaw.trans_lt htotal, hclaw, u, hu, v, hpw.wallet.symm ▸ hv, hup.symm ▸ huser,
      providerDebtOffset_le _ _, v', hv', ⟨hmin.trans (by omega), hposition⟩, hpending, hcount, rfl⟩

theorem recordMiningFromReceipt_call {c : Caller MASTERPOOL_ID} {now : ℤ}
    {ctx : RecordMiningFromReceipt} {n : ℕ}
    (h : recordMiningFromReceipt c now ctx n s = .ok s') :
    ∃ g pay p, RecordingCall c ctx n s g pay p := by
  obtain ⟨g, pay, p, u, v, t₁, t₂, x, hrec, -⟩ := recordMiningFromReceipt_ok h
  exact ⟨g, pay, p, hrec.config, hrec.attestation, hrec.signed, hrec.payer, hrec.payerOwner,
    hrec.payerMint, hrec.delegate, hrec.allowance, hrec.provider, hrec.active, hrec.fresh,
    hrec.vaults, hrec.mint, hrec.unpaused, hrec.positive, hrec.supported⟩

/-- **Recording**: a receipt is recorded exactly if the call is in order and the receipt fits.  No
counter of the provider and no share or reward of a receipt can overflow. -/
theorem record_succeeds_iff (as : List Action) (c : Caller MASTERPOOL_ID) (now : ℤ)
    (ctx : RecordMiningFromReceipt) (n : ℕ) :
    (∃ s', recordMiningFromReceipt c now ctx n (reached as) = .ok s') ↔
      ∃ g pay p, RecordingCall c ctx n (reached as) g pay p ∧
        RecordFits ctx n (reached as) g pay p
          (recordedSettlement g p ctx.attestationReceipt ctx.payerUser now n) := by
  have hl := reached_ledgers as
  constructor
  · rintro ⟨s', hok⟩
    obtain ⟨g, pay, p, h⟩ := recordMiningFromReceipt_call hok
    exact ⟨g, pay, p, h, (h.succeeds_iff hl rfl).mp ⟨s', hok⟩⟩
  · rintro ⟨g, pay, p, h, hfits⟩
    exact (h.succeeds_iff hl rfl).mpr hfits

theorem record_first_receipt :
    ∃ s', recordMiningFromReceipt everyone 1 (recordContext 20) 1000000
      (reached (opening moderateRate)) = .ok s' := by
  refine (record_succeeds_iff (opening moderateRate) everyone 1 (recordContext 20) 1000000).mpr
    ⟨(reached (opening moderateRate)).config.get (by decide +kernel),
      ((reached (opening moderateRate)).tokens.accounts.get (wallet 8)).get (by decide +kernel),
      ((reached (opening moderateRate)).providers.get (wallet 5)).get (by decide +kernel),
      ?_, ?_⟩
  · exact ⟨by decide +kernel, by decide +kernel, by decide +kernel, by decide +kernel,
      by decide +kernel, by decide +kernel, by decide +kernel, by decide +kernel,
      by decide +kernel, by decide +kernel, by decide +kernel, by decide +kernel,
      by decide +kernel, by decide +kernel, by decide +kernel, by decide +kernel⟩
  · exact ⟨by decide +kernel, by decide +kernel, by decide +kernel, by decide +kernel,
      by decide +kernel, by decide +kernel⟩

/-! ## Challenging -/

/-- A call to record a bond on the settlement `x`, paid from the token account `y` of the
challenger, that is in order: every account is the one it has to be, the settlement is recorded, and
the processing of challenges is not paused. -/
structure BondingCall (c : Caller MASTERPOOL_ID) (ctx : RecordChallengeBond) (s : State)
    (g : GlobalConfig) (x : ReceiptSettlement) (y : TokenAccount Pubkey) : Prop where
  config : s.config = some g
  attestation : ctx.attestationConfig.key = .pda g.attestationProgram .CONFIG_SEED ∧
    ctx.attestationConfig.key ∈ c.signers ∧ ctx.attestationConfig.owner = g.attestationProgram
  signed : ctx.challenger ∈ c.signers
  challenger : s.tokens.accounts.get ctx.challengerClawToken = some y
  challengerOwner : y.owner = ctx.challenger
  challengerMint : y.mint = g.clawMint
  settlement : s.settlements.get ctx.attestationReceipt = some x
  recorded : x.status = .Recorded
  fresh : s.bonds.get ctx.attestationChallenge = none
  vault : ctx.challengeBondVault = g.challengeBondVault
  mint : ctx.clawMint = g.clawMint
  unpaused : g.pauseChallengeProcessing = false

/-- The challenger has the bond, as its own delegate also allowed, and no account is frozen. -/
structure BondFits (ctx : RecordChallengeBond) (s : State) (g : GlobalConfig)
    (y : TokenAccount Pubkey) : Prop where
  balance : g.challengeBondClawAmount ≤ y.amount
  allowed : y.delegate = some ctx.challenger → g.challengeBondClawAmount ≤ y.delegatedAmount
  thawed : y.frozen = false ∧ s.tokens.frozen challengeBondVault = false

/-- Each locked bond holds at least one unit in the bond vault. -/
theorem Ledgers.unresolved_le (hl : Ledgers s) {w : Pubkey} {p : ProviderAccount}
    (hp : s.providers.get w = some p) :
    p.unresolvedChallengeCount ≤ s.tokens.amount challengeBondVault := by
  rw [(hl.booked.ledger hp).unresolvedChallengeCount]
  refine (Store.sum_mono fun k b hb => ?_).trans (hl.covered .bond)
  have hpos := hl.positive.bond k b hb
  split_ifs with h
  · rw [ChallengeBondRecord.owed_of_locked h.2]
    exact hpos
  · exact Nat.zero_le _

/-- The owner of an account has authority over it, within its own allowance if it has given itself
one. -/
theorem authorize_owner_iff {y : TokenAccount Pubkey} {w : Pubkey} {n : ℕ} (ho : y.owner = w) :
    y.authorize w n = .ok () ↔ (y.delegate = some w → n ≤ y.delegatedAmount) := by
  unfold TokenAccount.authorize
  split_ifs with hd
  · rw [require_eq_ok]
    exact ⟨fun h _ => h, fun h => h hd⟩
  · rw [require_eq_ok]
    exact ⟨fun _ h => absurd h hd, fun _ => ho⟩

theorem BondingCall.succeeds_iff (hl : Ledgers s) {c : Caller MASTERPOOL_ID} {now : ℤ}
    {ctx : RecordChallengeBond} {g : GlobalConfig} {x : ReceiptSettlement}
    {y : TokenAccount Pubkey} (h : BondingCall c ctx s g x y) :
    (∃ s', recordChallengeBond c now ctx s = .ok s') ↔ BondFits ctx s g y := by
  have hw := hl.wf
  have hs := hw.sound
  have hcfg := hs.config g h.config
  obtain ⟨p, hp⟩ := (hw.settlement _ _ h.settlement).provider
  have hwallet := (hw.provider _ p hp).wallet
  obtain ⟨m, hm, -⟩ := hcfg.clawMint
  rw [← h.mint] at hm
  obtain ⟨z, hz, hzo, hzm⟩ := hcfg.bond
  have hvault := h.vault.trans hcfg.challengeBondVault
  have htransfer := @transferChecked_iff _ _ _ _ _ _ ctx.challenger g.challengeBondClawAmount _ _
    _ _ hs.balanced h.challenger (h.challengerMint.trans h.mint.symm) hz (hzm.trans h.mint.symm) hm
    rfl
  rw [authorize_owner_iff h.challengerOwner, ← frozen_of_get hz, ← hvault] at htransfer
  simp only [recordChallengeBond, bind_eq_ok, load_eq_ok, constraint_eq_ok, sign_eq_ok,
    ensure_eq_ok, tokenAccount_eq_ok, mintAccount_eq_ok, vacant_eq_ok,
    requireAttestationCaller_eq_ok, requireTokenOwner_eq_ok, requireTokenMint_eq_ok,
    cpi_eq_ok, exists_unit, pure_eq_ok]
  constructor
  · rintro ⟨s', g', hg, -, -, -, y', hy', x', -, p', -, -, -, -, m', hm', -, -, -, -, -, -, t, ht,
      -⟩
    obtain rfl := Option.some.inj (h.config.symm.trans hg)
    obtain rfl := Option.some.inj (hm.symm.trans hm')
    obtain ⟨hy, hf, hn, hau⟩ := htransfer.mp ⟨t, ht⟩
    exact ⟨hn, hau, hy, hvault ▸ hf⟩
  · rintro ⟨hn, hau, hy, hf⟩
    obtain ⟨hkey, hsig, hown⟩ := h.attestation
    obtain ⟨t, ht⟩ := htransfer.mpr ⟨hy, hvault.symm ▸ hf, hn, hau⟩
    obtain ⟨reward, burnt, hreward, hburnt⟩ := (hl.config g h.config).computable.2
    -- the vault holds the new bond together with one unit for each locked one
    have hroom : p.unresolvedChallengeCount + 1 < u64Bound := by
      have hcount := hl.unresolved_le hp
      have hpos := (hl.config g h.config).bond_pos
      have hout := hs.not_owned h.challenger
        (h.challengerOwner ▸ signer_ne_poolAuthority h.signed)
      have hbond := inbound (k := challengeBondVault) ht hout rfl
      rw [hvault, if_pos rfl] at hbond
      have hfits := (hs.balanced.transfer ht).amount_lt challengeBondVault
      omega
    exact ⟨_, g, h.config, hkey, hsig, h.signed, y, h.challenger, x, h.settlement, p, hp, hwallet,
      h.fresh, h.vault, m, hm, h.mint, ⟨hown, hsig⟩, h.unpaused, h.recorded, h.challengerOwner,
      h.challengerMint, t, ht, reward, hreward, burnt, hburnt, _,
      checkedAddU64_eq_ok.mpr ⟨hroom, rfl⟩, rfl⟩

theorem recordChallengeBond_call {c : Caller MASTERPOOL_ID} {now : ℤ} {ctx : RecordChallengeBond}
    (h : recordChallengeBond c now ctx s = .ok s') : ∃ g x y, BondingCall c ctx s g x y := by
  obtain ⟨g, x, p, t, b, hbond, -⟩ := recordChallengeBond_ok h
  obtain ⟨y, hy, howner, hmint⟩ := hbond.source
  exact ⟨g, x, y, hbond.config, hbond.attestation, hbond.signed, hy, howner, hmint,
    hbond.settlement, hbond.recorded, hbond.fresh, hbond.vault, hbond.mint, hbond.unpaused⟩

/-- **Bonds**: a bond is recorded exactly if the call is in order and the challenger can pay it.
Neither the parts of the slash nor the counter of the provider can overflow. -/
theorem bond_succeeds_iff (as : List Action) (c : Caller MASTERPOOL_ID) (now : ℤ)
    (ctx : RecordChallengeBond) :
    (∃ s', recordChallengeBond c now ctx (reached as) = .ok s') ↔
      ∃ g x y, BondingCall c ctx (reached as) g x y ∧ BondFits ctx (reached as) g y := by
  have hl := reached_ledgers as
  constructor
  · rintro ⟨s', hok⟩
    obtain ⟨g, x, y, h⟩ := recordChallengeBond_call hok
    exact ⟨g, x, y, h, (h.succeeds_iff hl).mp ⟨s', hok⟩⟩
  · rintro ⟨g, x, y, h, hfits⟩
    exact (h.succeeds_iff hl).mpr hfits

theorem bond_first_challenge :
    ∃ s', recordChallengeBond everyone 5 (challengeContext 20 31)
      (reached (challenged 10000000)) = .ok s' := by
  refine (bond_succeeds_iff (challenged 10000000) everyone 5 (challengeContext 20 31)).mpr
    ⟨(reached (challenged 10000000)).config.get (by decide +kernel),
      ((reached (challenged 10000000)).settlements.get (wallet 20)).get (by decide +kernel),
      ((reached (challenged 10000000)).tokens.accounts.get (wallet 11)).get (by decide +kernel),
      ?_, ?_⟩
  · exact ⟨by decide +kernel, by decide +kernel, by decide +kernel, by decide +kernel,
      by decide +kernel, by decide +kernel, by decide +kernel, by decide +kernel,
      by decide +kernel, by decide +kernel, by decide +kernel, by decide +kernel⟩
  · exact ⟨by decide +kernel, by decide +kernel, by decide +kernel⟩

/-- A call to resolve the challenge with the locked record `b` on the settlement `x` that is in
order: every account is the one it has to be, and the processing of challenges is not paused. -/
structure ResolutionCall (c : Caller MASTERPOOL_ID) (ctx : ResolveChallengeEconomics) (s : State)
    (g : GlobalConfig) (x : ReceiptSettlement) (b : ChallengeBondRecord) : Prop where
  config : s.config = some g
  attestation : ctx.attestationConfig.key = .pda g.attestationProgram .CONFIG_SEED ∧
    ctx.attestationConfig.key ∈ c.signers ∧ ctx.attestationConfig.owner = g.attestationProgram
  settlement : s.settlements.get ctx.attestationReceipt = some x
  bond : s.bonds.get ctx.attestationChallenge = some b
  receipt : b.attestationReceipt = ctx.attestationReceipt
  locked : b.status = .Locked
  vaults : ctx.challengeBondVault = g.challengeBondVault ∧ ctx.rewardVault = g.rewardVault ∧
    ctx.providerPendingUsdcVault = g.providerPendingUsdcVault
  mints : ctx.clawMint = g.clawMint ∧ ctx.usdcMint = g.usdcMint
  unpaused : g.pauseChallengeProcessing = false

/-- **Rejecting**, in any state with sound ledgers. -/
theorem ResolutionCall.reject_iff (hl : Ledgers s) {c : Caller MASTERPOOL_ID} (now : ℤ)
    {ctx : ResolveChallengeEconomics} {g : GlobalConfig} {x : ReceiptSettlement}
    {b : ChallengeBondRecord} (h : ResolutionCall c ctx s g x b) :
    (∃ s', resolveChallengeEconomics c now ctx ATTESTATION_RESOLUTION_REJECTED s = .ok s') ↔
      x.status = .Recorded ∧ s.tokens.frozen challengeBondVault = false := by
  have hw := hl.wf
  have hcfg := hw.sound.config g h.config
  have hx := hw.settlement _ _ h.settlement
  have hb := hw.bond _ _ h.bond
  obtain ⟨p, hp⟩ := hx.provider
  obtain ⟨u, hu⟩ := hx.user
  have hpw := hw.provider _ p hp
  obtain ⟨v, hv⟩ := hpw.reward
  have hbv := h.vaults.1.trans hcfg.challengeBondVault
  have hburn : (∃ t, burn s.tokens ctx.clawMint ctx.challengeBondVault poolAuthority b.bondAmount =
      .ok t) ↔ s.tokens.frozen challengeBondVault = false := by
    rw [h.mints.1, hbv, (Moved.refl _).burn_iff hw.sound hcfg.bond hcfg.clawMint]
    exact ⟨fun h => h.1, fun hf => ⟨hf, hl.solvent.of_locked h.bond h.locked⟩⟩
  constructor
  · rintro ⟨s', hok⟩
    obtain ⟨g', x', b', p', u', v', t, hres, ht, -⟩ := resolveChallengeEconomics_rejecting hok
    obtain rfl := Option.some.inj (h.settlement.symm.trans hres.settlement)
    obtain rfl := Option.some.inj (h.bond.symm.trans hres.bond)
    exact ⟨hres.recorded, hburn.mp ⟨t, ht⟩⟩
  · rintro ⟨hrec, hf⟩
    obtain ⟨t, ht⟩ := hburn.mpr hf
    obtain ⟨y, hy, -⟩ := hcfg.bond
    rw [← hbv] at hy
    obtain ⟨x', hx', -, hwallet⟩ := hb.settlement
    obtain rfl : x = x' := Option.some.inj (h.settlement.symm.trans (h.receipt ▸ hx'))
    refine ⟨_, resolveChallengeEconomics_iff.mpr ⟨g, x, b, p, u, v,
      ⟨t, x, { b with status := .Burned }, p, u, v⟩,
      ⟨h.config, h.attestation, h.settlement, h.bond, hp, hpw.wallet, hv, hu, ⟨y, hy⟩, h.vaults,
        h.mints, h.unpaused, hrec, hx.receipt, ⟨hb.challenge, h.receipt.trans hx.receipt.symm⟩,
        h.locked⟩, ?_, (hl.booked.ledger hp).of_locked h.bond hwallet h.locked, rfl⟩⟩
    rw [resolveArm, if_pos rfl, resolveRejected_ok]
    exact ⟨t, ht, rfl⟩

theorem resolveChallengeEconomics_call {c : Caller MASTERPOOL_ID} {now : ℤ}
    {ctx : ResolveChallengeEconomics} {code : ℕ}
    (h : resolveChallengeEconomics c now ctx code s = .ok s') :
    ∃ g x b, ResolutionCall c ctx s g x b := by
  obtain ⟨g, x, b, p, u, v, r, hres, -⟩ := resolveChallengeEconomics_iff.mp h
  exact ⟨g, x, b, hres.config, hres.attestation, hres.settlement, hres.bond,
    hres.record.2.trans hres.receipt, hres.locked, hres.vaults, hres.mints, hres.unpaused⟩

/-- **Rejecting** a challenge never fails for want of funds or of a counter: besides a call that is
in order it takes a settlement that is still open and a bond vault that is not frozen. -/
theorem reject_succeeds_iff (as : List Action) (c : Caller MASTERPOOL_ID) (now : ℤ)
    (ctx : ResolveChallengeEconomics) :
    (∃ s', resolveChallengeEconomics c now ctx ATTESTATION_RESOLUTION_REJECTED (reached as) =
      .ok s') ↔
      ∃ g x b, ResolutionCall c ctx (reached as) g x b ∧ x.status = .Recorded ∧
        (reached as).tokens.frozen challengeBondVault = false := by
  have hl := reached_ledgers as
  constructor
  · rintro ⟨s', hok⟩
    obtain ⟨g, x, b, h⟩ := resolveChallengeEconomics_call hok
    exact ⟨g, x, b, h, (h.reject_iff hl now).mp ⟨s', hok⟩⟩
  · rintro ⟨g, x, b, h, hopen⟩
    exact (h.reject_iff hl now).mpr hopen

/-- With a reward vault that the faucet has emptied, the challenge can still be rejected. -/
theorem reject_unfunded : ∃ s', resolveChallengeEconomics everyone 5 (resolveContext 20 30)
    ATTESTATION_RESOLUTION_REJECTED (reached (challenged 1000000000000000)) = .ok s' := by
  refine (reject_succeeds_iff (challenged 1000000000000000) everyone 5 (resolveContext 20 30)).mpr
    ⟨(reached (challenged 1000000000000000)).config.get (by decide +kernel),
      ((reached (challenged 1000000000000000)).settlements.get (wallet 20)).get (by decide +kernel),
      ((reached (challenged 1000000000000000)).bonds.get (wallet 30)).get (by decide +kernel),
      ?_, ?_⟩
  · exact ⟨by decide +kernel, by decide +kernel, by decide +kernel, by decide +kernel,
      by decide +kernel, by decide +kernel, by decide +kernel, by decide +kernel,
      by decide +kernel⟩
  · exact ⟨by decide +kernel, by decide +kernel⟩

/-! ## Settling -/

/-- What fits is settled, in any state with sound ledgers. -/
theorem SettlementFits.settles (hl : Ledgers s) {c : Caller MASTERPOOL_ID} (now : ℤ)
    {ctx : SettleFinalizedReceipt} {g : GlobalConfig} {x : ReceiptSettlement}
    (h : SettlementCall c ctx s g x) (hfits : SettlementFits ctx s x) :
    ∃ s', settleFinalizedReceipt c now ctx ATTESTATION_RECEIPT_STATUS_FINALIZED s = .ok s' := by
  have hw := hl.wf
  have hx := hw.settlement _ _ h.settlement
  obtain ⟨p, hp⟩ := hx.provider
  obtain ⟨u, hu⟩ := hx.user
  have hpw := hw.provider _ p hp
  obtain ⟨v, hv⟩ := hpw.reward
  obtain ⟨m, hm, -⟩ := (hw.sound.config g h.config).usdcMint
  rw [← h.mint] at hm
  have huser := hfits.user
  have hprov := hfits.provider
  rw [State.lockedClaw, Store.term_some hu] at huser
  rw [State.lockedClaw, Store.term_some hv] at hprov
  obtain ⟨t, ht⟩ := (h.transfer_iff hw hl.solvent hm).mpr ⟨hfits.vault, hfits.destination⟩
  obtain ⟨hpending, hcount⟩ := (hl.booked.ledger hp).of_recorded h.settlement rfl h.recorded
  have hup := (hl.credited.ledger .User hu).of_recorded h.settlement rfl h.recorded
  have hvp := (hl.credited.ledger .Provider hv).of_recorded h.settlement rfl h.recorded
  exact ⟨_, settleFinalizedReceipt_ok.mpr ⟨g, x, p, u, v, t, ⟨h.config, h.attestation,
    h.settlement, hp, hpw.wallet, hv, hu, h.vault, h.mint, h.unpaused, rfl, hx.receipt, h.recorded,
    hup, huser, hvp, hprov, h.destination, ⟨m, hm, ht⟩, hpending, hcount⟩, rfl⟩⟩

/-! ## Leaving -/

/-- A provider asks to leave, with the account `p` and a token account for its stake. -/
structure ExitCall (c : Caller MASTERPOOL_ID) (ctx : ExitProvider) (s : State) (g : GlobalConfig)
    (p : ProviderAccount) : Prop where
  config : s.config = some g
  provider : s.providers.get ctx.providerWallet = some p
  signed : ctx.providerWallet ∈ c.signers
  vault : ctx.providerStakeUsdcVault = g.providerStakeUsdcVault
  mint : ctx.usdcMint = g.usdcMint
  destination : ∃ d, s.tokens.accounts.get ctx.providerDestinationUsdc = some d ∧
    d.mint = g.usdcMint

/-- What the slashes of the wallet have taken. -/
def State.slashed (s : State) (w : Pubkey) : ℕ :=
  s.bonds.sum fun _ b =>
    if b.providerWallet = w ∧ b.status = .Returned then b.slashClawAmountSnapshot else 0

/-- What the wallet has earned with settled receipts. -/
def State.earned (s : State) (w : Pubkey) : ℕ :=
  s.settlements.sum fun _ x =>
    if x.providerWallet = w ∧ x.status = .FinalizedSettled then x.clawToProviderTotal else 0

/-- Nothing of the provider is open, its rewards cover its slashes, and no account is frozen. -/
structure ExitFits (ctx : ExitProvider) (s : State) (p : ProviderAccount) : Prop where
  active : p.status = .Active
  closed : ∀ k x, s.settlements.get k = some x → x.providerWallet = ctx.providerWallet →
    x.status ≠ .Recorded
  resolved : ∀ k b, s.bonds.get k = some b → b.providerWallet = ctx.providerWallet →
    b.status ≠ .Locked
  covered : s.slashed ctx.providerWallet ≤ s.earned ctx.providerWallet
  thawed : s.tokens.frozen providerStakeUsdcVault = false ∧
    s.tokens.frozen ctx.providerDestinationUsdc = false

/-- Without open receipts the net position is what was earned less what was slashed. -/
theorem ProviderLedger.position_eq {w : Pubkey} {p : ProviderAccount} (h : ProviderLedger s w p)
    (hclosed : ∀ k x, s.settlements.get k = some x → x.providerWallet = w → x.status ≠ .Recorded) :
    p.clawNetPosition = s.earned w - s.slashed w := by
  rw [h.clawNetPosition, State.earned, State.slashed, Store.cast_sum, Store.cast_sum]
  congr 1
  · refine Store.sum_congr fun k x hx => ?_
    have hrec := hclosed k x hx
    by_cases hw : x.providerWallet = w
    · simp [hw, hrec hw]
    · simp [hw]
  · refine Store.sum_congr fun k b _ => ?_
    split_ifs <;> rfl

/-- The account shows nothing open exactly if nothing is. -/
theorem ProviderLedger.clear_iff {w : Pubkey} {p : ProviderAccount} (h : ProviderLedger s w p) :
    (p.pendingProviderUsdc = 0 ∧ p.unsettledReceiptCount = 0 ∧ p.unresolvedChallengeCount = 0 ∧
        0 ≤ p.clawNetPosition) ↔
      (∀ k x, s.settlements.get k = some x → x.providerWallet = w → x.status ≠ .Recorded) ∧
      (∀ k b, s.bonds.get k = some b → b.providerWallet = w → b.status ≠ .Locked) ∧
      s.slashed w ≤ s.earned w := by
  constructor
  · rintro ⟨-, hcount, hchallenges, hposition⟩
    have hclosed : ∀ k x, s.settlements.get k = some x → x.providerWallet = w →
        x.status ≠ .Recorded := fun k x hx hxw hrec => by
      have := (h.of_recorded hx hxw hrec).2
      omega
    refine ⟨hclosed, fun k b hb hbw hlock => ?_, ?_⟩
    · have := h.of_locked hb hbw hlock
      omega
    · have := h.position_eq hclosed
      omega
  · rintro ⟨hclosed, hresolved, hcovered⟩
    have hposition := h.position_eq hclosed
    refine ⟨?_, ?_, ?_, by omega⟩
    · rw [h.pendingProviderUsdc]
      exact Store.sum_eq_zero fun k x hx => if_neg fun hrec => hclosed k x hx hrec.1 hrec.2
    · rw [h.unsettledReceiptCount]
      exact Store.sum_eq_zero fun k x hx => if_neg fun hrec => hclosed k x hx hrec.1 hrec.2
    · rw [h.unresolvedChallengeCount]
      exact Store.sum_eq_zero fun k b hb => if_neg fun hlock => hresolved k b hb hlock.1 hlock.2

theorem ExitCall.succeeds_iff (hl : Ledgers s) {c : Caller MASTERPOOL_ID} {now : ℤ}
    {ctx : ExitProvider} {g : GlobalConfig} {p : ProviderAccount} (h : ExitCall c ctx s g p) :
    (∃ s', exitProvider c now ctx s = .ok s') ↔ ExitFits ctx s p := by
  have hs := hl.wf.sound
  have hcfg := hs.config g h.config
  have hclear := (hl.booked.ledger h.provider).clear_iff
  obtain ⟨m, hm, hdec, -⟩ := hcfg.usdcMint
  rw [← h.mint] at hm
  obtain ⟨d, hd, hdm⟩ := h.destination
  have hvault := h.vault.trans hcfg.providerStakeUsdcVault
  have htransfer := (Moved.refl s.tokens).transfer_iff (n := p.stakedUsdcAmount) hs hcfg.stake
    ⟨m, h.mint ▸ hm, rfl, fun h : False => h.elim⟩ hd hdm
  rw [← h.mint, ← hvault] at htransfer
  constructor
  · rintro ⟨s', hok⟩
    obtain ⟨g', p', t, hex, -⟩ := exitProvider_ok hok
    obtain rfl := Option.some.inj (h.provider.symm.trans hex.provider)
    obtain ⟨m', hm', ht⟩ := hex.transfer
    obtain rfl := Option.some.inj (hm.symm.trans hm')
    obtain ⟨hclosed, hresolved, hcovered⟩ := hclear.mp hex.clear
    obtain ⟨hf, hf', -⟩ := htransfer.mp ⟨t, ht⟩
    exact ⟨hex.active, hclosed, hresolved, hcovered, hvault ▸ hf, hf'⟩
  · rintro ⟨hact, hclosed, hresolved, hcovered, hf, hf'⟩
    obtain ⟨t, ht⟩ := htransfer.mpr ⟨hvault.symm ▸ hf, hf',
      hvault.symm ▸ hl.solvent.of_active h.provider hact⟩
    have hex : Exits c ctx s g p t := ⟨h.config, h.provider, (hl.wf.provider _ p h.provider).wallet,
      h.signed, h.vault, h.mint, hact, hclear.mpr ⟨hclosed, hresolved, hcovered⟩, m, hm, ht⟩
    exact ⟨_, hex.exitProvider now⟩

/-- **Leaving**: a provider can leave with its stake exactly if it is active, none of its receipts
and challenges is open, and the rewards of its settled receipts cover its slashes; neither its
counters nor the funds of the stake vault are ever in the way. -/
theorem exit_succeeds_iff (as : List Action) {c : Caller MASTERPOOL_ID} {now : ℤ}
    {ctx : ExitProvider} {g : GlobalConfig} {p : ProviderAccount}
    (h : ExitCall c ctx (reached as) g p) :
    (∃ s', exitProvider c now ctx (reached as) = .ok s') ↔ ExitFits ctx (reached as) p :=
  h.succeeds_iff (reached_ledgers as)

def exitContext : ExitProvider := ⟨wallet 5, providerStakeUsdcVault, wallet 6, wallet 3⟩

/-- A provider leaves with one receipt settled, and one slash of less than its reward. -/
theorem exit_after_slash : ∃ s', exitProvider everyone 8 exitContext (reached cleared) = .ok s' := by
  refine (exit_succeeds_iff cleared (g := (reached cleared).config.get (by decide +kernel))
    (p := ((reached cleared).providers.get (wallet 5)).get (by decide +kernel)) ?_).mpr ?_
  · obtain ⟨d, hd, -, hm⟩ := exists_owned (l := (reached cleared).tokens)
      (k := exitContext.providerDestinationUsdc) (o := wallet 5) (f := false)
      (m := ((reached cleared).config.get (by decide +kernel)).usdcMint) (by decide +kernel)
    exact ⟨by decide +kernel, by decide +kernel, by decide +kernel, by decide +kernel,
      by decide +kernel, d, hd, hm⟩
  · exact ⟨by decide +kernel, by decide +kernel, by decide +kernel, by decide +kernel,
      by decide +kernel⟩

/-! ## Claiming -/

/-- The owner of the reward account `r` claims to its own token account, from the right vault and
while claims are not paused. -/
structure ClaimCall (c : Caller MASTERPOOL_ID) (ctx : ClaimReleasedClaw) (s : State)
    (g : GlobalConfig) (r : RewardAccount) : Prop where
  config : s.config = some g
  reward : s.rewards.get ctx.rewardAccount = some r
  signed : ctx.claimant ∈ c.signers
  vault : ctx.rewardVault = g.rewardVault
  mint : ctx.clawMint = g.clawMint
  unpaused : g.pauseClaims = false
  owner : r.owner = ctx.claimant
  destination : ∃ d, s.tokens.accounts.get ctx.claimantClawToken = some d ∧
    d.owner = ctx.claimant ∧ d.mint = g.clawMint

/-- Something is left to claim, the reward vault has it, and no account is frozen. -/
structure ClaimFits (ctx : ClaimReleasedClaw) (s : State) (r : RewardAccount) : Prop where
  claimable : r.claimedClawTotal < r.releasedClawTotal
  inventory : r.releasedClawTotal ≤ r.claimedClawTotal + s.tokens.amount rewardVault
  thawed : s.tokens.frozen rewardVault = false ∧ s.tokens.frozen ctx.claimantClawToken = false

theorem ClaimCall.succeeds_iff (hl : Ledgers s) {c : Caller MASTERPOOL_ID} {now : ℤ}
    {ctx : ClaimReleasedClaw} {g : GlobalConfig} {r : RewardAccount} (h : ClaimCall c ctx s g r) :
    (∃ s', claimReleasedClaw c now ctx s = .ok s') ↔ ClaimFits ctx s r := by
  have hs := hl.wf.sound
  have hcfg := hs.config g h.config
  obtain ⟨m, hm, -⟩ := hcfg.clawMint
  rw [← h.mint] at hm
  obtain ⟨d, hd, hdo, hdm⟩ := h.destination
  have hvault := h.vault.trans hcfg.rewardVault
  have htransfer := (Moved.refl s.tokens).transfer_iff
    (n := r.releasedClawTotal - r.claimedClawTotal) hs hcfg.reward
    ⟨m, h.mint ▸ hm, rfl, fun h : False => h.elim⟩ hd hdm
  rw [← h.mint, ← hvault] at htransfer
  constructor
  · rintro ⟨s', hok⟩
    obtain ⟨g', r', t, hc, -⟩ := claimReleasedClaw_ok hok
    obtain rfl := Option.some.inj (h.reward.symm.trans hc.reward)
    obtain ⟨m', hm', ht⟩ := hc.transfer
    obtain rfl := Option.some.inj (hm.symm.trans hm')
    obtain ⟨hf, hf', hn⟩ := htransfer.mp ⟨t, ht⟩
    rw [hvault] at hf hn
    exact ⟨hc.claimable, by omega, hf, hf'⟩
  · rintro ⟨hlt, hn, hf, hf'⟩
    obtain ⟨t, ht⟩ := htransfer.mpr ⟨hvault.symm ▸ hf, hf', by rw [hvault]; omega⟩
    have hfits := (hl.typed.rewards _ r h.reward).releasedClawTotal
    obtain ⟨y, hy, -⟩ := hcfg.reward
    rw [← hvault] at hy
    simp only [claimReleasedClaw, bind_eq_ok, load_eq_ok, sign_eq_ok, ensure_eq_ok,
      tokenAccount_eq_ok, mintAccount_eq_ok, requireTokenOwner_eq_ok, requireTokenMint_eq_ok,
      checkedSubU64_eq_ok, checkedAddU64_eq_ok, cpi_eq_ok, exists_unit, exists_result, pure_eq_ok]
    refine ⟨_, g, h.config, r, h.reward, h.signed, y, hy, h.vault, d, hd, m, hm, h.mint, h.unpaused,
      h.owner, hlt.le, by omega, hdo, hdm, t, ht, ?_, rfl⟩
    rw [Nat.add_sub_cancel' hlt.le]
    exact hfits

theorem claimReleasedClaw_call {c : Caller MASTERPOOL_ID} {now : ℤ} {ctx : ClaimReleasedClaw}
    (h : claimReleasedClaw c now ctx s = .ok s') : ∃ g r, ClaimCall c ctx s g r := by
  obtain ⟨g, r, t, hc, -⟩ := claimReleasedClaw_ok h
  exact ⟨g, r, hc.config, hc.reward, hc.signed, hc.vault, hc.mint, hc.unpaused, hc.owner,
    hc.destination⟩

/-- **Claiming** pays all that is released and not yet claimed exactly if the call is in order and
the reward vault still holds it: the booked totals never refuse it, and nothing reserves the vault
for it. -/
theorem claim_succeeds_iff (as : List Action) (c : Caller MASTERPOOL_ID) (now : ℤ)
    (ctx : ClaimReleasedClaw) :
    (∃ s', claimReleasedClaw c now ctx (reached as) = .ok s') ↔
      ∃ g r, ClaimCall c ctx (reached as) g r ∧ ClaimFits ctx (reached as) r := by
  have hl := reached_ledgers as
  constructor
  · rintro ⟨s', hok⟩
    obtain ⟨g, r, h⟩ := claimReleasedClaw_call hok
    exact ⟨g, r, h, (h.succeeds_iff hl).mp ⟨s', hok⟩⟩
  · rintro ⟨g, r, h, hfits⟩
    exact (h.succeeds_iff hl).mpr hfits

/-- After the release of `Vesting` the payer opens the CLAW account `12`. -/
def releasedReward : List Action := recordedReceipt ++ [settleReceipt, firstRelease,
  .token everyone (.initializeAccount (wallet 12) (wallet 2) (wallet 7))]

def releasedClawContext : ClaimReleasedClaw :=
  ⟨(.User, wallet 7), wallet 7, rewardVault, wallet 12, wallet 2⟩

theorem claim_first_release :
    ∃ s', claimReleasedClaw everyone 259211 releasedClawContext (reached releasedReward) =
      .ok s' := by
  refine (claim_succeeds_iff releasedReward everyone 259211 releasedClawContext).mpr
    ⟨(reached releasedReward).config.get (by decide +kernel),
      ((reached releasedReward).rewards.get (.User, wallet 7)).get (by decide +kernel), ?_, ?_⟩
  · exact ⟨by decide +kernel, by decide +kernel, by decide +kernel, by decide +kernel,
      by decide +kernel, by decide +kernel, by decide +kernel,
      exists_owned (f := false) (by decide +kernel)⟩
  · exact ⟨by decide +kernel, by decide +kernel, by decide +kernel⟩

end Masterpool
