import Clawfarm.Masterpool.Flows
import Clawfarm.Masterpool.Params
import Clawfarm.Masterpool.Payout

/-!
# Masterpool.Charge — the two transfers of a charge

A receipt checks the allowance of the payment delegate once and then makes two transfers with it.
The token program clears a delegate that has nothing left, so a first transfer that uses up the
allowance takes away the authority for the second one, even when nothing is left to transfer.
-/

namespace Masterpool

open Token Checked

variable {s : State} {ctx : RecordMiningFromReceipt} {n : ℕ} {g : GlobalConfig}
  {pay : TokenAccount Pubkey}

/-- The payer's token account `pay` has passed the checks of a receipt that charges it `n`; no
account is frozen. -/
structure ChargeCall (ctx : RecordMiningFromReceipt) (n : ℕ) (s : State) (g : GlobalConfig)
    (pay : TokenAccount Pubkey) : Prop where
  config : s.config = some g
  positive : 0 < n
  supported : n ≤ MAX_RECEIPT_USDC_ATOMIC
  payer : s.tokens.accounts.get ctx.payerUsdcToken = some pay
  payerOwner : pay.owner = ctx.payerUser
  payerMint : pay.mint = g.usdcMint
  delegate : pay.delegate = some ctx.paymentDelegate
  notOwner : ctx.paymentDelegate ≠ ctx.payerUser
  allowance : n ≤ pay.delegatedAmount
  balance : n ≤ pay.amount
  vaults : ctx.treasuryUsdcVault = g.treasuryUsdcVault ∧
    ctx.providerPendingUsdcVault = g.providerPendingUsdcVault
  mint : ctx.usdcMint = g.usdcMint
  thawed : pay.frozen = false ∧ s.tokens.frozen ctx.treasuryUsdcVault = false ∧
    s.tokens.frozen ctx.providerPendingUsdcVault = false

/-- Both transfers of a receipt over `n` succeed between the ledgers `l` and `l'`. -/
def Transferred (ctx : RecordMiningFromReceipt) (n : ℕ) (g : GlobalConfig)
    (l l' : Ledger Pubkey) : Prop :=
  ∃ treasuryShare providerShare m l₁, calculateBpsAmount n g.treasuryUsdcShareBps =
      .ok treasuryShare ∧ checkedSubU64 n treasuryShare = .ok providerShare ∧
    l.mints.get ctx.usdcMint = some m ∧
    transferChecked l ctx.payerUsdcToken ctx.usdcMint ctx.treasuryUsdcVault ctx.paymentDelegate
      treasuryShare m.decimals = .ok l₁ ∧
    transferChecked l₁ ctx.payerUsdcToken ctx.usdcMint ctx.providerPendingUsdcVault
      ctx.paymentDelegate providerShare m.decimals = .ok l'

/-- The charge is made, and it is exact. -/
structure Charged (ctx : RecordMiningFromReceipt) (n : ℕ) (g : GlobalConfig)
    (l l' : Ledger Pubkey) : Prop where
  transferred : Transferred ctx n g l l'
  balance : l'.amount ctx.payerUsdcToken + n = l.amount ctx.payerUsdcToken
  allowance : l'.allowance ctx.payerUsdcToken + n = l.allowance ctx.payerUsdcToken
  vaults : l'.amount ctx.treasuryUsdcVault + l'.amount ctx.providerPendingUsdcVault =
    l.amount ctx.treasuryUsdcVault + l.amount ctx.providerPendingUsdcVault + n

theorem transferred_shares {l l' : Ledger Pubkey} {m : Mint Pubkey}
    (hbps : g.treasuryUsdcShareBps ≤ BPS_SCALE) (hn : n ≤ MAX_RECEIPT_USDC_ATOMIC)
    (hm : l.mints.get ctx.usdcMint = some m) :
    Transferred ctx n g l l' ↔ ∃ l₁, transferChecked l ctx.payerUsdcToken ctx.usdcMint
        ctx.treasuryUsdcVault ctx.paymentDelegate (n * g.treasuryUsdcShareBps / BPS_SCALE)
        m.decimals = .ok l₁ ∧
      transferChecked l₁ ctx.payerUsdcToken ctx.usdcMint ctx.providerPendingUsdcVault
        ctx.paymentDelegate (n - n * g.treasuryUsdcShareBps / BPS_SCALE) m.decimals = .ok l' := by
  obtain ⟨ht, hp⟩ := share_computable hbps (hn.trans_lt maxReceipt_lt_u64Bound)
  constructor
  · rintro ⟨t, p, m', l₁, ht', hp', hm', h₁, h₂⟩
    obtain rfl := Except.ok.inj (ht.symm.trans ht')
    obtain rfl := Except.ok.inj (hp.symm.trans hp')
    obtain rfl := Option.some.inj (hm.symm.trans hm')
    exact ⟨l₁, h₁, h₂⟩
  · rintro ⟨l₁, h₁, h₂⟩
    exact ⟨_, _, m, l₁, ht, hp, hm, h₁, h₂⟩

theorem ChargeCall.delegatedTo (h : ChargeCall ctx n s g pay) :
    DelegatedTo ctx.paymentDelegate s.tokens ctx.payerUsdcToken ctx.usdcMint pay where
  account := h.payer
  mint := h.payerMint.trans h.mint.symm
  thawed := h.thawed.1
  delegate := h.delegate
  notOwner := by
    rw [h.payerOwner]
    exact h.notOwner.symm

/-- The two vaults that a charge reaches. -/
theorem ChargeCall.static (hs : Sound s) (h : ChargeCall ctx n s g pay) :
    s.tokens.static ctx.treasuryUsdcVault = some (ctx.usdcMint, poolAuthority, false) ∧
      s.tokens.static ctx.providerPendingUsdcVault =
        some (ctx.usdcMint, poolAuthority, false) := by
  have hcfg := hs.config g h.config
  have ht := hcfg.treasury.static
  have hp := hcfg.pending.static
  rw [← hcfg.treasuryUsdcVault, ← h.vaults.1, ← h.mint, h.thawed.2.1] at ht
  rw [← hcfg.providerPendingUsdcVault, ← h.vaults.2, ← h.mint, h.thawed.2.2] at hp
  exact ⟨ht, hp⟩

/-- The payer pays from no vault, and the two vaults are different. -/
theorem ChargeCall.apart (hs : Sound s) (h : ChargeCall ctx n s g pay) :
    ctx.payerUsdcToken ≠ ctx.treasuryUsdcVault ∧
      ctx.payerUsdcToken ≠ ctx.providerPendingUsdcVault ∧
      ctx.treasuryUsdcVault ≠ ctx.providerPendingUsdcVault := by
  have hcfg := hs.config g h.config
  have hout := (hs.delegated h.payer h.delegate).1
  rw [h.vaults.1, h.vaults.2, hcfg.treasuryUsdcVault, hcfg.providerPendingUsdcVault]
  have htreasury : Owned treasuryUsdcVault := rfl
  exact ⟨fun he => hout (he ▸ htreasury), fun he => hout (he ▸ owned_pendingVault), by decide⟩

/-- Transfers that both succeed move exactly the charge. -/
theorem ChargeCall.charged (hs : Sound s) (hbps : g.treasuryUsdcShareBps ≤ BPS_SCALE)
    (h : ChargeCall ctx n s g pay) {l : Ledger Pubkey} (ht : Transferred ctx n g s.tokens l) :
    Charged ctx n g s.tokens l := by
  obtain ⟨m, hm, -⟩ := (hs.config g h.config).usdcMint
  rw [← h.mint] at hm
  obtain ⟨l₁, h₁, h₂⟩ := (transferred_shares hbps h.supported hm).mp ht
  obtain ⟨htreasury, hpending, hvaults⟩ := h.apart hs
  obtain ⟨hbalance, hallowance, hmoved⟩ :=
    transferChecked_twice_moves h.delegatedTo htreasury hpending hvaults h₁ h₂
  rw [Nat.add_sub_cancel' (Rounding.mul_div_le hbps)] at hbalance hallowance hmoved
  exact ⟨ht, hbalance, hallowance, hmoved⟩

/-- The transfers succeed unless the treasury's share uses up the allowance. -/
theorem ChargeCall.transferred_iff (hs : Sound s) (hbps : g.treasuryUsdcShareBps ≤ BPS_SCALE)
    (h : ChargeCall ctx n s g pay) : (∃ l, Transferred ctx n g s.tokens l) ↔
      n * g.treasuryUsdcShareBps / BPS_SCALE < pay.delegatedAmount := by
  obtain ⟨m, hm, -⟩ := (hs.config g h.config).usdcMint
  rw [← h.mint] at hm
  obtain ⟨htreasury, hpending⟩ := h.static hs
  have hsum := Nat.add_sub_cancel' (Rounding.mul_div_le hbps : n * _ / BPS_SCALE ≤ n)
  have hallow := h.allowance
  have hbalance := h.balance
  rw [← hsum] at hallow hbalance
  rw [← transferChecked_twice_iff hs.balanced h.delegatedTo hallow hbalance (h.apart hs).1
    htreasury hpending hm rfl]
  simp only [transferred_shares hbps h.supported hm]
  constructor
  · rintro ⟨l, l₁, h₁, h₂⟩
    exact ⟨l₁, l, h₁, h₂⟩
  · rintro ⟨l₁, l, h₁, h₂⟩
    exact ⟨l, l₁, h₁, h₂⟩

/-- A receipt that is recorded has made both transfers. -/
theorem Records.transferred {c : Caller MASTERPOOL_ID} {now : ℤ} {p : ProviderAccount}
    {u v : RewardAccount} {t₁ t₂ : Ledger Pubkey} {x : ReceiptSettlement}
    (hbps : g.treasuryUsdcShareBps ≤ BPS_SCALE) (h : Records c now ctx n s g pay p u v t₁ t₂ x) :
    Transferred ctx n g s.tokens t₂ := by
  obtain ⟨m, hm, h₁, h₂⟩ := h.toTreasury
  rw [h.settlement] at h₁ h₂
  exact (transferred_shares hbps h.supported hm).mpr ⟨t₁, h₁, h₂⟩

/-- **Charges**: after the checks, both transfers succeed and are exact unless the treasury gets
the whole charge and the allowance is no more than that; then the delegate is cleared before the
transfer of nothing to the provider, and the receipt cannot be recorded. -/
theorem charge_exact_iff (as : List Action) (h : ChargeCall ctx n (reached as) g pay) :
    ((∃ l, Charged ctx n g (reached as).tokens l) ↔
      ¬ (g.treasuryUsdcShareBps = BPS_SCALE ∧ pay.delegatedAmount = n)) ∧
    ∀ c now s', recordMiningFromReceipt c now ctx n (reached as) = .ok s' →
      Charged ctx n g (reached as).tokens s'.tokens := by
  have hs := (reached_wf as).sound
  have hsplit := (reached_configValid as g h.config).splits.1
  have hbps : g.treasuryUsdcShareBps ≤ BPS_SCALE := by omega
  have hwhole := Rounding.mul_div_eq_self_iff (by decide : 0 < BPS_SCALE) hbps h.positive
  have hle : n * g.treasuryUsdcShareBps / BPS_SCALE ≤ n := Rounding.mul_div_le hbps
  have hallow := h.allowance
  refine ⟨?_, fun c now s' hok => ?_⟩
  · rw [← hwhole]
    constructor
    · rintro ⟨l, hl⟩ ⟨hshare, hamount⟩
      have hlt := (h.transferred_iff hs hbps).mp ⟨l, hl.transferred⟩
      omega
    · intro hnot
      obtain ⟨l, hl⟩ := (h.transferred_iff hs hbps).mpr (by omega)
      exact ⟨l, h.charged hs hbps hl⟩
  · obtain ⟨g', pay', p, u, v, t₁, t₂, x, hrec, rfl⟩ := recordMiningFromReceipt_ok hok
    obtain rfl := Option.some.inj (h.config.symm.trans hrec.config)
    exact h.charged hs hbps (hrec.transferred hbps)

/-! ## The payer of `Payout` with an exact allowance -/

/-- The pool of `Payout`, with an allowance of `1000`. -/
def allowed (params : Phase1ConfigParams) : List Action := opening params ++
  [.token everyone (.approve (wallet 8) (wallet 7) (wallet 9) 1000)]

/-- The whole charge goes to the treasury. -/
def wholeTreasury : Phase1ConfigParams :=
  ⟨1000000, 1000000, 0, 1000, 300, 700, 30, 1000, 700, 300, 7⟩

/-- With a split of nine to one, the allowance is used up by both transfers. -/
theorem charge_whole_allowance : ∃ l, Charged (recordContext 20) 1000
    ((reached (allowed highestRate)).config.get (by decide +kernel))
    (reached (allowed highestRate)).tokens l := by
  have hcall : ChargeCall (recordContext 20) 1000 (reached (allowed highestRate))
      ((reached (allowed highestRate)).config.get (by decide +kernel))
      (((reached (allowed highestRate)).tokens.accounts.get (wallet 8)).get
        (by decide +kernel)) :=
    ⟨by decide +kernel, by decide +kernel, by decide +kernel, by decide +kernel,
      by decide +kernel, by decide +kernel, by decide +kernel, by decide +kernel,
      by decide +kernel, by decide +kernel, by decide +kernel, by decide +kernel,
      by decide +kernel⟩
  exact (charge_exact_iff (allowed highestRate) hcall).1.mpr (by decide +kernel)

/-- With the whole charge for the treasury, the same allowance is refused. -/
theorem whole_treasury_refused : ¬ ∀ (as : List Action) (ctx : RecordMiningFromReceipt) (n : ℕ)
    (g : GlobalConfig) (pay : TokenAccount Pubkey), ChargeCall ctx n (reached as) g pay →
    ∃ l, Charged ctx n g (reached as).tokens l := by
  intro h
  have hcall : ChargeCall (recordContext 20) 1000 (reached (allowed wholeTreasury))
      ((reached (allowed wholeTreasury)).config.get (by decide +kernel))
      (((reached (allowed wholeTreasury)).tokens.accounts.get (wallet 8)).get
        (by decide +kernel)) :=
    ⟨by decide +kernel, by decide +kernel, by decide +kernel, by decide +kernel,
      by decide +kernel, by decide +kernel, by decide +kernel, by decide +kernel,
      by decide +kernel, by decide +kernel, by decide +kernel, by decide +kernel,
      by decide +kernel⟩
  obtain ⟨l, hl⟩ := h _ _ _ _ _ hcall
  have hlt := (hcall.transferred_iff (reached_wf _).sound (by decide +kernel)).mp
    ⟨l, hl.transferred⟩
  exact absurd hlt (by decide +kernel)

example : errorOf (recordMiningFromReceipt everyone 1 (recordContext 20) 1000
    (reached (allowed wholeTreasury))) = some (.token .OwnerMismatch) := by decide +kernel

end Masterpool
