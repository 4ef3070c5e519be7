import Clawfarm.Lib.TokenProgress
import Clawfarm.Masterpool.ProviderLedger
import Clawfarm.Masterpool.RewardLedger
import Clawfarm.Masterpool.Solvency

/-!
# Masterpool.Payout — when a recorded receipt can be settled

Settling needs what the ledgers guarantee (the pending amounts, the counter, the funds in the
vault), two token accounts that are not frozen, and room for the promoted reward in the locked
total of each of the two reward accounts.  The last is not guaranteed: validation bounds what one
receipt can promise, and the locked totals add up over many.
-/

namespace Masterpool

open Token Checked

variable {s : State}

/-! ## Vaults -/

theorem Holds.static {l : Ledger Pubkey} {k m : Pubkey} (h : Holds l k m) :
    l.static k = some (m, poolAuthority, l.frozen k) := by
  obtain ⟨x, hx, ho, hm⟩ := h
  rw [static_of_get hx, frozen_of_get hx, ho, hm]

/-- A later ledger, after some movements of funds of the pool. -/
structure Moved (l l' : Ledger Pubkey) : Prop where
  safe : Safe poolAuthority Owned l l'
  static : ∀ k, l'.static k = l.static k

theorem Moved.refl (l : Ledger Pubkey) : Moved l l := ⟨Safe.refl l, fun _ => rfl⟩

theorem Moved.trans {l l' l'' : Ledger Pubkey} (h : Moved l l') (h' : Moved l' l'') :
    Moved l l'' := ⟨h.safe.trans h'.safe, fun k => (h'.static k).trans (h.static k)⟩

theorem moved_of_transfer {l l' : Ledger Pubkey} {a m d au : Pubkey} {n dec : ℕ}
    (h : transferChecked l a m d au n dec = .ok l') : Moved l l' :=
  ⟨transferChecked_safe h, transferChecked_static h⟩

theorem moved_of_burn {l l' : Ledger Pubkey} {m a au : Pubkey} {n : ℕ}
    (h : burn l m a au n = .ok l') : Moved l l' := ⟨burn_safe h, burn_static h⟩

/-- A vault pays what it has, unless one of the two accounts is frozen. -/
theorem Moved.transfer_iff {l : Ledger Pubkey} {k m d : Pubkey} {n dec : ℕ} {fixed : Prop}
    {y : TokenAccount Pubkey} (hl : Moved s.tokens l) (hs : Sound s) (hk : Holds s.tokens k m)
    (hmint : HasMint s.tokens m dec fixed) (hd : s.tokens.accounts.get d = some y)
    (hy : y.mint = m) : (∃ l', transferChecked l k m d poolAuthority n dec = .ok l') ↔
      s.tokens.frozen k = false ∧ s.tokens.frozen d = false ∧ n ≤ l.amount k := by
  obtain ⟨x, hx, hdec, -⟩ := hmint.keeps hl.safe.keeps
  have hdst := static_of_get hd
  rw [hy, ← frozen_of_get hd] at hdst
  exact transferChecked_succeeds_iff (hl.safe.balanced hs.balanced) (hl.safe.custody hs.custody)
    ((hl.static k).trans hk.static) ((hl.static d).trans hdst) hx hdec.symm

theorem Moved.burn_iff {l : Ledger Pubkey} {k m : Pubkey} {n dec : ℕ} {fixed : Prop}
    (hl : Moved s.tokens l) (hs : Sound s) (hk : Holds s.tokens k m)
    (hmint : HasMint s.tokens m dec fixed) :
    (∃ l', burn l m k poolAuthority n = .ok l') ↔
      s.tokens.frozen k = false ∧ n ≤ l.amount k := by
  obtain ⟨x, hx, -⟩ := hmint.keeps hl.safe.keeps
  exact burn_succeeds_iff (hl.safe.balanced hs.balanced) (hl.safe.custody hs.custody)
    ((hl.static k).trans hk.static) hx

/-! ## Settling -/

/-- The attestation program settles the recorded settlement `x`, to a token account of its
provider. -/
structure SettlementCall (c : Caller MASTERPOOL_ID) (ctx : SettleFinalizedReceipt) (s : State)
    (g : GlobalConfig) (x : ReceiptSettlement) : Prop where
  config : s.config = some g
  attestation : ctx.attestationConfig.key = .pda g.attestationProgram .CONFIG_SEED ∧
    ctx.attestationConfig.key ∈ c.signers ∧ ctx.attestationConfig.owner = g.attestationProgram
  settlement : s.settlements.get ctx.attestationReceipt = some x
  recorded : x.status = .Recorded
  vault : ctx.providerPendingUsdcVault = g.providerPendingUsdcVault
  mint : ctx.usdcMint = g.usdcMint
  destination : ∃ d, s.tokens.accounts.get ctx.providerDestinationUsdc = some d ∧
    d.owner = x.providerWallet ∧ d.mint = g.usdcMint
  unpaused : g.pauseFinalization = false

/-- What the reward account `k` has locked, nothing if there is none. -/
def State.lockedClaw (s : State) (k : RewardAccountKind × Pubkey) : ℕ :=
  s.rewards.term (fun _ r => r.lockedClawTotal) k

/-- There is room for the rewards of `x`, and the two token accounts are not frozen. -/
structure SettlementFits (ctx : SettleFinalizedReceipt) (s : State) (x : ReceiptSettlement) :
    Prop where
  user : s.lockedClaw (.User, x.payerUser) + x.clawToUser < u64Bound
  provider : s.lockedClaw (.Provider, x.providerWallet) + x.clawToProviderLocked < u64Bound
  vault : s.tokens.frozen ctx.providerPendingUsdcVault = false
  destination : s.tokens.frozen ctx.providerDestinationUsdc = false

/-- The transfer of a settlement succeeds unless an account is frozen. -/
theorem SettlementCall.transfer_iff {c : Caller MASTERPOOL_ID} {ctx : SettleFinalizedReceipt}
    {g : GlobalConfig} {x : ReceiptSettlement} (hw : Wf s) (hv : Solvent s)
    (h : SettlementCall c ctx s g x) {m : Mint Pubkey} (hm : s.tokens.mints.get ctx.usdcMint = some m) :
    (∃ t, transferChecked s.tokens ctx.providerPendingUsdcVault ctx.usdcMint
        ctx.providerDestinationUsdc poolAuthority x.usdcToProvider m.decimals = .ok t) ↔
      s.tokens.frozen ctx.providerPendingUsdcVault = false ∧
        s.tokens.frozen ctx.providerDestinationUsdc = false := by
  have hcfg := hw.sound.config g h.config
  obtain ⟨d, hd, -, hdm⟩ := h.destination
  have hvault := h.vault.trans hcfg.providerPendingUsdcVault
  have hmint : HasMint s.tokens g.usdcMint m.decimals False :=
    ⟨m, h.mint ▸ hm, rfl, fun h => h.elim⟩
  rw [h.mint, hvault, (Moved.refl s.tokens).transfer_iff hw.sound hcfg.pending hmint hd hdm]
  have hfunds := hv.of_recorded h.settlement h.recorded
  exact ⟨fun h => ⟨h.1, h.2.1⟩, fun h => ⟨h.1, h.2, hfunds⟩⟩

/-- **Settling**: a recorded receipt can be settled exactly if its rewards fit. -/
theorem settle_succeeds_iff (as : List Action) {c : Caller MASTERPOOL_ID} {now : ℤ}
    {ctx : SettleFinalizedReceipt} {g : GlobalConfig} {x : ReceiptSettlement}
    (h : SettlementCall c ctx (reached as) g x) :
    (∃ s', settleFinalizedReceipt c now ctx ATTESTATION_RECEIPT_STATUS_FINALIZED (reached as) =
        .ok s') ↔ SettlementFits ctx (reached as) x := by
  have hw := reached_wf as
  have hx := hw.settlement _ _ h.settlement
  obtain ⟨p, hp⟩ := hx.provider
  obtain ⟨u, hu⟩ := hx.user
  have hpw := hw.provider _ p hp
  obtain ⟨v, hv⟩ := hpw.reward
  obtain ⟨m, hm, -⟩ := (hw.sound.config g h.config).usdcMint
  rw [← h.mint] at hm
  have htransfer := h.transfer_iff hw (reached_solvent as) hm
  simp only [settleFinalizedReceipt_ok]
  constructor
  · rintro ⟨s', g', x', p', u', v', t, hset, -⟩
    obtain rfl := Option.some.inj (h.settlement.symm.trans hset.settlement)
    obtain rfl := Option.some.inj (hu.symm.trans hset.userReward)
    obtain rfl := Option.some.inj (hv.symm.trans hset.providerReward)
    obtain ⟨m', hm', ht⟩ := hset.transfer
    obtain rfl := Option.some.inj (hm.symm.trans hm')
    obtain ⟨hvault, hdest⟩ := htransfer.mp ⟨t, ht⟩
    refine ⟨?_, ?_, hvault, hdest⟩
    · rw [State.lockedClaw, Store.term_some hu]
      exact hset.userFits
    · rw [State.lockedClaw, Store.term_some hv]
      exact hset.providerFits
  · rintro ⟨huser, hprov, hvault, hdest⟩
    rw [State.lockedClaw, Store.term_some hu] at huser
    rw [State.lockedClaw, Store.term_some hv] at hprov
    obtain ⟨t, ht⟩ := htransfer.mpr ⟨hvault, hdest⟩
    obtain ⟨hpending, hcount⟩ :=
      ((reached_booked as).ledger hp).of_recorded h.settlement rfl h.recorded
    have hup := ((reached_credited as).ledger .User hu).of_recorded h.settlement rfl h.recorded
    have hvp := ((reached_credited as).ledger .Provider hv).of_recorded h.settlement rfl h.recorded
    exact ⟨_, g, x, p, u, v, t, ⟨h.config, h.attestation, h.settlement, hp, hpw.wallet, hv, hu,
      h.vault, h.mint, h.unpaused, rfl, hx.receipt, h.recorded, hup, huser, hvp, hprov,
      h.destination, ⟨m, hm, ht⟩, hpending, hcount⟩, rfl⟩

/-! ## A run with two large receipts

One admin, one provider, one payer with a delegate; all of them sign, and so does the attestation
program.  At the highest rate that passes validation, two receipts of the largest size promise the
payer more than a `u64` can hold. -/

def wallet (n : UInt8) : Pubkey := .key ⟨List.replicate 32 n, rfl⟩

def attestationAccount : AccountInfo := ⟨.pda ATTESTATION_ID .CONFIG_SEED, ATTESTATION_ID⟩

def everyone : Caller MASTERPOOL_ID where
  signers := attestationAccount.key :: [1, 2, 3, 4, 5, 6, 7, 8, 9, 10, 11, 12].map wallet
  foreign := by decide

/-- The admin is `1`, the mints are `2` (CLAW) and `3` (USDC, minted by `4`), the provider is `5`
with the token account `6`, the payer is `7` with the token account `8` and the delegate `9`. -/
def opening (params : Phase1ConfigParams) : List Action :=
  [.token everyone (.initializeMint (wallet 2) 6 poolAuthority (some poolAuthority)),
   .token everyone (.initializeMint (wallet 3) 6 (wallet 4) none),
   .call everyone 1 (.initializeMasterpool ⟨wallet 2, wallet 3, ATTESTATION_ID, true,
    some (wallet 0), wallet 0, some (wallet 1), wallet 1, wallet 1⟩ params),
   .call everyone 1 (.mintGenesisSupply ⟨wallet 1, rewardVault, wallet 2⟩),
   .token everyone (.initializeAccount (wallet 6) (wallet 3) (wallet 5)),
   .token everyone (.initializeAccount (wallet 8) (wallet 3) (wallet 7)),
   .token everyone (.mintTo (wallet 3) (wallet 6) (wallet 4) 1000000),
   .token everyone (.mintTo (wallet 3) (wallet 8) (wallet 4) 2000000000000000),
   .token everyone (.approve (wallet 8) (wallet 7) (wallet 9) 2000000000000000),
   .call everyone 1 (.registerProvider ⟨wallet 5, providerStakeUsdcVault, wallet 6, wallet 3⟩)]

def recordContext (receipt : UInt8) : RecordMiningFromReceipt :=
  ⟨attestationAccount, wallet 7, wallet 7, wallet 9, wallet 8, wallet 5, wallet receipt,
    treasuryUsdcVault, providerPendingUsdcVault, wallet 3⟩

def settleContext (receipt : UInt8) : SettleFinalizedReceipt :=
  ⟨attestationAccount, wallet receipt, providerPendingUsdcVault, wallet 6, wallet 3⟩

/-- The whole reward goes to the payer. -/
def highestRate : Phase1ConfigParams := ⟨18446744073, 1000000, 900, 100, 1000, 0, 30, 5, 500, 500, 7⟩

def oneReceipt : List Action := opening highestRate ++
  [.call everyone 1 (.recordMiningFromReceipt (recordContext 20) 1000000000000000)]

def twoReceipts : List Action := oneReceipt ++
  [.call everyone 2 (.settleFinalizedReceipt (settleContext 20) 2),
   .call everyone 3 (.recordMiningFromReceipt (recordContext 21) 1000000000000000)]

/-- The first receipt is settled. -/
theorem settle_first_of_two :
    ∃ s', settleFinalizedReceipt everyone 2 (settleContext 20) ATTESTATION_RECEIPT_STATUS_FINALIZED
      (reached oneReceipt) = .ok s' := by
  refine (settle_succeeds_iff oneReceipt (g := (reached oneReceipt).config.get (by decide +kernel))
    (x := ((reached oneReceipt).settlements.get (wallet 20)).get (by decide +kernel)) ?_).mpr ?_
  · exact ⟨by decide +kernel, by decide +kernel, by decide +kernel, by decide +kernel,
      by decide +kernel, by decide +kernel, exists_owned (f := false) (by decide +kernel),
      by decide +kernel⟩
  · exact ⟨by decide +kernel, by decide +kernel, by decide +kernel, by decide +kernel⟩

/-- The second one is refused as long as the first one is locked: its reward does not fit beside it.
-/
theorem settling_overflows : ¬ ∀ (as : List Action) (c : Caller MASTERPOOL_ID) (now : ℤ)
    (ctx : SettleFinalizedReceipt) (g : GlobalConfig) (x : ReceiptSettlement),
    SettlementCall c ctx (reached as) g x →
    (reached as).tokens.frozen ctx.providerPendingUsdcVault = false →
    (reached as).tokens.frozen ctx.providerDestinationUsdc = false →
    ∃ s', settleFinalizedReceipt c now ctx ATTESTATION_RECEIPT_STATUS_FINALIZED (reached as) =
      .ok s' := by
  intro h
  have herror : settleFinalizedReceipt everyone 4 (settleContext 21)
      ATTESTATION_RECEIPT_STATUS_FINALIZED (reached twoReceipts) =
        .error (.custom .MathOverflow) := errorOf_eq_some.mp (by decide +kernel)
  obtain ⟨s', hs'⟩ := h twoReceipts everyone 4 (settleContext 21)
    ((reached twoReceipts).config.get (by decide +kernel))
    (((reached twoReceipts).settlements.get (wallet 21)).get (by decide +kernel))
    ⟨by decide +kernel, by decide +kernel, by decide +kernel, by decide +kernel,
      by decide +kernel, by decide +kernel, exists_owned (f := false) (by decide +kernel),
      by decide +kernel⟩
    (by decide +kernel) (by decide +kernel)
  rw [herror] at hs'
  cases hs'

end Masterpool
