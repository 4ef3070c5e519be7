import Clawfarm.Lib.TokenSwap
import Clawfarm.Masterpool.Enforcement

/-!
# Masterpool.Closing — receipts may be closed in any order

Settling a receipt and resolving its challenge are `Closing`s: they write the settlement and the
bond record of the receipt, take from the account of its provider and from the pending rewards of
both parties, and make movements of funds out of the vaults.  All of this swaps with the closing of
another receipt (`Closing.Closes.swap`), although the two may share every other account.
-/

namespace Masterpool

open Token Checked Swap

/-! ## Closings -/

/-- What is taken from the account of a provider. -/
structure ProviderChange where
  pendingUsdc : ℕ
  unsettled : ℕ
  unresolved : ℕ
  position : ℕ

def ProviderChange.Changes (now : ℤ) (d : ProviderChange) (p p' : ProviderAccount) : Prop :=
  d.pendingUsdc ≤ p.pendingProviderUsdc ∧ d.unsettled ≤ p.unsettledReceiptCount ∧
    d.unresolved ≤ p.unresolvedChallengeCount ∧ i128Min ≤ p.clawNetPosition - d.position ∧
    p' = { p with
      pendingProviderUsdc := p.pendingProviderUsdc - d.pendingUsdc
      unsettledReceiptCount := p.unsettledReceiptCount - d.unsettled
      unresolvedChallengeCount := p.unresolvedChallengeCount - d.unresolved
      clawNetPosition := p.clawNetPosition - d.position
      updatedAt := now }

/-- What is taken from the pending rewards of an account, and whether it is locked there or
dropped. -/
structure RewardChange where
  amount : ℕ
  locks : Bool

def RewardChange.Changes (now : ℤ) (d : RewardChange) (r r' : RewardAccount) : Prop :=
  d.amount ≤ r.pendingClawTotal ∧
    (d.locks = true → r.lockedClawTotal + d.amount < u64Bound) ∧
    r' = { r with
      pendingClawTotal := r.pendingClawTotal - d.amount
      lockedClawTotal := r.lockedClawTotal + if d.locks then d.amount else 0
      updatedAt := if d.locks then now else r.updatedAt }

/-- The closing of a receipt: its settlement and its bond record before and after, and what is
taken from the accounts that other receipts share with it. -/
structure Closing where
  receipt : Pubkey
  settlement : ReceiptSettlement
  outcome : ReceiptSettlement
  bond : Option (Pubkey × ChallengeBondRecord × ChallengeBondRecord)
  provider : ProviderChange
  userReward : RewardChange
  providerReward : RewardChange
  movements : List (Movement Pubkey)

def Closing.rewards (z : Closing) : List ((RewardAccountKind × Pubkey) × RewardChange) :=
  [((.User, z.settlement.payerUser), z.userReward),
   ((.Provider, z.settlement.providerWallet), z.providerReward)]

/-- The value `v` is replaced by `v'`. -/
def Replaces {V : Type} (v v' w w' : V) : Prop := w = v ∧ w' = v'

def BondChange (o : Option (Pubkey × ChallengeBondRecord × ChallengeBondRecord))
    (m m' : Store Pubkey ChallengeBondRecord) : Prop :=
  match o with
  | none => m' = m
  | some (j, b, b') => At j (Replaces b b') m m'

/-- The closing `z` at the time `now`. -/
inductive Closing.Closes (now : ℤ) (z : Closing) (s : State) : State → Prop
  | intro {tokens : Ledger Pubkey} {providers : Store Pubkey ProviderAccount}
    {rewards : Store (RewardAccountKind × Pubkey) RewardAccount}
    {settlements : Store Pubkey ReceiptSettlement} {bonds : Store Pubkey ChallengeBondRecord}
    (htokens : Chain (Movement.Made poolAuthority) z.movements s.tokens tokens)
    (hprovider : At z.settlement.providerWallet (z.provider.Changes now) s.providers providers)
    (hrewards : Chain (fun q => At q.1 (q.2.Changes now)) z.rewards s.rewards rewards)
    (hsettlement : At z.receipt (Replaces z.settlement z.outcome) s.settlements settlements)
    (hbonds : BondChange z.bond s.bonds bonds) :
    Closing.Closes now z s { s with
      tokens := tokens
      providers := providers
      rewards := rewards
      settlements := settlements
      bonds := bonds }

/-! ## Closings swap -/

theorem ProviderChange.swap {now : ℤ} {d e : ProviderChange} {p p₁ p₂ : ProviderAccount}
    (h₁ : d.Changes now p p₁) (h₂ : e.Changes now p₁ p₂) :
    ∃ p', e.Changes now p p' ∧ d.Changes now p' p₂ := by
  obtain ⟨hu, hn, hc, hp, rfl⟩ := h₁
  obtain ⟨hu', hn', hc', hp', rfl⟩ := h₂
  simp only at hu' hn' hc' hp'
  refine ⟨_, ⟨by omega, by omega, by omega, by omega, rfl⟩, by simp only; omega,
    by simp only; omega, by simp only; omega, by simp only; omega, ?_⟩
  have hpos : p.clawNetPosition - e.position - d.position =
      p.clawNetPosition - d.position - e.position := by omega
  simp only [Nat.sub_right_comm, hpos]

theorem RewardChange.swap {now : ℤ} {d e : RewardChange} {r r₁ r₂ : RewardAccount}
    (h₁ : d.Changes now r r₁) (h₂ : e.Changes now r₁ r₂) :
    ∃ r', e.Changes now r r' ∧ d.Changes now r' r₂ := by
  obtain ⟨hp, hl, rfl⟩ := h₁
  obtain ⟨hp', hl', rfl⟩ := h₂
  simp only at hp' hl'
  refine ⟨_, ⟨by omega, fun he => ?_, rfl⟩, by simp only; omega, fun hd => ?_, ?_⟩
  · have := hl' he
    omega
  · have := hl hd
    simp only
    cases he : e.locks with
    | false => simpa using this
    | true =>
      have := hl' he
      rw [if_pos hd] at this
      simp only [if_true]
      omega
  · have hpend : r.pendingClawTotal - e.amount - d.amount = r.pendingClawTotal - d.amount - e.amount
      := Nat.sub_right_comm _ _ _
    have hlock : ∀ n m, r.lockedClawTotal + n + m = r.lockedClawTotal + m + n := fun n m =>
      Nat.add_right_comm _ _ _
    simp only [hpend, hlock]
    cases d.locks <;> cases e.locks <;> rfl

/-- Bond records of two closings are different ones if the first leaves none locked and the second
finds one locked. -/
theorem BondChange.swap {o o' : Option (Pubkey × ChallengeBondRecord × ChallengeBondRecord)}
    {m m₁ m₂ : Store Pubkey ChallengeBondRecord} (h₁ : BondChange o m m₁)
    (h₂ : BondChange o' m₁ m₂) (ho : ∀ j b b', o = some (j, b, b') → b'.status ≠ .Locked)
    (ho' : ∀ j b b', o' = some (j, b, b') → b.status = .Locked) :
    ∃ m', BondChange o' m m' ∧ BondChange o m' m₂ := by
  cases o with
  | none =>
    obtain rfl : m₁ = m := h₁
    exact ⟨m₂, h₂, rfl⟩
  | some z =>
    cases o' with
    | none =>
      obtain rfl : m₂ = m₁ := h₂
      exact ⟨m, rfl, h₁⟩
    | some y =>
      obtain ⟨j, b, b'⟩ := z
      obtain ⟨i, x, x'⟩ := y
      refine At.swap h₁ h₂ fun _ v v₁ v₂ hv hv₁ => ?_
      have hlocked := ho' i x x' rfl
      rw [← hv₁.1, hv.2] at hlocked
      exact absurd hlocked (ho j b b' rfl)

/-- **Closings of different receipts swap.** -/
theorem Closing.Closes.swap {now : ℤ} {z y : Closing} {s t u : State}
    (hs : InOrder poolAuthority Owned s.tokens) (h₁ : z.Closes now s t) (h₂ : y.Closes now t u)
    (hne : z.receipt ≠ y.receipt) (hout : ∀ v ∈ z.movements, v.Outward poolAuthority)
    (hz : ∀ j b b', z.bond = some (j, b, b') → b'.status ≠ .Locked)
    (hy : ∀ j b b', y.bond = some (j, b, b') → b.status = .Locked) :
    ∃ t', y.Closes now s t' ∧ z.Closes now t' u := by
  obtain ⟨htokens, hprovider, hrewards, hsettlement, hbonds⟩ := h₁
  obtain ⟨htokens', hprovider', hrewards', hsettlement', hbonds'⟩ := h₂
  obtain ⟨l, hl, hl'⟩ := movements_swap hout _ _ _ hs htokens htokens'
  obtain ⟨p, hp, hp'⟩ := hprovider.swap hprovider' fun _ _ _ _ => ProviderChange.swap
  have hcells : Swaps (fun _ => True)
      (Chain (fun q => At q.1 (RewardChange.Changes now q.2)) z.rewards)
      (Chain (fun q => At q.1 (RewardChange.Changes now q.2)) y.rewards) :=
    Chain.swaps (fun _ _ _ _ _ => trivial) (fun _ _ _ _ _ => trivial)
      fun _ _ _ _ _ _ _ _ h h' => h.swap h' fun _ _ _ _ => RewardChange.swap
  obtain ⟨r, hr, hr'⟩ := hcells _ _ _ trivial hrewards hrewards'
  obtain ⟨x, hx, hx'⟩ := hsettlement.swap hsettlement' fun he => absurd he hne
  obtain ⟨b, hb, hb'⟩ := BondChange.swap hbonds hbonds' hz hy
  exact ⟨_, .intro hl hp hr hx hb, .intro hl' hp' hr' hx' hb'⟩

/-! ## The two instructions that close a receipt -/

inductive ClosingCall
  | settle (c : Caller MASTERPOOL_ID) (ctx : SettleFinalizedReceipt) (status : UInt8)
  | resolve (c : Caller MASTERPOOL_ID) (ctx : ResolveChallengeEconomics) (code : UInt8)

def ClosingCall.receipt : ClosingCall → Pubkey
  | .settle _ ctx _ => ctx.attestationReceipt
  | .resolve _ ctx _ => ctx.attestationReceipt

def ClosingCall.action (now : Int64) : ClosingCall → Action
  | .settle c ctx status => .call c now (.settleFinalizedReceipt ctx status)
  | .resolve c ctx code => .call c now (.resolveChallengeEconomics ctx code)

/-- The closing of a settled receipt. -/
def settling (now : ℤ) (ctx : SettleFinalizedReceipt) (x : ReceiptSettlement) : Closing where
  receipt := ctx.attestationReceipt
  settlement := x
  outcome := { x with rewardLockStartedAt := now, status := .FinalizedSettled, updatedAt := now }
  bond := none
  provider := ⟨x.usdcToProvider, 1, 0, 0⟩
  userReward := ⟨x.clawToUser, true⟩
  providerReward := ⟨x.clawToProviderLocked, true⟩
  movements := [.pay ctx.providerPendingUsdcVault ctx.usdcMint ctx.providerDestinationUsdc
    x.providerWallet x.usdcToProvider USDC_DECIMALS]

/-- The closing of a rejected challenge; the receipt itself stays recorded. -/
def rejecting (now : ℤ) (ctx : ResolveChallengeEconomics) (x : ReceiptSettlement)
    (b : ChallengeBondRecord) : Closing where
  receipt := ctx.attestationReceipt
  settlement := x
  outcome := { x with updatedAt := now }
  bond := some (ctx.attestationChallenge, b, { b with status := .Burned, updatedAt := now })
  provider := ⟨0, 0, 1, 0⟩
  userReward := ⟨0, false⟩
  providerReward := ⟨0, false⟩
  movements := [.destroy ctx.challengeBondVault ctx.clawMint b.bondAmount]

/-- The closing of a reverted receipt. -/
def accepting (now : ℤ) (ctx : ResolveChallengeEconomics) (x : ReceiptSettlement)
    (b : ChallengeBondRecord) : Closing where
  receipt := ctx.attestationReceipt
  settlement := x
  outcome := { x with status := .ChallengedReverted, updatedAt := now }
  bond := some (ctx.attestationChallenge, b, { b with status := .Returned, updatedAt := now })
  provider := ⟨x.usdcToProvider, 1, 1, x.clawToProviderTotal + b.slashClawAmountSnapshot⟩
  userReward := ⟨x.clawToUser, false⟩
  providerReward := ⟨x.clawToProviderLocked, false⟩
  movements := .pay ctx.challengeBondVault ctx.clawMint ctx.challengerClawToken b.challenger
      b.bondAmount CLAW_DECIMALS ::
    ((if 0 < b.challengerRewardAmount then [.pay ctx.rewardVault ctx.clawMint
      ctx.challengerClawToken b.challenger b.challengerRewardAmount CLAW_DECIMALS] else []) ++
    ((if 0 < b.burnAmount then [.destroy ctx.rewardVault ctx.clawMint b.burnAmount] else []) ++
    [.pay ctx.providerPendingUsdcVault ctx.usdcMint ctx.payerUsdcToken x.payerUser
      x.usdcToProvider USDC_DECIMALS]))

/-- What a settling call needs, apart from the accounts that it changes. -/
structure MaySettle (c : Caller MASTERPOOL_ID) (ctx : SettleFinalizedReceipt) (status : ℕ)
    (g : GlobalConfig) (x : ReceiptSettlement) : Prop where
  attestation : ctx.attestationConfig.key = .pda g.attestationProgram .CONFIG_SEED ∧
    ctx.attestationConfig.key ∈ c.signers ∧ ctx.attestationConfig.owner = g.attestationProgram
  vault : ctx.providerPendingUsdcVault = g.providerPendingUsdcVault
  mint : ctx.usdcMint = g.usdcMint
  unpaused : g.pauseFinalization = false
  finalized : status = ATTESTATION_RECEIPT_STATUS_FINALIZED
  receipt : x.attestationReceipt = ctx.attestationReceipt
  recorded : x.status = .Recorded
  outside : x.providerWallet ≠ poolAuthority

/-- What a resolving call needs, apart from the accounts that it changes. -/
structure MayResolve (c : Caller MASTERPOOL_ID) (ctx : ResolveChallengeEconomics)
    (g : GlobalConfig) (x : ReceiptSettlement) (b : ChallengeBondRecord) : Prop where
  attestation : ctx.attestationConfig.key = .pda g.attestationProgram .CONFIG_SEED ∧
    ctx.attestationConfig.key ∈ c.signers ∧ ctx.attestationConfig.owner = g.attestationProgram
  vaults : ctx.challengeBondVault = g.challengeBondVault ∧ ctx.rewardVault = g.rewardVault ∧
    ctx.providerPendingUsdcVault = g.providerPendingUsdcVault
  mints : ctx.clawMint = g.clawMint ∧ ctx.usdcMint = g.usdcMint
  unpaused : g.pauseChallengeProcessing = false
  recorded : x.status = .Recorded
  receipt : x.attestationReceipt = ctx.attestationReceipt
  record : b.attestationChallenge = ctx.attestationChallenge ∧
    b.attestationReceipt = x.attestationReceipt
  locked : b.status = .Locked
  outside : x.payerUser ≠ poolAuthority ∧ b.challenger ≠ poolAuthority

/-- Under the config `g`, the call makes the closing. -/
inductive ClosingCall.Means (now : ℤ) (g : GlobalConfig) : ClosingCall → Closing → Prop
  | settle {c ctx status x} (h : MaySettle c ctx status.toNat g x) :
    ClosingCall.Means now g (.settle c ctx status) (settling now ctx x)
  | reject {c ctx code x b} (hn : code.toNat = ATTESTATION_RESOLUTION_REJECTED)
    (h : MayResolve c ctx g x b) :
    ClosingCall.Means now g (.resolve c ctx code) (rejecting now ctx x b)
  | accept {c ctx code x b} (hn : IsAccepting code.toNat) (h : MayResolve c ctx g x b) :
    ClosingCall.Means now g (.resolve c ctx code) (accepting now ctx x b)

theorem ClosingCall.Means.receipt {now : ℤ} {g : GlobalConfig} {call : ClosingCall} {z : Closing}
    (h : call.Means now g z) : z.receipt = call.receipt := by
  cases h <;> rfl

/-- A closing finds its bond record locked and does not leave it so. -/
theorem ClosingCall.Means.bond {now : ℤ} {g : GlobalConfig} {call : ClosingCall} {z : Closing}
    (h : call.Means now g z) {j : Pubkey} {b b' : ChallengeBondRecord}
    (hb : z.bond = some (j, b, b')) : b.status = .Locked ∧ b'.status ≠ .Locked := by
  cases h with
  | settle h => cases hb
  | reject hn h =>
    cases hb
    exact ⟨h.locked, fun e => nomatch e⟩
  | accept hn h =>
    cases hb
    exact ⟨h.locked, fun e => nomatch e⟩

/-- A closing pays nobody but providers, payers and challengers. -/
theorem ClosingCall.Means.outward {now : ℤ} {g : GlobalConfig} {call : ClosingCall} {z : Closing}
    (h : call.Means now g z) : ∀ v ∈ z.movements, v.Outward poolAuthority := by
  intro v hv
  cases h with
  | settle h =>
    obtain rfl := List.mem_singleton.mp hv
    exact h.outside
  | reject hn h =>
    obtain rfl := List.mem_singleton.mp hv
    trivial
  | accept hn h =>
    rcases List.mem_cons.mp hv with rfl | hv
    · exact h.outside.2
    rcases List.mem_append.mp hv with hv | hv
    · split_ifs at hv
      · obtain rfl := List.mem_singleton.mp hv
        exact h.outside.2
      · cases hv
    rcases List.mem_append.mp hv with hv | hv
    · split_ifs at hv
      · obtain rfl := List.mem_singleton.mp hv
        trivial
      · cases hv
    · obtain rfl := List.mem_singleton.mp hv
      exact h.outside.1

/-! ## The instructions are closings -/

variable {s s' : State}

theorem closes_iff {now : ℤ} {z : Closing} : z.Closes now s s' ↔
    ∃ tokens p p' u u' v v' bonds, Chain (Movement.Made poolAuthority) z.movements s.tokens tokens ∧
      (s.providers.get z.settlement.providerWallet = some p ∧ z.provider.Changes now p p') ∧
      (s.rewards.get (.User, z.settlement.payerUser) = some u ∧ z.userReward.Changes now u u') ∧
      (s.rewards.get (.Provider, z.settlement.providerWallet) = some v ∧
        z.providerReward.Changes now v v') ∧
      s.settlements.get z.receipt = some z.settlement ∧ BondChange z.bond s.bonds bonds ∧
      s' = { s with
        tokens := tokens
        providers := s.providers.set z.settlement.providerWallet p'
        rewards := (s.rewards.set (.User, z.settlement.payerUser) u').set
          (.Provider, z.settlement.providerWallet) v'
        settlements := s.settlements.set z.receipt z.outcome
        bonds := bonds } := by
  have hne : ((.Provider, z.settlement.providerWallet) : RewardAccountKind × Pubkey) ≠
      (.User, z.settlement.payerUser) := by simp
  constructor
  · rintro ⟨htokens, ⟨p, p', hp, hpc, rfl⟩, hrewards, ⟨x, x', hx, ⟨rfl, rfl⟩, rfl⟩, hbonds⟩
    obtain ⟨_, ⟨u, u', hu, huc, rfl⟩, hrest⟩ := chain_cons.mp hrewards
    obtain ⟨v, v', hv, hvc, rfl⟩ := chain_singleton.mp hrest
    rw [Store.get_set_of_ne hne] at hv
    exact ⟨_, p, p', u, u', v, v', _, htokens, ⟨hp, hpc⟩, ⟨hu, huc⟩, ⟨hv, hvc⟩, hx, hbonds, rfl⟩
  · rintro ⟨tokens, p, p', u, u', v, v', bonds, htokens, ⟨hp, hpc⟩, ⟨hu, huc⟩, ⟨hv, hvc⟩, hx, hbonds,
      rfl⟩
    refine .intro htokens ⟨p, p', hp, hpc, rfl⟩ ?_ ⟨_, _, hx, ⟨rfl, rfl⟩, rfl⟩ hbonds
    refine .cons ⟨u, u', hu, huc, rfl⟩ (chain_singleton.mpr ⟨v, v', ?_, hvc, rfl⟩)
    rwa [Store.get_set_of_ne hne]

theorem settle_closes_iff {c : Caller MASTERPOOL_ID} {now : ℤ} {ctx : SettleFinalizedReceipt}
    {status : ℕ} (hw : Wf s) (hf : PositionsFit s) :
    settleFinalizedReceipt c now ctx status s = .ok s' ↔ ∃ g x, s.config = some g ∧
      MaySettle c ctx status g x ∧ (settling now ctx x).Closes now s s' := by
  rw [settleFinalizedReceipt_ok]
  constructor
  · rintro ⟨g, x, p, u, v, t, h, rfl⟩
    have hcfg := hw.sound.config g h.config
    have hp := hw.provider _ p h.provider
    obtain ⟨d, hd, hdo, hdm⟩ := h.destination
    obtain ⟨m, hm, ht⟩ := h.transfer
    obtain ⟨m', hm', hdec, -⟩ := hcfg.usdcMint
    obtain rfl : m = m' := Option.some.inj (hm.symm.trans (h.mint ▸ hm'))
    have hvault := h.vault.trans hcfg.providerPendingUsdcVault
    refine ⟨g, x, h.config, ⟨h.attestation, h.vault, h.mint, h.unpaused, h.finalized, h.receipt,
      h.recorded, hp.outside⟩, closes_iff.mpr ⟨t, p, _, u, _, v, _, _, ?_, ⟨h.provider,
        h.pendingUsdc, h.unsettled, Nat.zero_le _, ?_, rfl⟩, ⟨h.userReward, h.userPending,
        fun _ => h.userFits, rfl⟩, ⟨h.providerReward, h.providerPending, fun _ => h.providerFits, rfl⟩,
        h.settlement, rfl, ?_⟩⟩
    · refine chain_singleton.mpr ⟨⟨s.tokens.frozen ctx.providerPendingUsdcVault, ?_⟩, ⟨d.frozen, ?_⟩,
        hdec ▸ ht⟩
      · rw [hvault, h.mint]
        exact hcfg.pending.static
      · rw [static_of_get hd, hdo, hdm, h.mint]
    · have hmin := (hf _ p h.provider).1
      simpa [settling] using hmin
    · simp [settling, settled]
  · rintro ⟨g, x, hg, h, hz⟩
    obtain ⟨t, p, p', u, u', v, v', bonds, hmoves, ⟨hp, hpp, hpn, -, -, rfl⟩, ⟨hu, hup, huf, rfl⟩,
      ⟨hv, hvp, hvf, rfl⟩, hx, rfl, rfl⟩ := closes_iff.mp hz
    obtain ⟨-, ⟨f, hd⟩, ht⟩ := chain_singleton.mp hmoves
    obtain ⟨d, hd, hdo, hdm⟩ := exists_owned hd
    obtain ⟨m, hm, hdec, -⟩ := (hw.sound.config g hg).usdcMint
    refine ⟨g, x, p, u, v, t, ⟨hg, h.attestation, hx, hp, (hw.provider _ p hp).wallet, hv, hu,
      h.vault, h.mint, h.unpaused, h.finalized, h.receipt, h.recorded, hup, huf rfl, hvp, hvf rfl,
      ⟨d, hd, hdo, hdm.trans h.mint⟩, ⟨m, h.mint ▸ hm, hdec ▸ ht⟩, hpp, hpn⟩, ?_⟩
    simp [settling, settled]

theorem reject_closes_iff {c : Caller MASTERPOOL_ID} {now : ℤ} {ctx : ResolveChallengeEconomics}
    (hw : Wf s) (hf : PositionsFit s) :
    resolveChallengeEconomics c now ctx ATTESTATION_RESOLUTION_REJECTED s = .ok s' ↔
      ∃ g x b, s.config = some g ∧ MayResolve c ctx g x b ∧
        (rejecting now ctx x b).Closes now s s' := by
  constructor
  · intro hok
    obtain ⟨g, x, b, p, u, v, t, h, ht, hn, rfl⟩ := resolveChallengeEconomics_rejecting hok
    have hcfg := hw.sound.config g h.config
    have hx := hw.settlement _ x h.settlement
    have hb := hw.bond _ b h.bond
    have hmin := (hf _ p h.provider).1
    refine ⟨g, x, b, h.config, ⟨h.attestation, h.vaults, h.mints, h.unpaused, h.recorded, h.receipt,
      h.record, h.locked, hx.payer, hb.outside⟩, closes_iff.mpr ⟨t, p, _, u, u, v, v, _, ?_,
        ⟨h.provider, Nat.zero_le _, Nat.zero_le _, hn, ?_, rfl⟩,
        ⟨h.userReward, Nat.zero_le _, fun e => (nomatch e), rfl⟩,
        ⟨h.providerReward, Nat.zero_le _, fun e => (nomatch e), rfl⟩, h.settlement,
        ⟨b, _, h.bond, ⟨rfl, rfl⟩, rfl⟩, ?_⟩⟩
    · refine chain_singleton.mpr ⟨⟨s.tokens.frozen ctx.challengeBondVault, ?_⟩, ht⟩
      rw [h.vaults.1, hcfg.challengeBondVault, h.mints.1]
      exact hcfg.bond.static
    · simpa [rejecting] using hmin
    · simp [rejecting, rejected, Store.set_get_self h.userReward,
        Store.set_get_self h.providerReward]
  · rintro ⟨g, x, b, hg, h, hz⟩
    obtain ⟨t, p, p', u, u', v, v', bonds, hmoves, ⟨hp, -, -, hn, -, rfl⟩, ⟨hu, -, -, rfl⟩,
      ⟨hv, -, -, rfl⟩, hx, ⟨b, b', hb, ⟨rfl, rfl⟩, rfl⟩, rfl⟩ := closes_iff.mp hz
    obtain ⟨⟨f, hvault⟩, ht⟩ := chain_singleton.mp hmoves
    obtain ⟨y, hy, -⟩ := get_of_static hvault
    rw [resolveChallengeEconomics_iff]
    refine ⟨g, x, b, p, u, v, ⟨t, x, { b with status := .Burned }, p, u, v⟩, ⟨hg, h.attestation, hx,
      hb, hp, (hw.provider _ p hp).wallet, hv, hu, ⟨y, hy⟩, h.vaults, h.mints, h.unpaused, h.recorded,
      h.receipt, h.record, h.locked⟩, ?_, hn, ?_⟩
    · rw [resolveArm, if_pos rfl]
      exact resolveRejected_ok.mpr ⟨t, ht, rfl⟩
    · simp [rejecting]

/-- A movement that is skipped for `0`. -/
theorem chain_ifPositive {n : ℕ} {v : Movement Pubkey} {l l' : Ledger Pubkey} :
    Chain (Movement.Made poolAuthority) (if 0 < n then [v] else []) l l' ↔
      (0 < n → v.Made poolAuthority l l') ∧ (n = 0 → l' = l) := by
  split_ifs with h
  · simp [chain_singleton, h, h.ne']
  · simp [chain_nil, Nat.eq_zero_of_not_pos h]

/-- What the accounts of an acceptance must be. -/
structure AcceptanceAccounts (ctx : ResolveChallengeEconomics) (l : Ledger Pubkey)
    (x : ReceiptSettlement) (b : ChallengeBondRecord) : Prop where
  bondVault : ∃ f, l.static ctx.challengeBondVault = some (ctx.clawMint, poolAuthority, f)
  rewardVault : ∃ f, l.static ctx.rewardVault = some (ctx.clawMint, poolAuthority, f)
  pendingVault : ∃ f, l.static ctx.providerPendingUsdcVault = some (ctx.usdcMint, poolAuthority, f)
  challenger : ∃ f, l.static ctx.challengerClawToken = some (ctx.clawMint, b.challenger, f)
  payer : ∃ f, l.static ctx.payerUsdcToken = some (ctx.usdcMint, x.payerUser, f)

theorem AcceptanceAccounts.congr {ctx : ResolveChallengeEconomics} {l l' : Ledger Pubkey}
    {x : ReceiptSettlement} {b : ChallengeBondRecord} (h : AcceptanceAccounts ctx l x b)
    (hl : ∀ k, l'.static k = l.static k) : AcceptanceAccounts ctx l' x b := by
  constructor <;> rw [hl]
  · exact h.bondVault
  · exact h.rewardVault
  · exact h.pendingVault
  · exact h.challenger
  · exact h.payer

/-- **The movements of an acceptance**, one after the other. -/
theorem acceptance_chain_iff {now : ℤ} {ctx : ResolveChallengeEconomics} {l l' : Ledger Pubkey}
    {x : ReceiptSettlement} {b : ChallengeBondRecord} (h : AcceptanceAccounts ctx l x b) :
    Chain (Movement.Made poolAuthority) (accepting now ctx x b).movements l l' ↔
      ∃ t₁ t₂ t₃, AcceptanceMoves ctx l x b t₁ t₂ t₃ l' := by
  simp only [accepting, chain_cons, chain_append, chain_nil, chain_ifPositive, exists_eq_right']
  constructor
  · rintro ⟨t₁, h₁, t₂, ⟨h₂, h₂'⟩, t₃, ⟨h₃, h₃'⟩, h₄⟩
    exact ⟨t₁, t₂, t₃, h₁.2.2, ifPositive_ok.mpr ⟨fun hn => (h₂ hn).2.2, h₂'⟩,
      ifPositive_ok.mpr ⟨fun hn => (h₃ hn).2, h₃'⟩, h₄.2.2⟩
  · rintro ⟨t₁, t₂, t₃, h₁, h₂, h₃, h₄⟩
    have hm₁ := moved_of_transfer h₁
    have hm₂ := hm₁.trans (moved_of_ifPositive (fun _ => moved_of_transfer) h₂)
    have hm₃ := hm₂.trans (moved_of_ifPositive (fun _ => moved_of_burn) h₃)
    have ha₁ := h.congr hm₁.static
    have ha₂ := h.congr hm₂.static
    have ha₃ := h.congr hm₃.static
    rw [ifPositive_ok] at h₂ h₃
    exact ⟨t₁, ⟨h.bondVault, h.challenger, h₁⟩,
      t₂, ⟨fun hn => ⟨ha₁.rewardVault, ha₁.challenger, h₂.1 hn⟩, h₂.2⟩,
      t₃, ⟨fun hn => ⟨ha₂.rewardVault, h₃.1 hn⟩, h₃.2⟩, ha₃.pendingVault, ha₃.payer, h₄⟩

theorem accept_closes_iff {c : Caller MASTERPOOL_ID} {now : ℤ} {ctx : ResolveChallengeEconomics}
    {code : ℕ} (hcode : IsAccepting code) (hw : Wf s) (hf : PositionsFit s) :
    resolveChallengeEconomics c now ctx code s = .ok s' ↔ ∃ g x b, s.config = some g ∧
      MayResolve c ctx g x b ∧ (accepting now ctx x b).Closes now s s' := by
  have hvaults : ∀ g, s.config = some g →
      (ctx.challengeBondVault = g.challengeBondVault ∧ ctx.rewardVault = g.rewardVault ∧
        ctx.providerPendingUsdcVault = g.providerPendingUsdcVault) →
      (ctx.clawMint = g.clawMint ∧ ctx.usdcMint = g.usdcMint) →
      s.tokens.static ctx.challengeBondVault =
          some (ctx.clawMint, poolAuthority, s.tokens.frozen ctx.challengeBondVault) ∧
        s.tokens.static ctx.rewardVault =
          some (ctx.clawMint, poolAuthority, s.tokens.frozen ctx.rewardVault) ∧
        s.tokens.static ctx.providerPendingUsdcVault =
          some (ctx.usdcMint, poolAuthority, s.tokens.frozen ctx.providerPendingUsdcVault) := by
    intro g hg hv hm
    have hcfg := hw.sound.config g hg
    rw [hv.1, hv.2.1, hv.2.2, hcfg.challengeBondVault, hcfg.rewardVault,
      hcfg.providerPendingUsdcVault, hm.1, hm.2]
    exact ⟨hcfg.bond.static, hcfg.reward.static, hcfg.pending.static⟩
  rw [resolveChallengeEconomics_accepting hcode]
  constructor
  · rintro ⟨g, x, b, p, u, v, t₁, t₂, t₃, t₄, h, ha, hn, rfl⟩
    have hx := hw.settlement _ x h.settlement
    have hb := hw.bond _ b h.bond
    obtain ⟨hbv, hrv, hpv⟩ := hvaults g h.config h.vaults h.mints
    obtain ⟨y, hy, hyo, hym⟩ := ha.payer
    obtain ⟨q, hq, hqo, hqm⟩ := ha.challenger
    have haccounts : AcceptanceAccounts ctx s.tokens x b :=
      ⟨⟨_, hbv⟩, ⟨_, hrv⟩, ⟨_, hpv⟩, ⟨q.frozen, by rw [static_of_get hq, hqo, hqm, h.mints.1]⟩,
        ⟨y.frozen, by rw [static_of_get hy, hyo, hym, h.mints.2]⟩⟩
    refine ⟨g, x, b, h.config, ⟨h.attestation, h.vaults, h.mints, h.unpaused, h.recorded, h.receipt,
      h.record, h.locked, hx.payer, hb.outside⟩, closes_iff.mpr ⟨t₄, p, _, u, _, v, _, _,
        (acceptance_chain_iff haccounts).mpr
          ⟨t₁, t₂, t₃, ha.bondReturn, ha.reward, ha.slash, ha.refund⟩,
        ⟨h.provider, ha.pendingUsdc, ha.unsettled, hn, ?_, rfl⟩,
        ⟨h.userReward, ha.userPending, fun e => (nomatch e), rfl⟩,
        ⟨h.providerReward, ha.providerPending, fun e => (nomatch e), rfl⟩, h.settlement,
        ⟨b, _, h.bond, ⟨rfl, rfl⟩, rfl⟩, ?_⟩⟩
    · have hmin := ha.slashed.1
      simp only [accepting, Nat.cast_add] at hmin ⊢
      omega
    · simp [accepting, reverted, Int.sub_sub]
  · rintro ⟨g, x, b, hg, h, hz⟩
    obtain ⟨t, p, p', u, u', v, v', bonds, hmoves, ⟨hp, hpp, hpn, hpc, hpos, rfl⟩, ⟨hu, hup, -, rfl⟩,
      ⟨hv, hvp, -, rfl⟩, hx, ⟨b, b', hb, ⟨rfl, rfl⟩, rfl⟩, rfl⟩ := closes_iff.mp hz
    obtain ⟨hbv, hrv, hpv⟩ := hvaults g hg h.vaults h.mints
    obtain ⟨l₁, hfirst, hrest⟩ := chain_cons.mp hmoves
    obtain ⟨l₂, hmid, hlast⟩ := chain_append.mp hrest
    obtain ⟨l₃, hmid', hlast⟩ := chain_append.mp hlast
    obtain ⟨-, ⟨fy, hy⟩, -⟩ := chain_singleton.mp hlast
    rw [chain_static hmid', chain_static hmid, hfirst.static] at hy
    obtain ⟨-, ⟨fq, hq⟩, -⟩ := hfirst
    obtain ⟨t₁, t₂, t₃, ha⟩ := (acceptance_chain_iff
      ⟨⟨_, hbv⟩, ⟨_, hrv⟩, ⟨_, hpv⟩, ⟨fq, hq⟩, ⟨fy, hy⟩⟩).mp hmoves
    obtain ⟨z, hz, -⟩ := get_of_static hbv
    obtain ⟨hmin, hmax⟩ := hf _ p hp
    have hpayer := exists_owned hy
    have hchallenger := exists_owned hq
    rw [h.mints.2] at hpayer
    rw [h.mints.1] at hchallenger
    simp only [accepting, Nat.cast_add] at hpos hmin hmax
    refine ⟨g, x, b, p, u, v, t₁, t₂, t₃, t, ⟨hg, h.attestation, hx, hb, hp, (hw.provider _ p hp).wallet,
      hv, hu, ⟨z, hz⟩, h.vaults, h.mints, h.unpaused, h.recorded, h.receipt, h.record, h.locked⟩,
      ⟨hpayer, hchallenger, hup, hvp, ha.bondReturn, ha.reward, ha.slash, ha.refund, hpp, hpn, ?_, ?_⟩,
      hpc, ?_⟩
    · simp only
      omega
    · simp only
      omega
    · simp [accepting, reverted, Int.sub_sub]

theorem closing_iff {call : ClosingCall} {now : Int64} (hw : Wf s) (hf : PositionsFit s) :
    (call.action now).exec s = .ok s' ↔
      ∃ g z, s.config = some g ∧ call.Means now.toInt g z ∧ z.Closes now.toInt s s' := by
  cases call with
  | settle c ctx status =>
    refine (settle_closes_iff hw hf).trans ⟨?_, ?_⟩
    · rintro ⟨g, x, hg, h, hz⟩
      exact ⟨g, _, hg, .settle h, hz⟩
    · rintro ⟨g, _, hg, ⟨h⟩, hz⟩
      exact ⟨g, _, hg, h, hz⟩
  | resolve c ctx code =>
    show resolveChallengeEconomics c now.toInt ctx code.toNat s = .ok s' ↔ _
    constructor
    · intro h
      rcases resolveChallengeEconomics_code h with hcode | hcode
      · obtain ⟨g, x, b, hg, hmay, hz⟩ := (reject_closes_iff hw hf).mp (hcode ▸ h)
        exact ⟨g, _, hg, .reject hcode hmay, hz⟩
      · obtain ⟨g, x, b, hg, hmay, hz⟩ := (accept_closes_iff hcode hw hf).mp h
        exact ⟨g, _, hg, .accept hcode hmay, hz⟩
    · rintro ⟨g, z, hg, hmeans, hz⟩
      cases hmeans with
      | reject hcode hmay =>
        rw [hcode]
        exact (reject_closes_iff hw hf).mpr ⟨g, _, _, hg, hmay, hz⟩
      | accept hcode hmay => exact (accept_closes_iff hcode hw hf).mpr ⟨g, _, _, hg, hmay, hz⟩

/-! ## Any order -/

structure Steady (s : State) : Prop where
  wf : Wf s
  positionsFit : PositionsFit s

theorem Steady.exec {a : Action} (h : Steady s) (ha : a.exec s = .ok s') : Steady s' := by
  rw [← step_of_ok ha]
  exact ⟨step_wf h.wf a, (step_effect h.wf.sound a).positionsFit h.positionsFit⟩

theorem reached_steady (as : List Action) : Steady (reached as) :=
  ⟨reached_wf as, reached_positionsFit as⟩

theorem Closing.Closes.config {now : ℤ} {z : Closing} (h : z.Closes now s s') :
    s'.config = s.config := by
  cases h
  rfl

def ClosingCall.Runs (now : Int64) (call : ClosingCall) (s s' : State) : Prop :=
  (call.action now).exec s = .ok s'

/-- **Two receipts** may be closed in either order. -/
theorem closings_swap {now : Int64} {call call' : ClosingCall} (hne : call.receipt ≠ call'.receipt) :
    Swaps Steady (call.Runs now) (call'.Runs now) := by
  intro s t u hs h₁ h₂
  have ht := hs.exec h₁
  obtain ⟨g, z, hg, hz, hst⟩ := (closing_iff hs.wf hs.positionsFit).mp h₁
  obtain ⟨g', y, hg', hy, htu⟩ := (closing_iff ht.wf ht.positionsFit).mp h₂
  rw [hst.config] at hg'
  obtain rfl := Option.some.inj (hg.symm.trans hg')
  obtain ⟨t', hst', htu'⟩ := hst.swap ⟨hs.wf.sound.balanced, hs.wf.sound.custody⟩ htu
    (by rwa [hz.receipt, hy.receipt]) hz.outward (fun j b b' hb => (hz.bond hb).2)
    fun j b b' hb => (hy.bond hb).1
  have h₁' : call'.Runs now s t' :=
    (closing_iff hs.wf hs.positionsFit).mpr ⟨g, y, hg, hy, hst'⟩
  have ht' := hs.exec h₁'
  refine ⟨t', h₁', (closing_iff ht'.wf ht'.positionsFit).mpr ⟨g, z, ?_, hz, htu'⟩⟩
  rw [hst'.config, hg]

theorem chain_runs {now : Int64} {calls : List ClosingCall} :
    Chain (ClosingCall.Runs now) calls s s' ↔
      execAll s (calls.map (ClosingCall.action now)) = .ok s' := by
  induction calls generalizing s with
  | nil => rw [chain_nil, List.map_nil, execAll_nil, eq_comm]
  | cons call calls ih =>
    rw [chain_cons, List.map_cons, execAll_cons]
    simp only [ih, ClosingCall.Runs]

/-- **Order**: receipts closed at one time, one call for each, may be closed in any order: it
succeeds in one order if it does in the other, and leads to the same state. -/
theorem closing_order (as : List Action) (now : Int64) {calls calls' : List ClosingCall}
    (hperm : calls.Perm calls')
    (hdiff : calls.Pairwise fun call call' => call.receipt ≠ call'.receipt) (s' : State) :
    execAll (reached as) (calls.map (ClosingCall.action now)) = .ok s' ↔
      execAll (reached as) (calls'.map (ClosingCall.action now)) = .ok s' := by
  have hreorder : ∀ {cs cs' : List ClosingCall}, cs.Perm cs' →
      cs.Pairwise (fun call call' => call.receipt ≠ call'.receipt) →
      Chain (ClosingCall.Runs now) cs (reached as) s' →
      Chain (ClosingCall.Runs now) cs' (reached as) s' := fun hp hd =>
    Chain.perm (D := fun call call' => call.receipt ≠ call'.receipt) (fun _ _ h => h.symm)
      (fun _ _ _ hs h => hs.exec h) (fun _ _ => closings_swap) hp hd (reached_steady as)
  rw [← chain_runs, ← chain_runs]
  exact ⟨hreorder hperm hdiff,
    hreorder hperm.symm ((hperm.pairwise_iff fun h => h.symm).mp hdiff)⟩

/-- The receipt `20` of `Enforcement`, its challenge still open, and another one beside it. -/
def twoOpen : List Action := challenged 10000000 ++
  [.call everyone 5 (.recordMiningFromReceipt (recordContext 21) 500000)]

def revertFirst : ClosingCall := .resolve everyone (resolveContext 20 30) 1

def settleSecond : ClosingCall := .settle everyone (settleContext 21) 2

theorem closing_order_of_two :
    ∃ s', execAll (reached twoOpen) ([revertFirst, settleSecond].map (ClosingCall.action 6)) =
        .ok s' ∧
      execAll (reached twoOpen) ([settleSecond, revertFirst].map (ClosingCall.action 6)) = .ok s' := by
  have hsome : (execAll (reached twoOpen)
      ([revertFirst, settleSecond].map (ClosingCall.action 6))).toOption.isSome := by
    decide +kernel
  have hdiff : [revertFirst, settleSecond].Pairwise fun call call' =>
      call.receipt ≠ call'.receipt :=
    List.pairwise_pair.mpr (by decide)
  have hfirst := eq_ok_get hsome
  exact ⟨_, hfirst, (closing_order twoOpen 6 (List.Perm.swap _ _ []) hdiff _).mp hfirst⟩

end Masterpool
