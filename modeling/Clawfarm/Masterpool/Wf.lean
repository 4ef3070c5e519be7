import Clawfarm.Masterpool.Effect

/-!
# Masterpool.Wf — how the accounts hang together

`Grows` says what no step undoes: accounts are never removed, and the terms of a settlement or a
bond record never change once written; its status moves at most once.  `Wf` says that every account
names its own key and that the accounts it refers to exist.  Both hold of every run.
-/

namespace Masterpool

open Token Checked

/-- The same receipt later: its terms are unchanged, its status has left `Recorded` at most
once. -/
structure SettlementStep (x x' : ReceiptSettlement) : Prop where
  attestationReceipt : x'.attestationReceipt = x.attestationReceipt
  payerUser : x'.payerUser = x.payerUser
  providerWallet : x'.providerWallet = x.providerWallet
  usdcTotalPaid : x'.usdcTotalPaid = x.usdcTotalPaid
  usdcToProvider : x'.usdcToProvider = x.usdcToProvider
  usdcToTreasury : x'.usdcToTreasury = x.usdcToTreasury
  clawToUser : x'.clawToUser = x.clawToUser
  clawToProviderTotal : x'.clawToProviderTotal = x.clawToProviderTotal
  clawProviderDebtOffset : x'.clawProviderDebtOffset = x.clawProviderDebtOffset
  clawToProviderLocked : x'.clawToProviderLocked = x.clawToProviderLocked
  lockDaysSnapshot : x'.lockDaysSnapshot = x.lockDaysSnapshot
  status : x'.status = x.status ∨ x.status = .Recorded

/-- The same bond later: its terms are unchanged, its status has left `Locked` at most once. -/
structure BondStep (b b' : ChallengeBondRecord) : Prop where
  attestationChallenge : b'.attestationChallenge = b.attestationChallenge
  attestationReceipt : b'.attestationReceipt = b.attestationReceipt
  challenger : b'.challenger = b.challenger
  payerUser : b'.payerUser = b.payerUser
  providerWallet : b'.providerWallet = b.providerWallet
  bondAmount : b'.bondAmount = b.bondAmount
  slashClawAmountSnapshot : b'.slashClawAmountSnapshot = b.slashClawAmountSnapshot
  challengerRewardAmount : b'.challengerRewardAmount = b.challengerRewardAmount
  burnAmount : b'.burnAmount = b.burnAmount
  status : b'.status = b.status ∨ b.status = .Locked

theorem SettlementStep.refl (x : ReceiptSettlement) : SettlementStep x x :=
  ⟨rfl, rfl, rfl, rfl, rfl, rfl, rfl, rfl, rfl, rfl, rfl, Or.inl rfl⟩

theorem SettlementStep.trans {x x' x'' : ReceiptSettlement} (h : SettlementStep x x')
    (h' : SettlementStep x' x'') : SettlementStep x x'' := by
  refine ⟨h'.1.trans h.1, h'.2.trans h.2, h'.3.trans h.3, h'.4.trans h.4, h'.5.trans h.5,
    h'.6.trans h.6, h'.7.trans h.7, h'.8.trans h.8, h'.9.trans h.9, h'.10.trans h.10,
    h'.11.trans h.11, ?_⟩
  rcases h.status with e | hr
  · rw [← e]
    exact h'.status
  · exact Or.inr hr

theorem BondStep.refl (b : ChallengeBondRecord) : BondStep b b :=
  ⟨rfl, rfl, rfl, rfl, rfl, rfl, rfl, rfl, rfl, Or.inl rfl⟩

theorem BondStep.trans {b b' b'' : ChallengeBondRecord} (h : BondStep b b')
    (h' : BondStep b' b'') : BondStep b b'' := by
  refine ⟨h'.1.trans h.1, h'.2.trans h.2, h'.3.trans h.3, h'.4.trans h.4, h'.5.trans h.5,
    h'.6.trans h.6, h'.7.trans h.7, h'.8.trans h.8, h'.9.trans h.9, ?_⟩
  rcases h.status with e | hr
  · rw [← e]
    exact h'.status
  · exact Or.inr hr

/-- What no step undoes. -/
structure Grows (s s' : State) : Prop where
  providers : Store.Grows (fun _ _ => True) s.providers s'.providers
  rewards : Store.Grows (fun _ _ => True) s.rewards s'.rewards
  settlements : Store.Grows SettlementStep s.settlements s'.settlements
  bonds : Store.Grows BondStep s.bonds s'.bonds

theorem Grows.refl (s : State) : Grows s s where
  providers := .refl (fun _ => trivial) _
  rewards := .refl (fun _ => trivial) _
  settlements := .refl SettlementStep.refl _
  bonds := .refl BondStep.refl _

theorem Grows.trans {s s' s'' : State} (h : Grows s s') (h' : Grows s' s'') : Grows s s'' where
  providers := h.providers.trans (fun _ _ _ _ _ => trivial) h'.providers
  rewards := h.rewards.trans (fun _ _ _ _ _ => trivial) h'.rewards
  settlements := h.settlements.trans (fun _ _ _ h₁ h₂ => h₁.trans h₂) h'.settlements
  bonds := h.bonds.trans (fun _ _ _ h₁ h₂ => h₁.trans h₂) h'.bonds

variable {s s' : State}

/-! ### The stores that a write changes -/

theorem providers_set {m : Store Pubkey ProviderAccount} (k : Pubkey) (q : ProviderAccount) :
    Store.Grows (fun _ _ => True) m (m.set k q) :=
  Store.grows_set (fun _ => trivial) fun _ _ => trivial

theorem rewards_set {m : Store (RewardAccountKind × Pubkey) RewardAccount}
    (k : RewardAccountKind × Pubkey) (q : RewardAccount) :
    Store.Grows (fun _ _ => True) m (m.set k q) :=
  Store.grows_set (fun _ => trivial) fun _ _ => trivial

theorem rewards_set_set {m : Store (RewardAccountKind × Pubkey) RewardAccount}
    (k k' : RewardAccountKind × Pubkey) (q q' : RewardAccount) :
    Store.Grows (fun _ _ => True) m ((m.set k q).set k' q') :=
  (rewards_set k q).trans (fun _ _ _ _ _ => trivial) (rewards_set k' q')

theorem settlementStep_of_recorded {x : ReceiptSettlement} (h : x.status = .Recorded) (now₁ now₂ : ℤ)
    (st : ReceiptSettlementStatus) : SettlementStep x
      { x with rewardLockStartedAt := now₁, status := st, updatedAt := now₂ } :=
  ⟨rfl, rfl, rfl, rfl, rfl, rfl, rfl, rfl, rfl, rfl, rfl, Or.inr h⟩

theorem settlementStep_released (x : ReceiptSettlement) (n : ℕ) (tgt : ReleaseTarget) (now : ℤ) :
    SettlementStep x { x.released n tgt with updatedAt := now } := by
  cases tgt <;> exact ⟨rfl, rfl, rfl, rfl, rfl, rfl, rfl, rfl, rfl, rfl, rfl, Or.inl rfl⟩

theorem bondStep_of_locked {b : ChallengeBondRecord} (h : b.status = .Locked) (now : ℤ)
    (st : ChallengeBondStatus) : BondStep b { b with status := st, updatedAt := now } :=
  ⟨rfl, rfl, rfl, rfl, rfl, rfl, rfl, rfl, rfl, Or.inr h⟩

/-- **Frame**: no step undoes what `Grows` keeps. -/
theorem Effect.grows {a : Action} (h : Effect s a s') : Grows s s' := by
  have hrefl := Grows.refl s
  cases h with
  | failed _ => exact hrefl
  | aside _ h =>
    exact ⟨by rw [h.providers]; exact hrefl.providers, by rw [h.rewards]; exact hrefl.rewards,
      by rw [h.settlements]; exact hrefl.settlements, by rw [h.bonds]; exact hrefl.bonds⟩
  | genesis _ => exact ⟨hrefl.providers, hrefl.rewards, hrefl.settlements, hrefl.bonds⟩
  | fund _ => exact ⟨hrefl.providers, hrefl.rewards, hrefl.settlements, hrefl.bonds⟩
  | register _ => exact ⟨providers_set _ _, rewards_set _ _, hrefl.settlements, hrefl.bonds⟩
  | exit _ => exact ⟨providers_set _ _, hrefl.rewards, hrefl.settlements, hrefl.bonds⟩
  | record h =>
    exact ⟨providers_set _ _, rewards_set_set _ _ _ _,
      Store.grows_insert SettlementStep.refl h.fresh _, hrefl.bonds⟩
  | settle h =>
    exact ⟨providers_set _ _, rewards_set_set _ _ _ _, Store.grows_update SettlementStep.refl
      h.settlement (settlementStep_of_recorded h.recorded _ _ _), hrefl.bonds⟩
  | bond h =>
    exact ⟨providers_set _ _, hrefl.rewards, hrefl.settlements,
      Store.grows_insert BondStep.refl h.fresh _⟩
  | reject _ h _ _ =>
    exact ⟨providers_set _ _, hrefl.rewards, Store.grows_update SettlementStep.refl h.settlement
      (settlementStep_of_recorded h.recorded _ _ _), Store.grows_update BondStep.refl h.bond
      (bondStep_of_locked h.locked _ _)⟩
  | revert _ h _ _ =>
    exact ⟨providers_set _ _, rewards_set_set _ _ _ _, Store.grows_update SettlementStep.refl
      h.settlement (settlementStep_of_recorded h.recorded _ _ _), Store.grows_update BondStep.refl
      h.bond (bondStep_of_locked h.locked _ _)⟩
  | materialize h =>
    exact ⟨hrefl.providers, rewards_set _ _, Store.grows_update SettlementStep.refl h.settlement
      (settlementStep_released _ _ _ _), hrefl.bonds⟩
  | claim _ => exact ⟨hrefl.providers, rewards_set _ _, hrefl.settlements, hrefl.bonds⟩

/-- The config keeps what identifies the pool, and the genesis supply is minted once. -/
theorem Effect.config {a : Action} (h : Effect s a s') {g : GlobalConfig} (hg : s.config = some g) :
    ∃ g', s'.config = some g' ∧ SameIdentity g g' ∧
      (g.genesisMinted = true → g'.genesisMinted = true) := by
  have hsame : s'.config = s.config → ∃ g', s'.config = some g' ∧ SameIdentity g g' ∧
    (g.genesisMinted = true → g'.genesisMinted = true) := fun e => ⟨g, e.trans hg, .refl g, id⟩
  cases h with
  | aside _ h =>
    obtain ⟨g', hg', hid, hgen⟩ := h.config g hg
    exact ⟨g', hg', hid, fun h => hgen.trans h⟩
  | @genesis c now ctx g₀ t h =>
    obtain rfl := Option.some.inj (hg.symm.trans h.config)
    exact ⟨_, rfl, ⟨rfl, rfl, rfl, rfl, rfl, rfl, rfl, rfl, rfl⟩, fun _ => rfl⟩
  | failed _ => exact hsame rfl
  | fund _ => exact hsame rfl
  | register _ => exact hsame rfl
  | exit _ => exact hsame rfl
  | record _ => exact hsame rfl
  | settle _ => exact hsame rfl
  | bond _ => exact hsame rfl
  | reject _ _ _ _ => exact hsame rfl
  | revert _ _ _ _ => exact hsame rfl
  | materialize _ => exact hsame rfl
  | claim _ => exact hsame rfl

/-! ## Linked accounts -/

structure ProviderWf (s : State) (w : Pubkey) (p : ProviderAccount) : Prop where
  wallet : p.providerWallet = w
  outside : w ≠ poolAuthority
  reward : ∃ r, s.rewards.get (.Provider, w) = some r

structure RewardWf (k : RewardAccountKind × Pubkey) (r : RewardAccount) : Prop where
  initialized : r.initialized = true
  kind : r.rewardKind = k.1
  owner : r.owner = k.2

structure SettlementWf (s : State) (k : Pubkey) (x : ReceiptSettlement) : Prop where
  receipt : x.attestationReceipt = k
  payer : x.payerUser ≠ poolAuthority
  provider : ∃ p, s.providers.get x.providerWallet = some p
  user : ∃ r, s.rewards.get (.User, x.payerUser) = some r
  unreleased : x.status ≠ .FinalizedSettled → x.userClawReleased = 0 ∧ x.providerClawReleased = 0
  releasedUser : x.userClawReleased ≤ x.clawToUser
  releasedProvider : x.providerClawReleased ≤ x.clawToProviderLocked
  usdc : x.usdcToProvider + x.usdcToTreasury = x.usdcTotalPaid
  claw : x.clawProviderDebtOffset + x.clawToProviderLocked = x.clawToProviderTotal

structure BondWf (s : State) (k : Pubkey) (b : ChallengeBondRecord) : Prop where
  challenge : b.attestationChallenge = k
  outside : b.challenger ≠ poolAuthority
  settlement : ∃ x, s.settlements.get b.attestationReceipt = some x ∧
    b.payerUser = x.payerUser ∧ b.providerWallet = x.providerWallet
  slash : b.challengerRewardAmount + b.burnAmount = b.slashClawAmountSnapshot

structure Wf (s : State) : Prop where
  sound : Sound s
  provider : ∀ w p, s.providers.get w = some p → ProviderWf s w p
  reward : ∀ k r, s.rewards.get k = some r → RewardWf k r
  settlement : ∀ k x, s.settlements.get k = some x → SettlementWf s k x
  bond : ∀ k b, s.bonds.get k = some b → BondWf s k b

theorem wf_init : Wf .init where
  sound := sound_init
  provider _ _ h := nomatch h
  reward _ _ h := nomatch h
  settlement _ _ h := nomatch h
  bond _ _ h := nomatch h

theorem ProviderWf.grows {w : Pubkey} {p : ProviderAccount} (h : ProviderWf s w p)
    (hg : Grows s s') : ProviderWf s' w p := by
  obtain ⟨r, hr⟩ := h.reward
  obtain ⟨r', hr', -⟩ := hg.rewards _ r hr
  exact ⟨h.wallet, h.outside, r', hr'⟩

theorem SettlementWf.grows {k : Pubkey} {x : ReceiptSettlement} (h : SettlementWf s k x)
    (hg : Grows s s') : SettlementWf s' k x := by
  obtain ⟨p, hp⟩ := h.provider
  obtain ⟨p', hp', -⟩ := hg.providers _ p hp
  obtain ⟨r, hr⟩ := h.user
  obtain ⟨r', hr', -⟩ := hg.rewards _ r hr
  exact { h with provider := ⟨p', hp'⟩, user := ⟨r', hr'⟩ }

theorem BondWf.grows {k : Pubkey} {b : ChallengeBondRecord} (h : BondWf s k b)
    (hg : Grows s s') : BondWf s' k b := by
  obtain ⟨x, hx, hpay, hprov⟩ := h.settlement
  obtain ⟨x', hx', hstep⟩ := hg.settlements _ x hx
  exact { h with settlement := ⟨x', hx', hpay.trans hstep.payerUser.symm,
    hprov.trans hstep.providerWallet.symm⟩ }

/-- A settlement keeps its links when its status or its released amounts change. -/
theorem SettlementWf.step {k : Pubkey} {x x' : ReceiptSettlement} (h : SettlementWf s k x)
    (hx : SettlementStep x x')
    (hun : x'.status ≠ .FinalizedSettled → x'.userClawReleased = 0 ∧ x'.providerClawReleased = 0)
    (hu : x'.userClawReleased ≤ x'.clawToUser)
    (hp : x'.providerClawReleased ≤ x'.clawToProviderLocked) : SettlementWf s k x' where
  receipt := hx.attestationReceipt.trans h.receipt
  payer := hx.payerUser ▸ h.payer
  provider := hx.providerWallet ▸ h.provider
  user := hx.payerUser ▸ h.user
  unreleased := hun
  releasedUser := hu
  releasedProvider := hp
  usdc := by rw [hx.usdcToProvider, hx.usdcToTreasury, hx.usdcTotalPaid, h.usdc]
  claw := by
    rw [hx.clawProviderDebtOffset, hx.clawToProviderLocked, hx.clawToProviderTotal, h.claw]

theorem SettlementWf.ofRecorded {k : Pubkey} {x : ReceiptSettlement} (h : SettlementWf s k x)
    (hrec : x.status = .Recorded) (now₁ now₂ : ℤ) (st : ReceiptSettlementStatus) :
    SettlementWf s k
      { x with rewardLockStartedAt := now₁, status := st, updatedAt := now₂ } := by
  have hzero := h.unreleased (by rw [hrec]; exact fun e => nomatch e)
  exact h.step (settlementStep_of_recorded hrec now₁ now₂ st) (fun _ => hzero) h.releasedUser
    h.releasedProvider

theorem SettlementWf.ofReleased {k : Pubkey} {x : ReceiptSettlement} {n : ℕ} {tgt : ReleaseTarget}
    (h : SettlementWf s k x) (hfin : x.status = .FinalizedSettled)
    (hn : x.releasedSoFar tgt + n ≤ x.totalLocked tgt) (now : ℤ) :
    SettlementWf s k { x.released n tgt with updatedAt := now } := by
  have hstep := settlementStep_released x n tgt now
  cases tgt with
  | User => exact h.step hstep (fun hne => absurd hfin hne) hn h.releasedProvider
  | Provider => exact h.step hstep (fun hne => absurd hfin hne) h.releasedUser hn

theorem RewardWf.of_initialize {r r' : RewardAccount} {kind : RewardAccountKind} {w : Pubkey}
    {now : ℤ} (h : initializeRewardAccount r w kind now = .ok r') : RewardWf (kind, w) r' := by
  rcases initializeRewardAccount_ok h with ⟨-, rfl⟩ | ⟨hi, rfl, ho, hk⟩
  · exact ⟨rfl, rfl, rfl⟩
  · exact ⟨hi, hk, ho⟩

theorem Records.settlementWf {c : Caller MASTERPOOL_ID} {now : ℤ} {ctx : RecordMiningFromReceipt}
    {n : ℕ} {g : GlobalConfig} {pay : TokenAccount Pubkey} {p : ProviderAccount}
    {u v : RewardAccount} {t₁ t₂ : Ledger Pubkey} {x : ReceiptSettlement} (hs : Sound s)
    (h : Records c now ctx n s g pay p u v t₁ t₂ x) :
    SettlementWf (recorded now ctx s p u v t₂ x) ctx.attestationReceipt x := by
  have hx := h.settlement
  have hpay := (hs.delegated h.payer h.delegate).2
  have husdc : x.usdcToProvider + x.usdcToTreasury = x.usdcTotalPaid := by
    have hsplit := h.split
    rw [hx] at hsplit ⊢
    exact Nat.sub_add_cancel hsplit
  have hclaw : x.clawProviderDebtOffset + x.clawToProviderLocked = x.clawToProviderTotal := by
    have hdebt := h.debt
    rw [hx] at hdebt ⊢
    exact Nat.add_sub_cancel' hdebt
  have hwallet : x.providerWallet = ctx.providerAccount := by rw [hx]; exact h.wallet
  have hpayer : x.payerUser = ctx.payerUser := by rw [hx]; rfl
  refine ⟨by rw [hx]; rfl, by rw [hpayer, ← h.payerOwner]; exact hpay, ?_, ?_,
    by rw [hx]; exact fun _ => ⟨rfl, rfl⟩, by rw [hx]; exact Nat.zero_le _,
    by rw [hx]; exact Nat.zero_le _, husdc, hclaw⟩
  · rw [hwallet]
    exact ⟨_, Store.get_set_self _ _ _⟩
  · rw [hpayer]
    exact ⟨_, (Store.get_set_of_ne (by simp) _).trans (Store.get_set_self _ _ _)⟩

theorem Effect.wf {a : Action} (hw : Wf s) (hs' : Sound s') (h : Effect s a s') : Wf s' := by
  have hg := h.grows
  have hprovider : ∀ w p, ProviderWf s w p → ProviderWf s' w p := fun _ _ h => h.grows hg
  have hsettlement : ∀ k x, SettlementWf s k x → SettlementWf s' k x := fun _ _ h => h.grows hg
  have hbond : ∀ k b, BondWf s k b → BondWf s' k b := fun _ _ h => h.grows hg
  have hproviders := fun w p hp => hprovider w p (hw.provider w p hp)
  have hsettlements := fun k x hx => hsettlement k x (hw.settlement k x hx)
  have hbonds := fun k b hb => hbond k b (hw.bond k b hb)
  cases h with
  | failed _ => exact hw
  | aside _ h =>
    exact ⟨hs', by rw [h.providers]; exact hproviders, by rw [h.rewards]; exact hw.reward,
      by rw [h.settlements]; exact hsettlements, by rw [h.bonds]; exact hbonds⟩
  | genesis _ => exact ⟨hs', hproviders, hw.reward, hsettlements, hbonds⟩
  | fund _ => exact ⟨hs', hproviders, hw.reward, hsettlements, hbonds⟩
  | register h =>
    refine ⟨hs', Store.forall_set hw.provider hprovider ⟨rfl, signer_ne_poolAuthority h.signed, _,
      Store.get_set_self _ _ _⟩, Store.forall_set hw.reward (fun _ _ => id) ⟨rfl, rfl, rfl⟩, hsettlements,
      hbonds⟩
  | exit h =>
    have hp := hprovider _ _ (hw.provider _ _ h.provider)
    exact ⟨hs', Store.forall_set hw.provider hprovider ⟨h.wallet, hp.outside, hp.reward⟩, hw.reward,
      hsettlements, hbonds⟩
  | record h =>
    have hp := hprovider _ _ (hw.provider _ _ h.provider)
    obtain ⟨v₀, -, hv⟩ := h.providerReward
    have hu := RewardWf.of_initialize h.userReward
    have hv := RewardWf.of_initialize hv
    exact ⟨hs', Store.forall_set hw.provider hprovider ⟨h.wallet, hp.outside, hp.reward⟩,
      Store.forall_set (Store.forall_set hw.reward (fun _ _ => id) ⟨hu.1, hu.2, hu.3⟩) (fun _ _ => id)
        ⟨hv.1, hv.2, hv.3⟩,
      Store.forall_set hw.settlement hsettlement (h.settlementWf hw.sound), hbonds⟩
  | settle h =>
    have hp := hprovider _ _ (hw.provider _ _ h.provider)
    have hu := hw.reward _ _ h.userReward
    have hv := hw.reward _ _ h.providerReward
    exact ⟨hs', Store.forall_set hw.provider hprovider ⟨h.wallet, hp.outside, hp.reward⟩,
      Store.forall_set (Store.forall_set hw.reward (fun _ _ => id) ⟨hu.1, hu.2, hu.3⟩) (fun _ _ => id)
        ⟨hv.1, hv.2, hv.3⟩,
      Store.forall_set hw.settlement hsettlement
        ((hsettlements _ _ h.settlement).ofRecorded h.recorded _ _ _), hbonds⟩
  | bond h =>
    have hp := hprovider _ _ (hw.provider _ _ h.provider)
    refine ⟨hs', Store.forall_set hw.provider hprovider ⟨h.wallet, hp.outside, hp.reward⟩, hw.reward,
      hsettlements, Store.forall_set hw.bond hbond ?_⟩
    have hsplit := h.split
    rw [h.record] at hsplit ⊢
    exact ⟨rfl, signer_ne_poolAuthority h.signed, ⟨_, h.settlement, rfl, rfl⟩,
      Nat.add_sub_cancel' hsplit⟩
  | reject _ h _ _ =>
    have hp := hprovider _ _ (hw.provider _ _ h.provider)
    have hb := hbonds _ _ h.bond
    exact ⟨hs', Store.forall_set hw.provider hprovider ⟨h.wallet, hp.outside, hp.reward⟩, hw.reward,
      Store.forall_set hw.settlement hsettlement
        ((hsettlements _ _ h.settlement).ofRecorded h.recorded _ _ _),
      Store.forall_set hw.bond hbond ⟨hb.1, hb.2, hb.3, hb.4⟩⟩
  | revert _ h _ _ =>
    have hp := hprovider _ _ (hw.provider _ _ h.provider)
    have hu := hw.reward _ _ h.userReward
    have hv := hw.reward _ _ h.providerReward
    have hb := hbonds _ _ h.bond
    exact ⟨hs', Store.forall_set hw.provider hprovider ⟨h.wallet, hp.outside, hp.reward⟩,
      Store.forall_set (Store.forall_set hw.reward (fun _ _ => id) ⟨hu.1, hu.2, hu.3⟩) (fun _ _ => id)
        ⟨hv.1, hv.2, hv.3⟩,
      Store.forall_set hw.settlement hsettlement
        ((hsettlements _ _ h.settlement).ofRecorded h.recorded _ _ _),
      Store.forall_set hw.bond hbond ⟨hb.1, hb.2, hb.3, hb.4⟩⟩
  | materialize h =>
    have hr := hw.reward _ _ h.reward
    obtain ⟨m, hm, hle⟩ := h.vested
    have hmax := computeLinearReleasableAmount_ok hm
    exact ⟨hs', hproviders, Store.forall_set hw.reward (fun _ _ => id) ⟨hr.1, hr.2, hr.3⟩,
      Store.forall_set hw.settlement hsettlement
        ((hsettlements _ _ h.settlement).ofReleased h.finalized (by omega) _), hbonds⟩
  | claim h =>
    have hr := hw.reward _ _ h.reward
    exact ⟨hs', hproviders, Store.forall_set hw.reward (fun _ _ => id) ⟨hr.1, hr.2, hr.3⟩, hsettlements,
      hbonds⟩

/-! ## Over runs -/

theorem step_wf (hw : Wf s) (a : Action) : Wf (step s a) :=
  (step_effect hw.sound a).wf hw (step_sound hw.sound a)

theorem step_grows (hw : Wf s) (a : Action) : Grows s (step s a) :=
  (step_effect hw.sound a).grows

theorem run_wf (hw : Wf s) (as : List Action) : Wf (Machine.run step s as) :=
  Machine.run_induction (P := Wf) (fun _ a h => step_wf h a) hw as

theorem reached_wf (as : List Action) : Wf (reached as) := run_wf wf_init as

theorem run_grows (hw : Wf s) (as : List Action) : Grows s (Machine.run step s as) :=
  Machine.run_relation_of_inv (P := Wf) (fun _ a h => step_wf h a) Grows.refl
    (fun _ _ _ => Grows.trans) (fun _ a h => step_grows h a) hw as

end Masterpool
