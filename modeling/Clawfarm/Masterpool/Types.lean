import Clawfarm.Masterpool.Effect

/-!
# Masterpool.Types — stored numbers stay in their machine types

The accounts of the model keep naturals and integers.  `Typed` says that every number of every
account is one that the field of the source can hold, so that nothing is ever cut off when an
account is written; every instruction keeps it.
-/

namespace Masterpool

open Token Checked

def IsU8 (n : ℕ) : Prop := n < 2 ^ 8

def IsU16 (n : ℕ) : Prop := n < 2 ^ 16

def IsU64 (n : ℕ) : Prop := n < u64Bound

def IsI64 (z : ℤ) : Prop := i64Min ≤ z ∧ z ≤ i64Max

def IsI128 (z : ℤ) : Prop := i128Min ≤ z ∧ z ≤ i128Max

theorem isU16_toNat (n : UInt16) : IsU16 n.toNat := n.toNat_lt

theorem isU64_toNat (n : UInt64) : IsU64 n.toNat := n.toNat_lt

theorem isI64_toInt (t : Int64) : IsI64 t.toInt := by
  have hlo := t.le_toInt
  have hhi := t.toInt_lt
  exact ⟨hlo, Int.le_sub_one_of_lt hhi⟩

theorem isU64_zero : IsU64 0 := Nat.two_pow_pos 64

theorem isI64_zero : IsI64 0 := by
  unfold IsI64 i64Min i64Max
  omega

theorem isI128_zero : IsI128 0 := by
  unfold IsI128 i128Min i128Max
  omega

theorem IsU64.of_le {m n : ℕ} (h : IsU64 n) (hle : m ≤ n) : IsU64 m := hle.trans_lt h

/-- Division towards zero does not leave the type. -/
theorem IsI64.currentDayIndex {t : ℤ} (h : IsI64 t) : IsI64 (currentDayIndex t) := by
  have habs := Int.natAbs_tdiv_le_natAbs t SECONDS_PER_UTC_DAY
  have hlt : (t.tdiv SECONDS_PER_UTC_DAY).natAbs < 2 ^ 63 := by
    rcases lt_or_ge t 0 with hneg | hpos
    · -- the least time is not its own quotient
      rw [Int.natAbs_tdiv]
      refine lt_of_le_of_lt (Nat.div_le_div_right (c := SECONDS_PER_UTC_DAY.natAbs)
        (b := 2 ^ 63) ?_) (by decide)
      have := h.1
      unfold i64Min at this
      omega
    · have := h.2
      unfold i64Max at this
      omega
  unfold IsI64 i64Min i64Max Masterpool.currentDayIndex
  omega

/-! ## Accounts -/

structure GlobalConfig.Typed (g : GlobalConfig) : Prop where
  version : IsU8 g.version
  exchangeRateClawPerUsdcE6 : IsU64 g.exchangeRateClawPerUsdcE6
  providerStakeUsdc : IsU64 g.providerStakeUsdc
  providerUsdcShareBps : IsU16 g.providerUsdcShareBps
  treasuryUsdcShareBps : IsU16 g.treasuryUsdcShareBps
  userClawShareBps : IsU16 g.userClawShareBps
  providerClawShareBps : IsU16 g.providerClawShareBps
  lockDays : IsU16 g.lockDays
  providerSlashClawAmount : IsU64 g.providerSlashClawAmount
  challengerRewardBps : IsU16 g.challengerRewardBps
  burnBps : IsU16 g.burnBps
  challengeBondClawAmount : IsU64 g.challengeBondClawAmount
  createdAt : IsI64 g.createdAt
  updatedAt : IsI64 g.updatedAt

structure ProviderAccount.Typed (p : ProviderAccount) : Prop where
  stakedUsdcAmount : IsU64 p.stakedUsdcAmount
  pendingProviderUsdc : IsU64 p.pendingProviderUsdc
  clawNetPosition : IsI128 p.clawNetPosition
  unsettledReceiptCount : IsU64 p.unsettledReceiptCount
  unresolvedChallengeCount : IsU64 p.unresolvedChallengeCount
  createdAt : IsI64 p.createdAt
  updatedAt : IsI64 p.updatedAt

structure RewardAccount.Typed (r : RewardAccount) : Prop where
  pendingClawTotal : IsU64 r.pendingClawTotal
  lockedClawTotal : IsU64 r.lockedClawTotal
  releasedClawTotal : IsU64 r.releasedClawTotal
  claimedClawTotal : IsU64 r.claimedClawTotal
  createdAt : IsI64 r.createdAt
  updatedAt : IsI64 r.updatedAt

structure ReceiptSettlement.Typed (x : ReceiptSettlement) : Prop where
  usdcTotalPaid : IsU64 x.usdcTotalPaid
  usdcToProvider : IsU64 x.usdcToProvider
  usdcToTreasury : IsU64 x.usdcToTreasury
  clawToUser : IsU64 x.clawToUser
  clawToProviderTotal : IsU64 x.clawToProviderTotal
  clawProviderDebtOffset : IsU64 x.clawProviderDebtOffset
  clawToProviderLocked : IsU64 x.clawToProviderLocked
  lockDaysSnapshot : IsU16 x.lockDaysSnapshot
  rewardLockStartedAt : IsI64 x.rewardLockStartedAt
  userClawReleased : IsU64 x.userClawReleased
  providerClawReleased : IsU64 x.providerClawReleased
  createdAt : IsI64 x.createdAt
  updatedAt : IsI64 x.updatedAt

structure ChallengeBondRecord.Typed (b : ChallengeBondRecord) : Prop where
  bondAmount : IsU64 b.bondAmount
  slashClawAmountSnapshot : IsU64 b.slashClawAmountSnapshot
  challengerRewardBpsSnapshot : IsU16 b.challengerRewardBpsSnapshot
  burnBpsSnapshot : IsU16 b.burnBpsSnapshot
  challengerRewardAmount : IsU64 b.challengerRewardAmount
  burnAmount : IsU64 b.burnAmount
  createdAt : IsI64 b.createdAt
  updatedAt : IsI64 b.updatedAt

structure FaucetConfig.Typed (f : FaucetConfig) : Prop where
  maxClawPerClaim : IsU64 f.maxClawPerClaim
  maxUsdcPerClaim : IsU64 f.maxUsdcPerClaim
  maxClawPerWalletPerDay : IsU64 f.maxClawPerWalletPerDay
  maxUsdcPerWalletPerDay : IsU64 f.maxUsdcPerWalletPerDay
  maxClawGlobalPerDay : IsU64 f.maxClawGlobalPerDay
  maxUsdcGlobalPerDay : IsU64 f.maxUsdcGlobalPerDay
  createdAt : IsI64 f.createdAt
  updatedAt : IsI64 f.updatedAt

structure FaucetGlobalState.Typed (gl : FaucetGlobalState) : Prop where
  currentDayIndex : IsI64 gl.currentDayIndex
  clawClaimedToday : IsU64 gl.clawClaimedToday
  usdcClaimedToday : IsU64 gl.usdcClaimedToday
  updatedAt : IsI64 gl.updatedAt

structure FaucetUserState.Typed (u : FaucetUserState) : Prop where
  currentDayIndex : IsI64 u.currentDayIndex
  clawClaimedToday : IsU64 u.clawClaimedToday
  usdcClaimedToday : IsU64 u.usdcClaimedToday
  createdAt : IsI64 u.createdAt
  updatedAt : IsI64 u.updatedAt

structure Typed (s : State) : Prop where
  config : ∀ g, s.config = some g → g.Typed
  providers : ∀ w p, s.providers.get w = some p → p.Typed
  rewards : ∀ k r, s.rewards.get k = some r → r.Typed
  settlements : ∀ k x, s.settlements.get k = some x → x.Typed
  bonds : ∀ k b, s.bonds.get k = some b → b.Typed
  faucetConfig : ∀ f, s.faucetConfig = some f → f.Typed
  faucetGlobalState : ∀ gl, s.faucetGlobalState = some gl → gl.Typed
  faucetUserStates : ∀ k u, s.faucetUserStates.get k = some u → u.Typed

theorem typed_init : Typed .init where
  config _ h := nomatch h
  providers _ _ h := nomatch h
  rewards _ _ h := nomatch h
  settlements _ _ h := nomatch h
  bonds _ _ h := nomatch h
  faucetConfig _ h := nomatch h
  faucetGlobalState _ h := nomatch h
  faucetUserStates _ _ h := nomatch h

variable {c : Caller MASTERPOOL_ID} {now : ℤ} {s s' : State}

/-! ## Configuration -/

theorem applyPhase1Params_typed {g : GlobalConfig} (params : Phase1ConfigParams)
    (hv : IsU8 g.version) (hc : IsI64 g.createdAt) (hu : IsI64 g.updatedAt) :
    (applyPhase1Params g params).Typed where
  version := hv
  exchangeRateClawPerUsdcE6 := isU64_toNat _
  providerStakeUsdc := isU64_toNat _
  providerUsdcShareBps := isU16_toNat _
  treasuryUsdcShareBps := isU16_toNat _
  userClawShareBps := isU16_toNat _
  providerClawShareBps := isU16_toNat _
  lockDays := isU16_toNat _
  providerSlashClawAmount := isU64_toNat _
  challengerRewardBps := isU16_toNat _
  burnBps := isU16_toNat _
  challengeBondClawAmount := isU64_toNat _
  createdAt := hc
  updatedAt := hu

theorem applyFaucetLimits_typed {f : FaucetConfig} (limits : FaucetLimits)
    (hc : IsI64 f.createdAt) (hu : IsI64 f.updatedAt) : (applyFaucetLimits f limits).Typed where
  maxClawPerClaim := isU64_toNat _
  maxUsdcPerClaim := isU64_toNat _
  maxClawPerWalletPerDay := isU64_toNat _
  maxUsdcPerWalletPerDay := isU64_toNat _
  maxClawGlobalPerDay := isU64_toNat _
  maxUsdcGlobalPerDay := isU64_toNat _
  createdAt := hc
  updatedAt := hu

/-! ## Receipts -/

theorem RewardAccount.typed_zeroed : RewardAccount.zeroed.Typed :=
  ⟨isU64_zero, isU64_zero, isU64_zero, isU64_zero, isI64_zero, isI64_zero⟩

theorem initializeRewardAccount_typed {r r' : RewardAccount} {owner : Pubkey}
    {kind : RewardAccountKind} (hr : r.Typed) (hnow : IsI64 now)
    (h : initializeRewardAccount r owner kind now = .ok r') : r'.Typed := by
  rcases initializeRewardAccount_ok h with ⟨-, rfl⟩ | ⟨-, rfl, -⟩
  · exact ⟨isU64_zero, isU64_zero, isU64_zero, isU64_zero, hnow, hnow⟩
  · exact hr

theorem bookProviderReward_typed {r r' : RewardAccount} {n : ℕ} (hr : r.Typed) (hnow : IsI64 now)
    (h : bookProviderReward r n now = .ok r') : r'.Typed := by
  unfold bookProviderReward at h
  split_ifs at h with hn
  · simp only [bind_eq_ok, checkedAddU64_eq_ok, exists_result, pure_eq_ok] at h
    obtain ⟨hfits, rfl⟩ := h
    exact { hr with pendingClawTotal := hfits, updatedAt := hnow }
  · obtain rfl := Except.ok.inj h
    exact hr

theorem Typed.rewardAccountOrNew (hs : Typed s) (k : RewardAccountKind × Pubkey) :
    (s.rewardAccountOrNew k).Typed := by
  unfold State.rewardAccountOrNew
  cases hr : s.rewards.get k with
  | none => exact RewardAccount.typed_zeroed
  | some r => exact hs.rewards k r hr

theorem record_typed {ctx : RecordMiningFromReceipt} {n : ℕ} (hs : Typed s) (hnow : IsI64 now)
    (h : recordMiningFromReceipt c now ctx n s = .ok s') : Typed s' := by
  simp only [recordMiningFromReceipt, bind_eq_ok, load_eq_ok, constraint_eq_ok, sign_eq_ok,
    ensure_eq_ok, tokenAccount_eq_ok, mintAccount_eq_ok, vacant_eq_ok,
    requireAttestationCaller_eq_ok, validateSupportedReceiptCharge, requireTokenOwner_eq_ok,
    requireTokenMint_eq_ok, calculateBpsAmount_eq_ok, calculateClawAmount_eq_ok,
    checkedSubU64_eq_ok, checkedAddU64_eq_ok, checkedAddI128_eq_ok, cpi_eq_ok, exists_unit,
    exists_result, pure_eq_ok] at h
  obtain ⟨g, hg, -, -, -, -, -, -, p, hp, -, v₀, hv₀, -, -, -, -, -, -, -, -, -, -, -, -, -, hmax, -,
    -, -, -, -, htreasury, -, -, -, -, -, htotal, huser, -, u, hu, v, hv, hup, hdebt, v', hv',
    hposition, hpending, hcount, rfl⟩ := h
  have hn : IsU64 n := hmax.trans_lt (by decide)
  have hold := hs.providers _ p hp
  have hprovider : IsU64 (n * g.exchangeRateClawPerUsdcE6 / RATE_SCALE -
      n * g.exchangeRateClawPerUsdcE6 / RATE_SCALE * g.userClawShareBps / BPS_SCALE) :=
    IsU64.of_le htotal (Nat.sub_le _ _)
  have hu' := initializeRewardAccount_typed (hs.rewardAccountOrNew _) hnow hu
  have hv'' := bookProviderReward_typed
    (initializeRewardAccount_typed (hs.rewards _ _ hv₀) hnow hv) hnow hv'
  refine { hs with providers := ?_, rewards := ?_, settlements := ?_ }
  · refine Store.forall_set hs.providers (fun _ _ => id) ?_
    exact { hold with
      clawNetPosition := hposition
      pendingProviderUsdc := hpending
      unsettledReceiptCount := hcount
      updatedAt := hnow }
  · refine Store.forall_set (Store.forall_set hs.rewards (fun _ _ => id) ?_) (fun _ _ => id) hv''
    exact { hu' with pendingClawTotal := hup, updatedAt := hnow }
  · refine Store.forall_set hs.settlements (fun _ _ => id) ?_
    exact {
      usdcTotalPaid := hn
      usdcToProvider := hn.of_le (Nat.sub_le _ _)
      usdcToTreasury := htreasury
      clawToUser := huser
      clawToProviderTotal := hprovider
      clawProviderDebtOffset := hprovider.of_le hdebt
      clawToProviderLocked := hprovider.of_le (Nat.sub_le _ _)
      lockDaysSnapshot := (hs.config g hg).lockDays
      rewardLockStartedAt := isI64_zero
      userClawReleased := isU64_zero
      providerClawReleased := isU64_zero
      createdAt := hnow
      updatedAt := hnow }

theorem settle_typed {ctx : SettleFinalizedReceipt} {status : ℕ} (hs : Typed s) (hnow : IsI64 now)
    (h : settleFinalizedReceipt c now ctx status s = .ok s') : Typed s' := by
  obtain ⟨g, x, p, u, v, t, hset, rfl⟩ := settleFinalizedReceipt_ok.mp h
  have hx := hs.settlements _ x hset.settlement
  have hp := hs.providers _ p hset.provider
  have hu := hs.rewards _ u hset.userReward
  have hv := hs.rewards _ v hset.providerReward
  refine { hs with providers := ?_, rewards := ?_, settlements := ?_ }
  · refine Store.forall_set hs.providers (fun _ _ => id) ?_
    exact { hp with
      pendingProviderUsdc := hp.pendingProviderUsdc.of_le (Nat.sub_le _ _)
      unsettledReceiptCount := hp.unsettledReceiptCount.of_le (Nat.sub_le _ _)
      updatedAt := hnow }
  · refine Store.forall_set (Store.forall_set hs.rewards (fun _ _ => id) ?_) (fun _ _ => id) ?_
    · exact { hu with
        pendingClawTotal := hu.pendingClawTotal.of_le (Nat.sub_le _ _)
        lockedClawTotal := hset.userFits
        updatedAt := hnow }
    · exact { hv with
        pendingClawTotal := hv.pendingClawTotal.of_le (Nat.sub_le _ _)
        lockedClawTotal := hset.providerFits
        updatedAt := hnow }
  · refine Store.forall_set hs.settlements (fun _ _ => id) ?_
    exact { hx with rewardLockStartedAt := hnow, updatedAt := hnow }

/-! ## Providers -/

theorem register_typed {ctx : RegisterProvider} (hs : Typed s) (hnow : IsI64 now)
    (h : registerProvider c now ctx s = .ok s') : Typed s' := by
  obtain ⟨g, t, hreg, rfl⟩ := registerProvider_ok h
  refine { hs with providers := ?_, rewards := ?_ }
  · refine Store.forall_set hs.providers (fun _ _ => id) ?_
    exact ⟨(hs.config g hreg.config).providerStakeUsdc, isU64_zero, isI128_zero, isU64_zero,
      isU64_zero, hnow, hnow⟩
  · refine Store.forall_set hs.rewards (fun _ _ => id) ?_
    exact ⟨isU64_zero, isU64_zero, isU64_zero, isU64_zero, hnow, hnow⟩

theorem exit_typed {ctx : ExitProvider} (hs : Typed s) (hnow : IsI64 now)
    (h : exitProvider c now ctx s = .ok s') : Typed s' := by
  obtain ⟨g, p, t, hex, rfl⟩ := exitProvider_ok h
  refine { hs with providers := Store.forall_set hs.providers (fun _ _ => id) ?_ }
  exact { hs.providers _ p hex.provider with stakedUsdcAmount := isU64_zero, updatedAt := hnow }

/-! ## Challenges -/

theorem bond_typed {ctx : RecordChallengeBond} (hs : Typed s) (hnow : IsI64 now)
    (h : recordChallengeBond c now ctx s = .ok s') : Typed s' := by
  simp only [recordChallengeBond, bind_eq_ok, load_eq_ok, constraint_eq_ok, sign_eq_ok,
    ensure_eq_ok, tokenAccount_eq_ok, mintAccount_eq_ok, vacant_eq_ok,
    requireAttestationCaller_eq_ok, requireTokenOwner_eq_ok, requireTokenMint_eq_ok,
    calculateBpsAmount_eq_ok, checkedSubU64_eq_ok, checkedAddU64_eq_ok, cpi_eq_ok, exists_unit,
    exists_result, pure_eq_ok] at h
  obtain ⟨g, hg, -, -, -, -, -, x, -, p, hp, -, -, -, -, -, -, -, -, -, -, -, t, -, hreward, -,
    hcount, rfl⟩ := h
  have hgt := hs.config g hg
  refine { hs with providers := ?_, bonds := ?_ }
  · refine Store.forall_set hs.providers (fun _ _ => id) ?_
    exact { hs.providers _ p hp with unresolvedChallengeCount := hcount, updatedAt := hnow }
  · refine Store.forall_set hs.bonds (fun _ _ => id) ?_
    exact {
      bondAmount := hgt.challengeBondClawAmount
      slashClawAmountSnapshot := hgt.providerSlashClawAmount
      challengerRewardBpsSnapshot := hgt.challengerRewardBps
      burnBpsSnapshot := hgt.burnBps
      challengerRewardAmount := hreward
      burnAmount := hgt.providerSlashClawAmount.of_le (Nat.sub_le _ _)
      createdAt := hnow
      updatedAt := hnow }

theorem reject_typed {ctx : ResolveChallengeEconomics}
    {g : GlobalConfig} {x : ReceiptSettlement} {b : ChallengeBondRecord} {p : ProviderAccount}
    {u v : RewardAccount} (t : Ledger Pubkey) (hs : Typed s) (hnow : IsI64 now)
    (h : Resolves c ctx s g x b p u v) : Typed (rejected now ctx s x b p t) := by
  have hp := hs.providers _ p h.provider
  refine { hs with providers := ?_, settlements := ?_, bonds := ?_ }
  · refine Store.forall_set hs.providers (fun _ _ => id) ?_
    exact { hp with
      unresolvedChallengeCount := hp.unresolvedChallengeCount.of_le (Nat.sub_le _ _)
      updatedAt := hnow }
  · refine Store.forall_set hs.settlements (fun _ _ => id) ?_
    exact { hs.settlements _ x h.settlement with updatedAt := hnow }
  · refine Store.forall_set hs.bonds (fun _ _ => id) ?_
    exact { hs.bonds _ b h.bond with updatedAt := hnow }

theorem revert_typed {ctx : ResolveChallengeEconomics}
    {g : GlobalConfig} {x : ReceiptSettlement} {b : ChallengeBondRecord} {p : ProviderAccount}
    {u v : RewardAccount} {t₁ t₂ t₃ t₄ : Ledger Pubkey} (hs : Typed s) (hnow : IsI64 now)
    (h : Resolves c ctx s g x b p u v) (ha : Accepts g ctx ⟨s.tokens, x, b, p, u, v⟩ t₁ t₂ t₃ t₄) :
    Typed (reverted now ctx s x b p u v t₄) := by
  have hp := hs.providers _ p h.provider
  have hu := hs.rewards _ u h.userReward
  have hv := hs.rewards _ v h.providerReward
  refine { hs with providers := ?_, rewards := ?_, settlements := ?_, bonds := ?_ }
  · refine Store.forall_set hs.providers (fun _ _ => id) ?_
    exact { hp with
      pendingProviderUsdc := hp.pendingProviderUsdc.of_le (Nat.sub_le _ _)
      clawNetPosition := ha.slashed
      unsettledReceiptCount := hp.unsettledReceiptCount.of_le (Nat.sub_le _ _)
      unresolvedChallengeCount := hp.unresolvedChallengeCount.of_le (Nat.sub_le _ _)
      updatedAt := hnow }
  · refine Store.forall_set (Store.forall_set hs.rewards (fun _ _ => id) ?_) (fun _ _ => id) ?_
    · exact { hu with pendingClawTotal := hu.pendingClawTotal.of_le (Nat.sub_le _ _) }
    · exact { hv with pendingClawTotal := hv.pendingClawTotal.of_le (Nat.sub_le _ _) }
  · refine Store.forall_set hs.settlements (fun _ _ => id) ?_
    exact { hs.settlements _ x h.settlement with updatedAt := hnow }
  · refine Store.forall_set hs.bonds (fun _ _ => id) ?_
    exact { hs.bonds _ b h.bond with updatedAt := hnow }

theorem resolve_typed {ctx : ResolveChallengeEconomics} {code : ℕ} (hs : Typed s) (hnow : IsI64 now)
    (h : resolveChallengeEconomics c now ctx code s = .ok s') : Typed s' := by
  rcases resolveChallengeEconomics_code h with rfl | hcode
  · obtain ⟨g, x, b, p, u, v, t, hres, -, -, rfl⟩ := resolveChallengeEconomics_rejecting h
    exact reject_typed t hs hnow hres
  · obtain ⟨g, x, b, p, u, v, t₁, t₂, t₃, t₄, hres, ha, -, rfl⟩ :=
      (resolveChallengeEconomics_accepting hcode).mp h
    exact revert_typed hs hnow hres ha

/-! ## Rewards -/

theorem addReleased_typed {x x' : ReceiptSettlement} {target : ReleaseTarget} {n : ℕ}
    (hx : x.Typed) (h : x.addReleased target n = .ok x') : x'.Typed := by
  cases target <;>
    simp only [ReceiptSettlement.addReleased, bind_eq_ok, checkedAddU64_eq_ok, exists_result,
      pure_eq_ok] at h <;>
    obtain ⟨hfits, rfl⟩ := h
  · exact { hx with userClawReleased := hfits }
  · exact { hx with providerClawReleased := hfits }

theorem materialize_typed {ctx : MaterializeRewardRelease} {target n : ℕ} (hs : Typed s)
    (hnow : IsI64 now) (h : materializeRewardRelease c now ctx target n s = .ok s') : Typed s' := by
  simp only [materializeRewardRelease, bind_eq_ok, load_eq_ok, sign_eq_ok, ensure_eq_ok,
    checkedSubU64_eq_ok, checkedAddU64_eq_ok, exists_unit, exists_result, pure_eq_ok] at h
  obtain ⟨-, -, -, -, r, hr, x, hx, -, tgt, -, -, -, n', -, -, -, -, -, -, hreleased, x', hx',
    rfl⟩ := h
  have hrt := hs.rewards _ r hr
  refine { hs with rewards := ?_, settlements := ?_ }
  · refine Store.forall_set hs.rewards (fun _ _ => id) ?_
    exact { hrt with
      lockedClawTotal := hrt.lockedClawTotal.of_le (Nat.sub_le _ _)
      releasedClawTotal := hreleased
      updatedAt := hnow }
  · refine Store.forall_set hs.settlements (fun _ _ => id) ?_
    exact { addReleased_typed (hs.settlements _ x hx) hx' with updatedAt := hnow }

theorem claim_typed {ctx : ClaimReleasedClaw} (hs : Typed s) (hnow : IsI64 now)
    (h : claimReleasedClaw c now ctx s = .ok s') : Typed s' := by
  obtain ⟨g, r, t, hclaim, rfl⟩ := claimReleasedClaw_ok h
  have hr := hs.rewards _ r hclaim.reward
  refine { hs with rewards := Store.forall_set hs.rewards (fun _ _ => id) ?_ }
  exact { hr with claimedClawTotal := hr.releasedClawTotal, updatedAt := hnow }

/-! ## The faucet -/

theorem initializeOrResetUserIfNeeded_typed {st u : FaucetUserState} {owner : Pubkey} {day : ℤ}
    (hst : st.Typed) (hday : IsI64 day) (hnow : IsI64 now)
    (h : initializeOrResetUserIfNeeded st owner day now = .ok u) : u.Typed := by
  unfold initializeOrResetUserIfNeeded at h
  by_cases howner : st.owner = .default
  · rw [if_pos howner] at h
    obtain rfl := Except.ok.inj h
    exact ⟨hday, isU64_zero, isU64_zero, hnow, hnow⟩
  · simp only [if_neg howner, bind_eq_ok, ensure_eq_ok, exists_unit, pure_eq_ok] at h
    obtain ⟨-, rfl⟩ := h
    split_ifs
    · exact { hst with
        currentDayIndex := hday
        clawClaimedToday := isU64_zero
        usdcClaimedToday := isU64_zero
        updatedAt := hnow }
    · exact hst

theorem resetGlobalIfNeeded_typed {gl : FaucetGlobalState} {day : ℤ} (hgl : gl.Typed)
    (hday : IsI64 day) (hnow : IsI64 now) : (resetGlobalIfNeeded gl day now).Typed := by
  unfold resetGlobalIfNeeded
  split_ifs
  · exact ⟨hday, isU64_zero, isU64_zero, hnow⟩
  · exact hgl

theorem claimFaucet_typed {ctx : ClaimFaucet} {claw usdc : ℕ} (hs : Typed s) (hnow : IsI64 now)
    (h : claimFaucet c now ctx claw usdc s = .ok s') : Typed s' := by
  obtain ⟨f, gl, u, t₁, t₂, hpays, rfl⟩ := claimFaucet_ok h
  obtain ⟨gl₀, hgl₀, rfl⟩ := hpays.global
  have hf := hs.faucetConfig f hpays.faucet
  have hgl := resetGlobalIfNeeded_typed (hs.faucetGlobalState gl₀ hgl₀) hnow.currentDayIndex hnow
  have hst : ((s.faucetUserStates.get ctx.user).getD .zeroed).Typed := by
    cases hu : s.faucetUserStates.get ctx.user with
    | none => exact ⟨isI64_zero, isU64_zero, isU64_zero, isI64_zero, isI64_zero⟩
    | some st => exact hs.faucetUserStates _ st hu
  have hu := initializeOrResetUserIfNeeded_typed hst hnow.currentDayIndex hnow hpays.user
  refine { hs with faucetGlobalState := fun gl' hgl' => ?_, faucetUserStates := ?_ }
  · obtain rfl := Option.some.inj hgl'
    exact { hgl with
      clawClaimedToday := hf.maxClawGlobalPerDay.of_le hpays.globally.1
      usdcClaimedToday := hf.maxUsdcGlobalPerDay.of_le hpays.globally.2
      updatedAt := hnow }
  · refine Store.forall_set hs.faucetUserStates (fun _ _ => id) ?_
    exact { hu with
      clawClaimedToday := hf.maxClawPerWalletPerDay.of_le hpays.perWallet.1
      usdcClaimedToday := hf.maxUsdcPerWalletPerDay.of_le hpays.perWallet.2
      updatedAt := hnow }

/-! ## Runs -/

theorem Typed.withTokens (hs : Typed s) (t : Ledger Pubkey) : Typed { s with tokens := t } :=
  ⟨hs.config, hs.providers, hs.rewards, hs.settlements, hs.bonds, hs.faucetConfig,
    hs.faucetGlobalState, hs.faucetUserStates⟩

theorem exec_typed {i : Instruction} (hs : Typed s) (hnow : IsI64 now)
    (h : exec c now s i = .ok s') : Typed s' := by
  cases i with
  | initializeMasterpool ctx params =>
    obtain ⟨-, -, -, -, -, -, -, -, -, -, -, -, -, -, -, -, -, -, rfl⟩ := initializeMasterpool_ok h
    refine { hs with config := fun g hg => ?_ }
    obtain rfl := Option.some.inj hg
    exact applyPhase1Params_typed params (by decide : 1 < 2 ^ 8) hnow hnow
  | mintGenesisSupply ctx =>
    obtain ⟨g, -, -, -, hg, -, -, -, -, -, -, rfl⟩ := mintGenesisSupply_ok h
    refine { hs with config := fun g' hg' => ?_ }
    obtain rfl := Option.some.inj hg'
    exact { hs.config g hg with updatedAt := hnow }
  | updateConfig ctx params =>
    obtain ⟨g, hg, -, rfl⟩ := updateConfig_ok h
    refine { hs with config := fun g' hg' => ?_ }
    obtain rfl := Option.some.inj hg'
    have hold := hs.config g hg
    exact { applyPhase1Params_typed params hold.version hold.createdAt hold.updatedAt with
      updatedAt := hnow }
  | setPauseFlags ctx r x f c' =>
    obtain ⟨g, hg, rfl⟩ := setPauseFlags_ok h
    refine { hs with config := fun g' hg' => ?_ }
    obtain rfl := Option.some.inj hg'
    exact { hs.config g hg with updatedAt := hnow }
  | initializeFaucet ctx =>
    simp only [exec, initializeFaucet, bind_eq_ok, load_eq_ok, sign_eq_ok, ensure_eq_ok,
      vacant_eq_ok, cpi_eq_ok, exists_unit, pure_eq_ok] at h
    obtain ⟨-, -, -, -, -, -, -, -, -, -, -, -, -, -, rfl⟩ := h
    refine { hs with faucetConfig := fun f hf => ?_, faucetGlobalState := fun gl hgl => ?_ }
    · obtain rfl := Option.some.inj hf
      exact applyFaucetLimits_typed _ hnow hnow
    · obtain rfl := Option.some.inj hgl
      exact ⟨hnow.currentDayIndex, isU64_zero, isU64_zero, hnow⟩
  | setFaucetEnabled ctx enabled =>
    obtain ⟨f, hf, rfl⟩ := setFaucetEnabled_ok h
    refine { hs with faucetConfig := fun f' hf' => ?_ }
    obtain rfl := Option.some.inj hf'
    exact { hs.faucetConfig f hf with updatedAt := hnow }
  | updateFaucetLimits ctx limits =>
    obtain ⟨f, hf, -, rfl⟩ := updateFaucetLimits_ok h
    refine { hs with faucetConfig := fun f' hf' => ?_ }
    obtain rfl := Option.some.inj hf'
    have hold := hs.faucetConfig f hf
    exact { applyFaucetLimits_typed limits hold.createdAt hold.updatedAt with updatedAt := hnow }
  | fundFaucetClaw ctx amount =>
    obtain ⟨-, f, -, -, -, hf, -, -, -, rfl⟩ := fundFaucetClaw_ok h
    refine { hs with faucetConfig := fun f' hf' => ?_ }
    obtain rfl := Option.some.inj hf'
    exact { hs.faucetConfig f hf with updatedAt := hnow }
  | claimFaucet ctx args => exact claimFaucet_typed hs hnow h
  | registerProvider ctx => exact register_typed hs hnow h
  | exitProvider ctx => exact exit_typed hs hnow h
  | materializeRewardRelease ctx target n => exact materialize_typed hs hnow h
  | claimReleasedClaw ctx => exact claim_typed hs hnow h
  | recordMiningFromReceipt ctx n => exact record_typed hs hnow h
  | settleFinalizedReceipt ctx status => exact settle_typed hs hnow h
  | recordChallengeBond ctx => exact bond_typed hs hnow h
  | resolveChallengeEconomics ctx code => exact resolve_typed hs hnow h

theorem step_typed (hs : Typed s) (a : Action) : Typed (step s a) := by
  rcases step_cases s a with ⟨-, -, h⟩ | h
  · rwa [h]
  · cases a with
    | call c now i => exact exec_typed hs (isI64_toInt now) h
    | token c i =>
      simp only [Action.exec, bind_eq_ok, pure_eq_ok] at h
      obtain ⟨t, -, h⟩ := h
      rw [← h]
      exact hs.withTokens t

theorem reached_typed (as : List Action) : Typed (reached as) :=
  Machine.run_induction (P := Typed) (fun _ a h => step_typed h a) typed_init as

end Masterpool
