import Clawfarm.Masterpool.Enabled

/-!
# Masterpool.Releases — how a vested reward is paid out

It takes two calls: the admin releases what is vested, and the owner claims what is released.
Neither call can be refused by what the program has booked.  The release depends on the vesting
schedule and the room of one counter (`release_succeeds_iff`), and once the lock is over the two
calls pay out the rest of the reward exactly if the reward vault holds it (`reward_withdrawn`).
-/

namespace Masterpool

open Token Checked

variable {c c' : Caller MASTERPOOL_ID} {ctx : MaterializeRewardRelease} {target : ℕ}
  {tgt : ReleaseTarget} {s s' : State} {g : GlobalConfig} {x : ReceiptSettlement} {r : RewardAccount}

/-! ## Releasing -/

/-- The admin releases rewards of the settlement `x` to the account `r` of its part `tgt`. -/
structure ReleaseCall (c : Caller MASTERPOOL_ID) (ctx : MaterializeRewardRelease) (target : ℕ)
    (tgt : ReleaseTarget) (s : State) (g : GlobalConfig) (x : ReceiptSettlement)
    (r : RewardAccount) : Prop where
  config : s.config = some g
  admin : g.adminAuthority = ctx.adminAuthority ∧ ctx.adminAuthority ∈ c.signers
  target : ReleaseTarget.tryFrom target = .ok tgt
  settlement : s.settlements.get ctx.receiptSettlement = some x
  reward : s.rewards.get ctx.rewardAccount = some r
  account : ctx.rewardAccount = x.rewardKey tgt

/-- The lock of the settlement runs, `n` more is vested, and the counter of the account has room. -/
structure ReleaseFits (now : ℤ) (n : ℕ) (tgt : ReleaseTarget) (x : ReceiptSettlement)
    (r : RewardAccount) : Prop where
  finalized : x.status = .FinalizedSettled
  started : 0 < x.rewardLockStartedAt
  positive : 0 < n
  vested : x.releasedSoFar tgt + n ≤ x.vested tgt now
  room : r.releasedClawTotal + n < u64Bound

theorem Ledgers.totalLocked_lt (h : Ledgers s) {k : Pubkey} (hx : s.settlements.get k = some x)
    (tgt : ReleaseTarget) : x.totalLocked tgt < u64Bound := by
  have htyped := h.typed.settlements k x hx
  cases tgt with
  | User => exact htyped.clawToUser
  | Provider => exact htyped.clawToProviderLocked

/-- Before the start of the lock nothing is vested. -/
theorem computeLinearReleasableAmount_of_le {total released days : ℕ} {start now : ℤ}
    (hdays : DaysFit days) (h : now ≤ start) :
    computeLinearReleasableAmount total released start now days = checkedSubU64 0 released := by
  obtain ⟨hpos, hlt⟩ := hdays
  have hbounds : i64Min ≤ (days * 86400 : ℤ) ∧ (days * 86400 : ℤ) ≤ i64Max := by
    unfold i64Min i64Max
    omega
  have hseconds : (0 : ℤ) < days * 86400 := by omega
  have helapsed : saturate 0 (days * 86400 : ℤ) (saturate i64Min i64Max (now - start)) = 0 := by
    unfold saturate
    unfold i64Min i64Max at *
    omega
  have hpart : ∀ n : ℕ, tryIntoU128 (n : ℤ) = .ok n := fun n => if_pos (Int.natCast_nonneg n)
  have hlock : tryIntoU128 (days * 86400 : ℤ) = .ok (days * 86400) := hpart (days * 86400)
  have hzero : tryIntoU128 0 = .ok 0 := hpart 0
  have hnone : tryIntoU64 (total * 0 / (days * 86400)) = .ok 0 := by
    rw [Nat.mul_zero, Nat.zero_div]
    rfl
  simp only [computeLinearReleasableAmount, checkedInt, if_pos hbounds, ensure, require,
    if_pos hseconds, helapsed, hlock, hzero, hnone, ok_bind]

/-- **The schedule at any time**: what may be released is what is vested and not yet released. -/
theorem ReceiptSettlement.releasable_ok_iff {n : ℕ} {t : ℤ} (hfits : x.totalLocked tgt < u64Bound)
    (hdays : DaysFit x.lockDaysSnapshot) :
    x.releasable tgt t = .ok n ↔
      x.releasedSoFar tgt ≤ x.vested tgt t ∧ n = x.vested tgt t - x.releasedSoFar tgt := by
  rcases le_total x.rewardLockStartedAt t with h | h
  · exact releasable_eq_ok hfits hdays h
  · have helapsed : (t - x.rewardLockStartedAt).toNat = 0 := Int.toNat_eq_zero.mpr (by omega)
    have hvested : x.vested tgt t = 0 := by
      rw [ReceiptSettlement.vested, linearVested, helapsed, Nat.zero_min, Nat.mul_zero, Nat.zero_div]
    rw [ReceiptSettlement.releasable, computeLinearReleasableAmount_of_le hdays h,
      checkedSubU64_eq_ok, hvested]

theorem addReleased_eq_ok {x' : ReceiptSettlement} {n : ℕ} : x.addReleased tgt n = .ok x' ↔
    x.releasedSoFar tgt + n < u64Bound ∧ x' = x.released n tgt := by
  cases tgt with
  | User =>
    simp only [ReceiptSettlement.addReleased, bind_eq_ok, checkedAddU64_eq_ok, exists_result,
      pure_eq_ok, eq_comm (a := x')]
    rfl
  | Provider =>
    simp only [ReceiptSettlement.addReleased, bind_eq_ok, checkedAddU64_eq_ok, exists_result,
      pure_eq_ok, eq_comm (a := x')]
    rfl

/-- Besides its conditions a release needs room in two counters. -/
theorem materializeRewardRelease_iff {now : ℤ} {n : ℕ} :
    materializeRewardRelease c now ctx target n s = .ok s' ↔
      ∃ tgt x r, ReleaseTarget.tryFrom target = .ok tgt ∧ Materializes c now ctx tgt n s x r ∧
        r.releasedClawTotal + n < u64Bound ∧ x.releasedSoFar tgt + n < u64Bound ∧
        s' = materialized now ctx tgt n s x r := by
  simp only [materializeRewardRelease, bind_eq_ok, load_eq_ok, sign_eq_ok, ensure_eq_ok,
    checkedSubU64_eq_ok, checkedAddU64_eq_ok, addReleased_eq_ok, exists_unit, exists_result,
    pure_eq_ok, eq_comm (b := s')]
  constructor
  · rintro ⟨g, hg, hadmin, hsig, r, hr, x, hx, hpos, tgt, htgt, hfin, hstart, m, hm, hle, hown,
      hkind, hlock, -, hroom, hroom', rfl⟩
    exact ⟨tgt, x, r, htgt, ⟨⟨g, hg, hadmin, hsig⟩, hr, hx, hpos, hfin, hstart, ⟨m, hm, hle⟩, hown,
      hkind, hlock⟩, hroom, hroom', rfl⟩
  · rintro ⟨tgt, x, r, htgt, ⟨⟨g, hg, hadmin, hsig⟩, hr, hx, hpos, hfin, hstart, ⟨m, hm, hle⟩, hown,
      hkind, hlock⟩, hroom, hroom', rfl⟩
    exact ⟨g, hg, hadmin, hsig, r, hr, x, hx, hpos, tgt, htgt, hfin, hstart, m, hm, hle, hown,
      hkind, hlock, hlock, hroom, hroom', rfl⟩

/-- A release was in order. -/
theorem Materializes.call {now : ℤ} {n : ℕ} (hw : Wf s) (htgt : ReleaseTarget.tryFrom target = .ok tgt)
    (h : Materializes c now ctx tgt n s x r) : ∃ g, ReleaseCall c ctx target tgt s g x r := by
  obtain ⟨g, hg, hadmin⟩ := h.admin
  have hr := hw.reward _ r h.reward
  refine ⟨g, hg, hadmin, htgt, h.settlement, h.reward, Prod.ext ?_ ?_⟩
  · rw [← hr.kind, h.kind]
    cases tgt <;> rfl
  · rw [← hr.owner, h.owner]
    cases tgt <;> rfl

theorem ReleaseCall.succeeds_iff (hl : Ledgers s) (hd : Dated s)
    (h : ReleaseCall c ctx target tgt s g x r) (now : ℤ) (n : ℕ) :
    (∃ s', materializeRewardRelease c now ctx target n s = .ok s') ↔ ReleaseFits now n tgt x r := by
  have hdays := hd.settlement _ x h.settlement
  have htotal := hl.totalLocked_lt h.settlement tgt
  have hok : ∀ m, computeLinearReleasableAmount (x.totalLocked tgt) (x.releasedSoFar tgt)
      x.rewardLockStartedAt now x.lockDaysSnapshot = .ok m ↔ x.releasedSoFar tgt ≤ x.vested tgt now ∧
        m = x.vested tgt now - x.releasedSoFar tgt := fun m => x.releasable_ok_iff htotal hdays
  constructor
  · rintro ⟨s', hs'⟩
    obtain ⟨tgt', y, r', htgt, hm, hroom, -, -⟩ := materializeRewardRelease_iff.mp hs'
    obtain rfl := Except.ok.inj (h.target.symm.trans htgt)
    obtain rfl := Option.some.inj (h.settlement.symm.trans hm.settlement)
    obtain rfl := Option.some.inj (h.reward.symm.trans hm.reward)
    obtain ⟨m, hm', hle⟩ := hm.vested
    obtain ⟨hbounded, rfl⟩ := (hok m).mp hm'
    exact ⟨hm.finalized, hm.started, hm.positive, by omega, hroom⟩
  · rintro ⟨hfin, hstart, hpos, hvested, hroom⟩
    have hkey := hl.wf.reward _ r h.reward
    have hr := h.reward
    rw [h.account] at hkey hr
    have hlocked := (hl.credited.ledger tgt hr).of_finalized hl.wf h.settlement rfl hfin
    have hle : x.vested tgt now ≤ x.totalLocked tgt := linearVested_le _ _ _
    exact ⟨_, materializeRewardRelease_iff.mpr ⟨tgt, x, r, h.target, ⟨⟨g, h.config, h.admin⟩, h.reward,
      h.settlement, hpos, hfin, hstart, ⟨_, (hok _).mpr ⟨by omega, rfl⟩, by omega⟩, hkey.owner,
      hkey.kind, by omega⟩, hroom, by omega, rfl⟩⟩

/-- **Releasing**: the admin's release succeeds exactly if it is within the vesting schedule at that
time and the counter of released CLAW has room; what the account has locked always covers it, and
the vesting arithmetic never fails for another reason. -/
theorem release_succeeds_iff (as : List Action) {now : ℤ} {n : ℕ}
    (h : ReleaseCall c ctx target tgt (reached as) g x r) :
    (∃ s', materializeRewardRelease c now ctx target n (reached as) = .ok s') ↔
      ReleaseFits now n tgt x r :=
  h.succeeds_iff (reached_ledgers as) (reached_dated as) now n

/-- Half of what is vested for the payer when a tenth of the lock is over. -/
theorem release_tenth : ∃ s', materializeRewardRelease everyone 259210
    ⟨wallet 1, (.User, wallet 7), wallet 20⟩ 0 15000 (reached (recordedReceipt ++ [settleReceipt])) =
      .ok s' := by
  refine (@release_succeeds_iff everyone ⟨wallet 1, (.User, wallet 7), wallet 20⟩ 0 .User
    ((reached (recordedReceipt ++ [settleReceipt])).config.get (by decide +kernel))
    (((reached (recordedReceipt ++ [settleReceipt])).settlements.get (wallet 20)).get
      (by decide +kernel))
    (((reached (recordedReceipt ++ [settleReceipt])).rewards.get (.User, wallet 7)).get
      (by decide +kernel))
    (recordedReceipt ++ [settleReceipt]) 259210 15000 ?_).mpr ?_
  · exact ⟨(Option.some_get _).symm, by decide +kernel, rfl, (Option.some_get _).symm,
      (Option.some_get _).symm, by decide +kernel⟩
  · exact ⟨by decide +kernel, by decide +kernel, by decide +kernel, by decide +kernel,
      by decide +kernel⟩

/-! ## Withdrawing -/

/-- What is not yet released to `tgt`. -/
def ReceiptSettlement.unreleased (x : ReceiptSettlement) (tgt : ReleaseTarget) : ℕ :=
  x.totalLocked tgt - x.releasedSoFar tgt

/-- Something is left of the reward, the counter has room, and the reward vault has all that the
account may then claim. -/
structure Withdrawable (ctx : ClaimReleasedClaw) (s : State) (tgt : ReleaseTarget)
    (x : ReceiptSettlement) (r : RewardAccount) : Prop where
  finalized : x.status = .FinalizedSettled
  started : 0 < x.rewardLockStartedAt
  left : x.releasedSoFar tgt < x.totalLocked tgt
  room : r.releasedClawTotal + x.unreleased tgt < u64Bound
  inventory : r.releasedClawTotal + x.unreleased tgt ≤
    r.claimedClawTotal + s.tokens.amount rewardVault
  thawed : s.tokens.frozen rewardVault = false ∧ s.tokens.frozen ctx.claimantClawToken = false

/-- The part `tgt` of the receipt is released, and the account `r` has no claim left. -/
structure PaidOut (ctx : ClaimReleasedClaw) (k : Pubkey) (tgt : ReleaseTarget) (s : State)
    (x : ReceiptSettlement) (r : RewardAccount) (s' : State) : Prop where
  settlement : ∃ x', s'.settlements.get k = some x' ∧ x'.unreleased tgt = 0
  reward : ∃ r', s'.rewards.get ctx.rewardAccount = some r' ∧
    r'.lockedClawTotal + x.unreleased tgt = r.lockedClawTotal ∧
    r'.claimedClawTotal = r.releasedClawTotal + x.unreleased tgt ∧
    r'.claimedClawTotal = r'.releasedClawTotal
  claimant : s'.tokens.amount ctx.claimantClawToken + r.claimedClawTotal =
    s.tokens.amount ctx.claimantClawToken + r.releasedClawTotal + x.unreleased tgt
  vault : s'.tokens.amount rewardVault + r.releasedClawTotal + x.unreleased tgt =
    s.tokens.amount rewardVault + r.claimedClawTotal

variable {ctx' : ClaimReleasedClaw} {now now' : ℤ} {n : ℕ}

/-- A release leaves the account open to claims. -/
theorem ClaimCall.materialized (h : ClaimCall c' ctx' s g r)
    (hsame : ctx'.rewardAccount = ctx.rewardAccount) (now : ℤ) (tgt : ReleaseTarget) (n : ℕ)
    (x : ReceiptSettlement) : ClaimCall c' ctx' (materialized now ctx tgt n s x r) g
      { r with
        lockedClawTotal := r.lockedClawTotal - n
        releasedClawTotal := r.releasedClawTotal + n
        updatedAt := now } where
  config := h.config
  reward := by
    rw [hsame]
    exact Store.get_set_self _ _ _
  signed := h.signed
  vault := h.vault
  mint := h.mint
  unpaused := h.unpaused
  owner := h.owner
  destination := h.destination

/-- A claim that is in order after a release was so before. -/
theorem ClaimCall.of_materialized {r' : RewardAccount} {now : ℤ} {n : ℕ}
    (hr : s.rewards.get ctx.rewardAccount = some r) (hsame : ctx'.rewardAccount = ctx.rewardAccount)
    (h : ClaimCall c' ctx' (Masterpool.materialized now ctx tgt n s x r) g r') :
    ClaimCall c' ctx' s g r where
  config := h.config
  reward := hsame ▸ hr
  signed := h.signed
  vault := h.vault
  mint := h.mint
  unpaused := h.unpaused
  owner := by
    have hreward := h.reward
    rw [hsame] at hreward
    have hmid : r' = _ := Option.some.inj (hreward.symm.trans (Store.get_set_self _ _ _))
    have howner := h.owner
    rw [hmid] at howner
    exact howner
  destination := h.destination

theorem ReceiptSettlement.vested_of_over (hdays : DaysFit x.lockDaysSnapshot)
    (hover : x.rewardLockStartedAt + x.lockSeconds ≤ now) :
    x.vested tgt now = x.totalLocked tgt :=
  linearVested_of_le (Nat.mul_pos hdays.1 (by decide)) (by omega)

/-- What the claim after a release of everything pays. -/
theorem ReleaseCall.paidOut (hl : Ledgers s) (h : ReleaseCall c ctx target tgt s g x r)
    (hfin : x.status = .FinalizedSettled) (hclaim : ClaimCall c' ctx' s g r)
    (hsame : ctx'.rewardAccount = ctx.rewardAccount) (hn : n = x.unreleased tgt)
    (hs : Sound (materialized now ctx tgt n s x r))
    (hok : claimReleasedClaw c' now' ctx' (materialized now ctx tgt n s x r) = .ok s') :
    PaidOut ctx' ctx.receiptSettlement tgt s x r s' := by
  have hopen := hclaim.materialized hsame now tgt n x
  have hclaimed := hl.unclaimed _ r h.reward
  have hr := h.reward
  rw [h.account] at hr
  have hlocked := (hl.credited.ledger tgt hr).of_finalized hl.wf h.settlement rfl hfin
  obtain ⟨g', r', t, hc, rfl⟩ := claimReleasedClaw_ok hok
  obtain rfl := Option.some.inj (hopen.reward.symm.trans hc.reward)
  obtain ⟨hdest, hflow⟩ := hc.amount hs
  have hne : rewardVault ≠ ctx'.claimantClawToken := owned_rewardVault.ne hdest
  have hvault := hflow rewardVault
  have hclaimant := hflow ctx'.claimantClawToken
  rw [if_pos rfl, if_neg hne] at hvault
  rw [if_neg hne.symm, if_pos rfl] at hclaimant
  subst hn
  simp only [materialized] at hvault hclaimant
  refine ⟨⟨_, Store.get_set_self _ _ _, ?_⟩, ⟨_, Store.get_set_self _ _ _, ?_, rfl, rfl⟩, ?_, ?_⟩
  · show (x.released (x.unreleased tgt) tgt).totalLocked tgt -
        (x.released (x.unreleased tgt) tgt).releasedSoFar tgt = 0
    have htotal : (x.released (x.unreleased tgt) tgt).totalLocked tgt = x.totalLocked tgt :=
      (x.sameLock_released _ tgt 0).totalLocked tgt
    rw [releasedSoFar_released, if_pos rfl, htotal]
    unfold ReceiptSettlement.unreleased
    omega
  · have hcovered : x.unreleased tgt ≤ r.lockedClawTotal := by
      unfold ReceiptSettlement.unreleased
      omega
    exact Nat.sub_add_cancel hcovered
  · show t.amount ctx'.claimantClawToken + r.claimedClawTotal = _
    omega
  · show t.amount rewardVault + r.releasedClawTotal + x.unreleased tgt = _
    omega

/-- **Withdrawing**: when the lock is over, the admin's release of what is left and the owner's
claim succeed one after the other exactly if the two calls are in order, the counter has room and
the reward vault holds what the account may claim; they pay out all of it. -/
theorem reward_withdrawn (as : List Action) {now now' : Int64} {target : UInt8} {amount : UInt64}
    (hx : (reached as).settlements.get ctx.receiptSettlement = some x)
    (hr : (reached as).rewards.get ctx.rewardAccount = some r)
    (htgt : ReleaseTarget.tryFrom target.toNat = .ok tgt)
    (hsame : ctx'.rewardAccount = ctx.rewardAccount)
    (hover : x.rewardLockStartedAt + x.lockSeconds ≤ now.toInt)
    (hamount : amount.toNat = x.unreleased tgt) :
    (∃ s₁ s₂, (Action.call c now (.materializeRewardRelease ctx target amount)).exec (reached as) =
        .ok s₁ ∧ (Action.call c' now' (.claimReleasedClaw ctx')).exec s₁ = .ok s₂ ∧
        PaidOut ctx' ctx.receiptSettlement tgt (reached as) x r s₂) ↔
      ∃ g, ReleaseCall c ctx target.toNat tgt (reached as) g x r ∧
        ClaimCall c' ctx' (reached as) g r ∧ Withdrawable ctx' (reached as) tgt x r := by
  have hl := reached_ledgers as
  have hd := reached_dated as
  have hvested : x.vested tgt now.toInt = x.totalLocked tgt :=
    ReceiptSettlement.vested_of_over (hd.settlement _ x hx) hover
  have hle := (hl.wf.settlement _ x hx).released_le tgt
  -- the state between the two calls
  have hmid : ∀ {s₁}, (Action.call c now (.materializeRewardRelease ctx target amount)).exec
      (reached as) = .ok s₁ → s₁ = materialized now.toInt ctx tgt amount.toNat (reached as) x r ∧
        Materializes c now.toInt ctx tgt amount.toNat (reached as) x r ∧ Ledgers s₁ := by
    intro s₁ hs₁
    obtain ⟨tgt', y, r', htgt', hm, hs₁'⟩ := materializeRewardRelease_ok hs₁
    obtain rfl := Except.ok.inj (htgt.symm.trans htgt')
    obtain rfl := Option.some.inj (hx.symm.trans hm.settlement)
    obtain rfl := Option.some.inj (hr.symm.trans hm.reward)
    exact ⟨hs₁', hm, step_of_ok hs₁ ▸ reached_concat as _ ▸ reached_ledgers _⟩
  constructor
  · rintro ⟨s₁, s₂, hs₁, hs₂, -⟩
    obtain ⟨rfl, hm, hl₁⟩ := hmid hs₁
    obtain ⟨g, h⟩ := hm.call hl.wf htgt
    obtain ⟨g', r', hopen⟩ := claimReleasedClaw_call hs₂
    obtain rfl : g = g' := Option.some.inj (h.config.symm.trans hopen.config)
    have hclaim := hopen.of_materialized hr hsame
    obtain ⟨hfin, hstart, hpos, -, hroom⟩ :=
      (h.succeeds_iff hl hd now.toInt amount.toNat).mp ⟨_, hs₁⟩
    obtain ⟨-, hinventory, hthawed⟩ :=
      ((hclaim.materialized hsame now.toInt tgt amount.toNat x).succeeds_iff hl₁).mp ⟨s₂, hs₂⟩
    rw [hamount] at hpos hroom hinventory
    exact ⟨g, h, hclaim, hfin, hstart, Nat.lt_of_sub_pos hpos, hroom, hinventory, hthawed⟩
  · rintro ⟨g, h, hclaim, hfin, hstart, hleft, hroom, hinventory, hthawed⟩
    have hsplit : x.releasedSoFar tgt + x.unreleased tgt = x.totalLocked tgt :=
      Nat.add_sub_cancel' hle
    have hpos : 0 < amount.toNat := by omega
    obtain ⟨s₁, hs₁⟩ := (h.succeeds_iff hl hd now.toInt amount.toNat).mpr
      ⟨hfin, hstart, hpos, by omega, hamount ▸ hroom⟩
    obtain ⟨rfl, -, hl₁⟩ := hmid hs₁
    have hclaimed := hl.unclaimed _ r hr
    obtain ⟨s₂, hs₂⟩ : ∃ s', claimReleasedClaw c' now'.toInt ctx' _ = .ok s' :=
      ((hclaim.materialized hsame now.toInt tgt amount.toNat x).succeeds_iff hl₁).mpr
        ⟨lt_add_of_le_of_pos hclaimed hpos, hamount ▸ hinventory, hthawed⟩
    exact ⟨_, s₂, hs₁, hs₂, h.paidOut hl hfin hclaim hsame hamount hl₁.wf.sound hs₂⟩

/-- The rest of the reward of `releasedReward`. -/
def restContext : MaterializeRewardRelease := ⟨wallet 1, (.User, wallet 7), wallet 20⟩

/-- It is withdrawn when the lock of 30 days is over. -/
theorem rest_withdrawn : ∃ s₁ s₂,
    (Action.call everyone 2592010 (.materializeRewardRelease restContext 0 285000)).exec
      (reached releasedReward) = .ok s₁ ∧
    (Action.call everyone 2592011 (.claimReleasedClaw releasedClawContext)).exec s₁ = .ok s₂ ∧
    PaidOut releasedClawContext restContext.receiptSettlement .User (reached releasedReward)
      (((reached releasedReward).settlements.get restContext.receiptSettlement).get
        (by decide +kernel))
      (((reached releasedReward).rewards.get restContext.rewardAccount).get (by decide +kernel))
      s₂ := by
  refine (@reward_withdrawn everyone everyone restContext .User
    (((reached releasedReward).settlements.get restContext.receiptSettlement).get
      (by decide +kernel))
    (((reached releasedReward).rewards.get restContext.rewardAccount).get (by decide +kernel))
    releasedClawContext releasedReward 2592010 2592011 0 285000 (Option.some_get _).symm
    (Option.some_get _).symm rfl rfl (by decide +kernel) (by decide +kernel)).mpr
    ⟨(reached releasedReward).config.get (by decide +kernel), ?_, ?_, ?_⟩
  · exact ⟨(Option.some_get _).symm, by decide +kernel, rfl, (Option.some_get _).symm,
      (Option.some_get _).symm, by decide +kernel⟩
  · exact ⟨(Option.some_get _).symm, by decide +kernel, by decide +kernel, by decide +kernel,
      by decide +kernel, by decide +kernel, by decide +kernel,
      exists_owned (f := false) (by decide +kernel)⟩
  · exact ⟨by decide +kernel, by decide +kernel, by decide +kernel, by decide +kernel,
      by decide +kernel, by decide +kernel⟩

end Masterpool
