import Clawfarm.Lib.Swap
import Clawfarm.Masterpool.Enforcement
import Clawfarm.Masterpool.Params

/-!
# Masterpool.Vesting — rewards are released linearly

From the moment a receipt is settled, its rewards vest linearly over the lock that was in force when
it was recorded.  As long as the clock of the releases does not run backwards, the amount that is
released never passes the amount that is vested, so the vesting arithmetic never fails.
-/

namespace Masterpool

open Token Checked Swap

variable {s s' : State}

/-! ## The schedule of a settlement -/

/-- What is vested of `total` when `elapsed` of `lock` is over. -/
def linearVested (total lock elapsed : ℕ) : ℕ := total * min elapsed lock / lock

theorem linearVested_le (total lock e : ℕ) : linearVested total lock e ≤ total := by
  refine Nat.div_le_of_le_mul ?_
  rw [Nat.mul_comm lock]
  exact Nat.mul_le_mul_left total (min_le_right e lock)

theorem linearVested_mono {total lock e e' : ℕ} (h : e ≤ e') :
    linearVested total lock e ≤ linearVested total lock e' :=
  Nat.div_le_div_right (Nat.mul_le_mul_left total (min_le_min_right lock h))

theorem linearVested_of_le {total lock e : ℕ} (hlock : 0 < lock) (h : lock ≤ e) :
    linearVested total lock e = total := by
  rw [linearVested, min_eq_right h, Nat.mul_div_cancel total hlock]

def ReceiptSettlement.lockSeconds (x : ReceiptSettlement) : ℕ := x.lockDaysSnapshot * 86400

/-- What is vested for `target` at the time `t`. -/
def ReceiptSettlement.vested (x : ReceiptSettlement) (target : ReleaseTarget) (t : ℤ) : ℕ :=
  linearVested (x.totalLocked target) x.lockSeconds (t - x.rewardLockStartedAt).toNat

/-- What `compute_linear_releasable_amount` says about `target` at the time `t`. -/
def ReceiptSettlement.releasable (x : ReceiptSettlement) (target : ReleaseTarget) (t : ℤ) :
    Result ℕ :=
  computeLinearReleasableAmount (x.totalLocked target) (x.releasedSoFar target)
    x.rewardLockStartedAt t x.lockDaysSnapshot

theorem ReceiptSettlement.vested_mono (x : ReceiptSettlement) (target : ReleaseTarget) {t t' : ℤ}
    (h : t ≤ t') : x.vested target t ≤ x.vested target t' := linearVested_mono (by omega)

/-- A number of days as the config keeps it: positive, and a `u16`. -/
def DaysFit (n : ℕ) : Prop := 0 < n ∧ n < 2 ^ 16

/-- **The vesting arithmetic** from the start of the lock on: only the last subtraction can fail. -/
theorem computeLinearReleasableAmount_eq {total released days : ℕ} {start t : ℤ}
    (htotal : total < u64Bound) (hdays : DaysFit days) (ht : start ≤ t) :
    computeLinearReleasableAmount total released start t days =
      checkedSubU64 (linearVested total (days * 86400) (t - start).toNat) released := by
  obtain ⟨hpos, hlt⟩ := hdays
  have hbounds : i64Min ≤ (days * 86400 : ℤ) ∧ (days * 86400 : ℤ) ≤ i64Max := by
    unfold i64Min i64Max
    omega
  have hseconds : (0 : ℤ) < days * 86400 := by omega
  -- the two clamps do to a time after the start what `min` does
  have helapsed : saturate 0 (days * 86400 : ℤ) (saturate i64Min i64Max (t - start)) =
      ((min (t - start).toNat (days * 86400) : ℕ) : ℤ) := by
    have hmax := hbounds.2
    unfold saturate
    unfold i64Min i64Max at *
    omega
  have hpart : ∀ n : ℕ, tryIntoU128 (n : ℤ) = .ok n := fun n => if_pos (Int.natCast_nonneg n)
  have hlock : tryIntoU128 (days * 86400 : ℤ) = .ok (days * 86400) := hpart (days * 86400)
  have hfits : total * min (t - start).toNat (days * 86400) / (days * 86400) < u64Bound :=
    (linearVested_le total (days * 86400) (t - start).toNat).trans_lt htotal
  simp only [computeLinearReleasableAmount, checkedInt, if_pos hbounds, ensure, require,
    if_pos hseconds, helapsed, hpart, hlock, tryIntoU64, if_pos hfits, ok_bind, linearVested]

/-! ## Every lock has a length -/

theorem ConfigValid.days {g : GlobalConfig} (h : ConfigValid g) : DaysFit g.lockDays := by
  obtain ⟨params, hparams, happly⟩ := h
  rw [← happly]
  exact ⟨(validatePhase1Params_iff.mp hparams).1.lockDays, params.lockDays.toNat_lt⟩

structure Dated (s : State) : Prop where
  config : ∀ g, s.config = some g → DaysFit g.lockDays
  settlement : ∀ k x, s.settlements.get k = some x → DaysFit x.lockDaysSnapshot

/-- A receipt gets the lock of the config, and keeps it. -/
theorem Effect.settlement_days {a : Action} (hs : Dated s) (h : Effect s a s') (k : Pubkey)
    (x : ReceiptSettlement) (hx : s'.settlements.get k = some x) : DaysFit x.lockDaysSnapshot := by
  have hkeep := hs.settlement
  have hset : ∀ {k₀ : Pubkey} {y z : ReceiptSettlement}, s.settlements.get k₀ = some y →
      z.lockDaysSnapshot = y.lockDaysSnapshot → ∀ k x,
        (s.settlements.set k₀ z).get k = some x → DaysFit x.lockDaysSnapshot := fun hy hz =>
    Store.forall_set hkeep (fun _ _ => id) (hz ▸ hkeep _ _ hy)
  revert k x
  cases h with
  | aside _ h => rwa [h.settlements]
  | record h =>
    refine Store.forall_set hkeep (fun _ _ => id) ?_
    rw [h.settlement]
    exact hs.config _ h.config
  | settle h => exact hset h.settlement rfl
  | reject _ h _ _ => exact hset h.settlement rfl
  | revert _ h _ _ => exact hset h.settlement rfl
  | materialize h => exact hset h.settlement (settlementStep_released _ _ _ _).lockDaysSnapshot
  | failed _ => exact hkeep
  | genesis _ => exact hkeep
  | fund _ => exact hkeep
  | register _ => exact hkeep
  | exit _ => exact hkeep
  | bond _ => exact hkeep
  | claim _ => exact hkeep

theorem reached_dated (as : List Action) : Dated (reached as) := by
  have hconfig : ∀ as g, (reached as).config = some g → DaysFit g.lockDays := fun as g hg =>
    (reached_configValid as g hg).days
  refine ⟨hconfig as, ?_⟩
  induction as using List.reverseRecOn with
  | nil =>
    intro k x hx
    cases hx
  | append_singleton as a ih =>
    rw [reached, Machine.run_concat]
    exact (step_effect (reached_wf as).sound a).settlement_days ⟨hconfig as, ih⟩

/-! ## Releases of one receipt -/

variable {k : Pubkey} {x x' : ReceiptSettlement} {tgt : ReleaseTarget}

/-- Nothing but releases lies between `x` and `x'`. -/
def ReceiptSettlement.SameLock (x x' : ReceiptSettlement) : Prop :=
  x' = { x with
    userClawReleased := x'.userClawReleased
    providerClawReleased := x'.providerClawReleased
    updatedAt := x'.updatedAt }

theorem ReceiptSettlement.SameLock.trans {x'' : ReceiptSettlement} (h : x.SameLock x')
    (h' : x'.SameLock x'') : x.SameLock x'' := by
  unfold ReceiptSettlement.SameLock at *
  rw [h'] at *
  rw [h]

theorem ReceiptSettlement.sameLock_released (x : ReceiptSettlement) (n : ℕ) (tgt : ReleaseTarget)
    (now : ℤ) : x.SameLock { x.released n tgt with updatedAt := now } := by
  cases tgt <;> rfl

theorem ReceiptSettlement.SameLock.totalLocked (h : x.SameLock x') (tgt : ReleaseTarget) :
    x'.totalLocked tgt = x.totalLocked tgt := by
  rw [h]
  cases tgt <;> rfl

theorem ReceiptSettlement.SameLock.start (h : x.SameLock x') :
    x'.rewardLockStartedAt = x.rewardLockStartedAt := by
  rw [h]

theorem ReceiptSettlement.SameLock.days (h : x.SameLock x') :
    x'.lockDaysSnapshot = x.lockDaysSnapshot := by
  rw [h]

theorem ReceiptSettlement.SameLock.vested (h : x.SameLock x') (tgt : ReleaseTarget) :
    x'.vested tgt = x.vested tgt := by
  rw [h]
  cases tgt <;> rfl

theorem releasedSoFar_released (x : ReceiptSettlement) (n : ℕ) (tgt tgt' : ReleaseTarget) :
    (x.released n tgt).releasedSoFar tgt' =
      x.releasedSoFar tgt' + if tgt = tgt' then n else 0 := by
  cases tgt <;> cases tgt' <;> rfl

/-- **Frame**: only a release changes a finalized settlement. -/
theorem Effect.finalized {a : Action} (h : Effect s a s') (hx : s.settlements.get k = some x)
    (hfin : x.status = .FinalizedSettled) : s'.settlements.get k = some x ∨
      ∃ c now ctx target n tgt r, a = .call c now (.materializeRewardRelease ctx target n) ∧
        ctx.receiptSettlement = k ∧ Materializes c now.toInt ctx tgt n.toNat s x r ∧
        s'.settlements.get k = some { x.released n.toNat tgt with updatedAt := now.toInt } := by
  have hother : ∀ {k' : Pubkey} {y y' : ReceiptSettlement}, s.settlements.get k' = some y →
      y.status = .Recorded → (s.settlements.set k' y').get k = some x := fun hy hrec => by
    refine (Store.get_set_of_ne (fun he => ?_) _).trans hx
    rw [← he, hx] at hy
    rw [← Option.some.inj hy, hfin] at hrec
    cases hrec
  cases h with
  | aside _ h => exact Or.inl (by rw [h.settlements, hx])
  | @record c now ctx n g pay p u v t₁ t₂ y h =>
    refine Or.inl ((Store.get_set_of_ne (fun he => ?_) _).trans hx)
    rw [he, h.fresh] at hx
    cases hx
  | settle h => exact Or.inl (hother h.settlement h.recorded)
  | reject _ h _ _ => exact Or.inl (hother h.settlement h.recorded)
  | revert _ h _ _ => exact Or.inl (hother h.settlement h.recorded)
  | @materialize c now ctx target n tgt y r h =>
    by_cases hk : ctx.receiptSettlement = k
    · obtain rfl : y = x := Option.some.inj (h.settlement.symm.trans (hk ▸ hx))
      exact Or.inr ⟨c, now, ctx, target, n, tgt, r, rfl, hk, h, hk ▸ Store.get_set_self _ _ _⟩
    · exact Or.inl ((Store.get_set_of_ne (Ne.symm hk) _).trans hx)
  | failed _ => exact Or.inl hx
  | genesis _ => exact Or.inl hx
  | fund _ => exact Or.inl hx
  | register _ => exact Or.inl hx
  | exit _ => exact Or.inl hx
  | bond _ => exact Or.inl hx
  | claim _ => exact Or.inl hx

/-- A settlement whose rewards start to vest. -/
structure StartsVesting (s : State) (k : Pubkey) (x : ReceiptSettlement) : Prop where
  settlement : s.settlements.get k = some x
  finalized : x.status = .FinalizedSettled
  fits : ∀ tgt, x.totalLocked tgt < u64Bound
  days : DaysFit x.lockDaysSnapshot
  unreleased : ∀ tgt, x.releasedSoFar tgt = 0

theorem settle_startsVesting {c : Caller MASTERPOOL_ID} {now : ℤ} {ctx : SettleFinalizedReceipt}
    {status : ℕ} (hw : Wf s) (hd : Dated s)
    (hok : settleFinalizedReceipt c now ctx status s = .ok s') :
    ∃ x, StartsVesting s' ctx.attestationReceipt x ∧ x.rewardLockStartedAt = now := by
  obtain ⟨g, x, p, u, v, t, h, rfl⟩ := settleFinalizedReceipt_ok.mp hok
  have hne : x.status ≠ .FinalizedSettled := by
    rw [h.recorded]
    exact fun e => nomatch e
  have hzero := (hw.settlement _ x h.settlement).unreleased hne
  have hu := h.userFits
  have hv := h.providerFits
  refine ⟨_, ⟨Store.get_set_self _ _ _, rfl, fun tgt => ?_, hd.settlement _ x h.settlement,
    fun tgt => ?_⟩, rfl⟩
  · cases tgt with
    | User => exact (Nat.le_add_left _ _).trans_lt hu
    | Provider => exact (Nat.le_add_left _ _).trans_lt hv
  · cases tgt with
    | User => exact hzero.1
    | Provider => exact hzero.2

/-- What may be released at a time is what is vested then and not yet released. -/
theorem releasable_eq_ok {n : ℕ} {t : ℤ} (hfits : x.totalLocked tgt < u64Bound)
    (hdays : DaysFit x.lockDaysSnapshot) (ht : x.rewardLockStartedAt ≤ t) :
    x.releasable tgt t = .ok n ↔
      x.releasedSoFar tgt ≤ x.vested tgt t ∧ n = x.vested tgt t - x.releasedSoFar tgt := by
  rw [ReceiptSettlement.releasable, computeLinearReleasableAmount_eq hfits hdays ht,
    checkedSubU64_eq_ok]
  rfl

/-- The time at which an action tries to release rewards of the receipt `k`. -/
def Action.releaseTime (k : Pubkey) : Action → Option ℤ
  | .call _ now (.materializeRewardRelease ctx _ _) =>
    if ctx.receiptSettlement = k then some now.toInt else none
  | _ => none

/-- The times of a lock that starts at `start`: its start and those of all calls to release. -/
def lockTimes (k : Pubkey) (start : ℤ) (as : List Action) : List ℤ :=
  start :: as.filterMap (Action.releaseTime k)

theorem lockTimes_concat (start : ℤ) (as : List Action) (a : Action) :
    lockTimes k start (as ++ [a]) = lockTimes k start as ++ (a.releaseTime k).toList := by
  rw [lockTimes, List.filterMap_append, lockTimes, List.cons_append]
  cases h : a.releaseTime k <;> simp [h]

/-- **Vesting**, over any run: what is released never passes what is vested. -/
theorem run_vests (hw : Wf s) (hx : StartsVesting s k x) {as : List Action}
    (htimes : (lockTimes k x.rewardLockStartedAt as).Pairwise (· ≤ ·)) :
    ∃ x', (Machine.run step s as).settlements.get k = some x' ∧ x.SameLock x' ∧
      ∀ tgt t, (∀ u ∈ lockTimes k x.rewardLockStartedAt as, u ≤ t) →
        x'.releasedSoFar tgt ≤ x.vested tgt t := by
  induction as using List.reverseRecOn with
  | nil => exact ⟨x, hx.settlement, rfl, fun tgt t _ => hx.unreleased tgt ▸ Nat.zero_le _⟩
  | append_singleton as a ih =>
    rw [lockTimes_concat] at htimes ⊢
    obtain ⟨hsorted, -, hlast⟩ := List.pairwise_append.mp htimes
    obtain ⟨x', hx', hlock, hle⟩ := ih hsorted
    have hw' := run_wf hw as
    rw [Machine.run_concat]
    have hfin : x'.status = .FinalizedSettled := by
      rw [hlock]
      exact hx.finalized
    rcases (step_effect hw'.sound a).finalized hx' hfin with hsame |
      ⟨c, now, ctx, target, n, tgt, r, rfl, hk, hm, hget⟩
    · exact ⟨x', hsame, hlock, fun tgt t ht =>
        hle tgt t fun u hu => ht u (List.mem_append_left _ hu)⟩
    · have htime : (Action.call c now (.materializeRewardRelease ctx target n)).releaseTime k =
          some now.toInt := if_pos hk
      rw [htime] at hlast ⊢
      have hbefore : ∀ u ∈ lockTimes k x.rewardLockStartedAt as, u ≤ now.toInt := fun u hu =>
        hlast u hu _ (List.mem_singleton_self _)
      refine ⟨_, hget, hlock.trans (x'.sameLock_released _ _ _), fun tgt' t ht => ?_⟩
      have hnow : now.toInt ≤ t := ht _ (List.mem_append_right _ (List.mem_singleton_self _))
      have hmono := x.vested_mono tgt' hnow
      have hold := hle tgt' now.toInt hbefore
      obtain ⟨m, hm, hnm⟩ := hm.vested
      have hstart : x'.rewardLockStartedAt ≤ now.toInt :=
        hlock.start ▸ hbefore _ List.mem_cons_self
      obtain ⟨-, rfl⟩ := (releasable_eq_ok (hlock.totalLocked tgt ▸ hx.fits tgt)
        (hlock.days ▸ hx.days) hstart).mp hm
      rw [hlock.vested] at hnm
      show (x'.released n.toNat tgt).releasedSoFar tgt' ≤ x.vested tgt' t
      rw [releasedSoFar_released]
      split_ifs with he
      · subst he
        omega
      · omega

/-! ## Releasing all at once or in steps -/

/-- All that `tgt` of the receipt `k` may release at the time `now` is released, if that is
anything. -/
inductive ReleasesMax (k : Pubkey) (tgt : ReleaseTarget) (now : Int64) (s : State) : State → Prop
  | nothing {x : ReceiptSettlement} (hx : s.settlements.get k = some x)
    (hn : x.releasable tgt now.toInt = .ok 0) :
    ReleasesMax k tgt now s s
  | call {x : ReceiptSettlement} {c : Caller MASTERPOOL_ID} {ctx : MaterializeRewardRelease}
    {target : UInt8} {amount : UInt64} {s' : State} (hx : s.settlements.get k = some x)
    (hk : ctx.receiptSettlement = k) (htgt : ReleaseTarget.tryFrom target.toNat = .ok tgt)
    (hn : x.releasable tgt now.toInt = .ok amount.toNat)
    (hok : (Action.call c now (.materializeRewardRelease ctx target amount)).exec s = .ok s') :
    ReleasesMax k tgt now s s'

/-- What of the receipt `k` is released to `tgt`. -/
def State.releasedClaw (s : State) (k : Pubkey) (tgt : ReleaseTarget) : ℕ :=
  s.settlements.term (fun _ x => x.releasedSoFar tgt) k

/-- The settlement of `k` is in the lock of `x`. -/
structure InLock (s : State) (k : Pubkey) (x : ReceiptSettlement) : Prop where
  settlement : ∃ x', s.settlements.get k = some x' ∧ x.SameLock x'
  fits : ∀ tgt, x.totalLocked tgt < u64Bound
  days : DaysFit x.lockDaysSnapshot

/-- **A release of the maximum** brings the released amount up to the vested one. -/
theorem ReleasesMax.released {now : Int64} (hs : InLock s k x) (ht : x.rewardLockStartedAt ≤ now.toInt)
    (h : ReleasesMax k tgt now s s') :
    InLock s' k x ∧ s'.releasedClaw k tgt = x.vested tgt now.toInt := by
  obtain ⟨x₁, hx₁, hlock⟩ := hs.settlement
  have hok : ∀ n, x₁.releasable tgt now.toInt = .ok n ↔
      x₁.releasedSoFar tgt ≤ x.vested tgt now.toInt ∧
        n = x.vested tgt now.toInt - x₁.releasedSoFar tgt := fun n => by
    rw [← hlock.vested]
    exact releasable_eq_ok (hlock.totalLocked tgt ▸ hs.fits tgt) (hlock.days ▸ hs.days)
      (hlock.start ▸ ht)
  cases h with
  | nothing hx hn =>
    obtain rfl := Option.some.inj (hx₁.symm.trans hx)
    obtain ⟨hle, hzero⟩ := (hok 0).mp hn
    refine ⟨hs, ?_⟩
    rw [State.releasedClaw, Store.term_some hx]
    omega
  | @call y c ctx target amount _ hx hk htgt hn hexec =>
    obtain rfl := Option.some.inj (hx₁.symm.trans hx)
    obtain ⟨hle, hmax⟩ := (hok _).mp hn
    obtain ⟨tgt', z, r, htgt', hm, rfl⟩ := materializeRewardRelease_ok hexec
    obtain rfl : tgt = tgt' := Except.ok.inj (htgt.symm.trans htgt')
    obtain rfl : z = x₁ := Option.some.inj (hm.settlement.symm.trans (hk ▸ hx))
    have hget : (materialized now.toInt ctx tgt amount.toNat s z r).settlements.get k =
        some { z.released amount.toNat tgt with updatedAt := now.toInt } :=
      hk ▸ Store.get_set_self _ _ _
    refine ⟨⟨⟨_, hget, hlock.trans (z.sameLock_released _ _ _)⟩, hs.fits, hs.days⟩, ?_⟩
    rw [State.releasedClaw, Store.term_some hget]
    show (z.released amount.toNat tgt).releasedSoFar tgt = _
    rw [releasedSoFar_released, if_pos rfl, hmax]
    omega

/-- Releases of the maximum at several times release what is vested at the last of them. -/
theorem releasesMax_chain {ts : List Int64} {now : Int64} (hs : InLock s k x)
    (ht : ∀ t ∈ ts ++ [now], x.rewardLockStartedAt ≤ t.toInt)
    (h : Chain (ReleasesMax k tgt) (ts ++ [now]) s s') :
    s'.releasedClaw k tgt = x.vested tgt now.toInt := by
  induction ts generalizing s with
  | nil => exact ((chain_singleton.mp h).released hs (ht now (List.mem_singleton_self _))).2
  | cons t ts ih =>
    obtain ⟨s₁, h₁, hrest⟩ := chain_cons.mp h
    exact ih (h₁.released hs (ht t List.mem_cons_self)).1
      (fun u hu => ht u (List.mem_cons_of_mem t hu)) hrest

/-- How the reward of `x` to `tgt` stands at the time `t`. -/
structure VestsAt (x : ReceiptSettlement) (tgt : ReleaseTarget) (t : ℤ) : Prop where
  releasable : x.releasable tgt t = .ok (x.vested tgt t - x.releasedSoFar tgt)
  bounded : x.releasedSoFar tgt ≤ x.vested tgt t
  vested : x.vested tgt t ≤ x.totalLocked tgt
  full : x.lockSeconds ≤ t - x.rewardLockStartedAt →
    x.releasable tgt t = .ok (x.totalLocked tgt - x.releasedSoFar tgt)

/-- **Vesting**: a receipt is settled, and calls to release its rewards follow, none of them at an
earlier time than the one before.  From then on the vesting arithmetic succeeds and the released
amount is within the vested one; releasing the maximum in steps is releasing it at once. -/
theorem vesting (as bs : List Action) {c : Caller MASTERPOOL_ID} {now : Int64}
    {ctx : SettleFinalizedReceipt} {status : UInt8}
    (hsettle : (Action.call c now (.settleFinalizedReceipt ctx status)).exec (reached as) = .ok s)
    (htimes : (lockTimes ctx.attestationReceipt now.toInt bs).Pairwise (· ≤ ·)) :
    ∃ x, (Machine.run step s bs).settlements.get ctx.attestationReceipt = some x ∧
      x.rewardLockStartedAt = now.toInt ∧ 0 < x.lockDaysSnapshot ∧ ∀ tgt,
        (∀ t, (∀ u ∈ lockTimes ctx.attestationReceipt now.toInt bs, u ≤ t) → VestsAt x tgt t) ∧
        ∀ ts t s₁ s₂, (∀ u ∈ ts ++ [t], now.toInt ≤ Int64.toInt u) →
          Chain (ReleasesMax ctx.attestationReceipt tgt) (ts ++ [t]) (Machine.run step s bs) s₁ →
          ReleasesMax ctx.attestationReceipt tgt t (Machine.run step s bs) s₂ →
          s₁.releasedClaw ctx.attestationReceipt tgt =
            s₂.releasedClaw ctx.attestationReceipt tgt := by
  have hw : Wf s := step_of_ok hsettle ▸ step_wf (reached_wf as) _
  obtain ⟨x₀, hx₀, hstart⟩ := settle_startsVesting (reached_wf as) (reached_dated as) hsettle
  rw [← hstart] at htimes ⊢
  obtain ⟨x, hx, hlock, hle⟩ := run_vests hw hx₀ htimes
  have hdays : DaysFit x.lockDaysSnapshot := hlock.days ▸ hx₀.days
  refine ⟨x, hx, hlock.start, hdays.1, fun tgt =>
    ⟨fun t ht => ?_, fun ts t s₁ s₂ hts h₁ h₂ => ?_⟩⟩
  · have hafter : x.rewardLockStartedAt ≤ t := hlock.start ▸ ht _ List.mem_cons_self
    have hbounded : x.releasedSoFar tgt ≤ x.vested tgt t := by
      rw [hlock.vested]
      exact hle tgt t ht
    have hfits : x.totalLocked tgt < u64Bound := hlock.totalLocked tgt ▸ hx₀.fits tgt
    have hok := (releasable_eq_ok hfits hdays hafter).mpr ⟨hbounded, rfl⟩
    refine ⟨hok, hbounded, linearVested_le _ _ _, fun hfull => ?_⟩
    have hseconds : 0 < x.lockSeconds := Nat.mul_pos hdays.1 (by decide)
    rw [hok, ReceiptSettlement.vested, linearVested_of_le hseconds (by omega)]
  · have hin : InLock (Machine.run step s bs) ctx.attestationReceipt x₀ :=
      ⟨⟨x, hx, hlock⟩, hx₀.fits, hx₀.days⟩
    rw [releasesMax_chain hin hts h₁,
      (h₂.released hin (hts t (List.mem_append_right _ (List.mem_singleton_self _)))).2]

/-- The receipt `20` is settled, and a tenth of its lock later half of what is vested for the payer
is released. -/
def recordedReceipt : List Action := opening moderateRate ++
  [.call everyone 1 (.recordMiningFromReceipt (recordContext 20) 1000000)]

def settleReceipt : Action := .call everyone 10 (.settleFinalizedReceipt (settleContext 20) 2)

def firstRelease : Action :=
  .call everyone 259210 (.materializeRewardRelease ⟨wallet 1, (.User, wallet 7), wallet 20⟩ 0 15000)

theorem vesting_after_release : ∃ s x, settleReceipt.exec (reached recordedReceipt) = .ok s ∧
    (Machine.run step s [firstRelease]).settlements.get (wallet 20) = some x ∧
    x.userClawReleased = 15000 ∧ VestsAt x .User 259210 := by
  obtain ⟨s, hs⟩ : ∃ s, settleReceipt.exec (reached recordedReceipt) = .ok s :=
    ⟨_, eq_ok_get (by decide +kernel)⟩
  obtain ⟨x, hx, -, -, hvests⟩ := vesting recordedReceipt [firstRelease] hs (by decide +kernel)
  have hreleased : ((Machine.run step (step (reached recordedReceipt) settleReceipt)
      [firstRelease]).settlements.get (wallet 20)).map (fun x => x.userClawReleased) =
        some 15000 := by
    decide +kernel
  rw [step_of_ok hs, show (Machine.run step s [firstRelease]).settlements.get (wallet 20) = some x
    from hx] at hreleased
  exact ⟨s, x, hs, hx, Option.some.inj hreleased, (hvests .User).1 _ (by decide +kernel)⟩

end Masterpool
