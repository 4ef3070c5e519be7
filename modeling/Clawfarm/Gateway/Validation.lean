import Clawfarm.Gateway.Js
import Clawfarm.Lib.Floating
import Clawfarm.Masterpool.Releases

/-!
# Gateway.Validation — what the validation script releases

`post-smoke-validation.ts` computes off chain, in doubles, how much of a reward it may release, and
calls `materialize_reward_release` with that amount.  As long as the product in the computation is a
safe integer, the amounts that the program accepts at the same time are exactly those up to the
computed one; for every reward within the supply of CLAW the computed amount is at most one unit off
(`release_computed`).
-/

namespace Gateway

open Checked Masterpool Token

/-! ## The script -/

/-- A number as a double.  All numbers here are finite, and none is close to the ends of the range
of the exponents. -/
def double (q : ℚ) : ℚ := Floating.fl 53 q

/-- `toNumber` of an account field that is decoded as a big number -/
def toNumber (value : ℤ) : Except Thrown ℚ := do
  require (|value| < 2 ^ 53) (.error "Number can only safely store up to 53 bits")
  return value

def decodeU64 (value : ℕ) : Except Thrown ℚ := toNumber value

def toSafeNumber (value : ℤ) (label : String) : Except Thrown ℚ := do
  let resolved ← toNumber value
  require (JsNumber.finite resolved).IsSafeInteger (.error (label ++ " must be a safe integer"))
  return resolved

def computeLinearReleasableAmount
    (totalLocked releasedSoFar lockStartUnixSeconds nowUnixSeconds lockDays : ℚ) :
    Except Thrown ℚ := do
  let lockSeconds := double (lockDays * 86400)
  require ((JsNumber.finite lockSeconds).IsSafeInteger ∧ ¬ lockSeconds ≤ 0)
    (.error "lockDays must produce a positive safe lock duration")
  let elapsed := max 0 (min (double (nowUnixSeconds - lockStartUnixSeconds)) lockSeconds)
  let vested : ℚ := ⌊double (double (totalLocked * elapsed) / lockSeconds)⌋
  return double (vested - releasedSoFar)

/-- `userReleasable` and `providerReleasable` for the fetched settlement. -/
def releasable (settlementForRewards : ReceiptSettlement) (target : ReleaseTarget)
    (chainNowUnixSeconds : ℤ) : Except Thrown ℚ := do
  let totalLocked ← decodeU64 (settlementForRewards.totalLocked target)
  let releasedSoFar ← decodeU64 (settlementForRewards.releasedSoFar target)
  let lockStartUnixSeconds ← toSafeNumber settlementForRewards.rewardLockStartedAt
    "settlement.rewardLockStartedAt"
  computeLinearReleasableAmount totalLocked releasedSoFar lockStartUnixSeconds chainNowUnixSeconds
    settlementForRewards.lockDaysSnapshot

/-! ## The computation -/

theorem double_intCast {n : ℤ} (h : |n| < 2 ^ 53) : double n = n := Floating.fl_intCast h

theorem double_natCast {n : ℕ} (h : n < 2 ^ 53) : double n = n := Floating.fl_natCast h

theorem isSafeInteger_intCast {n : ℤ} (h : |n| < 2 ^ 53) :
    (JsNumber.finite n).IsSafeInteger := by
  refine ⟨Rat.den_intCast n, ?_⟩
  rw [Rat.num_intCast, MAX_SAFE_INTEGER]
  push_cast
  omega

theorem toNumber_eq_ok {value : ℤ} (h : |value| < 2 ^ 53) : toNumber value = .ok (value : ℚ) := by
  rw [toNumber, require_true h]
  rfl

theorem toSafeNumber_eq_ok {value : ℤ} (h : |value| < 2 ^ 53) (label : String) :
    toSafeNumber value label = .ok (value : ℚ) := by
  rw [toSafeNumber, toNumber_eq_ok h, ok_bind, require_true (isSafeInteger_intCast h)]
  rfl

variable {total released days : ℕ} {start now : ℤ}

/-- The time of the lock that is over, in seconds. -/
def elapsedSeconds (start now : ℤ) (lock : ℕ) : ℕ := min (now - start).toNat lock

/-- What the script takes for vested. -/
def vestedOffChain (total lock elapsed : ℕ) : ℤ :=
  ⌊double (double ((total : ℚ) * elapsed) / lock)⌋

theorem clamp_intCast (d : ℤ) (b : ℕ) : max 0 (min (d : ℚ) b) = (min d.toNat b : ℕ) := by
  rcases le_total 0 d with h | h
  · obtain ⟨n, rfl⟩ := Int.eq_ofNat_of_zero_le h
    rw [Int.toNat_natCast, Int.cast_natCast, ← Nat.cast_min, max_eq_right (Nat.cast_nonneg _)]
  · have hd : (d : ℚ) ≤ 0 := Int.cast_nonpos.mpr h
    rw [Int.toNat_of_nonpos h, Nat.zero_min, min_eq_left (hd.trans (Nat.cast_nonneg b)),
      max_eq_left hd, Nat.cast_zero]

theorem computeLinearReleasableAmount_eq (hdays : DaysFit days) :
    computeLinearReleasableAmount total released start now days =
      .ok (double (vestedOffChain total (days * 86400)
        (elapsedSeconds start now (days * 86400)) - released)) := by
  obtain ⟨hpos, hlt⟩ := hdays
  have hseconds : double ((days : ℚ) * 86400) = (days * 86400 : ℕ) := by
    rw [← double_natCast (show days * 86400 < 2 ^ 53 by omega)]
    push_cast
    rfl
  have hsafe : (JsNumber.finite ((days * 86400 : ℕ) : ℚ)).IsSafeInteger ∧
      ¬ ((days * 86400 : ℕ) : ℚ) ≤ 0 := by
    refine ⟨?_, not_le.mpr (Nat.cast_pos.mpr (by omega))⟩
    exact_mod_cast isSafeInteger_intCast (n := (days * 86400 : ℕ)) (by
      rw [Nat.abs_cast]
      omega)
  have helapsed : max 0 (min (double ((now : ℚ) - start)) (days * 86400 : ℕ)) =
      (elapsedSeconds start now (days * 86400) : ℕ) := by
    have hclamp := Floating.clamp_fl (p := 53) (d := now - start) (b := days * 86400) (by omega)
      (by norm_num)
    rw [Int.cast_sub] at hclamp
    rw [double, hclamp, elapsedSeconds, ← clamp_intCast, Int.cast_sub]
  simp only [computeLinearReleasableAmount, hseconds, require_true hsafe, helapsed, ok_bind]
  rfl

/-- **Exactness**: if the product is a safe integer, so is everything else. -/
theorem vestedOffChain_eq {total lock elapsed : ℕ} (hlock : 0 < lock)
    (h : total * elapsed < 2 ^ 53) :
    vestedOffChain total lock elapsed = (total * elapsed / lock : ℕ) := by
  have hproduct : double ((total : ℚ) * elapsed) = (total * elapsed : ℕ) := by
    rw [← double_natCast h, Nat.cast_mul]
  rw [vestedOffChain, hproduct]
  exact Floating.floor_fl_div h hlock

/-- **Accuracy**: for a reward within the supply at most one unit is lost or gained. -/
theorem vestedOffChain_close {total lock elapsed : ℕ} (hlock : 0 < lock) (helapsed : elapsed ≤ lock)
    (h : total ≤ GENESIS_TOTAL_SUPPLY) :
    |vestedOffChain total lock elapsed - (total * elapsed / lock : ℕ)| ≤ 1 := by
  refine Floating.abs_floor_fl_mul_div_le hlock helapsed ?_
  rw [GENESIS_TOTAL_SUPPLY, RATE_SCALE] at h
  omega

/-! ## The script and the program -/

variable {x : ReceiptSettlement} {tgt : ReleaseTarget}

/-- What the script takes for vested of a settlement. -/
def scriptVested (x : ReceiptSettlement) (tgt : ReleaseTarget) (now : ℤ) : ℤ :=
  vestedOffChain (x.totalLocked tgt) x.lockSeconds
    (elapsedSeconds x.rewardLockStartedAt now x.lockSeconds)

theorem scriptVested_close (now : ℤ) (hdays : DaysFit x.lockDaysSnapshot)
    (hsupply : x.totalLocked tgt ≤ GENESIS_TOTAL_SUPPLY) :
    |scriptVested x tgt now - x.vested tgt now| ≤ 1 :=
  vestedOffChain_close (Nat.mul_pos hdays.1 (by decide)) (Nat.min_le_right _ _) hsupply

/-- The script gets an amount from every settlement of a reward within the supply. -/
theorem releasable_eq_ok (hdays : DaysFit x.lockDaysSnapshot)
    (hstart : |x.rewardLockStartedAt| < 2 ^ 53) (hsupply : x.totalLocked tgt ≤ GENESIS_TOTAL_SUPPLY)
    (hreleased : x.releasedSoFar tgt ≤ x.totalLocked tgt) :
    releasable x tgt now = .ok ((scriptVested x tgt now - x.releasedSoFar tgt : ℤ) : ℚ) := by
  have hclose := scriptVested_close now hdays hsupply
  have hvested : x.vested tgt now ≤ x.totalLocked tgt := linearVested_le _ _ _
  have hlimit : GENESIS_TOTAL_SUPPLY < 2 ^ 52 := by decide
  have htotal : |(x.totalLocked tgt : ℤ)| < 2 ^ 53 := by
    rw [Nat.abs_cast]
    omega
  have hsofar : |(x.releasedSoFar tgt : ℤ)| < 2 ^ 53 := by
    rw [Nat.abs_cast]
    omega
  have hresult : |scriptVested x tgt now - x.releasedSoFar tgt| < 2 ^ 53 := by
    rw [abs_le] at hclose
    rw [abs_lt]
    constructor <;> omega
  have hdouble := double_intCast hresult
  rw [Int.cast_sub, Int.cast_natCast] at hdouble
  simp only [releasable, decodeU64, toNumber_eq_ok htotal, toNumber_eq_ok hsofar,
    toSafeNumber_eq_ok hstart, ok_bind, Int.cast_natCast]
  rw [computeLinearReleasableAmount_eq hdays, Int.cast_sub, Int.cast_natCast]
  exact congrArg Except.ok hdouble

/-- With 30 days of lock the script asks for a unit too many of this reward. -/
example : computeLinearReleasableAmount 3492314671 0 1 2590770 30 = .ok 3490656091 ∧
    Masterpool.computeLinearReleasableAmount 3492314671 0 1 2590770 30 = .ok 3490656090 := by
  decide +kernel

/-- The program accepts a release of `n`. -/
def Accepted (c : Caller MASTERPOOL_ID) (now : ℤ) (ctx : MaterializeRewardRelease) (target : ℕ)
    (s : State) (n : ℕ) : Prop :=
  ∃ s', materializeRewardRelease c now ctx target n s = .ok s'

/-- How the amount `v` of the script relates to the amounts that the program accepts. -/
structure Predicts (accepted : ℕ → Prop) (small : Prop) (v : ℤ) : Prop where
  exact : small → ∀ n : ℕ, accepted n ↔ 0 < n ∧ n ≤ v
  enough : ∀ n : ℕ, 0 < n → n + 1 ≤ v → accepted n
  notMore : ∀ n : ℕ, accepted n → n ≤ v + 1

/-- **Off chain and on chain**: for a reward within the supply of CLAW the script computes an
amount, and at the same time the program accepts exactly the positive amounts up to it, if the
product in the computation is a safe integer; in any case it is at most one unit off. -/
theorem release_computed (as : List Masterpool.Action) {c : Caller MASTERPOOL_ID}
    {ctx : MaterializeRewardRelease} {target : ℕ} {g : GlobalConfig} {r : RewardAccount}
    (h : ReleaseCall c ctx target tgt (Masterpool.reached as) g x r)
    (hfin : x.status = .FinalizedSettled) (hstart : 0 < x.rewardLockStartedAt)
    (hsafe : x.rewardLockStartedAt < 2 ^ 53) (hsupply : x.totalLocked tgt ≤ GENESIS_TOTAL_SUPPLY)
    (hroom : r.releasedClawTotal + x.unreleased tgt < u64Bound) (now : ℤ) :
    ∃ v : ℤ, releasable x tgt now = .ok (v : ℚ) ∧
      Predicts (Accepted c now ctx target (Masterpool.reached as))
        (x.totalLocked tgt * elapsedSeconds x.rewardLockStartedAt now x.lockSeconds < 2 ^ 53) v := by
  have hl := reached_ledgers as
  have hd := reached_dated as
  have hdays := hd.settlement _ x h.settlement
  have hreleased := (hl.wf.settlement _ x h.settlement).released_le tgt
  have hclose := scriptVested_close now hdays hsupply
  have hle : x.vested tgt now ≤ x.totalLocked tgt := linearVested_le _ _ _
  -- what the program accepts is what is vested on chain
  have haccepted : ∀ n, Accepted c now ctx target (Masterpool.reached as) n ↔
      0 < n ∧ x.releasedSoFar tgt + n ≤ x.vested tgt now := by
    intro n
    rw [Accepted, h.succeeds_iff hl hd]
    constructor
    · intro hfits
      exact ⟨hfits.positive, hfits.vested⟩
    · rintro ⟨hpos, hvested⟩
      refine ⟨hfin, hstart, hpos, hvested, ?_⟩
      unfold ReceiptSettlement.unreleased at hroom
      omega
  refine ⟨_, releasable_eq_ok hdays (by rw [abs_of_pos hstart]; exact hsafe) hsupply hreleased,
    fun hsmall n => ?_, fun n hpos hn => ?_, fun n hn => ?_⟩
  · have hexact : scriptVested x tgt now = x.vested tgt now :=
      vestedOffChain_eq (Nat.mul_pos hdays.1 (by decide)) hsmall
    rw [haccepted, hexact]
    omega
  · rw [abs_le] at hclose
    exact (haccepted n).mpr ⟨hpos, by omega⟩
  · rw [abs_le] at hclose
    have := ((haccepted n).mp hn).2
    omega

/-- When a tenth of the lock is over, a release of up to a tenth of the reward is accepted. -/
theorem release_computed_tenth : ∃ v : ℤ, releasable
    (((Masterpool.reached (recordedReceipt ++ [settleReceipt])).settlements.get
      restContext.receiptSettlement).get (by decide +kernel)) .User 259210 = .ok (v : ℚ) ∧
    Predicts (Accepted everyone 259210 restContext 0
      (Masterpool.reached (recordedReceipt ++ [settleReceipt]))) True v := by
  obtain ⟨v, hv, hpredicts⟩ := @release_computed
    (((Masterpool.reached (recordedReceipt ++ [settleReceipt])).settlements.get
      restContext.receiptSettlement).get (by decide +kernel)) .User
    (recordedReceipt ++ [settleReceipt]) everyone restContext 0
    ((Masterpool.reached (recordedReceipt ++ [settleReceipt])).config.get (by decide +kernel))
    (((Masterpool.reached (recordedReceipt ++ [settleReceipt])).rewards.get
      restContext.rewardAccount).get (by decide +kernel))
    ⟨(Option.some_get _).symm, by decide +kernel, rfl, (Option.some_get _).symm,
      (Option.some_get _).symm, by decide +kernel⟩
    (by decide +kernel) (by decide +kernel) (by decide +kernel) (by decide +kernel)
    (by decide +kernel) 259210
  exact ⟨v, hv, fun _ => hpredicts.exact (by decide +kernel), hpredicts.enough, hpredicts.notMore⟩

end Gateway
