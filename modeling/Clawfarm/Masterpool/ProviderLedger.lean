import Clawfarm.Masterpool.Flows
import Mathlib.Tactic.Ring

/-!
# Masterpool.ProviderLedger — what a provider account adds up

The four running figures of a provider account are the totals over its receipts and bonds:
`Booked` says so for all wallets at once, with the four figures as one vector.  Each step writes one
provider account and the items that belong to it, and changes both alike.
-/

namespace Masterpool

open Token Checked

/-- Pending USDC, unsettled receipts, unresolved challenges and net position. -/
abbrev ProviderTotals : Type := ℤ × ℤ × ℤ × ℤ

def ProviderAccount.totals (p : ProviderAccount) : ProviderTotals :=
  (p.pendingProviderUsdc, p.unsettledReceiptCount, p.unresolvedChallengeCount, p.clawNetPosition)

/-- What a receipt of a given status adds to the account of its provider. -/
def ReceiptSettlement.providerTotalsAt (x : ReceiptSettlement) :
    ReceiptSettlementStatus → ProviderTotals
  | .Recorded => (x.usdcToProvider, 1, 0, x.clawToProviderTotal)
  | .FinalizedSettled => (0, 0, 0, x.clawToProviderTotal)
  | .ChallengedReverted => 0

/-- What a bond of a given status adds to the account of the challenged provider. -/
def ChallengeBondRecord.providerTotalsAt (b : ChallengeBondRecord) :
    ChallengeBondStatus → ProviderTotals
  | .Locked => (0, 0, 1, 0)
  | .Returned => (0, 0, 0, -b.slashClawAmountSnapshot)
  | .Burned => 0

def ReceiptSettlement.providerTotals (x : ReceiptSettlement) : ProviderTotals :=
  x.providerTotalsAt x.status

def ChallengeBondRecord.providerTotals (b : ChallengeBondRecord) : ProviderTotals :=
  b.providerTotalsAt b.status

def receiptTotals (m : Store Pubkey ReceiptSettlement) : Pubkey → ProviderTotals :=
  m.share ReceiptSettlement.providerWallet ReceiptSettlement.providerTotals

def bondTotals (m : Store Pubkey ChallengeBondRecord) : Pubkey → ProviderTotals :=
  m.share ChallengeBondRecord.providerWallet ChallengeBondRecord.providerTotals

/-- Every provider account shows the totals of its receipts and bonds. -/
def Booked (s : State) : Prop :=
  ∀ w, s.providers.term (fun _ p => p.totals) w = receiptTotals s.settlements w + bondTotals s.bonds w

theorem booked_init : Booked .init := fun _ => rfl

/-! ## Writes -/

theorem SettlementStep.providerTotals {x x' : ReceiptSettlement} (h : SettlementStep x x') :
    x'.providerTotals = x.providerTotalsAt x'.status := by
  unfold ReceiptSettlement.providerTotals
  cases x'.status <;>
    simp only [ReceiptSettlement.providerTotalsAt, h.usdcToProvider, h.clawToProviderTotal]

theorem BondStep.providerTotals {b b' : ChallengeBondRecord} (h : BondStep b b') :
    b'.providerTotals = b.providerTotalsAt b'.status := by
  unfold ChallengeBondRecord.providerTotals
  cases b'.status <;>
    simp only [ChallengeBondRecord.providerTotalsAt, h.slashClawAmountSnapshot]

theorem receiptTotals_set {m : Store Pubkey ReceiptSettlement} {k : Pubkey}
    {x x' : ReceiptSettlement} (h : m.get k = some x) (hx : SettlementStep x x') (w : Pubkey) :
    receiptTotals (m.set k x') w +
        (if x.providerWallet = w then x.providerTotalsAt x.status else 0) =
      receiptTotals m w + if x.providerWallet = w then x.providerTotalsAt x'.status else 0 := by
  rw [← hx.providerTotals]
  exact Store.share_set h _ _ hx.providerWallet w

/-- A write that keeps the status keeps the totals. -/
theorem receiptTotals_congr {m : Store Pubkey ReceiptSettlement} {k : Pubkey}
    {x x' : ReceiptSettlement} (h : m.get k = some x) (hx : SettlementStep x x')
    (hst : x'.status = x.status) (w : Pubkey) : receiptTotals (m.set k x') w = receiptTotals m w := by
  refine Store.share_congr h hx.providerWallet ?_ w
  rw [hx.providerTotals, hst]
  rfl

theorem bondTotals_set {m : Store Pubkey ChallengeBondRecord} {k o : Pubkey}
    {b b' : ChallengeBondRecord} (h : m.get k = some b) (hb : BondStep b b')
    (ho : b.providerWallet = o) (w : Pubkey) :
    bondTotals (m.set k b') w + (if o = w then b.providerTotalsAt b.status else 0) =
      bondTotals m w + if o = w then b.providerTotalsAt b'.status else 0 := by
  rw [← hb.providerTotals, ← ho]
  exact Store.share_set h _ _ hb.providerWallet w

variable {s s' : State}

/-- The bond of a resolution belongs to the provider of the settlement. -/
theorem Resolves.bondProvider {c : Caller MASTERPOOL_ID} {ctx : ResolveChallengeEconomics}
    {g : GlobalConfig} {x : ReceiptSettlement} {b : ChallengeBondRecord} {p : ProviderAccount}
    {u v : RewardAccount} (hw : Wf s) (h : Resolves c ctx s g x b p u v) :
    b.providerWallet = x.providerWallet := by
  obtain ⟨x', hx', -, hwallet⟩ := (hw.bond _ _ h.bond).settlement
  rw [h.record.2, h.receipt, h.settlement] at hx'
  rw [hwallet, Option.some.inj hx']

theorem Effect.booked {a : Action} (hw : Wf s) (hb : Booked s) (h : Effect s a s') :
    Booked s' := by
  cases h with
  | failed _ => exact hb
  | aside _ h =>
    intro w
    rw [h.providers, h.settlements, h.bonds]
    exact hb w
  | genesis _ => exact hb
  | fund _ => exact hb
  | register h =>
    exact Store.books_congr hb (fun _ => rfl) (by rw [Store.term_none h.fresh]; rfl)
  | exit h =>
    exact Store.books_congr hb (fun _ => rfl) (by rw [Store.term_some h.provider]; rfl)
  | @record c now ctx n g pay p u v t₁ t₂ x h =>
    have hwallet : x.providerWallet = ctx.providerAccount := by rw [h.settlement]; exact h.wallet
    have hx : x.status = .Recorded := by rw [h.settlement]; rfl
    refine Store.books_set 0 (x.providerTotalsAt x.status) hb (fun w => ?_) ?_
    · have hr : receiptTotals (s.settlements.set ctx.attestationReceipt x) w =
        receiptTotals s.settlements w + if x.providerWallet = w then x.providerTotals else 0 :=
          Store.share_insert h.fresh _ _ x w
      rw [hwallet] at hr
      rw [ite_self, add_zero, add_right_comm]
      exact congrArg (· + bondTotals s.bonds w) hr
    · rw [Store.term_some h.provider, hx]
      simp [ProviderAccount.totals, ReceiptSettlement.providerTotalsAt]
  | @settle c now ctx n g x p u v t h =>
    have hstep := settlementStep_of_recorded h.recorded now.toInt now.toInt .FinalizedSettled
    refine Store.books_set (x.providerTotalsAt x.status) (x.providerTotalsAt .FinalizedSettled) hb
      (fun w => ?_) ?_
    · have hr := receiptTotals_set h.settlement hstep w
      rw [add_right_comm, add_right_comm (receiptTotals s.settlements w)]
      exact congrArg (· + bondTotals s.bonds w) hr
    · have h₁ := h.pendingUsdc
      have h₂ := h.unsettled
      rw [Store.term_some h.provider, h.recorded]
      simp [ProviderAccount.totals, ReceiptSettlement.providerTotalsAt, Nat.cast_sub, h₁, h₂]
  | @bond c now ctx g x p t b h =>
    have hwallet : b.providerWallet = x.providerWallet := by rw [h.record]; rfl
    have hlock : b.status = .Locked := by rw [h.record]; rfl
    refine Store.books_set 0 (b.providerTotalsAt b.status) hb (fun w => ?_) ?_
    · have hr : bondTotals (s.bonds.set ctx.attestationChallenge b) w =
        bondTotals s.bonds w + if b.providerWallet = w then b.providerTotals else 0 :=
          Store.share_insert h.fresh _ _ b w
      rw [hwallet] at hr
      rw [ite_self, add_zero, add_assoc]
      exact congrArg (receiptTotals s.settlements w + ·) hr
    · rw [Store.term_some h.provider, hlock]
      simp [ProviderAccount.totals, ChallengeBondRecord.providerTotalsAt]
  | @reject c now ctx n g x b p u v t _ h ht hp =>
    have hx := settlementStep_of_recorded h.recorded x.rewardLockStartedAt now.toInt x.status
    have hstep := bondStep_of_locked h.locked now.toInt .Burned
    refine Store.books_set (b.providerTotalsAt b.status) (b.providerTotalsAt .Burned) hb
      (fun w => ?_) ?_
    · have hr := receiptTotals_congr h.settlement hx rfl w
      have hq := bondTotals_set h.bond hstep (h.bondProvider hw) w
      rw [rejected, hr, add_assoc, add_assoc]
      exact congrArg (receiptTotals s.settlements w + ·) hq
    · rw [Store.term_some h.provider, h.locked]
      simp [ProviderAccount.totals, ChallengeBondRecord.providerTotalsAt, Nat.cast_sub, hp]
  | @revert c now ctx n g x b p u v t₁ t₂ t₃ t₄ _ h ha hp =>
    have hx := settlementStep_of_recorded h.recorded x.rewardLockStartedAt now.toInt
      .ChallengedReverted
    have hstep := bondStep_of_locked h.locked now.toInt .Returned
    refine Store.books_set (x.providerTotalsAt x.status + b.providerTotalsAt b.status)
      (x.providerTotalsAt .ChallengedReverted + b.providerTotalsAt .Returned) hb (fun w => ?_) ?_
    · have hr := receiptTotals_set h.settlement hx w
      have hq := bondTotals_set h.bond hstep (h.bondProvider hw) w
      exact Store.share_add hr hq
    · have h₁ := ha.pendingUsdc
      have h₂ := ha.unsettled
      simp only at h₁ h₂
      rw [Store.term_some h.provider, h.recorded, h.locked]
      simp [ProviderAccount.totals, ReceiptSettlement.providerTotalsAt,
        ChallengeBondRecord.providerTotalsAt, Nat.cast_sub, h₁, h₂, hp]
      ring
  | @materialize c now ctx target n tgt x r h =>
    intro w
    have hr := receiptTotals_congr h.settlement
      (settlementStep_released x n.toNat tgt now.toInt) (by cases tgt <;> rfl) w
    rw [materialized, hr]
    exact hb w
  | claim _ => exact hb

theorem reached_booked (as : List Action) : Booked (reached as) := by
  refine (Machine.run_induction (P := fun s => Wf s ∧ Booked s) (fun s a h => ?_)
    ⟨wf_init, booked_init⟩ as).2
  exact ⟨step_wf h.1 a, (step_effect h.1.sound a).booked h.1 h.2⟩

/-! ## The four figures -/

/-- What the account `p` of the wallet `w` adds up. -/
structure ProviderLedger (s : State) (w : Pubkey) (p : ProviderAccount) : Prop where
  pendingProviderUsdc : p.pendingProviderUsdc = s.settlements.sum fun _ x =>
    if x.providerWallet = w ∧ x.status = .Recorded then x.usdcToProvider else 0
  unsettledReceiptCount : p.unsettledReceiptCount = s.settlements.sum fun _ x =>
    if x.providerWallet = w ∧ x.status = .Recorded then 1 else 0
  unresolvedChallengeCount : p.unresolvedChallengeCount = s.bonds.sum fun _ b =>
    if b.providerWallet = w ∧ b.status = .Locked then 1 else 0
  clawNetPosition : p.clawNetPosition =
    (s.settlements.sum fun _ x =>
      if x.providerWallet = w ∧ (x.status = .Recorded ∨ x.status = .FinalizedSettled) then
        (x.clawToProviderTotal : ℤ) else 0) -
    s.bonds.sum fun _ b =>
      if b.providerWallet = w ∧ b.status = .Returned then (b.slashClawAmountSnapshot : ℤ) else 0

theorem ReceiptSettlement.providerTotals_eq (x : ReceiptSettlement) : x.providerTotals =
    (if x.status = .Recorded then (x.usdcToProvider : ℤ) else 0,
      if x.status = .Recorded then 1 else 0, 0,
      if x.status = .Recorded ∨ x.status = .FinalizedSettled then (x.clawToProviderTotal : ℤ)
      else 0) := by
  unfold providerTotals
  cases x.status <;> rfl

theorem ChallengeBondRecord.providerTotals_eq (b : ChallengeBondRecord) : b.providerTotals =
    (0, 0, if b.status = .Locked then 1 else 0,
      if b.status = .Returned then -(b.slashClawAmountSnapshot : ℤ) else 0) := by
  unfold providerTotals
  cases b.status <;> rfl

/-- A linear figure of the account is the sum of the figures of its receipts and bonds. -/
theorem Booked.figure (hb : Booked s) {w : Pubkey} {p : ProviderAccount}
    (hp : s.providers.get w = some p) (φ : ProviderTotals →+ ℤ) :
    φ p.totals =
      (s.settlements.sum fun _ x => if x.providerWallet = w then φ x.providerTotals else 0) +
      s.bonds.sum fun _ b => if b.providerWallet = w then φ b.providerTotals else 0 := by
  have hw := congrArg φ (hb w)
  rw [Store.term_some hp, map_add, receiptTotals, bondTotals, Store.share, Store.share,
    Store.hom_sum, Store.hom_sum] at hw
  simpa only [apply_ite φ, map_zero] using hw

theorem Booked.ledger (hb : Booked s) {w : Pubkey} {p : ProviderAccount}
    (hp : s.providers.get w = some p) : ProviderLedger s w p := by
  have hfst := hb.figure hp (.fst ℤ _)
  have hsnd := hb.figure hp ((AddMonoidHom.fst ℤ _).comp (.snd ℤ _))
  have hthird := hb.figure hp ((AddMonoidHom.fst ℤ _).comp ((AddMonoidHom.snd ℤ _).comp (.snd ℤ _)))
  have hfourth :=
    hb.figure hp ((AddMonoidHom.snd ℤ _).comp ((AddMonoidHom.snd ℤ _).comp (.snd ℤ _)))
  simp only [AddMonoidHom.comp_apply, AddMonoidHom.coe_fst, AddMonoidHom.coe_snd,
    ProviderAccount.totals, ReceiptSettlement.providerTotals_eq,
    ChallengeBondRecord.providerTotals_eq, ite_self, Store.sum_zero, add_zero, zero_add, ← ite_and]
    at hfst hsnd hthird hfourth
  refine ⟨Store.eq_sum_of_cast ?_, Store.eq_sum_of_cast ?_, Store.eq_sum_of_cast ?_, ?_⟩
  · simpa only [Nat.cast_ite, Nat.cast_zero] using hfst
  · simpa only [Nat.cast_ite, Nat.cast_one, Nat.cast_zero] using hsnd
  · simpa only [Nat.cast_ite, Nat.cast_one, Nat.cast_zero] using hthird
  · rw [hfourth, sub_eq_add_neg, ← Store.sum_neg]
    simp only [apply_ite Neg.neg, neg_zero]

/-! ### What is subtracted is there -/

theorem ProviderLedger.of_recorded {w k : Pubkey} {p : ProviderAccount} {x : ReceiptSettlement}
    (h : ProviderLedger s w p) (hx : s.settlements.get k = some x) (hw : x.providerWallet = w)
    (hrec : x.status = .Recorded) :
    x.usdcToProvider ≤ p.pendingProviderUsdc ∧ 1 ≤ p.unsettledReceiptCount := by
  have hpending := Store.le_sum hx fun _ x =>
    if x.providerWallet = w ∧ x.status = .Recorded then x.usdcToProvider else 0
  have hcount := Store.le_sum hx fun _ x =>
    if x.providerWallet = w ∧ x.status = .Recorded then 1 else 0
  rw [if_pos ⟨hw, hrec⟩] at hpending hcount
  exact ⟨h.pendingProviderUsdc ▸ hpending, h.unsettledReceiptCount ▸ hcount⟩

theorem ProviderLedger.of_locked {w k : Pubkey} {p : ProviderAccount} {b : ChallengeBondRecord}
    (h : ProviderLedger s w p) (hb : s.bonds.get k = some b) (hw : b.providerWallet = w)
    (hlock : b.status = .Locked) : 1 ≤ p.unresolvedChallengeCount := by
  have hcount := Store.le_sum hb fun _ b =>
    if b.providerWallet = w ∧ b.status = .Locked then 1 else 0
  rw [if_pos ⟨hw, hlock⟩] at hcount
  exact h.unresolvedChallengeCount ▸ hcount

/-- **Provider ledger**: in every run each provider account shows the totals of its receipts and
bonds, and so the subtractions that settle a recorded receipt or resolve a locked bond succeed. -/
theorem provider_ledger (as : List Action) :
    (∀ w p, (reached as).providers.get w = some p → ProviderLedger (reached as) w p) ∧
    (∀ k x p, (reached as).settlements.get k = some x → x.status = .Recorded →
      (reached as).providers.get x.providerWallet = some p →
        checkedSubU64 p.pendingProviderUsdc x.usdcToProvider =
          .ok (p.pendingProviderUsdc - x.usdcToProvider) ∧
        checkedSubU64 p.unsettledReceiptCount 1 = .ok (p.unsettledReceiptCount - 1)) ∧
    (∀ k b x p, (reached as).bonds.get k = some b → b.status = .Locked →
      (reached as).settlements.get b.attestationReceipt = some x →
      (reached as).providers.get x.providerWallet = some p →
        checkedSubU64 p.unresolvedChallengeCount 1 = .ok (p.unresolvedChallengeCount - 1)) := by
  have hledger : ∀ w p, (reached as).providers.get w = some p → ProviderLedger (reached as) w p :=
    fun w p hp => (reached_booked as).ledger hp
  refine ⟨hledger, fun k x p hx hrec hp => ?_, fun k b x p hb hlock hx hp => ?_⟩
  · obtain ⟨hpending, hcount⟩ := (hledger _ p hp).of_recorded hx rfl hrec
    exact ⟨checkedSubU64_eq_ok.mpr ⟨hpending, rfl⟩, checkedSubU64_eq_ok.mpr ⟨hcount, rfl⟩⟩
  · obtain ⟨x', hx', -, hwallet⟩ := ((reached_wf as).bond k b hb).settlement
    rw [hx] at hx'
    have hcount := (hledger _ p hp).of_locked hb (hwallet.trans (by rw [Option.some.inj hx'])) hlock
    exact checkedSubU64_eq_ok.mpr ⟨hcount, rfl⟩

end Masterpool
