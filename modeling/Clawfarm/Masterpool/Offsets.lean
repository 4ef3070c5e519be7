import Clawfarm.Masterpool.Rollback

/-!
# Masterpool.Offsets — rewards pay down the debt first

Consecutive receipts of one provider: together they pay down what one receipt with the sum of their
rewards would, and lock the rest.  So their order and how a reward is split over them change nothing
but the share that each of them has in the offset.
-/

namespace Masterpool

open Token Checked Debt

variable {s s' : State} {g : GlobalConfig} {w : Pubkey}

/-! ## One receipt -/

/-- Every stored reward account of the provider is in use. -/
def ProviderRewardInUse (s : State) (w : Pubkey) : Prop :=
  ∀ v, s.rewards.get (.Provider, w) = some v → v.initialized = true

/-- What the receipts that `rs` recorded keep of `f`, in total. -/
def State.totalOf (f : ReceiptSettlement → ℕ) (s : State) (rs : List RecordCall) : ℕ :=
  (rs.map fun r => s.settlements.term (fun _ x => f x) r.ctx.attestationReceipt).sum

/-- What the receipts `rs` give to their providers. -/
def rewards (g : GlobalConfig) (rs : List RecordCall) : ℕ :=
  (rs.map fun r => clawToProvider g r.totalUsdcPaid.toNat).sum

/-- What the call `r` booked for its provider in the settlement `x`. -/
structure Rewarded (g : GlobalConfig) (r : RecordCall) (x : ReceiptSettlement) (s s' : State) :
    Prop where
  config : s'.config = some g
  inUse : ProviderRewardInUse s' r.ctx.providerAccount
  fresh : s.settlements.get r.ctx.attestationReceipt = none
  settlements : s'.settlements = s.settlements.set r.ctx.attestationReceipt x
  total : x.clawToProviderTotal = clawToProvider g r.totalUsdcPaid.toNat
  offset : x.clawProviderDebtOffset =
    offset (s.netPosition r.ctx.providerAccount) (clawToProvider g r.totalUsdcPaid.toNat)
  locked : x.clawToProviderLocked = clawToProvider g r.totalUsdcPaid.toNat -
    Debt.offset (s.netPosition r.ctx.providerAccount) (clawToProvider g r.totalUsdcPaid.toNat)
  pending : s'.pendingClaw (.Provider, r.ctx.providerAccount) =
    s.pendingClaw (.Provider, r.ctx.providerAccount) + x.clawToProviderLocked
  position : s'.netPosition r.ctx.providerAccount =
    s.netPosition r.ctx.providerAccount + clawToProvider g r.totalUsdcPaid.toNat

theorem RecordCall.exec_rewarded {r : RecordCall} (hg : s.config = some g)
    (huse : ProviderRewardInUse s r.ctx.providerAccount) (h : r.action.exec s = .ok s') :
    ∃ x, Rewarded g r x s s' := by
  obtain ⟨g', pay, p, u, v, t₁, t₂, x, hrec, rfl⟩ := recordMiningFromReceipt_ok h
  obtain rfl : g = g' := Option.some.inj (hg.symm.trans hrec.config)
  have hnet : s.netPosition r.ctx.providerAccount = p.clawNetPosition :=
    Store.term_some hrec.provider fun _ p => p.clawNetPosition
  have hbooking := hrec.booking
  rw [← hnet] at hbooking
  obtain ⟨v₀, hv₀, hinit⟩ := hrec.providerReward
  obtain ⟨hzeroed, -⟩ | ⟨hv, rfl, -, -⟩ := initializeRewardAccount_ok hinit
  · exact absurd (huse v₀ hv₀) (by simp [hzeroed])
  refine ⟨x, hg, fun a ha => ?_, hrec.fresh, rfl, congrArg Booking.toDebtor hbooking,
    congrArg Booking.debtOffset hbooking, congrArg Booking.locked hbooking, ?_, ?_⟩
  · rw [recorded, Store.get_set_self, Option.some.injEq] at ha
    rw [← ha]
    exact hv
  · simp only [State.pendingClaw, recorded, Store.term_set_self]
    rw [Store.term_some hv₀]
  · simp only [State.netPosition, recorded, Store.term_set_self]
    rw [← State.netPosition, hnet]
    exact congrArg (fun y => p.clawNetPosition + (y.toDebtor : ℤ)) hbooking

/-- One receipt locks what the position gains above zero. -/
theorem Rewarded.locked_eq {r : RecordCall} {x : ReceiptSettlement} (h : Rewarded g r x s s') :
    (x.clawToProviderLocked : ℤ) = max 0 (s'.netPosition r.ctx.providerAccount) -
      max 0 (s.netPosition r.ctx.providerAccount) := by
  rw [h.locked, h.position, sub_offset]

/-! ## Many receipts -/

/-- Between `s` and `s'` the receipts `rs` of the provider `w` were booked, the debt first. -/
structure DebtFirst (g : GlobalConfig) (w : Pubkey) (rs : List RecordCall) (s s' : State) :
    Prop where
  total : s'.totalOf ReceiptSettlement.clawToProviderTotal rs = rewards g rs
  offset : s'.totalOf ReceiptSettlement.clawProviderDebtOffset rs =
    min (-s.netPosition w).toNat (rewards g rs)
  locked : s'.totalOf ReceiptSettlement.clawToProviderLocked rs =
    rewards g rs - min (-s.netPosition w).toNat (rewards g rs)
  pending : s'.pendingClaw (.Provider, w) = s.pendingClaw (.Provider, w) +
    (rewards g rs - min (-s.netPosition w).toNat (rewards g rs))
  position : s'.netPosition w = s.netPosition w + rewards g rs

theorem execAll_records_kept {rs : List RecordCall} {k : Pubkey} {x : ReceiptSettlement}
    (hx : s.settlements.get k = some x) (h : execAll s (rs.map RecordCall.action) = .ok s') :
    s'.settlements.get k = some x := by
  induction rs generalizing s with
  | nil =>
    obtain rfl := execAll_nil.mp h
    exact hx
  | cons r rs ih =>
    obtain ⟨t, hr, hrs⟩ := execAll_cons.mp h
    obtain ⟨g, pay, p, u, v, t₁, t₂, y, hrec, rfl⟩ := recordMiningFromReceipt_ok hr
    refine ih ?_ hrs
    have hne : k ≠ r.ctx.attestationReceipt := by
      rintro rfl
      exact nomatch hx.symm.trans hrec.fresh
    rw [recorded, Store.get_set_of_ne hne, hx]

/-- The config and the reward account stay as they have to be. -/
theorem execAll_records_inUse {rs : List RecordCall} (hg : s.config = some g)
    (huse : ProviderRewardInUse s w) (hfor : ∀ r ∈ rs, r.ctx.providerAccount = w)
    (h : execAll s (rs.map RecordCall.action) = .ok s') :
    s'.config = some g ∧ ProviderRewardInUse s' w := by
  induction rs generalizing s with
  | nil =>
    obtain rfl := execAll_nil.mp h
    exact ⟨hg, huse⟩
  | cons r rs ih =>
    obtain ⟨t, hr, hrs⟩ := execAll_cons.mp h
    obtain rfl := hfor r List.mem_cons_self
    obtain ⟨x, hone⟩ := RecordCall.exec_rewarded hg huse hr
    exact ih hone.config hone.inUse (fun q hq => hfor q (List.mem_cons_of_mem _ hq)) hrs

theorem totalOf_cons {f : ReceiptSettlement → ℕ} {r : RecordCall} {rs : List RecordCall}
    {x : ReceiptSettlement} (hx : s.settlements.get r.ctx.attestationReceipt = some x) :
    s.totalOf f (r :: rs) = f x + s.totalOf f rs := by
  rw [State.totalOf, List.map_cons, List.sum_cons, Store.term_some hx]
  rfl

theorem rewards_cons (r : RecordCall) (rs : List RecordCall) :
    rewards g (r :: rs) = clawToProvider g r.totalUsdcPaid.toNat + rewards g rs := by
  rw [rewards, List.map_cons, List.sum_cons]
  rfl

theorem rewards_perm {rs rs' : List RecordCall} (h : rs.Perm rs') : rewards g rs = rewards g rs' :=
  (h.map _).sum_eq

theorem execAll_debtFirst {rs : List RecordCall} (hg : s.config = some g)
    (huse : ProviderRewardInUse s w) (hfor : ∀ r ∈ rs, r.ctx.providerAccount = w)
    (h : execAll s (rs.map RecordCall.action) = .ok s') : DebtFirst g w rs s s' := by
  induction rs generalizing s with
  | nil =>
    obtain rfl := execAll_nil.mp h
    have hnone : rewards g [] = 0 := rfl
    refine ⟨rfl, ?_, ?_, ?_, ?_⟩ <;> simp [hnone, State.totalOf]
  | cons r rs ih =>
    obtain ⟨t, hr, hrs⟩ := execAll_cons.mp h
    obtain rfl := hfor r List.mem_cons_self
    obtain ⟨x, hone⟩ := RecordCall.exec_rewarded hg huse hr
    have hall := ih hone.config hone.inUse (fun q hq => hfor q (List.mem_cons_of_mem _ hq)) hrs
    have hx : s'.settlements.get r.ctx.attestationReceipt = some x := by
      refine execAll_records_kept ?_ hrs
      rw [hone.settlements, Store.get_set_self]
    -- the two parts of the reward pay down what their sum does
    have hsplit := offset_add (s.netPosition r.ctx.providerAccount)
      (clawToProvider g r.totalUsdcPaid.toNat) (rewards g rs)
    have hle := offset_le (s.netPosition r.ctx.providerAccount)
      (clawToProvider g r.totalUsdcPaid.toNat)
    have hle' := offset_le (s.netPosition r.ctx.providerAccount +
      clawToProvider g r.totalUsdcPaid.toNat) (rewards g rs)
    have hoffset := hall.offset
    have hlocked := hall.locked
    have hpending := hall.pending
    have hposition := hall.position
    rw [hone.position, ← Debt.offset] at hoffset hlocked hpending
    rw [hone.position] at hposition
    refine ⟨?_, ?_, ?_, ?_, ?_⟩
    · rw [totalOf_cons hx, hall.total, hone.total, rewards_cons]
    · rw [totalOf_cons hx, hoffset, hone.offset, rewards_cons, ← Debt.offset, hsplit]
    · rw [totalOf_cons hx, hlocked, hone.locked, rewards_cons, ← Debt.offset, hsplit]
      omega
    · rw [hpending, hone.pending, hone.locked, rewards_cons, ← Debt.offset, hsplit]
      omega
    · rw [hposition, rewards_cons]
      omega

theorem reached_providerRewardInUse (as : List Action) (w : Pubkey) :
    ProviderRewardInUse (reached as) w :=
  fun v hv => ((reached_wf as).reward _ v hv).initialized

/-- **Debt first**: consecutive receipts of a provider pay down its debt before they lock anything,
together as much as one receipt with the sum of their rewards, and each locks what the position
gains above zero.  So neither the order of the receipts nor how a reward is split changes the
totals, and no offset is cut off by its type. -/
theorem debt_first {rs : List RecordCall} (hg : s.config = some g) (huse : ProviderRewardInUse s w)
    (hfor : ∀ r ∈ rs, r.ctx.providerAccount = w)
    (h : execAll s (rs.map RecordCall.action) = .ok s') :
    DebtFirst g w rs s s' ∧
    (∀ before r after, rs = before ++ r :: after → ∃ t t' x,
      execAll s (before.map RecordCall.action) = .ok t ∧ r.action.exec t = .ok t' ∧
      s'.settlements.get r.ctx.attestationReceipt = some x ∧
      (x.clawToProviderLocked : ℤ) = max 0 (t'.netPosition w) - max 0 (t.netPosition w)) ∧
    (∀ rs₂ s₂, (∀ r ∈ rs₂, r.ctx.providerAccount = w) →
      execAll s (rs₂.map RecordCall.action) = .ok s₂ →
      rs₂.Perm rs ∨ rewards g rs₂ = rewards g rs →
      s₂.totalOf ReceiptSettlement.clawProviderDebtOffset rs₂ =
        s'.totalOf ReceiptSettlement.clawProviderDebtOffset rs ∧
      s₂.totalOf ReceiptSettlement.clawToProviderLocked rs₂ =
        s'.totalOf ReceiptSettlement.clawToProviderLocked rs ∧
      s₂.pendingClaw (.Provider, w) = s'.pendingClaw (.Provider, w) ∧
      s₂.netPosition w = s'.netPosition w) ∧
    ∀ (P : ℤ) (n : ℕ), n < u64Bound → providerDebtOffset P n = min (-P).toNat n := by
  have hall := execAll_debtFirst hg huse hfor h
  refine ⟨hall, ?_, ?_, fun P n hn => providerDebtOffset_eq hn⟩
  · rintro before r after rfl
    rw [List.map_append, List.map_cons, execAll_append] at h
    obtain ⟨t, hbefore, hrest⟩ := h
    obtain ⟨t', hr, hafter⟩ := execAll_cons.mp hrest
    obtain ⟨hconfig, hinUse⟩ := execAll_records_inUse hg huse
      (fun q hq => hfor q (List.mem_append_left _ hq)) hbefore
    obtain rfl := hfor r (List.mem_append_right _ List.mem_cons_self)
    obtain ⟨x, hone⟩ := RecordCall.exec_rewarded hconfig hinUse hr
    refine ⟨t, t', x, hbefore, hr, execAll_records_kept ?_ hafter, hone.locked_eq⟩
    rw [hone.settlements, Store.get_set_self]
  · intro rs₂ s₂ hfor₂ h₂ hsame
    have hall₂ := execAll_debtFirst hg huse hfor₂ h₂
    have hrewards : rewards g rs₂ = rewards g rs := hsame.elim rewards_perm id
    rw [hall₂.offset, hall₂.locked, hall₂.pending, hall₂.position, hall.offset, hall.locked,
      hall.pending, hall.position, hrewards]
    exact ⟨rfl, rfl, rfl, rfl⟩

/-- The provider of `Rollback` owes `1000`; two receipts with `700` each leave it `400`. -/
theorem debt_first_crossing : ∃ s', execAll (reached indebted)
    ([firstCall 1000, otherCall 1000].map RecordCall.action) = .ok s' ∧
    s'.totalOf ReceiptSettlement.clawProviderDebtOffset [firstCall 1000, otherCall 1000] = 1000 ∧
    s'.totalOf ReceiptSettlement.clawToProviderLocked [firstCall 1000, otherCall 1000] = 400 := by
  obtain ⟨s', hs'⟩ : ∃ s', execAll (reached indebted)
      ([firstCall 1000, otherCall 1000].map RecordCall.action) = .ok s' :=
    ⟨_, eq_ok_get (by decide +kernel)⟩
  have hfor : ∀ r ∈ [firstCall 1000, otherCall 1000], r.ctx.providerAccount = wallet 5 := by
    intro r hr
    rcases List.mem_pair.mp hr with rfl | rfl <;> rfl
  have hfirst := (debt_first (g := (reached indebted).config.get (by decide +kernel))
    (Option.some_get _).symm (reached_providerRewardInUse indebted (wallet 5)) hfor hs').1
  refine ⟨s', hs', hfirst.offset.trans ?_, hfirst.locked.trans ?_⟩ <;> decide +kernel

end Masterpool
