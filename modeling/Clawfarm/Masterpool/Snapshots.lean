import Clawfarm.Masterpool.Params
import Clawfarm.Masterpool.Wf

/-!
# Masterpool.Snapshots — what a receipt and a bond record keep is exact

A settlement carries the shares of its charge under the config in force when it was recorded, a bond
record those of the slash.  No later step changes them, whatever happens to the config, and all
rounding goes to the provider and to the burn.
-/

namespace Masterpool

open Token Checked

variable {s s' : State} {as : List Action} {k : Pubkey} {g : GlobalConfig}
  {n : ℕ} {x : ReceiptSettlement}

/-! ## Settlements -/

/-- In the run `as` the receipt `k` was recorded with a charge of `n` while `g` was in force. -/
inductive RecordedUnder (as : List Action) (k : Pubkey) (g : GlobalConfig) (n : ℕ) : Prop
  | call {pre post : List Action} {c : Caller MASTERPOOL_ID} {now : Int64}
    {ctx : RecordMiningFromReceipt} {totalUsdcPaid : UInt64} {s' : State}
    (hrun : as = pre ++ .call c now (.recordMiningFromReceipt ctx totalUsdcPaid) :: post)
    (hk : ctx.attestationReceipt = k) (hn : totalUsdcPaid.toNat = n)
    (hconfig : (reached pre).config = some g)
    (hok : (Action.call c now (.recordMiningFromReceipt ctx totalUsdcPaid)).exec (reached pre) =
      .ok s')

/-- The settlement of a charge of `n` under `g`: the treasury and the payer get their shares rounded
down, the provider the rest. -/
structure ExactShares (g : GlobalConfig) (n : ℕ) (x : ReceiptSettlement) : Prop where
  paid : x.usdcTotalPaid = n
  totalClaw : x.clawToUser + x.clawToProviderTotal = n * g.exchangeRateClawPerUsdcE6 / RATE_SCALE
  treasury : x.usdcToTreasury = n * g.treasuryUsdcShareBps / BPS_SCALE
  user : x.clawToUser =
    n * g.exchangeRateClawPerUsdcE6 / RATE_SCALE * g.userClawShareBps / BPS_SCALE
  providerUsdc : x.usdcToProvider = (n * g.providerUsdcShareBps) ⌈/⌉ BPS_SCALE
  providerClaw : x.clawToProviderTotal =
    (n * g.exchangeRateClawPerUsdcE6 / RATE_SCALE * g.providerClawShareBps) ⌈/⌉ BPS_SCALE
  lessThanOneUnit : x.usdcToProvider * BPS_SCALE < n * g.providerUsdcShareBps + BPS_SCALE ∧
    x.clawToProviderTotal * BPS_SCALE <
      n * g.exchangeRateClawPerUsdcE6 / RATE_SCALE * g.providerClawShareBps + BPS_SCALE

theorem BPS_SCALE_pos : 0 < BPS_SCALE := by decide

/-- With complete splits the new settlement is exact. -/
theorem recordedSettlement_exact (hg : ConfigValid g) (p : ProviderAccount) (k payer : Pubkey)
    (now : ℤ) (n : ℕ) : ExactShares g n (recordedSettlement g p k payer now n) := by
  obtain ⟨husdc, hclaw, -⟩ := hg.splits
  rw [Nat.add_comm] at husdc
  have hprovider := Rounding.sub_div_eq_ceilDiv BPS_SCALE_pos husdc n
  have hproviderClaw := Rounding.sub_div_eq_ceilDiv BPS_SCALE_pos hclaw
    (n * g.exchangeRateClawPerUsdcE6 / RATE_SCALE)
  refine ⟨rfl, Nat.add_sub_cancel' (Rounding.mul_div_le (by omega)), rfl, rfl, hprovider,
    hproviderClaw, ?_, ?_⟩
  · have hlt := Rounding.ceilDiv_mul_lt BPS_SCALE_pos (n * g.providerUsdcShareBps)
    rwa [← hprovider] at hlt
  · have hlt := Rounding.ceilDiv_mul_lt BPS_SCALE_pos
      (n * g.exchangeRateClawPerUsdcE6 / RATE_SCALE * g.providerClawShareBps)
    rwa [← hproviderClaw] at hlt

/-- The terms of a settlement are unchanged later. -/
theorem ExactShares.later {x₀ : ReceiptSettlement} (h : ExactShares g n x₀)
    (hx : SettlementStep x₀ x) : ExactShares g n x := by
  refine ⟨?_, ?_, ?_, ?_, ?_, ?_, ?_⟩
  · rw [hx.usdcTotalPaid, h.paid]
  · rw [hx.clawToUser, hx.clawToProviderTotal, h.totalClaw]
  · rw [hx.usdcToTreasury, h.treasury]
  · rw [hx.clawToUser, h.user]
  · rw [hx.usdcToProvider, h.providerUsdc]
  · rw [hx.clawToProviderTotal, h.providerClaw]
  · rw [hx.usdcToProvider, hx.clawToProviderTotal]
    exact h.lessThanOneUnit

/-- **Snapshots**: whatever follows, the settlement is that of the config of its recording. -/
theorem RecordedUnder.exactShares (h : RecordedUnder as k g n)
    (hx : (reached as).settlements.get k = some x) : ExactShares g n x := by
  obtain @⟨pre, post, c, now, ctx, totalUsdcPaid, s', rfl, rfl, rfl, hconfig, hok⟩ := h
  obtain ⟨g', pay, p, u, v, t₁, t₂, x₀, hrec, rfl⟩ := recordMiningFromReceipt_ok hok
  obtain rfl : g = g' := Option.some.inj (hconfig.symm.trans hrec.config)
  have hstart := recordedSettlement_exact (reached_configValid pre g hconfig) p
    ctx.attestationReceipt ctx.payerUser now.toInt totalUsdcPaid.toNat
  rw [← hrec.settlement] at hstart
  refine hstart.later ?_
  rw [List.append_cons, reached_append, reached_concat, step_of_ok hok] at hx
  have hw := step_wf (reached_wf pre) (.call c now (.recordMiningFromReceipt ctx totalUsdcPaid))
  rw [step_of_ok hok] at hw
  obtain ⟨x', hx', hstep⟩ := (run_grows hw post).settlements _ x₀ (Store.get_set_self _ _ _)
  rwa [Option.some.inj (hx.symm.trans hx')]

/-- Only the recording of a receipt creates its settlement. -/
theorem Effect.record_of_new {a : Action} (h : Effect s a s')
    (hnone : s.settlements.get k = none) (hx : s'.settlements.get k = some x) :
    ∃ c now ctx totalUsdcPaid, a = .call c now (.recordMiningFromReceipt ctx totalUsdcPaid) ∧
      ctx.attestationReceipt = k := by
  have hkept : ∀ {j : Pubkey} {y z : ReceiptSettlement}, s.settlements.get j = some y →
      (s.settlements.set j z).get k = some x → False := fun {j y z} hy hz => by
    rcases Store.get_set_cases hz with ⟨rfl, -⟩ | ⟨-, hz⟩
    · cases hy.symm.trans hnone
    · cases hz.symm.trans hnone
  have hsame : s.settlements.get k = some x → False := fun hz => by
    cases hz.symm.trans hnone
  cases h with
  | failed _ => exact (hsame hx).elim
  | aside _ h => exact (hsame (h.settlements ▸ hx)).elim
  | genesis _ => exact (hsame hx).elim
  | fund _ => exact (hsame hx).elim
  | register _ => exact (hsame hx).elim
  | exit _ => exact (hsame hx).elim
  | bond _ => exact (hsame hx).elim
  | claim _ => exact (hsame hx).elim
  | settle h => exact (hkept h.settlement hx).elim
  | reject _ h _ _ => exact (hkept h.settlement hx).elim
  | revert _ h _ _ => exact (hkept h.settlement hx).elim
  | materialize h => exact (hkept h.settlement hx).elim
  | record h =>
    rcases Store.get_set_cases hx with ⟨rfl, -⟩ | ⟨-, hx⟩
    · exact ⟨_, _, _, _, rfl, rfl⟩
    · exact (hsame hx).elim

theorem exists_recordedUnder (hx : (reached as).settlements.get k = some x) :
    ∃ g n, RecordedUnder as k g n := by
  have hstart : ¬ ∃ y, State.init.settlements.get k = some y := by
    rintro ⟨_, h⟩
    cases h
  obtain ⟨pre, a, post, rfl, hnot, y, hy⟩ := Machine.exists_step
    (P := fun s : State => ∃ y, s.settlements.get k = some y) hstart ⟨x, hx⟩
  have hnone : (reached pre).settlements.get k = none :=
    Option.eq_none_iff_forall_ne_some.mpr fun y hy => hnot ⟨y, hy⟩
  have hy : (step (reached pre) a).settlements.get k = some y := by rwa [← reached_concat]
  rcases step_cases (reached pre) a with ⟨-, -, he⟩ | hok
  · rw [he, hnone] at hy
    cases hy
  · obtain ⟨c, now, ctx, totalUsdcPaid, rfl, hk⟩ :=
      (step_effect (reached_wf pre).sound a).record_of_new hnone hy
    obtain ⟨g, pay, p, u, v, t₁, t₂, x₀, hrec, -⟩ := recordMiningFromReceipt_ok hok
    exact ⟨g, _, .call rfl hk rfl hrec.config hok⟩

/-! ## Bond records -/

/-- The challenger gets its share of the slash rounded down, the rest is burnt. -/
structure ExactSlash (b : ChallengeBondRecord) : Prop where
  total : b.challengerRewardAmount + b.burnAmount = b.slashClawAmountSnapshot
  reward : b.challengerRewardAmount =
    b.slashClawAmountSnapshot * b.challengerRewardBpsSnapshot / BPS_SCALE
  burn : b.burnAmount = (b.slashClawAmountSnapshot * b.burnBpsSnapshot) ⌈/⌉ BPS_SCALE

theorem lockedRecord_exact (hg : ConfigValid g) (ctx : RecordChallengeBond) (x : ReceiptSettlement)
    (now : ℤ) : ExactSlash (lockedRecord g ctx x now) := by
  have hsplit := hg.splits.2.2
  exact ⟨Nat.add_sub_cancel' (Rounding.mul_div_le (by omega)), rfl,
    Rounding.sub_div_eq_ceilDiv BPS_SCALE_pos hsplit _⟩

theorem Effect.exactSlash {a : Action} (hg : ∀ g, s.config = some g → ConfigValid g)
    (hs : ∀ j b, s.bonds.get j = some b → ExactSlash b) (h : Effect s a s') :
    ∀ j b, s'.bonds.get j = some b → ExactSlash b := by
  cases h with
  | failed _ => exact hs
  | aside _ h => rwa [h.bonds]
  | genesis _ => exact hs
  | fund _ => exact hs
  | register _ => exact hs
  | exit _ => exact hs
  | record _ => exact hs
  | settle _ => exact hs
  | materialize _ => exact hs
  | claim _ => exact hs
  | bond h =>
    refine Store.forall_set hs (fun _ _ => id) ?_
    rw [h.record]
    exact lockedRecord_exact (hg _ h.config) _ _ _
  | reject _ h _ _ =>
    have hb := hs _ _ h.bond
    exact Store.forall_set hs (fun _ _ => id) ⟨hb.total, hb.reward, hb.burn⟩
  | revert _ h _ _ =>
    have hb := hs _ _ h.bond
    exact Store.forall_set hs (fun _ _ => id) ⟨hb.total, hb.reward, hb.burn⟩

theorem reached_exactSlash (as : List Action) :
    ∀ j b, (reached as).bonds.get j = some b → ExactSlash b := by
  induction as using List.reverseRecOn with
  | nil =>
    intro j b h
    cases h
  | append_singleton as a ih =>
    rw [reached_concat]
    exact (step_effect (reached_wf as).sound a).exactSlash (reached_configValid as) ih

/-! ## Totals -/

/-- The treasury loses less than one unit with each receipt. -/
theorem treasury_total {bps : ℕ} {xs : List ReceiptSettlement} (hne : xs ≠ [])
    (h : ∀ x ∈ xs, x.usdcToTreasury = x.usdcTotalPaid * bps / BPS_SCALE) :
    (xs.map (·.usdcToTreasury)).sum ≤ (xs.map (·.usdcTotalPaid)).sum * bps / BPS_SCALE ∧
      (xs.map (·.usdcTotalPaid)).sum * bps / BPS_SCALE <
        (xs.map (·.usdcToTreasury)).sum + xs.length := by
  have hshares : xs.map (·.usdcToTreasury) =
      (xs.map (·.usdcTotalPaid)).map (· * bps / BPS_SCALE) := by
    rw [List.map_map]
    exact List.map_congr_left h
  rw [hshares]
  refine ⟨Rounding.sum_div_le _ bps BPS_SCALE, ?_⟩
  have hpaid : xs.map (·.usdcTotalPaid) ≠ [] := fun he => hne (List.map_eq_nil_iff.mp he)
  have hlt := Rounding.div_sum_lt hpaid bps BPS_SCALE
  rwa [List.length_map] at hlt

/-- **Exact snapshots**: in every reachable state the parts of a settlement add up to its charge and
its reward and are the shares, the provider's rounded up, of the config in force when it was
recorded; the parts of a slash add up, the reward rounded down.  Over receipts recorded with one
treasury share, the treasury falls short of its share of the sum by less than their number. -/
theorem exact_snapshots (as : List Action) :
    (∀ k x, (reached as).settlements.get k = some x →
      x.usdcToProvider + x.usdcToTreasury = x.usdcTotalPaid ∧
      x.clawProviderDebtOffset + x.clawToProviderLocked = x.clawToProviderTotal ∧
      (∃ g n, RecordedUnder as k g n) ∧ ∀ g n, RecordedUnder as k g n → ExactShares g n x) ∧
    (∀ j b, (reached as).bonds.get j = some b → ExactSlash b) ∧
    ∀ (bps : ℕ) (xs : List ReceiptSettlement), xs ≠ [] →
      (∀ x ∈ xs, ∃ k g n, (reached as).settlements.get k = some x ∧ RecordedUnder as k g n ∧
        g.treasuryUsdcShareBps = bps) →
      (xs.map (·.usdcToTreasury)).sum ≤ (xs.map (·.usdcTotalPaid)).sum * bps / BPS_SCALE ∧
        (xs.map (·.usdcTotalPaid)).sum * bps / BPS_SCALE <
          (xs.map (·.usdcToTreasury)).sum + xs.length := by
  refine ⟨fun k x hx => ?_, reached_exactSlash as, fun bps xs hne hxs => treasury_total hne ?_⟩
  · have hwf := (reached_wf as).settlement k x hx
    exact ⟨hwf.usdc, hwf.claw, exists_recordedUnder hx, fun g n h => h.exactShares hx⟩
  · intro x hmem
    obtain ⟨k, g, n, hx, hrec, rfl⟩ := hxs x hmem
    have hshares := hrec.exactShares hx
    rw [hshares.treasury, hshares.paid]

end Masterpool
