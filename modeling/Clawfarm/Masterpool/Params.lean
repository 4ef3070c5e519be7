import Clawfarm.Lib.Rounding
import Clawfarm.Masterpool.Program

/-!
# Masterpool.Params — parameters that cover every receipt

`validate_phase1_params` evaluates the largest charge only.  Shares are monotone in the charge and
no more than it, so parameters that pass are safe for every charge up to that one; and every config
in force has parameters that passed (`reached_configValid`).
-/

namespace Masterpool

open Token Checked

variable {s s' : State} {params : Phase1ConfigParams} {c : ℕ}

/-! ## What has to be computable -/

/-- The quantities of a receipt of `c` fit their types. -/
def ChargeComputable (treasuryBps rate userBps c : ℕ) : Prop :=
  ∃ treasuryShare providerShare totalClaw userClaw providerClaw,
    calculateBpsAmount c treasuryBps = .ok treasuryShare ∧
    checkedSubU64 c treasuryShare = .ok providerShare ∧
    calculateClawAmount c rate = .ok totalClaw ∧
    calculateBpsAmount totalClaw userBps = .ok userClaw ∧
    checkedSubU64 totalClaw userClaw = .ok providerClaw

/-- The two parts of a slash fit their types. -/
def SlashComputable (slash challengerBps : ℕ) : Prop :=
  ∃ challengerReward burnAmount, calculateBpsAmount slash challengerBps = .ok challengerReward ∧
    checkedSubU64 slash challengerReward = .ok burnAmount

structure PositiveAmounts (params : Phase1ConfigParams) : Prop where
  rate : 0 < params.exchangeRateClawPerUsdcE6
  stake : 0 < params.providerStakeUsdc
  lockDays : 0 < params.lockDays
  slash : 0 < params.providerSlashClawAmount
  bond : 0 < params.challengeBondClawAmount

/-- Each split is complete, as a sum of natural numbers. -/
structure CompleteSplits (params : Phase1ConfigParams) : Prop where
  usdc : params.providerUsdcShareBps.toNat + params.treasuryUsdcShareBps.toNat = BPS_SCALE
  claw : params.userClawShareBps.toNat + params.providerClawShareBps.toNat = BPS_SCALE
  challenge : params.challengerRewardBps.toNat + params.burnBps.toNat = BPS_SCALE

theorem governanceError_eq_ok {α : Type} {x : Result α} {a : α} :
    governanceError x = .ok a ↔ x = .ok a := by
  cases x with
  | error e => constructor <;> intro h <;> cases h
  | ok b => exact Iff.rfl

theorem checkedAddU32_eq_ok {left right n : ℕ} :
    checkedAddU32 left right = .ok n ↔ left + right < 2 ^ 32 ∧ n = left + right :=
  checkedAddNat_eq_ok

/-- **The bounds** are those of the largest charge and of the slash. -/
theorem validatePhase1ParamBounds_iff :
    validatePhase1ParamBounds params = .ok () ↔
      ChargeComputable params.treasuryUsdcShareBps.toNat params.exchangeRateClawPerUsdcE6.toNat
        params.userClawShareBps.toNat MAX_RECEIPT_USDC_ATOMIC ∧
      SlashComputable params.providerSlashClawAmount.toNat params.challengerRewardBps.toNat := by
  simp only [validatePhase1ParamBounds, bind_eq_ok, governanceError_eq_ok, pure_eq_ok, and_true]
  constructor
  · rintro ⟨t, ht, p, hp, total, htotal, u, hu, q, hq, r, hr, b, hb⟩
    exact ⟨⟨t, p, total, u, q, ht, hp, htotal, hu, hq⟩, r, b, hr, hb⟩
  · rintro ⟨⟨t, p, total, u, q, ht, hp, htotal, hu, hq⟩, r, b, hr, hb⟩
    exact ⟨t, ht, p, hp, total, htotal, u, hu, q, hq, r, hr, b, hb⟩

theorem validatePhase1Params_iff :
    validatePhase1Params params = .ok () ↔ PositiveAmounts params ∧ CompleteSplits params ∧
      validatePhase1ParamBounds params = .ok () := by
  have hfits : ∀ m n : UInt16, m.toNat + n.toNat < 2 ^ 32 := by
    intro m n
    have hm := m.toNat_lt
    have hn := n.toNat_lt
    omega
  simp only [validatePhase1Params, bind_eq_ok, checkedAddU32_eq_ok, ensure_eq_ok, exists_unit,
    hfits, true_and]
  constructor
  · rintro ⟨-, rfl, -, rfl, -, rfl, ⟨h₁, h₂, h₃, h₄, h₅⟩, husdc, hclaw, hchallenge, hbounds⟩
    exact ⟨⟨h₁, h₂, h₃, h₄, h₅⟩, ⟨husdc, hclaw, hchallenge⟩, hbounds⟩
  · rintro ⟨⟨h₁, h₂, h₃, h₄, h₅⟩, ⟨husdc, hclaw, hchallenge⟩, hbounds⟩
    exact ⟨_, rfl, _, rfl, _, rfl, ⟨h₁, h₂, h₃, h₄, h₅⟩, husdc, hclaw, hchallenge, hbounds⟩

/-! ## Smaller charges -/

theorem share_computable {amount bps : ℕ} (hbps : bps ≤ BPS_SCALE) (hamount : amount < u64Bound) :
    calculateBpsAmount amount bps = .ok (amount * bps / BPS_SCALE) ∧
      checkedSubU64 amount (amount * bps / BPS_SCALE) = .ok (amount - amount * bps / BPS_SCALE) := by
  have hle : amount * bps / BPS_SCALE ≤ amount := Rounding.mul_div_le hbps
  exact ⟨calculateBpsAmount_eq_ok.mpr ⟨hle.trans_lt hamount, rfl⟩,
    checkedSubU64_eq_ok.mpr ⟨hle, rfl⟩⟩

/-- With complete splits only the total of a charge can fail to fit. -/
theorem chargeComputable_iff {treasuryBps rate userBps : ℕ} (htreasury : treasuryBps ≤ BPS_SCALE)
    (huser : userBps ≤ BPS_SCALE) (hc : c < u64Bound) :
    ChargeComputable treasuryBps rate userBps c ↔ c * rate / RATE_SCALE < u64Bound := by
  constructor
  · rintro ⟨t, p, total, u, q, -, -, htotal, -, -⟩
    exact (calculateClawAmount_eq_ok.mp htotal).1
  · intro htotal
    obtain ⟨ht, hp⟩ := share_computable htreasury hc
    obtain ⟨hu, hq⟩ := share_computable huser htotal
    exact ⟨_, _, _, _, _, ht, hp, calculateClawAmount_eq_ok.mpr ⟨htotal, rfl⟩, hu, hq⟩

theorem maxReceipt_lt_u64Bound : MAX_RECEIPT_USDC_ATOMIC < u64Bound := by decide

theorem ChargeComputable.of_le {treasuryBps rate userBps c' : ℕ} (htreasury : treasuryBps ≤ BPS_SCALE)
    (huser : userBps ≤ BPS_SCALE) (hc : c < u64Bound) (hle : c' ≤ c)
    (h : ChargeComputable treasuryBps rate userBps c) :
    ChargeComputable treasuryBps rate userBps c' := by
  rw [chargeComputable_iff htreasury huser hc] at h
  rw [chargeComputable_iff htreasury huser (hle.trans_lt hc)]
  exact (Rounding.mul_div_mono hle).trans_lt h

/-- **Validation** covers every charge that a receipt may have. -/
theorem validatePhase1Params_covers :
    validatePhase1Params params = .ok () ↔ PositiveAmounts params ∧ CompleteSplits params ∧
      (∀ c ≤ MAX_RECEIPT_USDC_ATOMIC, ChargeComputable params.treasuryUsdcShareBps.toNat
        params.exchangeRateClawPerUsdcE6.toNat params.userClawShareBps.toNat c) ∧
      SlashComputable params.providerSlashClawAmount.toNat params.challengerRewardBps.toNat := by
  rw [validatePhase1Params_iff, validatePhase1ParamBounds_iff]
  constructor
  · rintro ⟨hpos, hsplits, hcharge, hslash⟩
    have htreasury := hsplits.usdc
    have huser := hsplits.claw
    exact ⟨hpos, hsplits, fun c hc => hcharge.of_le (by omega) (by omega) maxReceipt_lt_u64Bound hc,
      hslash⟩
  · rintro ⟨hpos, hsplits, hcharges, hslash⟩
    exact ⟨hpos, hsplits, hcharges _ le_rfl, hslash⟩

/-! ## The config in force -/

/-- The config carries parameters that passed the validation. -/
def ConfigValid (g : GlobalConfig) : Prop :=
  ∃ params, validatePhase1Params params = .ok () ∧ applyPhase1Params g params = g

theorem exec_configValid {c : Caller MASTERPOOL_ID} {now : ℤ} {i : Instruction}
    (hs : ∀ g, s.config = some g → ConfigValid g) (h : exec c now s i = .ok s') :
    ∀ g, s'.config = some g → ConfigValid g := by
  cases i with
  | initializeMasterpool ctx params =>
    obtain ⟨-, -, -, -, -, -, -, -, hparams, -, -, -, -, -, -, -, -, -, rfl⟩ :=
      initializeMasterpool_ok h
    intro g hg
    obtain rfl := Option.some.inj hg
    exact ⟨params, hparams, rfl⟩
  | mintGenesisSupply ctx =>
    obtain ⟨g, -, -, -, hg, -, -, -, -, -, -, rfl⟩ := mintGenesisSupply_ok h
    intro g' hg'
    obtain rfl := Option.some.inj hg'
    obtain ⟨params, hparams, happly⟩ := hs g hg
    refine ⟨params, hparams, ?_⟩
    rw [← happly]
    rfl
  | updateConfig ctx params =>
    obtain ⟨g, -, hparams, rfl⟩ := updateConfig_ok h
    intro g' hg'
    obtain rfl := Option.some.inj hg'
    exact ⟨params, hparams, rfl⟩
  | setPauseFlags ctx _ _ _ _ =>
    obtain ⟨g, hg, rfl⟩ := setPauseFlags_ok h
    intro g' hg'
    obtain rfl := Option.some.inj hg'
    obtain ⟨params, hparams, happly⟩ := hs g hg
    refine ⟨params, hparams, ?_⟩
    rw [← happly]
    rfl
  | initializeFaucet ctx =>
    obtain ⟨-, -, -, -, -, -, -, -, -, -, rfl⟩ := initializeFaucet_ok h
    exact hs
  | setFaucetEnabled ctx _ =>
    obtain ⟨-, -, rfl⟩ := setFaucetEnabled_ok h
    exact hs
  | updateFaucetLimits ctx _ =>
    obtain ⟨-, -, -, rfl⟩ := updateFaucetLimits_ok h
    exact hs
  | fundFaucetClaw ctx _ =>
    obtain ⟨-, -, -, -, -, -, -, -, -, rfl⟩ := fundFaucetClaw_ok h
    exact hs
  | claimFaucet ctx _ =>
    obtain ⟨-, -, -, -, -, -, rfl⟩ := claimFaucet_ok h
    exact hs
  | _ =>
    rw [(exec_economic (by trivial) h).config]
    exact hs

theorem step_configValid (hs : ∀ g, s.config = some g → ConfigValid g) (a : Action) :
    ∀ g, (step s a).config = some g → ConfigValid g := by
  rcases step_cases s a with ⟨-, -, he⟩ | hok
  · rw [he]
    exact hs
  · cases a with
    | call c now i => exact exec_configValid hs hok
    | token c i =>
      simp only [Action.exec, bind_eq_ok, pure_eq_ok] at hok
      obtain ⟨t, -, he⟩ := hok
      rw [← he]
      exact hs

theorem reached_configValid (as : List Action) (g : GlobalConfig)
    (hg : (reached as).config = some g) : ConfigValid g := by
  have hinit : ∀ g, State.init.config = some g → ConfigValid g := by
    intro g h
    cases h
  exact Machine.run_induction (P := fun s : State => ∀ g, s.config = some g → ConfigValid g)
    (fun _ a hs => step_configValid hs a) hinit as g hg

/-- Splits of the config in force are complete. -/
theorem ConfigValid.splits {g : GlobalConfig} (h : ConfigValid g) :
    g.providerUsdcShareBps + g.treasuryUsdcShareBps = BPS_SCALE ∧
      g.userClawShareBps + g.providerClawShareBps = BPS_SCALE ∧
      g.challengerRewardBps + g.burnBps = BPS_SCALE := by
  obtain ⟨params, hparams, happly⟩ := h
  have hsplits := (validatePhase1Params_iff.mp hparams).2.1
  rw [← happly]
  exact ⟨hsplits.usdc, hsplits.claw, hsplits.challenge⟩

/-- **Parameters cover charges**: the validation accepts exactly positive amounts and complete
splits with which every quantity of every receipt up to the largest, and of the slash, fits its
type.  So under a config in force no share or reward of a receipt or of a bond fails to compute. -/
theorem params_cover_charges :
    (∀ params : Phase1ConfigParams, validatePhase1Params params = .ok () ↔
      PositiveAmounts params ∧ CompleteSplits params ∧
      (∀ c ≤ MAX_RECEIPT_USDC_ATOMIC, ChargeComputable params.treasuryUsdcShareBps.toNat
        params.exchangeRateClawPerUsdcE6.toNat params.userClawShareBps.toNat c) ∧
      SlashComputable params.providerSlashClawAmount.toNat params.challengerRewardBps.toNat) ∧
    ∀ (as : List Action) (g : GlobalConfig), (reached as).config = some g →
      (∀ c ≤ MAX_RECEIPT_USDC_ATOMIC, ChargeComputable g.treasuryUsdcShareBps
        g.exchangeRateClawPerUsdcE6 g.userClawShareBps c) ∧
      SlashComputable g.providerSlashClawAmount g.challengerRewardBps := by
  refine ⟨fun params => validatePhase1Params_covers, fun as g hg => ?_⟩
  obtain ⟨params, hparams, happly⟩ := reached_configValid as g hg
  rw [← happly]
  exact (validatePhase1Params_covers.mp hparams).2.2

end Masterpool
