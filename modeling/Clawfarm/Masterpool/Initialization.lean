import Clawfarm.Masterpool.Effect

/-!
# Masterpool.Initialization — nothing happens before the initialization

Until `initialize_masterpool` has succeeded the program has no account of its own, and no other
instruction succeeds (`exec_blank`).
-/

namespace Masterpool

open Token Checked

/-- The upgrade authority of the program signs. -/
structure ByDeployer (c : Caller MASTERPOOL_ID) (ctx : InitializeMasterpool) : Prop where
  signed : ctx.initializer ∈ c.signers
  upgradeAuthority : ctx.upgradeAuthorityAddress = some ctx.initializer
  programData : ctx.programdataAddress = some ctx.selfProgramData

/-- What the loader keeps of a deployed program: where its data is and who may upgrade it. -/
structure Deployment where
  programData : Pubkey
  upgradeAuthority : Option Pubkey

/-- The call carries the loader's accounts of the program. -/
structure InitializeMasterpool.Reads (d : Deployment) (ctx : InitializeMasterpool) : Prop where
  programData : ctx.programdataAddress = some d.programData
  upgradeAuthority : ctx.selfProgramData = d.programData →
    ctx.upgradeAuthorityAddress = d.upgradeAuthority

/-- Nothing is stored but tokens. -/
def State.Blank (s : State) : Prop := ∃ t, s = { State.init with tokens := t }

variable {c : Caller MASTERPOOL_ID} {now : ℤ} {s s' : State} {i : Instruction}

theorem initializeMasterpool_byDeployer {ctx : InitializeMasterpool} {params : Phase1ConfigParams}
    (h : initializeMasterpool c now ctx params s = .ok s') : ByDeployer c ctx := by
  simp only [initializeMasterpool, bind_eq_ok, sign_eq_ok, ensure_eq_ok, mintAccount_eq_ok,
    vacant_eq_ok, cpi_eq_ok, exists_unit] at h
  obtain ⟨-, -, -, -, -, -, -, -, -, -, -, -, -, -, -, hdata, hupgrade, hsig, -⟩ := h
  exact ⟨hsig, hupgrade, hdata⟩

theorem ByDeployer.deployed {ctx : InitializeMasterpool} {d : Deployment} (h : ByDeployer c ctx)
    (hd : ctx.Reads d) : d.upgradeAuthority = some ctx.initializer := by
  have hdata : ctx.selfProgramData = d.programData :=
    Option.some.inj (h.programData.symm.trans hd.programData)
  exact (hd.upgradeAuthority hdata).symm.trans h.upgradeAuthority

/-- Every other instruction needs the config, or that of the faucet. -/
theorem exec_blank (hb : s.Blank) (h : exec c now s i = .ok s') :
    ∃ ctx params, i = .initializeMasterpool ctx params := by
  obtain ⟨t, rfl⟩ := hb
  have hnone : ∀ {g : GlobalConfig}, State.config { State.init with tokens := t } = some g →
      False := fun h => by cases h
  cases i with
  | initializeMasterpool ctx params => exact ⟨ctx, params, rfl⟩
  | mintGenesisSupply ctx =>
    obtain ⟨g, t₁, t₂, t₃, hg, -⟩ := mintGenesisSupply_ok h
    exact (hnone hg).elim
  | updateConfig ctx params =>
    obtain ⟨g, hg, -⟩ := updateConfig_ok h
    exact (hnone hg).elim
  | setPauseFlags ctx a b d e =>
    obtain ⟨g, hg, -⟩ := setPauseFlags_ok h
    exact (hnone hg).elim
  | initializeFaucet ctx =>
    obtain ⟨g, f, global, t₁, t₂, hg, -⟩ := initializeFaucet_ok h
    exact (hnone hg).elim
  | setFaucetEnabled ctx enabled =>
    obtain ⟨f, hf, -⟩ := setFaucetEnabled_ok h
    cases hf
  | updateFaucetLimits ctx limits =>
    obtain ⟨f, hf, -⟩ := updateFaucetLimits_ok h
    cases hf
  | fundFaucetClaw ctx amount =>
    obtain ⟨g, f, t₁, dec, hg, -⟩ := fundFaucetClaw_ok h
    exact (hnone hg).elim
  | claimFaucet ctx args =>
    obtain ⟨f, gl, u, t₁, t₂, hpays, -⟩ := claimFaucet_ok h
    cases hpays.faucet
  | registerProvider ctx =>
    obtain ⟨g, t₁, hr, -⟩ := registerProvider_ok h
    exact (hnone hr.config).elim
  | exitProvider ctx =>
    obtain ⟨g, p, t₁, hr, -⟩ := exitProvider_ok h
    exact (hnone hr.config).elim
  | materializeRewardRelease ctx target amount =>
    obtain ⟨tgt, x, r, -, hr, -⟩ := materializeRewardRelease_ok h
    obtain ⟨g, hg, -⟩ := hr.admin
    exact (hnone hg).elim
  | claimReleasedClaw ctx =>
    obtain ⟨g, r, t₁, hr, -⟩ := claimReleasedClaw_ok h
    exact (hnone hr.config).elim
  | recordMiningFromReceipt ctx n =>
    obtain ⟨g, pay, p, u, v, t₁, t₂, x, hr, -⟩ := recordMiningFromReceipt_ok h
    exact (hnone hr.config).elim
  | settleFinalizedReceipt ctx status =>
    obtain ⟨g, x, p, u, v, t₁, hr, -⟩ := settleFinalizedReceipt_ok.mp h
    exact (hnone hr.config).elim
  | recordChallengeBond ctx =>
    obtain ⟨g, x, p, t₁, b, hr, -⟩ := recordChallengeBond_ok h
    exact (hnone hr.config).elim
  | resolveChallengeEconomics ctx code =>
    obtain ⟨g, x, b, p, u, v, r, hr, -⟩ := resolveChallengeEconomics_iff.mp h
    exact (hnone hr.config).elim

/-- **Step**: the program is blank as long as it has no config, and only its initialization gives
it one. -/
theorem step_blank (hb : s.Blank) (a : Action) : (step s a).Blank ∨
    ∃ c now ctx params, a = .call c now (.initializeMasterpool ctx params) ∧ ByDeployer c ctx ∧
      (step s a).config = some (initialConfig ctx params now.toInt) := by
  rcases step_cases s a with ⟨e, -, hs⟩ | hok
  · rw [hs]
    exact Or.inl hb
  · cases a with
    | token c i =>
      obtain ⟨t, rfl⟩ := hb
      simp only [Action.exec, bind_eq_ok, cpi_eq_ok, pure_eq_ok] at hok
      obtain ⟨t', -, heq⟩ := hok
      exact Or.inl ⟨t', heq.symm⟩
    | call c now i =>
      obtain ⟨ctx, params, rfl⟩ := exec_blank hb hok
      refine Or.inr ⟨c, now, ctx, params, rfl, initializeMasterpool_byDeployer hok, ?_⟩
      obtain ⟨x, y, t₁, t₂, t₃, t₄, t₅, -, -, -, -, -, -, -, -, -, -, -, heq⟩ :=
        initializeMasterpool_ok hok
      rw [heq]

end Masterpool
