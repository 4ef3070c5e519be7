import Clawfarm.Masterpool.Vaults

/-!
# Masterpool.Pauses — a pause flag blocks its calls and does nothing else

`Instruction.Blocked` says which calls each of the four flags stops.  A call that is not blocked
has the same outcome, up to the flags, as it would have if the program had never been paused
(`exec_unpaused`).
-/

namespace Masterpool

open Token Checked

/-- The config as if the program had never been paused.  The time of its last change is left out,
which not only pausing but every call that changes the config writes. -/
def GlobalConfig.unpaused (g : GlobalConfig) : GlobalConfig :=
  { g with
    pauseReceiptRecording := false
    pauseChallengeProcessing := false
    pauseFinalization := false
    pauseClaims := false
    updatedAt := 0 }

def State.unpaused (s : State) : State := { s with config := s.config.map GlobalConfig.unpaused }

/-- The flag that a call checks. -/
def Instruction.pauseFlag (g : GlobalConfig) : Instruction → Bool
  | .recordMiningFromReceipt .. => g.pauseReceiptRecording
  | .recordChallengeBond _ => g.pauseChallengeProcessing
  | .resolveChallengeEconomics .. => g.pauseChallengeProcessing
  | .settleFinalizedReceipt .. => g.pauseFinalization
  | .claimReleasedClaw _ => g.pauseClaims
  | _ => false

/-- The flag that the call checks is set. -/
def Instruction.Blocked (s : State) (i : Instruction) : Prop :=
  ∃ g ∈ s.config, i.pauseFlag g = true

instance (s : State) (i : Instruction) : Decidable (i.Blocked s) :=
  inferInstanceAs (Decidable (∃ g ∈ s.config, i.pauseFlag g = true))

def Instruction.setsPauses : Instruction → Bool
  | .setPauseFlags .. => true
  | _ => false

/-- No flag is set. -/
def State.Running (s : State) : Prop := ∀ g, s.config = some g →
  g.pauseReceiptRecording = false ∧ g.pauseChallengeProcessing = false ∧
    g.pauseFinalization = false ∧ g.pauseClaims = false

/-- The action changes the flags, or a flag stops it. -/
def Action.Suspended (s : State) : Action → Prop
  | .call _ _ i => i.setsPauses = true ∨ i.Blocked s
  | .token .. => False

instance (s : State) : DecidablePred (Action.Suspended s)
  | .call _ _ i => inferInstanceAs (Decidable (i.setsPauses = true ∨ i.Blocked s))
  | .token .. => inferInstanceAs (Decidable False)

variable {c : Caller MASTERPOOL_ID} {now : ℤ} {s s' : State} {i : Instruction}

@[simp] theorem unpaused_tokens (s : State) : s.unpaused.tokens = s.tokens := rfl

@[simp] theorem unpaused_providers (s : State) : s.unpaused.providers = s.providers := rfl

@[simp] theorem unpaused_unpaused (s : State) : s.unpaused.unpaused = s.unpaused := by
  unfold State.unpaused
  cases s.config <;> rfl

theorem State.Running.not_blocked (h : s.Running) (i : Instruction) : ¬ i.Blocked s := by
  rintro ⟨g, hg, hflag⟩
  obtain ⟨h₁, h₂, h₃, h₄⟩ := h g hg
  cases i with
  | recordMiningFromReceipt ctx n => exact Bool.false_ne_true (h₁.symm.trans hflag)
  | recordChallengeBond ctx => exact Bool.false_ne_true (h₂.symm.trans hflag)
  | resolveChallengeEconomics ctx code => exact Bool.false_ne_true (h₂.symm.trans hflag)
  | settleFinalizedReceipt ctx status => exact Bool.false_ne_true (h₃.symm.trans hflag)
  | claimReleasedClaw ctx => exact Bool.false_ne_true (h₄.symm.trans hflag)
  | _ => cases hflag

/-- A blocked call fails. -/
theorem not_blocked_of_ok (h : exec c now s i = .ok s') : ¬ i.Blocked s := by
  rintro ⟨g, hg, hflag⟩
  have hset : ∀ {g' : GlobalConfig}, s.config = some g' → g' = g := fun hg' =>
    Option.some.inj (hg'.symm.trans hg)
  cases i with
  | recordMiningFromReceipt ctx n =>
    obtain ⟨g', pay, p, u, v, t₁, t₂, x, hr, -⟩ := recordMiningFromReceipt_ok h
    obtain rfl := hset hr.config
    exact Bool.false_ne_true (hr.unpaused.symm.trans hflag)
  | recordChallengeBond ctx =>
    obtain ⟨g', x, p, t, b, hr, -⟩ := recordChallengeBond_ok h
    obtain rfl := hset hr.config
    exact Bool.false_ne_true (hr.unpaused.symm.trans hflag)
  | resolveChallengeEconomics ctx code =>
    obtain ⟨g', x, b, p, u, v, r, hr, -⟩ := resolveChallengeEconomics_iff.mp h
    obtain rfl := hset hr.config
    exact Bool.false_ne_true (hr.unpaused.symm.trans hflag)
  | settleFinalizedReceipt ctx status =>
    obtain ⟨g', x, p, u, v, t, hr, -⟩ := settleFinalizedReceipt_ok.mp h
    obtain rfl := hset hr.config
    exact Bool.false_ne_true (hr.unpaused.symm.trans hflag)
  | claimReleasedClaw ctx =>
    obtain ⟨g', r, t, hr, -⟩ := claimReleasedClaw_ok h
    obtain rfl := hset hr.config
    exact Bool.false_ne_true (hr.unpaused.symm.trans hflag)
  | _ => cases hflag

theorem setsPauses_unpaused (hi : i.setsPauses = true) (h : exec c now s i = .ok s') :
    s'.unpaused = s.unpaused := by
  cases i with
  | setPauseFlags ctx a b d e =>
    obtain ⟨g, hg, rfl⟩ := setPauseFlags_ok h
    rw [State.unpaused, State.unpaused, hg]
    rfl
  | _ => cases hi

/-- Only `set_pause_flags` sets a flag. -/
theorem exec_running (hset : i.setsPauses = false) (hr : s.Running)
    (h : exec c now s i = .ok s') : s'.Running := by
  have hsame : s'.config = s.config → s'.Running := fun he g hg => hr g (he ▸ hg)
  have heconomic : i.IsEconomic → s'.Running := fun hi => hsame (exec_economic hi h).config
  cases i with
  | initializeMasterpool ctx params =>
    obtain ⟨x, y, t₁, t₂, t₃, t₄, t₅, -, -, -, -, -, -, -, -, -, -, -, rfl⟩ :=
      initializeMasterpool_ok h
    intro g hg
    obtain rfl := Option.some.inj hg
    exact ⟨rfl, rfl, rfl, rfl⟩
  | mintGenesisSupply ctx =>
    obtain ⟨g, t₁, t₂, t₃, hg, -, -, -, -, -, -, rfl⟩ := mintGenesisSupply_ok h
    intro g' hg'
    obtain rfl := Option.some.inj hg'
    exact hr g hg
  | updateConfig ctx params =>
    obtain ⟨g, hg, -, rfl⟩ := updateConfig_ok h
    intro g' hg'
    obtain rfl := Option.some.inj hg'
    exact hr g hg
  | setPauseFlags ctx a b d e => cases hset
  | initializeFaucet ctx =>
    obtain ⟨g, f, global, t₁, t₂, -, -, -, -, -, rfl⟩ := initializeFaucet_ok h
    exact hsame rfl
  | setFaucetEnabled ctx enabled =>
    obtain ⟨f, -, rfl⟩ := setFaucetEnabled_ok h
    exact hsame rfl
  | updateFaucetLimits ctx limits =>
    obtain ⟨f, -, -, rfl⟩ := updateFaucetLimits_ok h
    exact hsame rfl
  | fundFaucetClaw ctx amount =>
    obtain ⟨g, f, t, dec, -, -, -, -, -, rfl⟩ := fundFaucetClaw_ok h
    exact hsame rfl
  | claimFaucet ctx args =>
    obtain ⟨f, gl, u, t₁, t₂, -, rfl⟩ := claimFaucet_ok h
    exact hsame rfl
  | _ => exact heconomic trivial

theorem loadFaucetAsAdmin_unpaused (c : Caller MASTERPOOL_ID) (admin : Pubkey) (s : State) :
    loadFaucetAsAdmin c admin s.unpaused = loadFaucetAsAdmin c admin s := by
  unfold loadFaucetAsAdmin State.unpaused
  cases s.config <;> rfl

/-- **Flags only block**: a call that is not blocked does what it would do if the program had
never been paused. -/
theorem exec_unpaused (hset : i.setsPauses = false) (hi : ¬ i.Blocked s) (c : Caller MASTERPOOL_ID)
    (now : ℤ) : State.unpaused <$> exec c now s.unpaused i = State.unpaused <$> exec c now s i := by
  obtain ⟨tokens, config, providers, rewards, settlements, bonds, faucet, global, users⟩ := s
  cases config with
  | none => rfl
  | some g =>
    have hflag : i.pauseFlag g = false := by
      rw [Bool.eq_false_iff]
      exact fun h => hi ⟨g, rfl, h⟩
    cases i with
    | initializeMasterpool ctx params => rfl
    | mintGenesisSupply ctx =>
      simp only [exec, mintGenesisSupply, State.unpaused, GlobalConfig.unpaused, load, orError,
        Option.map_some, ok_bind, State.tokenAccount, State.mintAccount, map_bind, map_pure]
    | updateConfig ctx params =>
      simp only [exec, updateConfig, State.unpaused, GlobalConfig.unpaused, applyPhase1Params, load,
        orError, Option.map_some, ok_bind, map_bind, map_pure]
    | setPauseFlags ctx a b d e => cases hset
    | initializeFaucet ctx =>
      simp only [exec, initializeFaucet, State.unpaused, GlobalConfig.unpaused, load, orError,
        Option.map_some, ok_bind, map_bind, map_pure]
    | setFaucetEnabled ctx enabled =>
      have hload := loadFaucetAsAdmin_unpaused c ctx.adminAuthority
        ⟨tokens, some g, providers, rewards, settlements, bonds, faucet, global, users⟩
      simp only [State.unpaused, GlobalConfig.unpaused, Option.map_some] at hload
      simp only [exec, setFaucetEnabled, State.unpaused, GlobalConfig.unpaused, Option.map_some,
        hload, map_bind, map_pure]
    | updateFaucetLimits ctx limits =>
      have hload := loadFaucetAsAdmin_unpaused c ctx.adminAuthority
        ⟨tokens, some g, providers, rewards, settlements, bonds, faucet, global, users⟩
      simp only [State.unpaused, GlobalConfig.unpaused, Option.map_some] at hload
      simp only [exec, updateFaucetLimits, State.unpaused, GlobalConfig.unpaused, Option.map_some,
        hload, map_bind, map_pure]
    | fundFaucetClaw ctx amount =>
      simp only [exec, fundFaucetClaw, State.unpaused, GlobalConfig.unpaused, load, orError,
        Option.map_some, ok_bind, State.tokenAccount, State.mintAccount, map_bind, map_pure]
    | claimFaucet ctx args =>
      simp only [exec, claimFaucet, State.unpaused, GlobalConfig.unpaused, load, orError,
        Option.map_some, ok_bind, State.tokenAccount, State.mintAccount, map_bind, map_pure]
    | registerProvider ctx =>
      simp only [exec, registerProvider, State.unpaused, GlobalConfig.unpaused, load, orError,
        Option.map_some, ok_bind, State.tokenAccount, State.mintAccount, map_bind, map_pure]
    | exitProvider ctx =>
      simp only [exec, exitProvider, State.unpaused, GlobalConfig.unpaused, load, orError,
        Option.map_some, ok_bind, State.tokenAccount, State.mintAccount, map_bind, map_pure]
    | materializeRewardRelease ctx target n =>
      simp only [exec, materializeRewardRelease, State.unpaused, GlobalConfig.unpaused, load,
        orError, Option.map_some, ok_bind, map_bind, map_pure]
    | claimReleasedClaw ctx =>
      simp only [Instruction.pauseFlag] at hflag
      simp only [exec, claimReleasedClaw, State.unpaused, GlobalConfig.unpaused, load, orError,
        Option.map_some, ok_bind, State.tokenAccount, State.mintAccount, hflag, map_bind, map_pure]
    | recordMiningFromReceipt ctx n =>
      simp only [Instruction.pauseFlag] at hflag
      simp only [exec, recordMiningFromReceipt, State.unpaused, GlobalConfig.unpaused, load, orError,
        Option.map_some, ok_bind, State.tokenAccount, State.mintAccount, State.rewardAccountOrNew,
        requireAttestationCaller, hflag, map_bind, map_pure]
    | settleFinalizedReceipt ctx status =>
      simp only [Instruction.pauseFlag] at hflag
      simp only [exec, settleFinalizedReceipt, State.unpaused, GlobalConfig.unpaused, load, orError,
        Option.map_some, ok_bind, State.tokenAccount, State.mintAccount, requireAttestationCaller,
        hflag, map_bind, map_pure]
    | recordChallengeBond ctx =>
      simp only [Instruction.pauseFlag] at hflag
      simp only [exec, recordChallengeBond, State.unpaused, GlobalConfig.unpaused, load, orError,
        Option.map_some, ok_bind, State.tokenAccount, State.mintAccount, requireAttestationCaller,
        hflag, map_bind, map_pure]
    | resolveChallengeEconomics ctx code =>
      simp only [Instruction.pauseFlag] at hflag
      have harm : ∀ r, resolveArm g.unpaused ctx code.toNat r = resolveArm g ctx code.toNat r :=
        fun _ => rfl
      simp only [GlobalConfig.unpaused] at harm
      simp only [exec, resolveChallengeEconomics, State.unpaused, GlobalConfig.unpaused, load,
        orError, Option.map_some, ok_bind, State.tokenAccount, requireAttestationCaller, hflag, harm,
        map_bind, map_pure]

theorem Action.exec_unpaused {a : Action} (h : ¬ a.Suspended s) :
    State.unpaused <$> a.exec s.unpaused = State.unpaused <$> a.exec s := by
  cases a with
  | call c now i =>
    exact Masterpool.exec_unpaused (Bool.eq_false_iff.mpr fun hi => h (Or.inl hi))
      (fun hi => h (Or.inr hi)) c now.toInt
  | token c i =>
    have hconfig := congrArg State.config (unpaused_unpaused s)
    simp only [State.unpaused] at hconfig
    simp only [Action.exec, State.unpaused, hconfig, map_bind, map_pure]

/-- What is suspended leaves everything but the flags alone. -/
theorem Action.suspended_unpaused {a : Action} (h : a.Suspended s) (hok : a.exec s = .ok s') :
    s'.unpaused = s.unpaused := by
  cases a with
  | call c now i =>
    rcases h with hi | hi
    · exact setsPauses_unpaused hi hok
    · exact absurd hi (not_blocked_of_ok hok)
  | token c i => exact h.elim

/-- Where no flag is set, only changes of the flags are suspended. -/
theorem Action.Suspended.of_running {t : State} {a : Action} (h : a.Suspended t) (ht : t.Running) :
    a.Suspended s := by
  cases a with
  | call c now i => exact Or.inl (h.resolve_right (ht.not_blocked i))
  | token c i => exact h

theorem Action.exec_running {a : Action} (ha : ¬ a.Suspended s) (hr : s.Running)
    (h : a.exec s = .ok s') : s'.Running := by
  cases a with
  | call c now i =>
    exact Masterpool.exec_running (Bool.eq_false_iff.mpr fun hi => ha (Or.inl hi)) hr h
  | token c i =>
    simp only [Action.exec, bind_eq_ok, cpi_eq_ok, pure_eq_ok] at h
    obtain ⟨t, -, rfl⟩ := h
    exact hr

end Masterpool
