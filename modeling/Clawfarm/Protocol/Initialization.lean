import Clawfarm.Attestation.Submission
import Clawfarm.Masterpool.Initialization
import Clawfarm.Protocol.Replay

/-!
# Protocol.Initialization — both configs come from the upgrade authorities

In a run with a config there is one step that created it.  The upgrade authority of the program
signed it, nothing was stored before it, and what it bound is bound ever since
(`initialized_by_deployer`).  In a run without a config nothing is stored at all.
-/

namespace Protocol

open Checked Attestation
open Masterpool (Deployment GlobalConfig SameIdentity initialConfig)

/-- The upgrade authority of the attestation program signs. -/
structure ByDeployer (c : Signers) (ctx : InitializeConfig) : Prop where
  signed : ctx.initializer ∈ c.keys
  upgradeAuthority : ctx.upgradeAuthorityAddress = some ctx.initializer
  programData : ctx.programdataAddress = some ctx.selfProgramData

/-- The call carries the loader's accounts of the attestation program. -/
structure Reads (d : Deployment) (ctx : InitializeConfig) : Prop where
  programData : ctx.programdataAddress = some d.programData
  upgradeAuthority : ctx.selfProgramData = d.programData →
    ctx.upgradeAuthorityAddress = d.upgradeAuthority

/-- The config that `initialize_config` writes. -/
def boundConfig (args : InitializeConfigArgs) : Config where
  authority := args.authority
  pauseAuthority := args.pauseAuthority
  challengeResolver := args.challengeResolver
  masterpoolProgram := args.masterpoolProgram
  challengeWindowSeconds := args.challengeWindowSeconds.toInt
  challengeResolutionTimeoutSeconds := args.challengeResolutionTimeoutSeconds.toInt
  isPaused := false

variable {host : Host} {c : Signers} {s s' : System}

theorem ByDeployer.deployed {ctx : InitializeConfig} {d : Deployment} (h : ByDeployer c ctx)
    (hd : Reads d ctx) : d.upgradeAuthority = some ctx.initializer := by
  have hdata : ctx.selfProgramData = d.programData :=
    Option.some.inj (h.programData.symm.trans hd.programData)
  exact (hd.upgradeAuthority hdata).symm.trans h.upgradeAuthority

/-! ## The attestation program -/

theorem initializeConfig_bound {ctx : InitializeConfig} {args : InitializeConfigArgs}
    (h : initializeConfig c ctx args s = .ok s') : ByDeployer c ctx ∧
      s' = { s with attestation := { s.attestation with config := some (boundConfig args) } } := by
  obtain ⟨g, hinit, rfl⟩ := initializeConfig_ok h
  obtain rfl := hinit.bound
  exact ⟨⟨hinit.signed, hinit.upgradeAuthority, hinit.programData⟩, rfl⟩

/-- Every other instruction needs the config. -/
theorem exec_blank {now : ℤ} {i : Instruction} (hb : s.attestation = .init)
    (h : exec host c now s i = .ok s') : ∃ ctx args, i = .initializeConfig ctx args := by
  have hnone : ∀ {g : Config}, s.attestation.config = some g → False := fun hg => by
    rw [hb] at hg
    cases hg
  have hload : ∀ {k : Pubkey} {g : Config}, loadAsAuthority c k s = .ok g → False := fun hg =>
    hnone (loadAsAuthority_eq_ok.mp hg).2.1
  cases i with
  | initializeConfig ctx args => exact ⟨ctx, args, rfl⟩
  | openChallenge ctx ty hash =>
    obtain ⟨r, x, m, hm, -⟩ := openChallenge_ok h
    obtain ⟨g, hg⟩ := hm.config
    exact (hnone hg).elim
  | setPause ctx b =>
    obtain ⟨g, hset, -⟩ := setPause_ok h
    exact (hnone hset.config).elim
  | resolveChallenge ctx code =>
    obtain ⟨rc, r, x, cs, rs, settled, m, -, hby, -⟩ := resolveChallenge_ok h
    obtain ⟨g, hg, -⟩ := hby.resolver
    exact (hnone hg).elim
  | _ =>
    obtain ⟨g, hg, -⟩ := bind_eq_ok.mp h
    exact (hload hg).elim

/-- A config stays, up to the pause flag. -/
theorem exec_config {now : ℤ} {i : Instruction} {g : Config} (hg : s.attestation.config = some g)
    (h : exec host c now s i = .ok s') :
    ∃ b, s'.attestation.config = some { g with isPaused := b } := by
  have hsame : s'.attestation.config = s.attestation.config →
      ∃ b, s'.attestation.config = some { g with isPaused := b } := fun he =>
    ⟨g.isPaused, he.trans hg⟩
  cases i with
  | initializeConfig ctx args =>
    obtain ⟨g', hinit, -⟩ := initializeConfig_ok h
    cases hg.symm.trans hinit.fresh
  | upsertProviderSigner ctx args =>
    obtain ⟨g', entry, -, rfl⟩ := upsertProviderSigner_ok h
    exact hsame rfl
  | setPause ctx b =>
    obtain ⟨g', hset, rfl⟩ := setPause_ok h
    obtain rfl := Option.some.inj (hg.symm.trans hset.config)
    exact ⟨b, rfl⟩
  | revokeProviderSigner ctx k w =>
    obtain ⟨g', entry, -, rfl⟩ := revokeProviderSigner_ok h
    exact hsame rfl
  | submitReceipt sysvar ctx args =>
    obtain ⟨g', r, m, -, rfl⟩ := submitReceipt_ok h
    exact hsame rfl
  | openChallenge ctx ty hash =>
    obtain ⟨r, x, m, -, rfl⟩ := openChallenge_ok h
    exact hsame rfl
  | resolveChallenge ctx code =>
    obtain ⟨rc, r, x, cs, rs, settled, m, -, -, -, rfl⟩ := resolveChallenge_ok h
    exact hsame rfl
  | timeoutRejectChallenge ctx =>
    obtain ⟨r, x, cs, rs, settled, m, -, -, rfl⟩ := timeoutRejectChallenge_ok h
    exact hsame rfl
  | finalizeReceipt ctx =>
    obtain ⟨g', r, r', m, -, rfl⟩ := finalizeReceipt_ok h
    exact hsame rfl
  | closeChallenge ctx =>
    obtain ⟨x, -, rfl⟩ := closeChallenge_ok h
    exact hsame rfl
  | closeReceipt ctx =>
    obtain ⟨r, -, rfl⟩ := closeReceipt_ok h
    exact hsame rfl

/-! ## Steps -/

variable {a : Action}

theorem step_config {g : Config} (hg : s.attestation.config = some g) (a : Action) :
    ∃ b, (step host s a).attestation.config = some { g with isPaused := b } := by
  rcases @step_cases host s a with ⟨e, -, hs⟩ | hok
  · rw [hs]
    exact ⟨g.isPaused, hg⟩
  · cases a with
    | attestation c now i => exact exec_config hg hok
    | masterpool c now i =>
      obtain ⟨m, -, heq⟩ := execMasterpool_eq_ok.mp hok
      rw [heq]
      exact ⟨g.isPaused, hg⟩
    | token c i =>
      obtain ⟨m, -, heq⟩ := execMasterpool_eq_ok.mp hok
      rw [heq]
      exact ⟨g.isPaused, hg⟩

/-- **Step**: the attestation program is blank until its initialization. -/
theorem step_attestation_blank (hb : s.attestation = .init) (a : Action) :
    (step host s a).attestation = .init ∨ ∃ c now ctx args,
      a = .attestation c now (.initializeConfig ctx args) ∧ ByDeployer c ctx ∧
      (step host s a).attestation.config = some (boundConfig args) := by
  rcases @step_cases host s a with ⟨e, -, hs⟩ | hok
  · rw [hs]
    exact Or.inl hb
  · cases a with
    | attestation c now i =>
      obtain ⟨ctx, args, rfl⟩ := exec_blank hb hok
      obtain ⟨hby, heq⟩ := initializeConfig_bound hok
      exact Or.inr ⟨c, now, ctx, args, rfl, hby, by rw [heq]⟩
    | masterpool c now i =>
      obtain ⟨m, -, heq⟩ := execMasterpool_eq_ok.mp hok
      rw [heq]
      exact Or.inl hb
    | token c i =>
      obtain ⟨m, -, heq⟩ := execMasterpool_eq_ok.mp hok
      rw [heq]
      exact Or.inl hb

/-- **Step**: so is the masterpool, which the attestation program does not initialize. -/
theorem step_masterpool_blank (hb : s.masterpool.Blank) (a : Action) :
    (step host s a).masterpool.Blank ∨ ∃ c now ctx params,
      a = .masterpool c now (.initializeMasterpool ctx params) ∧
      Masterpool.ByDeployer c.direct ctx ∧
      (step host s a).masterpool.config = some (initialConfig ctx params now.toInt) := by
  rcases @step_cases host s a with ⟨e, -, hs⟩ | hok
  · rw [hs]
    exact Or.inl hb
  · have hout := Action.exec_callOutcome hok
    cases hcall : a.call with
    | none =>
      rw [hout.uncalled hcall]
      exact Or.inl hb
    | some b =>
      rw [← Masterpool.step_of_ok (hout.called b hcall)]
      refine (Masterpool.step_blank hb b).imp_right ?_
      rintro ⟨c', now', ctx, params, rfl, hby, hconfig⟩
      cases a with
      | attestation c now i =>
        obtain ⟨j, hj, heconomic⟩ := call_economic hcall
        cases hj
        exact heconomic.elim
      | token c i => cases hcall
      | masterpool c now i =>
        cases hcall
        exact ⟨c, now', ctx, params, rfl, hby, hconfig⟩

/-! ## Runs -/

def Action.initializesMasterpool : Action → Bool
  | .masterpool _ _ (.initializeMasterpool ..) => true
  | _ => false

def Action.initializesConfig : Action → Bool
  | .attestation _ _ (.initializeConfig ..) => true
  | _ => false

/-- The calls of the run that initialize the masterpool carry the loader's accounts of it. -/
def MasterpoolDeployed (d : Deployment) (as : List Action) : Prop :=
  ∀ c now ctx params, .masterpool c now (.initializeMasterpool ctx params) ∈ as → ctx.Reads d

/-- The same for the attestation program. -/
def AttestationDeployed (d : Deployment) (as : List Action) : Prop :=
  ∀ c now ctx args, .attestation c now (.initializeConfig ctx args) ∈ as → Reads d ctx

/-- The config `g` of the masterpool stems from one step of the run `as`. -/
inductive MasterpoolStems (host : Host) (as : List Action) (g : GlobalConfig) : Prop
  | initialization {pre post : List Action} {c : Signers} {now : Int64}
    {ctx : Masterpool.InitializeMasterpool} {params : Masterpool.Phase1ConfigParams}
    (hrun : as = pre ++ .masterpool c now (.initializeMasterpool ctx params) :: post)
    (hby : Masterpool.ByDeployer c.direct ctx)
    (hdeployed : ∀ d, MasterpoolDeployed d as → d.upgradeAuthority = some ctx.initializer)
    (hblank : (reached host pre).masterpool.Blank)
    (hbound : SameIdentity (initialConfig ctx params now.toInt) g)

/-- The config `g` of the attestation program stems from one step of the run `as`. -/
inductive AttestationStems (host : Host) (as : List Action) (g : Config) : Prop
  | initialization {pre post : List Action} {c : Signers} {now : Int64} {ctx : InitializeConfig}
    {args : InitializeConfigArgs}
    (hrun : as = pre ++ .attestation c now (.initializeConfig ctx args) :: post)
    (hby : ByDeployer c ctx)
    (hdeployed : ∀ d, AttestationDeployed d as → d.upgradeAuthority = some ctx.initializer)
    (hblank : (reached host pre).attestation = .init)
    (hbound : ∃ b, g = { boundConfig args with isPaused := b })

/-- Both programs are initialized by their upgrade authorities, and once; until then they are
blank. -/
structure Initialized (host : Host) (as : List Action) : Prop where
  masterpoolBlank : (reached host as).masterpool.config = none → (reached host as).masterpool.Blank
  attestationBlank : (reached host as).attestation.config = none →
    (reached host as).attestation = .init
  masterpool : ∀ g, (reached host as).masterpool.config = some g → MasterpoolStems host as g
  attestation : ∀ g, (reached host as).attestation.config = some g → AttestationStems host as g
  masterpoolOnce : successes host (·.initializesMasterpool) as ≤ 1
  attestationOnce : successes host (·.initializesConfig) as ≤ 1

/-- What identifies the masterpool is bound for good. -/
theorem run_identity (hw : Masterpool.Wf s.masterpool) {g : GlobalConfig}
    (hg : s.masterpool.config = some g) (bs : List Action) :
    ∃ g', (Machine.run (step host) s bs).masterpool.config = some g' ∧ SameIdentity g g' := by
  have hrun := Machine.run_induction
    (P := fun t : System => Masterpool.Wf t.masterpool ∧
      ∃ g', t.masterpool.config = some g' ∧ SameIdentity g g')
    (fun t (a : Action) ⟨hw, g', hg', hid⟩ => by
      obtain ⟨g'', hg'', hid'⟩ := @step_identity host _ hw a _ hg'
      exact ⟨step_wf hw a, g'', hg'', hid.trans hid'⟩) ⟨hw, g, hg, .refl g⟩ bs
  exact hrun.2

/-- So is the config of the attestation program, up to the pause flag. -/
theorem run_config {g : Config} (hg : s.attestation.config = some g) (bs : List Action) :
    ∃ b, (Machine.run (step host) s bs).attestation.config = some { g with isPaused := b } :=
  Machine.run_induction
    (P := fun t : System => ∃ b, t.attestation.config = some { g with isPaused := b })
    (fun _ a ⟨_, hb⟩ => step_config hb a) ⟨g.isPaused, hg⟩ bs

theorem reached_wf (as : List Action) : Masterpool.Wf (reached host as).masterpool := by
  rw [reached_masterpool]
  exact Masterpool.reached_wf _

/-- What is not blank has been initialized. -/
theorem masterpool_initialized {as : List Action} (hend : ¬ (reached host as).masterpool.Blank) :
    ∃ g, (reached host as).masterpool.config = some g ∧ MasterpoolStems host as g := by
  obtain ⟨pre, a, post, rfl, hpre, hstep⟩ := Machine.exists_step
    (P := fun s : System => ¬ s.masterpool.Blank) (not_not.mpr ⟨Token.Ledger.empty, rfl⟩) hend
  rw [Machine.run_concat] at hstep
  have hblank : (reached host pre).masterpool.Blank := not_not.mp hpre
  rcases step_masterpool_blank hblank a with h | ⟨c, now, ctx, params, rfl, hby, hconfig⟩
  · exact absurd h hstep
  · obtain ⟨g, hg, hid⟩ := run_identity (step_wf (reached_wf pre) _) hconfig post
    refine ⟨g, ?_, .initialization rfl hby (fun d hd => ?_) hblank hid⟩
    · rw [reached, Machine.run_append, Machine.run_cons]
      exact hg
    · exact hby.deployed (hd c now ctx params (List.mem_append_right _ List.mem_cons_self))

theorem masterpool_stems {as : List Action} {g : GlobalConfig}
    (hg : (reached host as).masterpool.config = some g) : MasterpoolStems host as g := by
  have hend : ¬ (reached host as).masterpool.Blank := by
    rintro ⟨t, ht⟩
    rw [ht] at hg
    cases hg
  obtain ⟨g', hg', hstems⟩ := masterpool_initialized hend
  rwa [Option.some.inj (hg.symm.trans hg')]

theorem attestation_initialized {as : List Action} (hend : (reached host as).attestation ≠ .init) :
    ∃ g, (reached host as).attestation.config = some g ∧ AttestationStems host as g := by
  obtain ⟨pre, a, post, rfl, hpre, hstep⟩ := Machine.exists_step
    (P := fun s : System => s.attestation ≠ .init) (not_not.mpr rfl) hend
  rw [Machine.run_concat] at hstep
  have hblank : (reached host pre).attestation = .init := not_not.mp hpre
  rcases step_attestation_blank hblank a with h | ⟨c, now, ctx, args, rfl, hby, hconfig⟩
  · exact absurd h hstep
  · obtain ⟨b, hb⟩ := run_config hconfig post
    refine ⟨_, ?_, .initialization rfl hby (fun d hd => ?_) hblank ⟨b, rfl⟩⟩
    · rw [reached, Machine.run_append, Machine.run_cons]
      exact hb
    · exact hby.deployed (hd c now ctx args (List.mem_append_right _ List.mem_cons_self))

theorem attestation_stems {as : List Action} {g : Config}
    (hg : (reached host as).attestation.config = some g) : AttestationStems host as g := by
  have hend : (reached host as).attestation ≠ .init := by
    intro h
    rw [h] at hg
    cases hg
  obtain ⟨g', hg', hstems⟩ := attestation_initialized hend
  rwa [Option.some.inj (hg.symm.trans hg')]

theorem masterpool_once (as : List Action) : successes host (·.initializesMasterpool) as ≤ 1 := by
  refine Machine.count_le_one (I := fun s => Masterpool.Wf s.masterpool)
    (D := fun s => ∃ g, s.masterpool.config = some g) (fun s a hw => step_wf hw a)
    (fun s a hw hd => ?_) (fun s a hw hp => ?_) Masterpool.wf_init as
  · obtain ⟨g, hg⟩ := hd
    obtain ⟨g', hg', -⟩ := step_identity hw a hg
    exact ⟨g', hg'⟩
  · rw [Bool.and_eq_true] at hp
    rcases step_cases s a with ⟨e, he, -⟩ | hok
    · rw [he] at hp
      exact absurd hp.2 Bool.false_ne_true
    · cases a with
      | attestation c now i => exact absurd hp.1 Bool.false_ne_true
      | token c i => exact absurd hp.1 Bool.false_ne_true
      | masterpool c now i =>
        obtain ⟨m, hm, heq⟩ := execMasterpool_eq_ok.mp hok
        cases i with
        | initializeMasterpool ctx params =>
          obtain ⟨x, y, t₁, t₂, t₃, t₄, t₅, hnone, -, -, -, -, -, -, -, -, -, -, rfl⟩ :=
            Masterpool.initializeMasterpool_ok hm
          rw [heq]
          refine ⟨?_, _, rfl⟩
          rintro ⟨g, hg⟩
          exact Option.some_ne_none g (hg.symm.trans hnone)
        | _ => exact absurd hp.1 Bool.false_ne_true

theorem attestation_once (as : List Action) : successes host (·.initializesConfig) as ≤ 1 := by
  refine Machine.count_le_one (I := fun _ => True)
    (D := fun s => ∃ g, s.attestation.config = some g) (fun _ _ _ => trivial)
    (fun s a _ hd => ?_) (fun s a _ hp => ?_) trivial as
  · obtain ⟨g, hg⟩ := hd
    obtain ⟨b, hb⟩ := step_config hg a
    exact ⟨_, hb⟩
  · rw [Bool.and_eq_true] at hp
    rcases step_cases s a with ⟨e, he, -⟩ | hok
    · rw [he] at hp
      exact absurd hp.2 Bool.false_ne_true
    · cases a with
      | masterpool c now i => exact absurd hp.1 Bool.false_ne_true
      | token c i => exact absurd hp.1 Bool.false_ne_true
      | attestation c now i =>
        cases i with
        | initializeConfig ctx args =>
          obtain ⟨g', hinit, heq⟩ := initializeConfig_ok hok
          rw [heq]
          refine ⟨?_, g', rfl⟩
          rintro ⟨g, hg⟩
          exact Option.some_ne_none g (hg.symm.trans hinit.fresh)
        | _ => exact absurd hp.1 Bool.false_ne_true

/-- **Initialization**: in every run each of the two programs is initialized at most once, by a call
that its upgrade authority signs, and blank until then.  If it has a config, the config stems from
that call: nothing was stored before, and the keys and accounts that it names are the ones bound
there. -/
theorem initialized_by_deployer (host : Host) (as : List Action) : Initialized host as where
  masterpoolBlank hnone := by
    by_contra hend
    obtain ⟨g, hg, -⟩ := masterpool_initialized hend
    cases hnone.symm.trans hg
  attestationBlank hnone := by
    by_contra hend
    obtain ⟨g, hg, -⟩ := attestation_initialized hend
    cases hnone.symm.trans hg
  masterpool _ := masterpool_stems
  attestation _ := attestation_stems
  masterpoolOnce := masterpool_once as
  attestationOnce := attestation_once as

end Protocol
