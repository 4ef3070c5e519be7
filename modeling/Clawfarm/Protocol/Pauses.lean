import Clawfarm.Masterpool.Pauses
import Clawfarm.Protocol.Program

/-!
# Protocol.Pauses — pausing only delays

Both programs can be paused: the attestation program as a whole for new receipts, the masterpool
program by four flags.  A run with pauses ends, up to the flags, like the run of the actions that
were not stopped, in which nobody ever paused anything (`pausing_only_blocks`).
-/

namespace Protocol

open Attestation Checked

/-- Both programs as if they had never been paused. -/
def unpaused (s : System) : System where
  masterpool := s.masterpool.unpaused
  attestation := { s.attestation with
    config := s.attestation.config.map fun g => { g with isPaused := false } }

/-- The action changes the flag of the attestation program, or that flag stops it. -/
def Action.halted (s : System) : Action → Bool
  | .attestation _ _ (.setPause ..) => true
  | .attestation _ _ (.submitReceipt ..) => s.attestation.config.any Config.isPaused
  | _ => false

/-- The action changes a pause flag, or a flag stops it. -/
def Action.Suspended (s : System) (a : Action) : Prop :=
  (∃ b ∈ a.call, b.Suspended s.masterpool) ∨ a.halted s = true

instance (s : System) : DecidablePred (Action.Suspended s) := fun a =>
  inferInstanceAs (Decidable ((∃ b ∈ a.call, b.Suspended s.masterpool) ∨ a.halted s = true))

/-- No flag is set. -/
structure Running (s : System) : Prop where
  masterpool : s.masterpool.Running
  attestation : ∀ g, s.attestation.config = some g → g.isPaused = false

variable {host : Host} {c : Signers} {now : ℤ} {s s' : System}

/-! ## One instruction -/

theorem map_mapError {α β ε ε' : Type} (f : α → β) (g : ε → ε') (x : Except ε α) :
    f <$> x.mapError g = (f <$> x).mapError g := by
  cases x <;> rfl

/-- The calls `j` of the masterpool program have the same outcome in `m` as if it had never been
paused. -/
def Unblocked (c : Signers) (now : ℤ) (m : Masterpool.State) (j : Masterpool.Instruction) : Prop :=
  Masterpool.State.unpaused <$> invoke c now j m.unpaused =
    Masterpool.State.unpaused <$> invoke c now j m

/-- The last lines of a handler: a call of the masterpool program and the writes after it. -/
theorem bind_unpaused {x : Result Masterpool.State} {a : State} :
    (x >>= fun m => unpaused <$> (pure ⟨m, a⟩ : Result System)) =
      (fun m => ⟨m, (unpaused ⟨.init, a⟩).attestation⟩) <$> (Masterpool.State.unpaused <$> x) := by
  cases x <;> rfl

theorem submitReceipt_unpaused {sysvar : InstructionsSysvar} {ctx : SubmitReceipt}
    {args : SubmitReceiptArgs} (hp : ∀ g ∈ s.attestation.config, g.isPaused = false)
    (hcall : Unblocked c now s.masterpool (ctx.economics args)) :
    unpaused <$> submitReceipt host c now sysvar ctx args (unpaused s) =
      unpaused <$> submitReceipt host c now sysvar ctx args s := by
  obtain ⟨m, config, signers, receipts, challenges⟩ := s
  simp only [Unblocked] at hcall
  cases config with
  | none =>
    simp only [submitReceipt, unpaused, loadAsAuthority, load, orError, Option.map_none, error_bind,
      map_bind, bind_assoc]
  | some g =>
    have hpaused := hp g rfl
    simp only [submitReceipt, unpaused, loadAsAuthority, requireMasterpool, load, orError,
      Option.map_some, ok_bind, hpaused, map_bind, bind_assoc, pure_bind, bind_unpaused, hcall,
      Masterpool.unpaused_providers]

theorem openChallenge_unpaused {ctx : OpenChallenge} {challengeType : UInt8}
    {evidenceHash : Bytes32} (hcall : Unblocked c now s.masterpool ctx.economics) :
    unpaused <$> openChallenge c now ctx challengeType evidenceHash (unpaused s) =
      unpaused <$> openChallenge c now ctx challengeType evidenceHash s := by
  obtain ⟨m, config, signers, receipts, challenges⟩ := s
  simp only [Unblocked] at hcall
  cases config with
  | none =>
    simp only [openChallenge, unpaused, load, orError, Option.map_none, error_bind, map_bind]
  | some g =>
    cases hm : m.config with
    | none =>
      have hm' : m.unpaused.config = none := congrArg (Option.map _) hm
      simp only [openChallenge, unpaused, load, orError, Option.map_some, ok_bind, hm, hm',
        error_bind, map_bind, Masterpool.unpaused_tokens]
    | some p =>
      have hm' : m.unpaused.config = some p.unpaused := congrArg (Option.map _) hm
      have hbond : p.unpaused.challengeBondClawAmount = p.challengeBondClawAmount := rfl
      simp only [openChallenge, unpaused, requireMasterpool, load, orError, Option.map_some, ok_bind,
        hm, hm', hbond, map_bind, bind_assoc, bind_unpaused, hcall,
        Masterpool.unpaused_tokens]

/-- The common part of the two resolutions. -/
theorem resolve_unpaused {accounts : ChallengeAccounts} {r : Receipt} {x : Challenge}
    {code : ResolutionCode} (hcall : Unblocked c now s.masterpool (accounts.economics code)) :
    unpaused <$> resolve c now accounts r x code (unpaused s) =
      unpaused <$> resolve c now accounts r x code s := by
  obtain ⟨m, config, signers, receipts, challenges⟩ := s
  simp only [Unblocked] at hcall
  cases config <;> simp only [resolve, unpaused, Option.map_none, Option.map_some, map_bind,
    bind_unpaused, hcall]

theorem resolveChallenge_unpaused {ctx : ResolveChallenge} {value : UInt8}
    (hcall : ∀ code, ResolutionCode.tryFrom value = .ok code →
      Unblocked c now s.masterpool (ctx.accounts.economics code)) :
    unpaused <$> resolveChallenge c now ctx value (unpaused s) =
      unpaused <$> resolveChallenge c now ctx value s := by
  cases hvalue : ResolutionCode.tryFrom value with
  | error e =>
    obtain ⟨m, config, signers, receipts, challenges⟩ := s
    cases config <;> simp only [resolveChallenge, unpaused, requireMasterpool, load, orError, hvalue,
      Option.map_none, Option.map_some, ok_bind, error_bind, map_bind]
  | ok code =>
    have hresolve : ∀ r x, unpaused <$> resolve c now ctx.accounts r x code (unpaused s) =
        unpaused <$> resolve c now ctx.accounts r x code s := fun r x =>
      resolve_unpaused (hcall code hvalue)
    obtain ⟨m, config, signers, receipts, challenges⟩ := s
    cases config with
    | none =>
      simp only [resolveChallenge, unpaused, load, orError, Option.map_none, error_bind, map_bind]
    | some g =>
      simp only [unpaused, Option.map_some] at hresolve
      simp only [resolveChallenge, unpaused, requireMasterpool, load, orError, hvalue,
        Option.map_some, ok_bind, map_bind, hresolve]

theorem timeoutRejectChallenge_unpaused {ctx : TimeoutRejectChallenge}
    (hcall : Unblocked c now s.masterpool (ctx.accounts.economics .Rejected)) :
    unpaused <$> timeoutRejectChallenge c now ctx (unpaused s) =
      unpaused <$> timeoutRejectChallenge c now ctx s := by
  have hresolve : ∀ r x, unpaused <$> resolve c now ctx.accounts r x .Rejected (unpaused s) =
      unpaused <$> resolve c now ctx.accounts r x .Rejected s := fun r x => resolve_unpaused hcall
  obtain ⟨m, config, signers, receipts, challenges⟩ := s
  cases config with
  | none =>
    simp only [timeoutRejectChallenge, unpaused, loadAsAuthority, load, orError, Option.map_none,
      error_bind, map_bind, bind_assoc]
  | some g =>
    simp only [unpaused, Option.map_some] at hresolve
    simp only [timeoutRejectChallenge, unpaused, loadAsAuthority, requireMasterpool, load, orError,
      Option.map_some, ok_bind, map_bind, bind_assoc, pure_bind, hresolve]

theorem finalizeReceipt_unpaused {ctx : FinalizeReceipt}
    (hcall : Unblocked c now s.masterpool ctx.economics) :
    unpaused <$> finalizeReceipt c now ctx (unpaused s) =
      unpaused <$> finalizeReceipt c now ctx s := by
  obtain ⟨m, config, signers, receipts, challenges⟩ := s
  simp only [Unblocked] at hcall
  cases config with
  | none =>
    simp only [finalizeReceipt, unpaused, loadAsAuthority, load, orError, Option.map_none,
      error_bind, map_bind, bind_assoc]
  | some g =>
    simp only [finalizeReceipt, unpaused, loadAsAuthority, requireMasterpool, load, orError,
      Option.map_some, ok_bind, map_bind, bind_assoc, pure_bind, bind_unpaused, hcall]

theorem unblocked_of_not {j : Masterpool.Instruction} {t : Int64}
    (h : ¬ (Masterpool.Action.call c.withConfig t j).Suspended s.masterpool) :
    Unblocked c t.toInt s.masterpool j := by
  have hexec := Masterpool.Action.exec_unpaused h
  simp only [Masterpool.Action.exec] at hexec
  rw [Unblocked, invoke, invoke, map_mapError, map_mapError, hexec]

/-- **Flags only block**: an instruction of the attestation program that is not suspended does what
it would do if neither program had ever been paused. -/
theorem exec_unpaused {t : Int64} {i : Instruction}
    (h : ¬ (Action.attestation c t i).Suspended s) :
    unpaused <$> exec host c t.toInt (unpaused s) i = unpaused <$> exec host c t.toInt s i := by
  have hcall : ∀ {j}, (Action.attestation c t i).call = some (.call c.withConfig t j) →
      Unblocked c t.toInt s.masterpool j := fun hj =>
    unblocked_of_not fun hsus => h (Or.inl ⟨_, hj, hsus⟩)
  cases i with
  | submitReceipt sysvar ctx args =>
    refine submitReceipt_unpaused (fun g hg => ?_) (hcall rfl)
    exact Bool.eq_false_iff.mpr fun hp => h (Or.inr ((Option.any_eq_true _ _).mpr ⟨g, hg, hp⟩))
  | openChallenge ctx ty hash => exact openChallenge_unpaused (hcall rfl)
  | resolveChallenge ctx value =>
    refine resolveChallenge_unpaused fun code hcode => hcall ?_
    simp only [Action.call, hcode]
    rfl
  | timeoutRejectChallenge ctx => exact timeoutRejectChallenge_unpaused (hcall rfl)
  | finalizeReceipt ctx => exact finalizeReceipt_unpaused (hcall rfl)
  | setPause ctx b => exact absurd (Or.inr rfl) h
  | initializeConfig ctx args =>
    obtain ⟨m, config, signers, receipts, challenges⟩ := s
    cases config <;> simp only [exec, initializeConfig, unpaused, vacant, constraint, require,
      Option.map_none, Option.map_some, Option.isNone_none, Option.isNone_some, Bool.false_eq_true,
      if_false, error_bind, map_bind, map_pure, Masterpool.unpaused_unpaused]
  | upsertProviderSigner ctx args =>
    obtain ⟨m, config, signers, receipts, challenges⟩ := s
    cases config <;> simp only [exec, upsertProviderSigner, unpaused, loadAsAuthority, load, orError,
      Option.map_none, Option.map_some, ok_bind, error_bind, map_bind, map_pure, bind_assoc,
      pure_bind, Masterpool.unpaused_unpaused]
  | revokeProviderSigner ctx k w =>
    obtain ⟨m, config, signers, receipts, challenges⟩ := s
    cases config <;> simp only [exec, revokeProviderSigner, unpaused, loadAsAuthority, load, orError,
      Option.map_none, Option.map_some, ok_bind, error_bind, map_bind, map_pure, bind_assoc,
      pure_bind, Masterpool.unpaused_unpaused]
  | closeChallenge ctx =>
    obtain ⟨m, config, signers, receipts, challenges⟩ := s
    cases config <;> simp only [exec, closeChallenge, unpaused, loadAsAuthority, load, orError,
      Option.map_none, Option.map_some, ok_bind, error_bind, map_bind, map_pure, bind_assoc,
      pure_bind, Masterpool.unpaused_unpaused]
  | closeReceipt ctx =>
    obtain ⟨m, config, signers, receipts, challenges⟩ := s
    cases config <;> simp only [exec, closeReceipt, unpaused, loadAsAuthority, load, orError,
      Option.map_none, Option.map_some, ok_bind, error_bind, map_bind, map_pure, bind_assoc,
      pure_bind, Masterpool.unpaused_unpaused]

theorem Action.exec_unpaused {a : Action} (h : ¬ a.Suspended s) :
    unpaused <$> a.exec host (unpaused s) = unpaused <$> a.exec host s := by
  have hcall : ∀ {b}, a.call = some b →
      unpaused <$> execMasterpool b (unpaused s) = unpaused <$> execMasterpool b s := by
    intro b hb
    have hexec := Masterpool.Action.exec_unpaused fun hsus => h (Or.inl ⟨b, hb, hsus⟩)
    obtain ⟨m, config, signers, receipts, challenges⟩ := s
    simp only at hexec
    cases config <;> simp only [execMasterpool, unpaused, Option.map_none, Option.map_some, map_bind,
      bind_unpaused, map_mapError, hexec]
  cases a with
  | attestation c t i => exact Protocol.exec_unpaused h
  | masterpool c t i => exact hcall rfl
  | token c i => exact hcall rfl

theorem setPause_unpaused {ctx : SetPause} {b : Bool} (h : setPause c ctx b s = .ok s') :
    unpaused s' = unpaused s := by
  obtain ⟨g, hset, rfl⟩ := setPause_ok h
  rw [unpaused, unpaused, hset.config]
  rfl

/-- A paused program takes no receipt. -/
theorem submitReceipt_not_halted {sysvar : InstructionsSysvar} {ctx : SubmitReceipt}
    {args : SubmitReceiptArgs} (h : submitReceipt host c now sysvar ctx args s = .ok s') :
    s.attestation.config.any Config.isPaused = false := by
  obtain ⟨g, e, p, m, hpass, -⟩ := submitReceipt_iff.mp h
  rw [hpass.config]
  exact hpass.running

/-- What is suspended leaves everything but the flags alone. -/
theorem Action.suspended_unpaused {a : Action} (h : a.Suspended s)
    (hok : a.exec host s = .ok s') : unpaused s' = unpaused s := by
  have hout := Action.exec_callOutcome hok
  rcases h with ⟨b, hb, hsus⟩ | h
  · cases a with
    | attestation c t i =>
      obtain ⟨j, rfl, hj⟩ := call_economic hb
      rcases hsus with hset | hblocked
      · cases j <;> first | exact hj.elim | cases hset
      · exact absurd hblocked (Masterpool.not_blocked_of_ok (hout.called _ hb))
    | masterpool c t i =>
      have hm := Masterpool.Action.suspended_unpaused hsus (hout.called b hb)
      obtain ⟨m, -, rfl⟩ := execMasterpool_eq_ok.mp hok
      rw [unpaused, unpaused, hm]
    | token c i =>
      obtain rfl := Option.some.inj hb
      exact hsus.elim
  · cases a with
    | masterpool c t i => cases h
    | token c i => cases h
    | attestation c t i =>
      cases i with
      | setPause ctx b => exact setPause_unpaused hok
      | submitReceipt sysvar ctx args =>
        exact absurd (h.symm.trans (submitReceipt_not_halted hok)) Bool.true_eq_false.mp
      | _ => cases h

/-- Only `set_pause` sets the flag of the attestation program. -/
theorem exec_running {t : Int64} {i : Instruction} (hset : ∀ ctx b, i ≠ .setPause ctx b)
    (hr : ∀ g, s.attestation.config = some g → g.isPaused = false)
    (h : exec host c t.toInt s i = .ok s') :
    ∀ g, s'.attestation.config = some g → g.isPaused = false := by
  cases i with
  | initializeConfig ctx args =>
    obtain ⟨g, hinit, rfl⟩ := initializeConfig_ok h
    intro g' hg'
    obtain rfl := (Option.some.inj hg').symm.trans hinit.bound
    rfl
  | upsertProviderSigner ctx args =>
    obtain ⟨g, p, -, rfl⟩ := upsertProviderSigner_ok h
    exact hr
  | setPause ctx b => exact absurd rfl (hset ctx b)
  | revokeProviderSigner ctx k w =>
    obtain ⟨g, p, -, rfl⟩ := revokeProviderSigner_ok h
    exact hr
  | submitReceipt sysvar ctx args =>
    obtain ⟨g, r, m, -, rfl⟩ := submitReceipt_ok h
    exact hr
  | openChallenge ctx ty hash =>
    obtain ⟨r, x, m, -, rfl⟩ := openChallenge_ok h
    exact hr
  | resolveChallenge ctx code =>
    obtain ⟨rc, r, x, cs, rs, settled, m, -, -, -, rfl⟩ := resolveChallenge_ok h
    exact hr
  | timeoutRejectChallenge ctx =>
    obtain ⟨r, x, cs, rs, settled, m, -, -, rfl⟩ := timeoutRejectChallenge_ok h
    exact hr
  | finalizeReceipt ctx =>
    obtain ⟨g, r, r', m, -, rfl⟩ := finalizeReceipt_ok h
    exact hr
  | closeChallenge ctx =>
    obtain ⟨x, -, rfl⟩ := closeChallenge_ok h
    exact hr
  | closeReceipt ctx =>
    obtain ⟨r, -, rfl⟩ := closeReceipt_ok h
    exact hr

theorem Action.exec_running {a : Action} (ha : ¬ a.Suspended s) (hr : Running s)
    (h : a.exec host s = .ok s') : Running s' := by
  have hout := Action.exec_callOutcome h
  refine ⟨?_, ?_⟩
  · cases hb : a.call with
    | none => exact hout.uncalled hb ▸ hr.masterpool
    | some b =>
      exact Masterpool.Action.exec_running (fun hsus => ha (Or.inl ⟨b, hb, hsus⟩)) hr.masterpool
        (hout.called b hb)
  · cases a with
    | attestation c t i =>
      refine Protocol.exec_running (fun ctx b hi => ha (Or.inr ?_)) hr.attestation h
      rw [hi]
      rfl
    | masterpool c t i =>
      obtain ⟨m, -, rfl⟩ := execMasterpool_eq_ok.mp h
      exact hr.attestation
    | token c i =>
      obtain ⟨m, -, rfl⟩ := execMasterpool_eq_ok.mp h
      exact hr.attestation

/-- Where no flag is set, only changes of the flags are suspended. -/
theorem Action.Suspended.of_running {t : System} {a : Action} (h : a.Suspended t) (ht : Running t) :
    a.Suspended s := by
  rcases h with ⟨b, hb, hsus⟩ | h
  · exact Or.inl ⟨b, hb, hsus.of_running ht.masterpool⟩
  · cases a with
    | attestation c now i =>
      cases i with
      | setPause ctx b => exact Or.inr rfl
      | submitReceipt sysvar ctx args =>
        obtain ⟨g, hg, hp⟩ := (Option.any_eq_true _ _).mp h
        exact absurd ((ht.attestation g hg).symm.trans hp) Bool.false_ne_true
      | _ => cases h
    | masterpool c now i => cases h
    | token c i => cases h

/-! ## Runs -/

/-- The actions of a run that neither changed a flag nor were stopped by one. -/
def unsuspended (host : Host) (as : List Action) : List Action :=
  Machine.emitted (step host) (fun s a => if a.Suspended s then [] else [a]) .init as

/-- `t` has no flag set, and is `s` in everything else. -/
structure Resumes (s t : System) : Prop where
  running : Running t
  same : unpaused t = unpaused s

theorem resumes_init : Resumes .init .init where
  running :=
    { masterpool := (fun _ h => nomatch h)
      attestation := (fun _ h => nomatch h) }
  same := rfl

/-- A suspended action is not needed. -/
theorem Resumes.step_suspended {t : System} {a : Action} (h : Resumes s t) (ha : a.Suspended s) :
    Resumes (step host s a) t := by
  refine ⟨h.running, h.same.trans ?_⟩
  rcases @step_cases host s a with ⟨e, -, hs⟩ | hok
  · rw [hs]
  · exact (Action.suspended_unpaused ha hok).symm

/-- Any other action does the same in both. -/
theorem Resumes.step {t : System} {a : Action} (h : Resumes s t) (ha : ¬ a.Suspended s) :
    Resumes (step host s a) (Protocol.step host t a) := by
  have hat : ¬ a.Suspended t := fun hsus => ha (hsus.of_running h.running)
  have hmap : unpaused <$> a.exec host s = unpaused <$> a.exec host t := by
    rw [← Action.exec_unpaused ha, ← Action.exec_unpaused hat, h.same]
  have hagree : Agree (fun s' t' => unpaused s' = unpaused t') (a.exec host s) (a.exec host t) :=
    agree_iff_map.mpr hmap
  rcases @step_cases host s a with ⟨e, he, hs⟩ | hs
  · have ht := (hagree.error_iff e).mp he
    rw [hs]
    simpa only [Protocol.step, ht] using h
  · obtain ⟨t', ht, hsame⟩ := hagree.of_ok hs
    rw [step_of_ok ht]
    exact ⟨Action.exec_running hat h.running ht, hsame.symm⟩

/-- **Pausing only blocks**: whatever is paused and resumed in a run, at its end the two programs
are, up to the flags, where the same run leaves them in which nobody ever pauses and the actions
that a flag stopped are missing. -/
theorem pausing_only_blocks (host : Host) (as : List Action) :
    unpaused (reached host (unsuspended host as)) = unpaused (reached host as) := by
  refine (Machine.run_emitted_related (R := Resumes) (fun s t a h => ?_) resumes_init as).same
  by_cases ha : a.Suspended s
  · rw [if_pos ha]
    exact h.step_suspended ha
  · rw [if_neg ha]
    exact h.step ha

end Protocol
