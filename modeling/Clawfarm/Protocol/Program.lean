import Clawfarm.Attestation.Challenge

/-!
# Protocol.Program — runs of the two programs together

An action is an instruction of one of the two programs or of the token program, sent by anybody.
Every action that succeeds makes at most one call of the masterpool program (`Action.calls`), so
the masterpool state of a run is that of a run of masterpool actions (`reached_masterpool`).
-/

namespace Protocol

open Checked Attestation

inductive Instruction
  | initializeConfig (ctx : InitializeConfig) (args : InitializeConfigArgs)
  | upsertProviderSigner (ctx : UpsertProviderSigner) (args : UpsertProviderSignerArgs)
  | setPause (ctx : SetPause) (isPaused : Bool)
  | revokeProviderSigner (ctx : RevokeProviderSigner) (signer providerWallet : Pubkey)
  | submitReceipt (sysvar : InstructionsSysvar) (ctx : SubmitReceipt) (args : SubmitReceiptArgs)
  | openChallenge (ctx : OpenChallenge) (challengeType : UInt8) (evidenceHash : Bytes32)
  | resolveChallenge (ctx : ResolveChallenge) (resolutionCode : UInt8)
  | timeoutRejectChallenge (ctx : TimeoutRejectChallenge)
  | finalizeReceipt (ctx : FinalizeReceipt)
  | closeChallenge (ctx : CloseChallenge)
  | closeReceipt (ctx : CloseReceipt)

/-- The attestation program. -/
def exec (host : Host) (c : Signers) (now : ℤ) (s : System) : Instruction → Result System
  | .initializeConfig ctx args => initializeConfig c ctx args s
  | .upsertProviderSigner ctx args => upsertProviderSigner c ctx args s
  | .setPause ctx isPaused => setPause c ctx isPaused s
  | .revokeProviderSigner ctx signer wallet => revokeProviderSigner c ctx signer wallet s
  | .submitReceipt sysvar ctx args => submitReceipt host c now sysvar ctx args s
  | .openChallenge ctx challengeType evidenceHash =>
    openChallenge c now ctx challengeType evidenceHash s
  | .resolveChallenge ctx code => resolveChallenge c now ctx code s
  | .timeoutRejectChallenge ctx => timeoutRejectChallenge c now ctx s
  | .finalizeReceipt ctx => finalizeReceipt c now ctx s
  | .closeChallenge ctx => closeChallenge c ctx s
  | .closeReceipt ctx => closeReceipt c ctx s

inductive Action
  | attestation (c : Signers) (now : Int64) (i : Instruction)
  | masterpool (c : Signers) (now : Int64) (i : Masterpool.Instruction)
  | token (c : Signers) (i : Token.Instruction Pubkey)

/-- An action of the masterpool program that is not called by the attestation program. -/
def execMasterpool (a : Masterpool.Action) (s : System) : Result System := do
  let masterpool ← (a.exec s.masterpool).mapError fun e => .custom (.masterpool e)
  return { s with masterpool := masterpool }

def Action.exec (host : Host) (s : System) : Action → Result System
  | .attestation c now i => Protocol.exec host c now.toInt s i
  | .masterpool c now i => execMasterpool (.call c.direct now i) s
  | .token c i => execMasterpool (.token c.direct i) s

variable (host : Host)

def step (s : System) (a : Action) : System :=
  match a.exec host s with
  | .ok s' => s'
  | .error _ => s

/-- The state after the actions `as`, from the moment both programs are deployed. -/
def reached (as : List Action) : System := Machine.run (step host) .init as

theorem reached_concat (as : List Action) (a : Action) :
    reached host (as ++ [a]) = step host (reached host as) a := Machine.run_concat _ _ _

variable {host}

theorem step_of_ok {s s' : System} {a : Action} (h : a.exec host s = .ok s') :
    step host s a = s' := by
  simp only [step, h]

theorem step_cases (s : System) (a : Action) :
    (∃ e, a.exec host s = .error e ∧ step host s a = s) ∨ a.exec host s = .ok (step host s a) := by
  cases h : a.exec host s with
  | error e => exact Or.inl ⟨e, rfl, by simp only [step, h]⟩
  | ok s' => exact Or.inr (by rw [step_of_ok h])

@[simp] theorem execMasterpool_eq_ok {a : Masterpool.Action} {s s' : System} :
    execMasterpool a s = .ok s' ↔
      ∃ m, a.exec s.masterpool = .ok m ∧ s' = { s with masterpool := m } := by
  simp only [execMasterpool, bind_eq_ok, mapError_eq_ok, pure_eq_ok, eq_comm (a := s')]

/-! ## Calls of the masterpool program -/

/-- The call of the masterpool program that an action makes. -/
def Action.call : Action → Option Masterpool.Action
  | .masterpool c now i => some (.call c.direct now i)
  | .token c i => some (.token c.direct i)
  | .attestation c now i =>
    match i with
    | .submitReceipt _ ctx args => some (.call c.withConfig now (ctx.economics args))
    | .openChallenge ctx _ _ => some (.call c.withConfig now ctx.economics)
    | .resolveChallenge ctx code =>
      (ResolutionCode.tryFrom code).toOption.map fun rc =>
        .call c.withConfig now (ctx.accounts.economics rc)
    | .timeoutRejectChallenge ctx =>
      some (.call c.withConfig now (ctx.accounts.economics .Rejected))
    | .finalizeReceipt ctx => some (.call c.withConfig now ctx.economics)
    | _ => none

/-- The attestation program signs its calls with its config, and they are about the economy. -/
theorem call_economic {c : Signers} {now : Int64} {i : Instruction} {b : Masterpool.Action}
    (h : (Action.attestation c now i).call = some b) :
    ∃ j, b = .call c.withConfig now j ∧ j.IsEconomic := by
  cases i with
  | submitReceipt sysvar ctx args => exact ⟨_, (Option.some.inj h).symm, trivial⟩
  | openChallenge ctx ty hash => exact ⟨_, (Option.some.inj h).symm, trivial⟩
  | resolveChallenge ctx code =>
    obtain ⟨rc, -, hb⟩ := Option.map_eq_some_iff.mp h
    exact ⟨_, hb.symm, trivial⟩
  | timeoutRejectChallenge ctx => exact ⟨_, (Option.some.inj h).symm, trivial⟩
  | finalizeReceipt ctx => exact ⟨_, (Option.some.inj h).symm, trivial⟩
  | _ => cases h

/-- The masterpool after an action that succeeds. -/
structure CallOutcome (s : System) (a : Action) (s' : System) : Prop where
  called : ∀ b, a.call = some b → b.exec s.masterpool = .ok s'.masterpool
  uncalled : a.call = none → s'.masterpool = s.masterpool

theorem callOutcome_of_call {s s' : System} {a : Action} {b : Masterpool.Action}
    (ha : a.call = some b) (h : b.exec s.masterpool = .ok s'.masterpool) : CallOutcome s a s' where
  called b' hb' := by
    obtain rfl := Option.some.inj (ha.symm.trans hb')
    exact h
  uncalled hnone := nomatch ha.symm.trans hnone

theorem callOutcome_of_none {s s' : System} {a : Action} (ha : a.call = none)
    (h : s'.masterpool = s.masterpool) : CallOutcome s a s' where
  called _ hb := nomatch ha.symm.trans hb
  uncalled _ := h

theorem exec_callOutcome {c : Signers} {now : Int64} {i : Instruction} {s s' : System}
    (h : exec host c now.toInt s i = .ok s') : CallOutcome s (.attestation c now i) s' := by
  cases i with
  | initializeConfig ctx args =>
    exact callOutcome_of_none rfl (initializeConfig_administers h).masterpool
  | upsertProviderSigner ctx args =>
    exact callOutcome_of_none rfl (upsertProviderSigner_administers h).masterpool
  | setPause ctx b => exact callOutcome_of_none rfl (setPause_administers h).masterpool
  | revokeProviderSigner ctx k w =>
    exact callOutcome_of_none rfl (revokeProviderSigner_administers h).masterpool
  | submitReceipt sysvar ctx args =>
    obtain ⟨g, r, m, hm, rfl⟩ := submitReceipt_ok h
    exact callOutcome_of_call rfl hm.economics
  | openChallenge ctx ty hash =>
    obtain ⟨r, x, m, hm, rfl⟩ := openChallenge_ok h
    exact callOutcome_of_call rfl hm.economics
  | resolveChallenge ctx code =>
    obtain ⟨rc, r, x, cs, rs, settled, m, hrc, -, hm, rfl⟩ := resolveChallenge_ok h
    refine callOutcome_of_call (b := .call c.withConfig now (ctx.accounts.economics rc)) ?_
      hm.economics
    simp only [Action.call, hrc]
    rfl
  | timeoutRejectChallenge ctx =>
    obtain ⟨r, x, cs, rs, settled, m, -, hm, rfl⟩ := timeoutRejectChallenge_ok h
    exact callOutcome_of_call rfl hm.economics
  | finalizeReceipt ctx =>
    obtain ⟨g, r, r', m, hm, rfl⟩ := finalizeReceipt_ok h
    exact callOutcome_of_call rfl hm.economics
  | closeChallenge ctx =>
    obtain ⟨x, -, rfl⟩ := closeChallenge_ok h
    exact callOutcome_of_none rfl rfl
  | closeReceipt ctx =>
    obtain ⟨r, -, rfl⟩ := closeReceipt_ok h
    exact callOutcome_of_none rfl rfl

theorem Action.exec_callOutcome {s s' : System} {a : Action} (h : a.exec host s = .ok s') :
    CallOutcome s a s' := by
  cases a with
  | attestation c now i => exact Protocol.exec_callOutcome h
  | masterpool c now i =>
    obtain ⟨m, hm, rfl⟩ := execMasterpool_eq_ok.mp h
    exact callOutcome_of_call rfl hm
  | token c i =>
    obtain ⟨m, hm, rfl⟩ := execMasterpool_eq_ok.mp h
    exact callOutcome_of_call rfl hm

/-- The masterpool actions of a step: what a successful action calls. -/
def calls (host : Host) (s : System) (a : Action) : List Masterpool.Action :=
  if (a.exec host s).toOption.isSome then a.call.toList else []

theorem calls_of_ok {s s' : System} {a : Action} (h : a.exec host s = .ok s') :
    calls host s a = a.call.toList := by
  rw [calls, h]
  rfl

theorem step_masterpool (s : System) (a : Action) :
    (step host s a).masterpool = Machine.run Masterpool.step s.masterpool (calls host s a) := by
  rcases step_cases s a with ⟨e, he, h⟩ | h
  · rw [h, calls, he]
    rfl
  · have hout := Action.exec_callOutcome h
    rw [calls_of_ok h]
    cases ha : a.call with
    | none => exact hout.uncalled ha
    | some b => exact (Masterpool.step_of_ok (hout.called b ha)).symm

/-- The masterpool actions of a run. -/
def trace (host : Host) (as : List Action) : List Masterpool.Action :=
  Machine.emitted (step host) (calls host) .init as

/-- **Projection**: the masterpool of a run of both programs is reached by masterpool actions. -/
theorem reached_masterpool (as : List Action) :
    (reached host as).masterpool = Masterpool.reached (trace host as) :=
  Machine.run_emitted System.masterpool step_masterpool .init as

end Protocol
