import Clawfarm.Lib.Agree
import Clawfarm.Lib.Machine
import Clawfarm.Masterpool.Challenge
import Clawfarm.Masterpool.Config
import Clawfarm.Masterpool.Faucet
import Clawfarm.Masterpool.Provider
import Clawfarm.Masterpool.Receipt
import Clawfarm.Masterpool.Reward

/-!
# Masterpool.Program — the instructions of the program and its runs

An action is a call of the masterpool program at a clock value, or an instruction that somebody
sends to the token program directly.  A failed transaction leaves the state as it was.
-/

namespace Masterpool

open Token Checked

inductive Instruction
  | initializeMasterpool (ctx : InitializeMasterpool) (params : Phase1ConfigParams)
  | mintGenesisSupply (ctx : MintGenesisSupply)
  | updateConfig (ctx : UpdateConfig) (params : Phase1ConfigParams)
  | setPauseFlags (ctx : SetPauseFlags) (pauseReceiptRecording pauseChallengeProcessing
      pauseFinalization pauseClaims : Bool)
  | initializeFaucet (ctx : InitializeFaucet)
  | setFaucetEnabled (ctx : SetFaucetEnabled) (enabled : Bool)
  | updateFaucetLimits (ctx : UpdateFaucetLimits) (limits : FaucetLimits)
  | fundFaucetClaw (ctx : FundFaucetClaw) (amount : UInt64)
  | claimFaucet (ctx : ClaimFaucet) (args : FaucetClaimArgs)
  | registerProvider (ctx : RegisterProvider)
  | exitProvider (ctx : ExitProvider)
  | materializeRewardRelease (ctx : MaterializeRewardRelease) (target : UInt8) (amount : UInt64)
  | claimReleasedClaw (ctx : ClaimReleasedClaw)
  | recordMiningFromReceipt (ctx : RecordMiningFromReceipt) (totalUsdcPaid : UInt64)
  | settleFinalizedReceipt (ctx : SettleFinalizedReceipt) (attestationReceiptStatus : UInt8)
  | recordChallengeBond (ctx : RecordChallengeBond)
  | resolveChallengeEconomics (ctx : ResolveChallengeEconomics) (resolutionCode : UInt8)

def exec (c : Caller MASTERPOOL_ID) (now : ℤ) (s : State) : Instruction → Result State
  | .initializeMasterpool ctx params => initializeMasterpool c now ctx params s
  | .mintGenesisSupply ctx => mintGenesisSupply c now ctx s
  | .updateConfig ctx params => updateConfig c now ctx params s
  | .setPauseFlags ctx receipts challenges finalization claims =>
    setPauseFlags c now ctx receipts challenges finalization claims s
  | .initializeFaucet ctx => initializeFaucet c now ctx s
  | .setFaucetEnabled ctx enabled => setFaucetEnabled c now ctx enabled s
  | .updateFaucetLimits ctx limits => updateFaucetLimits c now ctx limits s
  | .fundFaucetClaw ctx amount => fundFaucetClaw c now ctx amount.toNat s
  | .claimFaucet ctx args => claimFaucet c now ctx args.clawAmount.toNat args.usdcAmount.toNat s
  | .registerProvider ctx => registerProvider c now ctx s
  | .exitProvider ctx => exitProvider c now ctx s
  | .materializeRewardRelease ctx target amount =>
    materializeRewardRelease c now ctx target.toNat amount.toNat s
  | .claimReleasedClaw ctx => claimReleasedClaw c now ctx s
  | .recordMiningFromReceipt ctx totalUsdcPaid =>
    recordMiningFromReceipt c now ctx totalUsdcPaid.toNat s
  | .settleFinalizedReceipt ctx status => settleFinalizedReceipt c now ctx status.toNat s
  | .recordChallengeBond ctx => recordChallengeBond c now ctx s
  | .resolveChallengeEconomics ctx code => resolveChallengeEconomics c now ctx code.toNat s

inductive Action
  | call (c : Caller MASTERPOOL_ID) (now : Int64) (i : Instruction)
  | token (c : Caller MASTERPOOL_ID) (i : Token.Instruction Pubkey)

def Action.exec (s : State) : Action → Result State
  | .call c now i => Masterpool.exec c now.toInt s i
  | .token c i => do
    let tokens ← cpi (Token.exec (· ∈ c.signers) s.tokens i)
    return { s with tokens := tokens }

def step (s : State) (a : Action) : State :=
  match a.exec s with
  | .ok s' => s'
  | .error _ => s

/-- The state after the actions `as`, from the moment the program is deployed. -/
def reached (as : List Action) : State := Machine.run step .init as

theorem reached_append (as bs : List Action) :
    reached (as ++ bs) = Machine.run step (reached as) bs := Machine.run_append _ _ _

theorem reached_concat (as : List Action) (a : Action) :
    reached (as ++ [a]) = step (reached as) a := Machine.run_concat _ _ _

theorem step_of_ok {s s' : State} {a : Action} (h : a.exec s = .ok s') : step s a = s' := by
  simp only [step, h]

theorem step_cases (s : State) (a : Action) :
    (∃ e, a.exec s = .error e ∧ step s a = s) ∨ a.exec s = .ok (step s a) := by
  cases h : a.exec s with
  | error e => exact Or.inl ⟨e, rfl, by simp only [step, h]⟩
  | ok s' => exact Or.inr (by rw [step_of_ok h])

/-- Steps that agree keep a relation between two states. -/
theorem step_related {R : State → State → Prop} {s s' : State} {a a' : Action} (hR : R s s')
    (h : Agree R (a.exec s) (a'.exec s')) : R (step s a) (step s' a') := by
  cases hs : a.exec s with
  | error e =>
    simp only [step, hs, (h.error_iff e).mp hs]
    exact hR
  | ok t =>
    obtain ⟨t', hs', ht⟩ := h.of_ok hs
    rwa [step_of_ok hs, step_of_ok hs']

/-- The state after actions that all succeed. -/
def execAll (s : State) (as : List Action) : Result State := as.foldlM Action.exec s

theorem execAll_nil {s s' : State} : execAll s [] = .ok s' ↔ s = s' := pure_eq_ok

theorem execAll_cons {s s' : State} {a : Action} {as : List Action} :
    execAll s (a :: as) = .ok s' ↔ ∃ t, a.exec s = .ok t ∧ execAll t as = .ok s' := bind_eq_ok

theorem execAll_append {s s' : State} {as bs : List Action} :
    execAll s (as ++ bs) = .ok s' ↔ ∃ t, execAll s as = .ok t ∧ execAll t bs = .ok s' := by
  rw [execAll, List.foldlM_append]
  exact bind_eq_ok

/-! ## The economy beside its administration -/

/-- The instructions about providers, receipts, challenges and rewards. -/
def Instruction.IsEconomic : Instruction → Prop
  | .registerProvider _ => True
  | .exitProvider _ => True
  | .materializeRewardRelease .. => True
  | .claimReleasedClaw _ => True
  | .recordMiningFromReceipt .. => True
  | .settleFinalizedReceipt .. => True
  | .recordChallengeBond _ => True
  | .resolveChallengeEconomics .. => True
  | _ => False

/-- The config and the faucet are the same. -/
structure SameAdministration (s s' : State) : Prop where
  config : s'.config = s.config
  faucetConfig : s'.faucetConfig = s.faucetConfig
  faucetGlobalState : s'.faucetGlobalState = s.faucetGlobalState
  faucetUserStates : s'.faucetUserStates = s.faucetUserStates

theorem exec_economic {c : Caller MASTERPOOL_ID} {now : ℤ} {s s' : State} {i : Instruction}
    (hi : i.IsEconomic) (h : exec c now s i = .ok s') : SameAdministration s s' := by
  cases i with
  | registerProvider ctx =>
    obtain ⟨-, -, -, rfl⟩ := registerProvider_ok h
    exact ⟨rfl, rfl, rfl, rfl⟩
  | exitProvider ctx =>
    obtain ⟨-, -, -, -, rfl⟩ := exitProvider_ok h
    exact ⟨rfl, rfl, rfl, rfl⟩
  | materializeRewardRelease ctx _ _ =>
    obtain ⟨-, -, -, -, -, rfl⟩ := materializeRewardRelease_ok h
    exact ⟨rfl, rfl, rfl, rfl⟩
  | claimReleasedClaw ctx =>
    obtain ⟨-, -, -, -, rfl⟩ := claimReleasedClaw_ok h
    exact ⟨rfl, rfl, rfl, rfl⟩
  | recordMiningFromReceipt ctx _ =>
    obtain ⟨-, -, -, -, -, -, -, -, -, rfl⟩ := recordMiningFromReceipt_ok h
    exact ⟨rfl, rfl, rfl, rfl⟩
  | settleFinalizedReceipt ctx _ =>
    obtain ⟨-, -, -, -, -, -, -, rfl⟩ := settleFinalizedReceipt_ok.mp h
    exact ⟨rfl, rfl, rfl, rfl⟩
  | recordChallengeBond ctx =>
    obtain ⟨-, -, -, -, -, -, rfl⟩ := recordChallengeBond_ok h
    exact ⟨rfl, rfl, rfl, rfl⟩
  | resolveChallengeEconomics ctx _ =>
    obtain ⟨-, -, -, -, -, -, -, -, -, -, rfl⟩ := resolveChallengeEconomics_iff.mp h
    exact ⟨rfl, rfl, rfl, rfl⟩
  | _ => exact hi.elim

end Masterpool
