import Clawfarm.Attestation.Events
import Clawfarm.Protocol.Agreement

/-!
# Protocol.EventLog — the log tells everything about receipts and challenges

`log` lists the events of a run.  A reader who starts with nothing accepts every one of them and
ends with exactly what the accounts show (`log_replays`): receipts and challenges with their
status, the registered signers, and whether the program is paused.
-/

namespace Protocol

open Attestation
open Masterpool (wallet)

/-- What `emit!` logs in an instruction that leads from `s` to `s'`. -/
def Instruction.logs (s s' : System) : Instruction → Option Attestation.Event
  | .initializeConfig _ args => some (.ConfigInitialized args.authority args.pauseAuthority
      args.challengeResolver args.masterpoolProgram)
  | .upsertProviderSigner _ args =>
    some (.ProviderSignerUpserted args.signer args.providerWallet args.attesterTypeMask)
  | .setPause _ isPaused => some (.PauseUpdated isPaused)
  | .revokeProviderSigner _ signer providerWallet =>
    some (.ProviderSignerRevoked signer providerWallet)
  | .submitReceipt _ ctx args => do
    let providerSigner ← s.attestation.providerSigners.get ctx.providerSigner
    let receipt ← s'.attestation.receipts.get (receiptAddress args.requestNonceHash)
    return .ReceiptSubmitted (receiptAddress args.requestNonceHash) args.requestNonceHash
      args.metadataHash providerSigner.providerWallet ctx.payerUser receipt.signer args.receiptHash
      receipt.challengeDeadline
  | .openChallenge ctx challengeType _ => do
    let challenge ← s'.attestation.challenges.get (challengeAddress ctx.receipt)
    return .ChallengeOpened (challengeAddress ctx.receipt) ctx.receipt ctx.challenger challengeType
      challenge.bondAmount
  | .resolveChallenge ctx resolutionCode => do
    let challenge ← s.attestation.challenges.get ctx.accounts.challenge
    return .ChallengeResolved ctx.accounts.challenge ctx.accounts.receipt challenge.challenger
      challenge.challengeType.toU8 resolutionCode
  | .timeoutRejectChallenge ctx => do
    let challenge ← s.attestation.challenges.get ctx.accounts.challenge
    return .ChallengeResolved ctx.accounts.challenge ctx.accounts.receipt challenge.challenger
      challenge.challengeType.toU8 ResolutionCode.Rejected.toU8
  | .finalizeReceipt ctx => do
    let receipt ← s'.attestation.receipts.get ctx.receipt
    return .ReceiptFinalized ctx.receipt receipt.signer receipt.receiptHash
  | .closeChallenge ctx => do
    let challenge ← s.attestation.challenges.get ctx.challenge
    return .ChallengeClosed ctx.challenge challenge.receipt challenge.challenger
      challenge.challengeType.toU8 challenge.resolutionCode.toU8
  | .closeReceipt ctx => do
    let receipt ← s.attestation.receipts.get ctx.receipt
    return .ReceiptClosed ctx.receipt receipt.signer receipt.receiptHash receipt.status.toU8

/-- The events of a step: a transaction that fails logs nothing. -/
def emits (host : Host) (s : System) (a : Action) : List Attestation.Event :=
  match a with
  | .attestation _ _ i =>
    if (a.exec host s).toOption.isSome then (i.logs s (step host s a)).toList else []
  | _ => []

/-- The events of a run. -/
def log (host : Host) (as : List Action) : List Attestation.Event :=
  Machine.emitted (step host) (emits host) .init as

/-- What a reader knows after reading events from the beginning; `none` if one contradicts the
others. -/
def replay (events : List Attestation.Event) : Option Mirror := events.foldlM Mirror.read .init

variable {host : Host} {s s' : System}

/-- **Step**: an instruction logs one event, which a reader accepts. -/
theorem exec_logged {c : Signers} {now : ℤ} {i : Instruction} (h : exec host c now s i = .ok s') :
    ∃ e, i.logs s s' = some e ∧ s.attestation.logged.read e = some s'.attestation.logged := by
  cases i with
  | initializeConfig ctx args => exact ⟨_, rfl, initializeConfig_logged h⟩
  | upsertProviderSigner ctx args => exact ⟨_, rfl, upsertProviderSigner_logged h⟩
  | setPause ctx b => exact ⟨_, rfl, setPause_logged h⟩
  | revokeProviderSigner ctx k w => exact ⟨_, rfl, revokeProviderSigner_logged h⟩
  | submitReceipt sysvar ctx args =>
    obtain ⟨p, r, hp, hr, hread⟩ := submitReceipt_logged h
    refine ⟨_, ?_, hread⟩
    rw [Instruction.logs, hp, hr]
    rfl
  | openChallenge ctx ty hash =>
    obtain ⟨x, hx, hread⟩ := openChallenge_logged h
    refine ⟨_, ?_, hread⟩
    rw [Instruction.logs, hx]
    rfl
  | resolveChallenge ctx code =>
    obtain ⟨rc, r, x, cs, rs, settled, m, hrc, -, hm, rfl⟩ := resolveChallenge_ok h
    refine ⟨_, ?_, resolved_logged hrc hm⟩
    rw [Instruction.logs, hm.challenge]
    rfl
  | timeoutRejectChallenge ctx =>
    obtain ⟨r, x, cs, rs, settled, m, -, hm, rfl⟩ := timeoutRejectChallenge_ok h
    have hcode : ResolutionCode.tryFrom ResolutionCode.Rejected.toU8 = .ok .Rejected := by decide
    refine ⟨_, ?_, resolved_logged hcode hm⟩
    rw [Instruction.logs, hm.challenge]
    rfl
  | finalizeReceipt ctx =>
    obtain ⟨r', hr', hread⟩ := finalizeReceipt_logged h
    refine ⟨_, ?_, hread⟩
    rw [Instruction.logs, hr']
    rfl
  | closeChallenge ctx =>
    obtain ⟨x, hx, hread⟩ := closeChallenge_logged h
    refine ⟨_, ?_, hread⟩
    rw [Instruction.logs, hx]
    rfl
  | closeReceipt ctx =>
    obtain ⟨r, hr, hread⟩ := closeReceipt_logged h
    refine ⟨_, ?_, hread⟩
    rw [Instruction.logs, hr]
    rfl

theorem step_logged (s : System) (a : Action) :
    (emits host s a).foldlM Mirror.read s.attestation.logged =
      some (step host s a).attestation.logged := by
  rcases step_cases s a with ⟨e, he, h⟩ | h
  · rw [h]
    cases a with
    | attestation c now i => simp [emits, he, Except.toOption]
    | masterpool c now i => rfl
    | token c i => rfl
  · cases a with
    | attestation c now i =>
      obtain ⟨e, hevent, hread⟩ := exec_logged h
      have hemits : emits host s (.attestation c now i) = [e] := by
        simp only [emits, h, hevent]
        rfl
      rw [hemits, List.foldlM_cons, hread]
      rfl
    | masterpool c now i =>
      obtain ⟨m, -, hs'⟩ := execMasterpool_eq_ok.mp h
      rw [hs']
      rfl
    | token c i =>
      obtain ⟨m, -, hs'⟩ := execMasterpool_eq_ok.mp h
      rw [hs']
      rfl

/-- **Event log**: in every run of both programs, a reader of the log accepts each event (it fits
what the events before it said about the receipt, the challenge, the signer and the pause) and
ends with exactly what the accounts show. -/
theorem log_replays (host : Host) (as : List Action) :
    replay (log host as) = some (reached host as).attestation.logged :=
  Machine.foldlM_emitted (fun s : System => s.attestation.logged) step_logged .init as

/-- The log up to the timeout of a challenge. -/
example : (log sampleHost rejection).drop 2 =
    [.ReceiptSubmitted receiptKey (nonce 21) (nonce 22) (wallet 5) (wallet 7) (wallet 4)
      receiptDigest 110,
     .ChallengeOpened (challengeAddress receiptKey) receiptKey (wallet 10) 0 7,
     .ChallengeResolved (challengeAddress receiptKey) receiptKey (wallet 10) 0 2] := by
  decide +kernel

end Protocol
