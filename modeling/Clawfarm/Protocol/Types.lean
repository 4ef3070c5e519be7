import Clawfarm.Masterpool.Types
import Clawfarm.Masterpool.Wf
import Clawfarm.Protocol.Program

/-!
# Protocol.Types — the accounts of both programs stay in their machine types

The attestation program keeps times only, and the bond of a challenge.  Its two windows are
positive, since nothing but the initialization writes them.
-/

namespace Attestation

open Masterpool (IsU64 IsI64)

/-! ## Accounts -/

structure Config.Typed (g : Config) : Prop where
  challengeWindowSeconds : IsI64 g.challengeWindowSeconds ∧ 0 < g.challengeWindowSeconds
  challengeResolutionTimeoutSeconds : IsI64 g.challengeResolutionTimeoutSeconds ∧
    0 < g.challengeResolutionTimeoutSeconds

structure ProviderSigner.Typed (p : ProviderSigner) : Prop where
  validFrom : IsI64 p.validFrom
  validUntil : IsI64 p.validUntil

structure Receipt.Typed (r : Receipt) : Prop where
  submittedAt : IsI64 r.submittedAt
  challengeDeadline : IsI64 r.challengeDeadline
  finalizedAt : IsI64 r.finalizedAt

structure Challenge.Typed (x : Challenge) : Prop where
  bondAmount : IsU64 x.bondAmount
  openedAt : IsI64 x.openedAt
  resolvedAt : IsI64 x.resolvedAt

structure State.Typed (s : State) : Prop where
  config : ∀ g, s.config = some g → g.Typed
  providerSigners : ∀ k p, s.providerSigners.get k = some p → p.Typed
  receipts : ∀ k r, s.receipts.get k = some r → r.Typed
  challenges : ∀ k x, s.challenges.get k = some x → x.Typed

end Attestation

namespace Protocol

open Checked Attestation
open Masterpool (IsU64 IsI64 isI64_toInt isI64_zero)

structure Typed (s : System) : Prop where
  masterpool : Masterpool.Typed s.masterpool
  attestation : s.attestation.Typed

theorem typed_init : Typed .init where
  masterpool := Masterpool.typed_init
  attestation :=
    { config := (fun _ h => nomatch h)
      providerSigners := (fun _ _ h => nomatch h)
      receipts := (fun _ _ h => nomatch h)
      challenges := (fun _ _ h => nomatch h) }

theorem isI64_saturatingAdd (left right : ℤ) : IsI64 (saturatingAdd left right) := by
  unfold IsI64 saturatingAdd saturate i64Min i64Max
  omega

/-! ## Instructions -/

variable {host : Host} {c : Signers} {now : ℤ} {s s' : System}

theorem initializeConfig_typed {ctx : InitializeConfig} {args : InitializeConfigArgs}
    (hs : s.attestation.Typed) (h : initializeConfig c ctx args s = .ok s') :
    s'.attestation.Typed := by
  obtain ⟨g, hinit, rfl⟩ := initializeConfig_ok h
  refine { hs with config := fun g' hg' => ?_ }
  obtain rfl := (Option.some.inj hg').symm.trans hinit.bound
  exact ⟨⟨isI64_toInt _, hinit.windows.1⟩, isI64_toInt _, hinit.windows.2⟩

theorem upsertProviderSigner_typed {ctx : UpsertProviderSigner} {args : UpsertProviderSignerArgs}
    (hs : s.attestation.Typed) (h : upsertProviderSigner c ctx args s = .ok s') :
    s'.attestation.Typed := by
  obtain ⟨g, p, hup, rfl⟩ := upsertProviderSigner_ok h
  refine { hs with providerSigners := Store.forall_set hs.providerSigners (fun _ _ => id) ?_ }
  rw [hup.entry]
  exact ⟨isI64_toInt _, isI64_toInt _⟩

theorem setPause_typed {ctx : SetPause} {isPaused : Bool} (hs : s.attestation.Typed)
    (h : setPause c ctx isPaused s = .ok s') : s'.attestation.Typed := by
  obtain ⟨g, hset, rfl⟩ := setPause_ok h
  refine { hs with config := fun g' hg' => ?_ }
  obtain rfl := Option.some.inj hg'
  exact { hs.config g hset.config with }

theorem revokeProviderSigner_typed {ctx : RevokeProviderSigner} {signer wallet : Pubkey}
    (hs : s.attestation.Typed) (h : revokeProviderSigner c ctx signer wallet s = .ok s') :
    s'.attestation.Typed := by
  obtain ⟨g, p, hrev, rfl⟩ := revokeProviderSigner_ok h
  refine { hs with providerSigners := Store.forall_set hs.providerSigners (fun _ _ => id) ?_ }
  exact { hs.providerSigners _ p hrev.entry with }

theorem submitReceipt_typed {sysvar : InstructionsSysvar} {ctx : SubmitReceipt}
    {args : SubmitReceiptArgs} (hs : s.attestation.Typed) (hnow : IsI64 now)
    (h : submitReceipt host c now sysvar ctx args s = .ok s') : s'.attestation.Typed := by
  obtain ⟨g, e, p, m, -, rfl⟩ := submitReceipt_iff.mp h
  refine { hs with receipts := Store.forall_set hs.receipts (fun _ _ => id) ?_ }
  exact ⟨hnow, isI64_saturatingAdd _ _, isI64_zero⟩

theorem openChallenge_typed {ctx : OpenChallenge} {challengeType : UInt8} {evidenceHash : Bytes32}
    (hs : Typed s) (hnow : IsI64 now)
    (h : openChallenge c now ctx challengeType evidenceHash s = .ok s') :
    s'.attestation.Typed := by
  obtain ⟨g, r, q, ty, m, hpass, rfl⟩ := openChallenge_iff.mp h
  have ha := hs.attestation
  refine { ha with receipts := ?_, challenges := ?_ }
  · exact Store.forall_set ha.receipts (fun _ _ => id) { ha.receipts _ r hpass.receipt with }
  · refine Store.forall_set ha.challenges (fun _ _ => id) ?_
    exact ⟨(hs.masterpool.config q hpass.pool).challengeBondClawAmount, hnow, isI64_zero⟩

theorem resolved_typed {accounts : ChallengeAccounts} {code : ResolutionCode} {r : Receipt}
    {x : Challenge} {cs : ChallengeStatus} {rs : ReceiptStatus} {settled : Bool}
    {m : Masterpool.State} (hs : s.attestation.Typed) (hnow : IsI64 now)
    (h : Resolves c now accounts code s r x cs rs settled m) :
    (resolved now accounts code s r x cs rs settled m).attestation.Typed := by
  refine { hs with receipts := ?_, challenges := ?_ }
  · refine Store.forall_set hs.receipts (fun _ _ => id) ?_
    exact { hs.receipts _ r h.receipt with finalizedAt := hnow }
  · refine Store.forall_set hs.challenges (fun _ _ => id) ?_
    exact { hs.challenges _ x h.challenge with resolvedAt := hnow }

theorem finalizeStatus_typed {r r' : Receipt} (hr : r.Typed) (hnow : IsI64 now)
    (h : finalizeStatus now r = .ok r') : r'.Typed := by
  unfold finalizeStatus at h
  split at h
  · simp only [bind_eq_ok, Attestation.ensure_eq_ok, exists_unit, pure_eq_ok] at h
    obtain ⟨-, rfl⟩ := h
    exact { hr with finalizedAt := hnow }
  · simp only [bind_eq_ok, Attestation.ensure_eq_ok, exists_unit, pure_eq_ok] at h
    obtain ⟨-, rfl⟩ := h
    exact hr
  · cases h

theorem finalizeReceipt_typed {ctx : FinalizeReceipt} (hs : s.attestation.Typed)
    (hnow : IsI64 now) (h : finalizeReceipt c now ctx s = .ok s') : s'.attestation.Typed := by
  simp only [finalizeReceipt, bind_eq_ok, loadAsAuthority_eq_ok, requireMasterpool_eq_ok,
    load_eq_ok, invoke_eq_ok, pure_eq_ok] at h
  obtain ⟨g, -, r, hr, -, -, r', hr', m, -, rfl⟩ := h
  refine { hs with receipts := Store.forall_set hs.receipts (fun _ _ => id) ?_ }
  exact { finalizeStatus_typed (hs.receipts _ r hr) hnow hr' with }

theorem exec_typed {i : Instruction} (hs : Typed s) (hnow : IsI64 now)
    (h : exec host c now s i = .ok s') : s'.attestation.Typed := by
  have ha := hs.attestation
  cases i with
  | initializeConfig ctx args => exact initializeConfig_typed ha h
  | upsertProviderSigner ctx args => exact upsertProviderSigner_typed ha h
  | setPause ctx b => exact setPause_typed ha h
  | revokeProviderSigner ctx k w => exact revokeProviderSigner_typed ha h
  | submitReceipt sysvar ctx args => exact submitReceipt_typed ha hnow h
  | openChallenge ctx ty hash => exact openChallenge_typed hs hnow h
  | resolveChallenge ctx code =>
    obtain ⟨rc, r, x, cs, rs, settled, m, -, -, hm, rfl⟩ := resolveChallenge_ok h
    exact resolved_typed ha hnow hm
  | timeoutRejectChallenge ctx =>
    obtain ⟨r, x, cs, rs, settled, m, -, hm, rfl⟩ := timeoutRejectChallenge_ok h
    exact resolved_typed ha hnow hm
  | finalizeReceipt ctx => exact finalizeReceipt_typed ha hnow h
  | closeChallenge ctx =>
    obtain ⟨x, -, rfl⟩ := closeChallenge_ok h
    exact { ha with challenges := fun k y hy => ha.challenges k y (Store.get_erase_some hy).2 }
  | closeReceipt ctx =>
    obtain ⟨r, -, rfl⟩ := closeReceipt_ok h
    exact { ha with receipts := fun k y hy => ha.receipts k y (Store.get_erase_some hy).2 }

/-! ## Runs -/

theorem step_typed (hs : Typed s) (a : Action) : Typed (step host s a) := by
  refine ⟨?_, ?_⟩
  · rw [step_masterpool]
    exact Machine.run_induction (P := Masterpool.Typed) (fun _ b h => Masterpool.step_typed h b)
      hs.masterpool _
  · rcases @step_cases host s a with ⟨-, -, h⟩ | h
    · rw [h]
      exact hs.attestation
    · cases a with
      | attestation c now i => exact exec_typed hs (isI64_toInt now) h
      | masterpool c now i =>
        obtain ⟨m, -, hm⟩ := execMasterpool_eq_ok.mp h
        rw [hm]
        exact hs.attestation
      | token c i =>
        obtain ⟨m, -, hm⟩ := execMasterpool_eq_ok.mp h
        rw [hm]
        exact hs.attestation

theorem reached_typed (as : List Action) : Typed (reached host as) :=
  Machine.run_induction (P := Typed) (fun _ a h => step_typed h a) typed_init as

/-- **Machine types**: in every run of the two programs, every number in every account of either,
and every balance and supply, is one that its field can hold; and the two windows of the
attestation config are positive. -/
theorem accounts_typed (host : Host) (as : List Action) :
    Typed (reached host as) ∧ (∀ k, IsU64 ((reached host as).masterpool.tokens.amount k)) ∧
      ∀ m, IsU64 ((reached host as).masterpool.tokens.supply m) := by
  have hb : Token.Balanced (reached host as).masterpool.tokens := by
    rw [reached_masterpool]
    exact (Masterpool.reached_wf _).sound.balanced
  exact ⟨reached_typed as, hb.amount_lt, hb.fits⟩

end Protocol
