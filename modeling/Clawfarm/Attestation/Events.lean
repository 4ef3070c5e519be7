import Clawfarm.Attestation.Challenge
import Clawfarm.Attestation.Layout

/-!
# Attestation.Events — what the program logs, and what a reader of the log knows

The events of `events.rs`.  `Mirror` is the state of a reader that sees nothing but events: it
accepts an event only if that agrees with what it knows, and then knows what `State.logged` shows
of the accounts.  For each handler, what it emits is accepted and leads to the accounts after it.
-/

namespace Attestation

open Checked

inductive Event
  | ConfigInitialized (authority pauseAuthority challengeResolver masterpoolProgram : Pubkey)
  | ProviderSignerUpserted (signer providerWallet : Pubkey) (attesterTypeMask : UInt8)
  | ProviderSignerRevoked (signer providerWallet : Pubkey)
  | PauseUpdated (isPaused : Bool)
  | ReceiptSubmitted (receipt : Pubkey) (requestNonceHash metadataHash : Bytes32)
      (providerWallet payerUser signer : Pubkey) (receiptHash : Bytes32) (challengeDeadline : ℤ)
  | ReceiptFinalized (receipt signer : Pubkey) (receiptHash : Bytes32)
  | ReceiptClosed (receipt signer : Pubkey) (receiptHash : Bytes32) (status : UInt8)
  | ChallengeOpened (challenge receipt challenger : Pubkey) (challengeType : UInt8)
      (bondAmount : ℕ)
  | ChallengeResolved (challenge receipt challenger : Pubkey)
      (challengeType resolutionCode : UInt8)
  | ChallengeClosed (challenge receipt challenger : Pubkey) (challengeType resolutionCode : UInt8)
  deriving DecidableEq

theorem ChallengeType.toU8_of_tryFrom {value : UInt8} {ty : ChallengeType}
    (h : ChallengeType.tryFrom value = .ok ty) : ty.toU8 = value := by
  unfold ChallengeType.tryFrom at h
  split_ifs at h with h0 h1 h2 h3 h4 <;> obtain rfl := Except.ok.inj h
  · exact h0.symm
  · exact h1.symm
  · exact h2.symm
  · exact h3.symm
  · exact h4.symm

theorem ResolutionCode.toU8_of_tryFrom {value : UInt8} {code : ResolutionCode}
    (h : ResolutionCode.tryFrom value = .ok code) : code.toU8 = value := by
  unfold ResolutionCode.tryFrom at h
  split_ifs at h with h0 h1 h2 h3 h4 <;> obtain rfl := Except.ok.inj h
  · exact h0.symm
  · exact h1.symm
  · exact h2.symm
  · exact h3.symm
  · exact h4.symm

/-! ## What the log shows of the accounts -/

structure ConfigEntry where
  authority : Pubkey
  pauseAuthority : Pubkey
  challengeResolver : Pubkey
  masterpoolProgram : Pubkey
  isPaused : Bool
  deriving DecidableEq

structure SignerEntry where
  attesterTypeMask : UInt8
  status : SignerStatus
  deriving DecidableEq

structure ReceiptEntry where
  receiptHash : Bytes32
  signer : Pubkey
  payerUser : Pubkey
  providerWallet : Pubkey
  challengeDeadline : ℤ
  status : ReceiptStatus
  economicsSettled : Bool
  deriving DecidableEq

structure ChallengeEntry where
  receipt : Pubkey
  challenger : Pubkey
  challengeType : UInt8
  bondAmount : ℕ
  status : ChallengeStatus
  resolutionCode : UInt8
  deriving DecidableEq

def Config.logged (g : Config) : ConfigEntry :=
  ⟨g.authority, g.pauseAuthority, g.challengeResolver, g.masterpoolProgram, g.isPaused⟩

def ProviderSigner.logged (p : ProviderSigner) : SignerEntry := ⟨p.attesterTypeMask, p.status⟩

def Receipt.logged (r : Receipt) : ReceiptEntry :=
  ⟨r.receiptHash, r.signer, r.payerUser, r.providerWallet, r.challengeDeadline, r.status,
    r.economicsSettled⟩

def Challenge.logged (x : Challenge) : ChallengeEntry :=
  ⟨x.receipt, x.challenger, x.challengeType.toU8, x.bondAmount, x.status, x.resolutionCode.toU8⟩

/-- What a reader of the log knows. -/
structure Mirror where
  config : Option ConfigEntry
  providerSigners : Store (Pubkey × Pubkey) SignerEntry
  receipts : Store Pubkey ReceiptEntry
  challenges : Store Pubkey ChallengeEntry

def Mirror.init : Mirror := ⟨none, Store.empty, Store.empty, Store.empty⟩

def State.logged (s : State) : Mirror where
  config := s.config.map Config.logged
  providerSigners := s.providerSigners.map ProviderSigner.logged
  receipts := s.receipts.map Receipt.logged
  challenges := s.challenges.map Challenge.logged

/-! ## Reading an event -/

/-- The entry of a provider signer that a receipt may go through. -/
def SignerEntry.Attests (e : SignerEntry) : Prop :=
  e.status = .Active ∧ e.attesterTypeMask &&& Attestation.attesterTypeMask .Gateway ≠ 0

instance : DecidablePred SignerEntry.Attests := fun _ => inferInstanceAs (Decidable (_ ∧ _))

/-- The receipt is still to be settled: it is submitted, or its challenge has been rejected. -/
def ReceiptEntry.Pending (r : ReceiptEntry) : Prop :=
  r.status = .Submitted ∨ r.status = .Finalized ∧ r.economicsSettled = false

instance : DecidablePred ReceiptEntry.Pending := fun _ => inferInstanceAs (Decidable (_ ∨ _))

/-- What the reader knows after an event; `none` where the event contradicts what it knew. -/
def Mirror.read (m : Mirror) : Event → Option Mirror
  | .ConfigInitialized authority pauseAuthority challengeResolver masterpoolProgram =>
    if m.config = none then
      some { m with
        config := some ⟨authority, pauseAuthority, challengeResolver, masterpoolProgram, false⟩ }
    else none
  | .PauseUpdated isPaused => do
    let config ← m.config
    return { m with config := some { config with isPaused := isPaused } }
  | .ProviderSignerUpserted signer providerWallet mask => do
    let _ ← m.config
    if mask ≠ 0 then
      some { m with
        providerSigners := m.providerSigners.set (providerWallet, signer) ⟨mask, .Active⟩ }
    else none
  | .ProviderSignerRevoked signer providerWallet => do
    let entry ← m.providerSigners.get (providerWallet, signer)
    return { m with
      providerSigners :=
        m.providerSigners.set (providerWallet, signer) { entry with status := .Revoked } }
  | .ReceiptSubmitted receipt requestNonceHash _ providerWallet payerUser signer receiptHash
      challengeDeadline => do
    let config ← m.config
    let entry ← m.providerSigners.get (providerWallet, signer)
    if config.isPaused = false ∧ entry.Attests ∧ receipt = receiptAddress requestNonceHash ∧
        m.receipts.get receipt = none then
      some { m with
        receipts := m.receipts.set receipt
          ⟨receiptHash, signer, payerUser, providerWallet, challengeDeadline, .Submitted, false⟩ }
    else none
  | .ReceiptFinalized receipt signer receiptHash => do
    let r ← m.receipts.get receipt
    if r.signer = signer ∧ r.receiptHash = receiptHash ∧ r.Pending then
      some { m with
        receipts := m.receipts.set receipt
          { r with status := .Finalized, economicsSettled := true } }
    else none
  | .ReceiptClosed receipt signer receiptHash status => do
    let r ← m.receipts.get receipt
    if r.signer = signer ∧ r.receiptHash = receiptHash ∧ r.status.toU8 = status ∧
        r.status.IsTerminal ∧ r.economicsSettled = true then
      some { m with receipts := m.receipts.erase receipt }
    else none
  | .ChallengeOpened challenge receipt challenger challengeType bondAmount => do
    let r ← m.receipts.get receipt
    if challenge = challengeAddress receipt ∧ m.challenges.get challenge = none ∧
        r.status = .Submitted then
      some { m with
        receipts := m.receipts.set receipt { r with status := .Challenged }
        challenges := m.challenges.set challenge
          ⟨receipt, challenger, challengeType, bondAmount, .Open, ResolutionCode.None.toU8⟩ }
    else none
  | .ChallengeResolved challenge receipt challenger challengeType resolutionCode => do
    let r ← m.receipts.get receipt
    let x ← m.challenges.get challenge
    let code ← (ResolutionCode.tryFrom resolutionCode).toOption
    let (challengeStatus, receiptStatus, settled) ← code.outcome
    if x.receipt = receipt ∧ x.challenger = challenger ∧ x.challengeType = challengeType ∧
        x.status = .Open then
      some { m with
        receipts := m.receipts.set receipt
          { r with status := receiptStatus, economicsSettled := settled }
        challenges := m.challenges.set challenge
          { x with status := challengeStatus, resolutionCode := resolutionCode } }
    else none
  | .ChallengeClosed challenge receipt challenger challengeType resolutionCode => do
    let x ← m.challenges.get challenge
    if x.receipt = receipt ∧ x.challenger = challenger ∧ x.challengeType = challengeType ∧
        x.resolutionCode = resolutionCode ∧ x.status ≠ .Open then
      some { m with challenges := m.challenges.erase challenge }
    else none

/-! ## What the handlers emit is accepted -/

section Handlers

variable {c : Signers} {now : ℤ} {s s' : System}

theorem logged_config {g : Config} (h : s.attestation.config = some g) :
    s.attestation.logged.config = some g.logged := congrArg (Option.map Config.logged) h

theorem logged_signer {e : Pubkey × Pubkey} {p : ProviderSigner}
    (h : s.attestation.providerSigners.get e = some p) :
    s.attestation.logged.providerSigners.get e = some p.logged :=
  congrArg (Option.map ProviderSigner.logged) h

theorem logged_receipt {k : Pubkey} {r : Receipt} (h : s.attestation.receipts.get k = some r) :
    s.attestation.logged.receipts.get k = some r.logged := congrArg (Option.map Receipt.logged) h

theorem logged_challenge {k : Pubkey} {x : Challenge}
    (h : s.attestation.challenges.get k = some x) :
    s.attestation.logged.challenges.get k = some x.logged :=
  congrArg (Option.map Challenge.logged) h

theorem initializeConfig_logged {ctx : InitializeConfig} {args : InitializeConfigArgs}
    (h : initializeConfig c ctx args s = .ok s') :
    s.attestation.logged.read (.ConfigInitialized args.authority args.pauseAuthority
      args.challengeResolver args.masterpoolProgram) = some s'.attestation.logged := by
  obtain ⟨g, hinit, rfl⟩ := initializeConfig_ok h
  have hconfig : s.attestation.logged.config = none :=
    congrArg (Option.map Config.logged) hinit.fresh
  rw [Mirror.read, if_pos hconfig, hinit.bound]
  rfl

theorem setPause_logged {ctx : SetPause} {isPaused : Bool}
    (h : setPause c ctx isPaused s = .ok s') :
    s.attestation.logged.read (.PauseUpdated isPaused) = some s'.attestation.logged := by
  obtain ⟨g, hset, rfl⟩ := setPause_ok h
  rw [Mirror.read, logged_config hset.config]
  rfl

theorem upsertProviderSigner_logged {ctx : UpsertProviderSigner}
    {args : UpsertProviderSignerArgs} (h : upsertProviderSigner c ctx args s = .ok s') :
    s.attestation.logged.read (.ProviderSignerUpserted args.signer args.providerWallet
      args.attesterTypeMask) = some s'.attestation.logged := by
  obtain ⟨g, p, hup, rfl⟩ := upsertProviderSigner_ok h
  rw [Mirror.read, logged_config hup.config]
  simp only [Option.bind_eq_bind, Option.bind_some]
  rw [if_pos hup.mask, ← logged_config hup.config, State.logged, State.logged, Store.map_set,
    hup.entry]
  rfl

theorem revokeProviderSigner_logged {ctx : RevokeProviderSigner} {signer wallet : Pubkey}
    (h : revokeProviderSigner c ctx signer wallet s = .ok s') :
    s.attestation.logged.read (.ProviderSignerRevoked signer wallet) =
      some s'.attestation.logged := by
  obtain ⟨g, p, hrev, rfl⟩ := revokeProviderSigner_ok h
  rw [Mirror.read, logged_signer hrev.entry, State.logged, State.logged, Store.map_set]
  rfl

/-- A submission needs a program that is not paused and an active signer of the gateway. -/
theorem submitReceipt_logged {host : Host} {sysvar : InstructionsSysvar} {ctx : SubmitReceipt}
    {args : SubmitReceiptArgs} (h : submitReceipt host c now sysvar ctx args s = .ok s') :
    ∃ p r, s.attestation.providerSigners.get ctx.providerSigner = some p ∧
      s'.attestation.receipts.get (receiptAddress args.requestNonceHash) = some r ∧
      s.attestation.logged.read (.ReceiptSubmitted (receiptAddress args.requestNonceHash)
        args.requestNonceHash args.metadataHash p.providerWallet ctx.payerUser r.signer
        args.receiptHash r.challengeDeadline) = some s'.attestation.logged := by
  obtain ⟨g, e, p, m, hpass, rfl⟩ := submitReceipt_iff.mp h
  refine ⟨e, _, hpass.entry, Store.get_set_self _ _ _, ?_⟩
  have hentry := logged_signer hpass.entry
  rw [hpass.key] at hentry
  have hnone : s.attestation.logged.receipts.get (receiptAddress args.requestNonceHash) = none :=
    congrArg (Option.map Receipt.logged) hpass.fresh
  have hpending : e.logged.Attests := ⟨hpass.active, hpass.gateway⟩
  rw [Mirror.read, logged_config hpass.config]
  simp only [Option.bind_eq_bind, Option.bind_some]
  rw [submitted, hentry, Option.bind_some, if_pos ⟨hpass.running, hpending, trivial, hnone⟩,
    ← logged_config hpass.config, State.logged, State.logged, Store.map_set]
  rfl

theorem finalizeReceipt_logged {ctx : FinalizeReceipt}
    (h : finalizeReceipt c now ctx s = .ok s') :
    ∃ r', s'.attestation.receipts.get ctx.receipt = some r' ∧
      s.attestation.logged.read (.ReceiptFinalized ctx.receipt r'.signer r'.receiptHash) =
        some s'.attestation.logged := by
  simp only [finalizeReceipt, bind_eq_ok, loadAsAuthority_eq_ok, requireMasterpool_eq_ok,
    load_eq_ok, invoke_eq_ok, pure_eq_ok] at h
  obtain ⟨g, -, r, hr, -, -, r', hr', m, -, rfl⟩ := h
  refine ⟨_, Store.get_set_self _ _ _, ?_⟩
  rw [Mirror.read, logged_receipt hr]
  simp only [Option.bind_eq_bind, Option.bind_some]
  unfold finalizeStatus at hr'
  split at hr'
  · rename_i hst
    simp only [bind_eq_ok, ensure_eq_ok, exists_unit, pure_eq_ok] at hr'
    obtain ⟨-, rfl⟩ := hr'
    rw [if_pos ⟨rfl, rfl, Or.inl hst⟩, State.logged, State.logged, Store.map_set]
    rfl
  · rename_i hst
    simp only [bind_eq_ok, ensure_eq_ok, exists_unit, pure_eq_ok] at hr'
    obtain ⟨hset, rfl⟩ := hr'
    rw [if_pos ⟨rfl, rfl, Or.inr ⟨hst, hset⟩⟩, State.logged, State.logged, Store.map_set]
    simp only [Receipt.logged, hst]
  · cases hr'

theorem closeReceipt_logged {ctx : CloseReceipt} (h : closeReceipt c ctx s = .ok s') :
    ∃ r, s.attestation.receipts.get ctx.receipt = some r ∧
      s.attestation.logged.read (.ReceiptClosed ctx.receipt r.signer r.receiptHash r.status.toU8) =
        some s'.attestation.logged := by
  obtain ⟨r, hr, rfl⟩ := closeReceipt_ok h
  refine ⟨r, hr.receipt, ?_⟩
  rw [Mirror.read, logged_receipt hr.receipt]
  simp only [Option.bind_eq_bind, Option.bind_some]
  rw [if_pos ⟨rfl, rfl, rfl, hr.terminal, hr.settled⟩, State.logged, State.logged, Store.map_erase]

theorem openChallenge_logged {ctx : OpenChallenge} {challengeType : UInt8}
    {evidenceHash : Bytes32} (h : openChallenge c now ctx challengeType evidenceHash s = .ok s') :
    ∃ x, s'.attestation.challenges.get (challengeAddress ctx.receipt) = some x ∧
      s.attestation.logged.read (.ChallengeOpened (challengeAddress ctx.receipt) ctx.receipt
        ctx.challenger challengeType x.bondAmount) = some s'.attestation.logged := by
  obtain ⟨g, r, q, ty, m, hpass, rfl⟩ := openChallenge_iff.mp h
  refine ⟨_, Store.get_set_self _ _ _, ?_⟩
  have hnone : s.attestation.logged.challenges.get (challengeAddress ctx.receipt) = none :=
    congrArg (Option.map Challenge.logged) hpass.fresh
  rw [Mirror.read, logged_receipt hpass.receipt]
  simp only [Option.bind_eq_bind, Option.bind_some]
  rw [if_pos ⟨trivial, hnone, hpass.submitted⟩, State.logged, State.logged, Store.map_set,
    Store.map_set, ← ChallengeType.toU8_of_tryFrom hpass.type]
  rfl

theorem resolved_logged {accounts : ChallengeAccounts} {code : ResolutionCode} {value : UInt8}
    {r : Receipt} {x : Challenge} {cs : ChallengeStatus} {rs : ReceiptStatus} {settled : Bool}
    {m : Masterpool.State} (hcode : ResolutionCode.tryFrom value = .ok code)
    (h : Resolves c now accounts code s r x cs rs settled m) :
    s.attestation.logged.read (.ChallengeResolved accounts.challenge accounts.receipt x.challenger
      x.challengeType.toU8 value) =
        some (resolved now accounts code s r x cs rs settled m).attestation.logged := by
  rw [Mirror.read, logged_receipt h.receipt, logged_challenge h.challenge, hcode]
  simp only [Option.bind_eq_bind, Option.bind_some, Except.toOption, h.outcome]
  rw [if_pos ⟨h.about, rfl, rfl, h.opened⟩, resolved, State.logged, State.logged, Store.map_set,
    Store.map_set, ← ResolutionCode.toU8_of_tryFrom hcode]
  rfl

theorem closeChallenge_logged {ctx : CloseChallenge} (h : closeChallenge c ctx s = .ok s') :
    ∃ x, s.attestation.challenges.get ctx.challenge = some x ∧
      s.attestation.logged.read (.ChallengeClosed ctx.challenge x.receipt x.challenger
        x.challengeType.toU8 x.resolutionCode.toU8) = some s'.attestation.logged := by
  obtain ⟨x, hx, rfl⟩ := closeChallenge_ok h
  refine ⟨x, hx.challenge, ?_⟩
  rw [Mirror.read, logged_challenge hx.challenge]
  simp only [Option.bind_eq_bind, Option.bind_some]
  rw [if_pos ⟨rfl, rfl, rfl, rfl, hx.resolved⟩, State.logged, State.logged, Store.map_erase]

end Handlers

end Attestation
