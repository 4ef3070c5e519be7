import Clawfarm.Masterpool.Program

/-!
# Attestation.State — accounts, errors and data of the attestation program

The attestation program keeps receipts and challenges and calls the masterpool program for their
economics, so its handlers work on a `System` of both states.  Receipts and challenges are stored
under their addresses, which are derived from a request nonce and from a receipt.
-/

namespace Attestation

open Checked

/-! ## Errors -/

inductive ErrorCode
  | ProgramPaused
  | InvalidTokenTotals
  | SignerInactive
  | SignerNotYetValid
  | SignerExpired
  | SignerMismatch
  | ReceiptIdentityMismatch
  | SignerAttesterTypeMismatch
  | ChallengeWindowClosed
  | ReceiptNotChallengeable
  | ReceiptNonceMismatch
  | ChallengeNotResolvable
  | ChallengeResolutionInvalid
  | ChallengeTypeInvalid
  | ReceiptNotFinalizable
  | ChallengeWindowOpen
  | InvalidAttesterTypeMask
  | InvalidValidityWindow
  | InvalidWindow
  | ChallengeResolutionTimeoutOpen
  | InvalidAuthority
  | InvalidPauseAuthority
  | InvalidChallengeResolver
  | InvalidMasterpoolProgram
  | InvalidSigner
  | InvalidProviderWallet
  | InvalidProgramData
  | UnauthorizedInitializer
  | ReceiptHashMismatch
  | MissingEd25519Instruction
  | Ed25519InstructionMismatch
  | ReceiptNotClosable
  | ChallengeNotClosable
  | ReceiptEconomicsPending
  | ReceiptAlreadySettled
  | MathOverflow
  deriving DecidableEq, Repr

/-- An error code of the program, or an error of a call of the masterpool program. -/
inductive Failure
  | code (e : ErrorCode)
  | masterpool (e : ProgramError Masterpool.ErrorCode)
  deriving DecidableEq

abbrev Result (α : Type) := Except (ProgramError Failure) α

def ensure (p : Prop) [Decidable p] (e : ErrorCode) : Result Unit := require p (.custom (.code e))

@[simp] theorem ensure_eq_ok {p : Prop} [Decidable p] {e : ErrorCode} {u : Unit} :
    ensure p e = .ok u ↔ p := require_eq_ok

/-! ## Instruction data -/

structure SubmitReceiptArgs where
  requestNonceHash : Bytes32
  metadataHash : Bytes32
  promptTokens : UInt64
  completionTokens : UInt64
  chargeAtomic : UInt64
  receiptHash : Bytes32
  deriving DecidableEq

inductive AttesterType
  | Provider
  | Gateway
  | Hybrid
  deriving DecidableEq, Repr

inductive SignerStatus
  | Inactive
  | Active
  | Revoked
  deriving DecidableEq, Repr

inductive ReceiptStatus
  | Submitted
  | Challenged
  | Finalized
  | Rejected
  | Slashed
  deriving DecidableEq, Repr

inductive ChallengeStatus
  | Open
  | Accepted
  | Rejected
  deriving DecidableEq, Repr

inductive ChallengeType
  | InvalidSignature
  | SignerRegistryMismatch
  | ReplayNonce
  | InvalidLogInclusion
  | PayloadMismatch
  deriving DecidableEq, Repr

def ChallengeType.tryFrom (value : UInt8) : Result ChallengeType :=
  if value = 0 then .ok .InvalidSignature
  else if value = 1 then .ok .SignerRegistryMismatch
  else if value = 2 then .ok .ReplayNonce
  else if value = 3 then .ok .InvalidLogInclusion
  else if value = 4 then .ok .PayloadMismatch
  else .error (.custom (.code .ChallengeTypeInvalid))

inductive ResolutionCode
  | None
  | Accepted
  | Rejected
  | ReceiptInvalidated
  | SignerRevoked
  deriving DecidableEq, Repr

def ResolutionCode.tryFrom (value : UInt8) : Result ResolutionCode :=
  if value = 0 then .ok .None
  else if value = 1 then .ok .Accepted
  else if value = 2 then .ok .Rejected
  else if value = 3 then .ok .ReceiptInvalidated
  else if value = 4 then .ok .SignerRevoked
  else .error (.custom (.code .ChallengeResolutionInvalid))

/-- `as u8` -/
def AttesterType.toU8 : AttesterType → UInt8
  | .Provider => 0
  | .Gateway => 1
  | .Hybrid => 2

/-- `as u8` -/
def ReceiptStatus.toU8 : ReceiptStatus → UInt8
  | .Submitted => 0
  | .Challenged => 1
  | .Finalized => 2
  | .Rejected => 3
  | .Slashed => 4

/-- `as u8` -/
def ResolutionCode.toU8 : ResolutionCode → UInt8
  | .None => 0
  | .Accepted => 1
  | .Rejected => 2
  | .ReceiptInvalidated => 3
  | .SignerRevoked => 4

/-! ## Accounts -/

structure Config where
  authority : Pubkey
  pauseAuthority : Pubkey
  challengeResolver : Pubkey
  masterpoolProgram : Pubkey
  challengeWindowSeconds : ℤ
  challengeResolutionTimeoutSeconds : ℤ
  isPaused : Bool
  deriving DecidableEq

structure ProviderSigner where
  signer : Pubkey
  providerWallet : Pubkey
  attesterTypeMask : UInt8
  status : SignerStatus
  validFrom : ℤ
  validUntil : ℤ
  deriving DecidableEq

structure Receipt where
  receiptHash : Bytes32
  signer : Pubkey
  payerUser : Pubkey
  providerWallet : Pubkey
  submittedAt : ℤ
  challengeDeadline : ℤ
  finalizedAt : ℤ
  status : ReceiptStatus
  economicsSettled : Bool
  deriving DecidableEq

structure Challenge where
  receipt : Pubkey
  challenger : Pubkey
  challengeType : ChallengeType
  evidenceHash : Bytes32
  bondAmount : ℕ
  openedAt : ℤ
  resolvedAt : ℤ
  status : ChallengeStatus
  resolutionCode : ResolutionCode
  deriving DecidableEq

structure State where
  config : Option Config
  providerSigners : Store (Pubkey × Pubkey) ProviderSigner
  receipts : Store Pubkey Receipt
  challenges : Store Pubkey Challenge

def State.init : State := ⟨none, Store.empty, Store.empty, Store.empty⟩

def configAddress : Pubkey := .pda ATTESTATION_ID .CONFIG_SEED

def receiptAddress (requestNonceHash : Bytes32) : Pubkey :=
  .pdaOf ATTESTATION_ID .RECEIPT_SEED (.key requestNonceHash)

def challengeAddress (receipt : Pubkey) : Pubkey := .pdaOf ATTESTATION_ID .CHALLENGE_SEED receipt

theorem challengeAddress_inj {r r' : Pubkey} (h : challengeAddress r = challengeAddress r') :
    r = r' := (Pubkey.pdaOf.inj h).2.2

/-! ## The system of both programs -/

structure System where
  masterpool : Masterpool.State
  attestation : State

def System.init : System := ⟨.init, .init⟩

/-- The keys that sign a transaction: nobody signs for an address derived from one of the two
programs. -/
structure Signers where
  keys : List Pubkey
  foreign : ∀ k ∈ keys, ¬ Pubkey.IsDerived MASTERPOOL_ID k ∧ ¬ Pubkey.IsDerived ATTESTATION_ID k

/-- The transaction calls the masterpool program. -/
def Signers.direct (c : Signers) : Caller MASTERPOOL_ID := ⟨c.keys, fun k hk => (c.foreign k hk).1⟩

/-- The attestation program calls the masterpool program and signs for its config
(`CpiContext::new_with_signer` with the seeds of the config). -/
def Signers.withConfig (c : Signers) : Caller MASTERPOOL_ID where
  signers := configAddress :: c.keys
  foreign k hk := by
    rcases List.mem_cons.mp hk with rfl | hk
    · exact fun h => masterpool_ne_attestation h.symm
    · exact (c.foreign k hk).1

def Signers.sign (c : Signers) (k : Pubkey) : Result Unit :=
  constraint (k ∈ c.keys) .AccountNotSigner

@[simp] theorem sign_eq_ok {c : Signers} {k : Pubkey} {u : Unit} :
    c.sign k = .ok u ↔ k ∈ c.keys := constraint_eq_ok

/-- The account info of the config in a call of the masterpool program. -/
def configInfo : AccountInfo := ⟨configAddress, ATTESTATION_ID⟩

/-- A call of the masterpool program. -/
def invoke (c : Signers) (now : ℤ) (i : Masterpool.Instruction) (s : Masterpool.State) :
    Result Masterpool.State :=
  (Masterpool.exec c.withConfig now s i).mapError fun e => .custom (.masterpool e)

@[simp] theorem invoke_eq_ok {c : Signers} {now : ℤ} {i : Masterpool.Instruction}
    {s s' : Masterpool.State} :
    invoke c now i s = .ok s' ↔ Masterpool.exec c.withConfig now s i = .ok s' := mapError_eq_ok

end Attestation
