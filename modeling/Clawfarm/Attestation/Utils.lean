import Clawfarm.Attestation.State

/-!
# Attestation.Utils — the receipt hash and the signature instruction

The hash function and the bytes of derived addresses come from outside the program and are the
parameter `Host`.
-/

namespace Attestation

open Checked

/-- SHA-256, and the bytes of an address that is not an ordinary key. -/
structure Host where
  hash : List UInt8 → Bytes32
  derived : Pubkey → Bytes32

/-- `as_ref` -/
def Host.bytes (host : Host) : Pubkey → List UInt8
  | .key b => b.bytes
  | k => (host.derived k).bytes

/-- The ASCII bytes of `clawfarm:receipt:v2`. -/
def COMPACT_RECEIPT_DOMAIN_SEPARATOR : List UInt8 :=
  [99, 108, 97, 119, 102, 97, 114, 109, 58, 114, 101, 99, 101, 105, 112, 116, 58, 118, 50]

structure CompactReceiptHashInputs where
  requestNonceHash : Bytes32
  metadataHash : Bytes32
  providerWallet : Pubkey
  payerUser : Pubkey
  usdcMint : Pubkey
  promptTokens : UInt64
  completionTokens : UInt64
  chargeAtomic : UInt64

def validateSubmitReceiptArgs (args : SubmitReceiptArgs) : Result Unit :=
  ensure (args.promptTokens.toNat + args.completionTokens.toNat < 2 ^ 64) .InvalidTokenTotals

def attesterTypeMask (attesterType : AttesterType) : UInt8 := (1 : UInt8) <<< attesterType.toU8

/-- `to_le_bytes` -/
def toLeBytes (x : UInt64) : List UInt8 :=
  (List.range 8).map fun i => (x.toNat / 256 ^ i).toUInt8

def buildCompactReceiptHash (host : Host) (inputs : CompactReceiptHashInputs) : Bytes32 :=
  host.hash (COMPACT_RECEIPT_DOMAIN_SEPARATOR ++ inputs.requestNonceHash.bytes ++
    inputs.metadataHash.bytes ++ host.bytes inputs.providerWallet ++ host.bytes inputs.payerUser ++
    host.bytes inputs.usdcMint ++ toLeBytes inputs.promptTokens ++
    toLeBytes inputs.completionTokens ++ toLeBytes inputs.chargeAtomic)

/-- The bytes that are hashed. -/
def CompactReceiptHashInputs.preimage (host : Host) (inputs : CompactReceiptHashInputs) :
    List UInt8 :=
  COMPACT_RECEIPT_DOMAIN_SEPARATOR ++ inputs.requestNonceHash.bytes ++ inputs.metadataHash.bytes ++
    host.bytes inputs.providerWallet ++ host.bytes inputs.payerUser ++ host.bytes inputs.usdcMint ++
    toLeBytes inputs.promptTokens ++ toLeBytes inputs.completionTokens ++
    toLeBytes inputs.chargeAtomic

/-- An instruction of the running transaction, as the instructions sysvar shows it. -/
structure SysvarInstruction where
  programId : Pubkey
  accounts : List Pubkey
  data : List UInt8

/-- The instructions sysvar; it may be unreadable. -/
structure InstructionsSysvar where
  currentIndex : Option ℕ
  instructions : List SysvarInstruction

/-- Ed25519SigVerify111111111111111111111111111 -/
def ED25519_PROGRAM_ID : Pubkey :=
  .key ⟨[3, 125, 70, 214, 124, 147, 251, 190, 18, 249, 66, 143, 131, 141, 64, 255, 5, 112, 116, 73,
    39, 244, 138, 100, 252, 202, 112, 68, 128, 0, 0, 0], rfl⟩

def readSlice (data : List UInt8) (offset len : ℕ) : Result (List UInt8) := do
  ensure (offset + len ≤ data.length) .Ed25519InstructionMismatch
  return (data.drop offset).take len

def readU16Le (data : List UInt8) (offset : ℕ) : Result ℕ := do
  let bytes ← readSlice data offset 2
  return (bytes.getD 0 0).toNat + 256 * (bytes.getD 1 0).toNat

/-- A value that is there, or an error code. -/
def orFail {α : Type} (o : Option α) (e : ErrorCode) : Result α := orError o (.custom (.code e))

theorem orFail_eq_ok {α : Type} {o : Option α} {e : ErrorCode} {a : α} :
    orFail o e = .ok a ↔ o = some a := orError_eq_ok

def verifyPrecedingEd25519Instruction (host : Host) (sysvar : InstructionsSysvar)
    (signer : Pubkey) (message : Bytes32) : Result Unit := do
  let currentIndex ← orFail sysvar.currentIndex .MissingEd25519Instruction
  ensure (0 < currentIndex) .MissingEd25519Instruction
  let ix ← orFail sysvar.instructions[currentIndex - 1]? .MissingEd25519Instruction
  ensure (ix.programId = ED25519_PROGRAM_ID) .MissingEd25519Instruction
  ensure (ix.accounts = []) .Ed25519InstructionMismatch
  ensure (16 ≤ ix.data.length) .Ed25519InstructionMismatch
  ensure (ix.data.getD 0 0 = 1) .Ed25519InstructionMismatch
  let _signatureOffset ← readU16Le ix.data 2
  let signatureInstructionIndex ← readU16Le ix.data 4
  let publicKeyOffset ← readU16Le ix.data 6
  let publicKeyInstructionIndex ← readU16Le ix.data 8
  let messageDataOffset ← readU16Le ix.data 10
  let messageDataSize ← readU16Le ix.data 12
  let messageInstructionIndex ← readU16Le ix.data 14
  ensure (signatureInstructionIndex = 65535 ∧ publicKeyInstructionIndex = 65535 ∧
    messageInstructionIndex = 65535) .Ed25519InstructionMismatch
  ensure (messageDataSize = 32) .Ed25519InstructionMismatch
  let publicKeyBytes ← readSlice ix.data publicKeyOffset 32
  let messageBytes ← readSlice ix.data messageDataOffset messageDataSize
  ensure (publicKeyBytes = host.bytes signer) .Ed25519InstructionMismatch
  ensure (messageBytes = message.bytes) .Ed25519InstructionMismatch

end Attestation
