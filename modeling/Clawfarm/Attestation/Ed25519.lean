import Clawfarm.Attestation.Utils
import Clawfarm.Lib.Bytes

/-!
# Attestation.Ed25519 — the signature gate

`verify_preceding_ed25519_instruction` parses an instruction that anybody may have written.
`verifyIndexed` is the same function with reads that panic out of bounds: it never panics
(`verifyIndexed_eq`).  What it accepts is `Attests`, and the ed25519 precompile, if it accepted that
instruction too, has checked the same key and the same message.
-/

namespace Attestation

open Checked Bytes

/-! ## The function with its panics -/

/-- A computation that may fail with an error of the program, or panic (`none`). -/
abbrev Reads (α : Type) := ExceptT (ProgramError Failure) Option α

/-- A step that cannot panic. -/
def Reads.ofResult {α : Type} (r : Result α) : Reads α := ExceptT.mk (some r)

/-- A step that cannot fail but may panic. -/
def Reads.ofRead {α : Type} (o : Option α) : Reads α := ExceptT.mk (o.map .ok)

def readSliceIndexed (data : List UInt8) (offset len : ℕ) : Reads (List UInt8) := do
  Reads.ofResult (ensure (offset + len ≤ data.length) .Ed25519InstructionMismatch)
  Reads.ofRead (range data offset (offset + len))

def readU16LeIndexed (data : List UInt8) (offset : ℕ) : Reads ℕ := do
  let bytes ← readSliceIndexed data offset 2
  let low ← Reads.ofRead (index bytes 0)
  let high ← Reads.ofRead (index bytes 1)
  return low.toNat + 256 * high.toNat

def verifyIndexed (host : Host) (sysvar : InstructionsSysvar) (signer : Pubkey)
    (message : Bytes32) : Reads Unit := do
  let currentIndex ← Reads.ofResult (orFail sysvar.currentIndex .MissingEd25519Instruction)
  Reads.ofResult (ensure (0 < currentIndex) .MissingEd25519Instruction)
  let ix ← Reads.ofResult
    (orFail sysvar.instructions[currentIndex - 1]? .MissingEd25519Instruction)
  Reads.ofResult (ensure (ix.programId = ED25519_PROGRAM_ID) .MissingEd25519Instruction)
  Reads.ofResult (ensure (ix.accounts = []) .Ed25519InstructionMismatch)
  Reads.ofResult (ensure (16 ≤ ix.data.length) .Ed25519InstructionMismatch)
  let count ← Reads.ofRead (index ix.data 0)
  Reads.ofResult (ensure (count = 1) .Ed25519InstructionMismatch)
  let _signatureOffset ← readU16LeIndexed ix.data 2
  let signatureInstructionIndex ← readU16LeIndexed ix.data 4
  let publicKeyOffset ← readU16LeIndexed ix.data 6
  let publicKeyInstructionIndex ← readU16LeIndexed ix.data 8
  let messageDataOffset ← readU16LeIndexed ix.data 10
  let messageDataSize ← readU16LeIndexed ix.data 12
  let messageInstructionIndex ← readU16LeIndexed ix.data 14
  Reads.ofResult (ensure (signatureInstructionIndex = 65535 ∧ publicKeyInstructionIndex = 65535 ∧
    messageInstructionIndex = 65535) .Ed25519InstructionMismatch)
  Reads.ofResult (ensure (messageDataSize = 32) .Ed25519InstructionMismatch)
  let publicKeyBytes ← readSliceIndexed ix.data publicKeyOffset 32
  let messageBytes ← readSliceIndexed ix.data messageDataOffset messageDataSize
  Reads.ofResult (ensure (publicKeyBytes = host.bytes signer) .Ed25519InstructionMismatch)
  Reads.ofResult (ensure (messageBytes = message.bytes) .Ed25519InstructionMismatch)

/-! ### It never panics -/

theorem ofResult_bind {α β : Type} (r : Result α) (f : α → Result β) :
    (Reads.ofResult (r >>= f) : Reads β) = Reads.ofResult r >>= fun a => Reads.ofResult (f a) := by
  cases r <;> rfl

/-- What follows a guard may rely on it. -/
theorem ofResult_guard {β : Type} {p : Prop} [Decidable p] {e : ErrorCode} {f g : Unit → Reads β}
    (h : p → f () = g ()) :
    (Reads.ofResult (ensure p e) >>= f) = Reads.ofResult (ensure p e) >>= g := by
  by_cases hp : p
  · rw [ensure, require_true hp]
    exact h hp
  · rw [ensure, require, if_neg hp]
    rfl

theorem ofRead_some {α : Type} (a : α) : Reads.ofRead (some a) = Reads.ofResult (.ok a) := rfl

theorem readSliceIndexed_eq (data : List UInt8) (offset len : ℕ) :
    readSliceIndexed data offset len = Reads.ofResult (readSlice data offset len) := by
  rw [readSlice, ofResult_bind]
  refine ofResult_guard fun h => ?_
  rw [range_of_le h]
  rfl

theorem readSlice_eq_ok {data b : List UInt8} {offset len : ℕ} :
    readSlice data offset len = .ok b ↔ Slice data offset len b := by
  simp only [readSlice, bind_eq_ok, ensure_eq_ok, exists_unit, pure_eq_ok, Slice]

theorem readU16LeIndexed_eq (data : List UInt8) (offset : ℕ) :
    readU16LeIndexed data offset = Reads.ofResult (readU16Le data offset) := by
  rw [readU16LeIndexed, readU16Le, readSliceIndexed_eq]
  cases h : readSlice data offset 2 with
  | error e => rfl
  | ok b =>
    have hlen := (readSlice_eq_ok.mp h).length
    show (Reads.ofRead (index b 0) >>= _) = _
    rw [index_of_lt (by omega), index_of_lt (by omega)]
    rfl

/-- **No panic**: no read of the gate is out of bounds. -/
theorem verifyIndexed_eq (host : Host) (sysvar : InstructionsSysvar) (signer : Pubkey)
    (message : Bytes32) : verifyIndexed host sysvar signer message =
      Reads.ofResult (verifyPrecedingEd25519Instruction host sysvar signer message) := by
  simp only [verifyIndexed, verifyPrecedingEd25519Instruction, readSliceIndexed_eq,
    readU16LeIndexed_eq, ofResult_bind]
  refine bind_congr fun i => ?_
  refine bind_congr fun _ => ?_
  refine bind_congr fun ix => ?_
  refine bind_congr fun _ => ?_
  refine bind_congr fun _ => ?_
  refine ofResult_guard fun h => ?_
  rw [index_of_lt (by omega), ofRead_some]
  rfl

/-! ## What it accepts -/

/-- The data declare one signature over the key and the message, in the instruction itself. -/
structure Declares (data key message : List UInt8) : Prop where
  long : 16 ≤ data.length
  single : data.getD 0 0 = 1
  own : u16At data 4 = 65535 ∧ u16At data 8 = 65535 ∧ u16At data 14 = 65535
  size : u16At data 12 = 32
  key : Slice data (u16At data 6) 32 key
  message : Slice data (u16At data 10) 32 message

/-- The preceding instruction is an ed25519 instruction over the key and the message. -/
structure Attests (sysvar : InstructionsSysvar) (i : ℕ) (ix : SysvarInstruction)
    (key message : List UInt8) : Prop where
  current : sysvar.currentIndex = some i ∧ 0 < i
  preceding : sysvar.instructions[i - 1]? = some ix
  program : ix.programId = ED25519_PROGRAM_ID
  noAccounts : ix.accounts = []
  declares : Declares ix.data key message

theorem readU16Le_eq_ok {data : List UInt8} {offset n : ℕ} :
    readU16Le data offset = .ok n ↔ offset + 2 ≤ data.length ∧ u16At data offset = n := by
  simp only [readU16Le, bind_eq_ok, readSlice_eq_ok, pure_eq_ok]
  constructor
  · rintro ⟨b, ⟨hle, rfl⟩, rfl⟩
    exact ⟨hle, (u16At_slice (Nat.le_refl 2)).symm⟩
  · rintro ⟨hle, rfl⟩
    exact ⟨_, ⟨hle, rfl⟩, u16At_slice (Nat.le_refl 2)⟩

theorem verify_eq_ok {host : Host} {sysvar : InstructionsSysvar} {signer : Pubkey}
    {message : Bytes32} :
    verifyPrecedingEd25519Instruction host sysvar signer message = .ok () ↔
      ∃ i ix, Attests sysvar i ix (host.bytes signer) message.bytes := by
  simp only [verifyPrecedingEd25519Instruction, bind_eq_ok, orFail_eq_ok, ensure_eq_ok,
    readU16Le_eq_ok, readSlice_eq_ok, exists_unit]
  constructor
  · rintro ⟨i, hi, hpos, ix, hix, hprog, hacc, hlen, hone, -, -, sigIx, ⟨-, rfl⟩, keyAt, ⟨-, rfl⟩,
      keyIx, ⟨-, rfl⟩, msgAt, ⟨-, rfl⟩, size, ⟨-, rfl⟩, msgIx, ⟨-, rfl⟩, ⟨h4, h8, h14⟩, hsize, key,
      hkey, msg, hmsg, rfl, rfl⟩
    exact ⟨i, ix, ⟨hi, hpos⟩, hix, hprog, hacc, hlen, hone, ⟨h4, h8, h14⟩, hsize, hkey,
      hsize ▸ hmsg⟩
  · rintro ⟨i, ix, ⟨hi, hpos⟩, hix, hprog, hacc, hd⟩
    have hlen := hd.long
    exact ⟨i, hi, hpos, ix, hix, hprog, hacc, hlen, hd.single, _, ⟨by omega, rfl⟩,
      _, ⟨by omega, rfl⟩, _, ⟨by omega, rfl⟩, _, ⟨by omega, rfl⟩, _, ⟨by omega, rfl⟩,
      _, ⟨by omega, rfl⟩, _, ⟨by omega, rfl⟩, hd.own, hd.size, _, hd.key, _,
      hd.size.symm ▸ hd.message, rfl, rfl⟩

/-- An instruction declares one key and one message. -/
theorem Declares.unique {data key key' message message' : List UInt8}
    (h : Declares data key message) (h' : Declares data key' message') :
    key = key' ∧ message = message' := ⟨h.key.unique h'.key, h.message.unique h'.message⟩

/-! ## The ed25519 precompile

The precompile reads a table of entries of 14 bytes, one for each signature, from offset 2 on.  An
entry names the instruction that each slice is in, by its index in the transaction, or `65535` for
the instruction itself. -/

/-- The data that an instruction index refers to. -/
def referredData (instructions : List SysvarInstruction) (own : List UInt8) (instructionIndex : ℕ) :
    Option (List UInt8) :=
  if instructionIndex = 65535 then some own
  else instructions[instructionIndex]?.map SysvarInstruction.data

/-- The entry at `o` holds a signature that `valid` accepts. -/
structure EntryAccepted (valid : List UInt8 → List UInt8 → List UInt8 → Prop)
    (instructions : List SysvarInstruction) (own : List UInt8) (o : ℕ)
    (key message signature : List UInt8) : Prop where
  signatureRead : ∃ d, referredData instructions own (u16At own (o + 2)) = some d ∧
    Slice d (u16At own o) 64 signature
  keyRead : ∃ d, referredData instructions own (u16At own (o + 6)) = some d ∧
    Slice d (u16At own (o + 4)) 32 key
  messageRead : ∃ d, referredData instructions own (u16At own (o + 12)) = some d ∧
    Slice d (u16At own (o + 8)) (u16At own (o + 10)) message
  valid : valid key message signature

/-- The precompile accepts an instruction with the data `own`. -/
def PrecompileAccepts (valid : List UInt8 → List UInt8 → List UInt8 → Prop)
    (instructions : List SysvarInstruction) (own : List UInt8) : Prop :=
  ∀ n < (own.getD 0 0).toNat, ∃ key message signature,
    EntryAccepted valid instructions own (2 + 14 * n) key message signature

/-- What is declared has been verified by the precompile. -/
theorem Declares.verified {valid : List UInt8 → List UInt8 → List UInt8 → Prop}
    {instructions : List SysvarInstruction} {data key message : List UInt8}
    (h : Declares data key message) (hacc : PrecompileAccepts valid instructions data) :
    ∃ signature, signature.length = 64 ∧ valid key message signature := by
  have hone : 0 < (data.getD 0 0).toNat := by
    rw [h.single]
    decide
  obtain ⟨key', message', signature, ⟨ds, -, hsig⟩, ⟨dk, hdk, hkey⟩, ⟨dm, hdm, hmsg⟩, hvalid⟩ :=
    hacc 0 hone
  obtain ⟨-, hk, hm⟩ := h.own
  rw [referredData, if_pos hk] at hdk
  rw [referredData, if_pos hm] at hdm
  obtain rfl := Option.some.inj hdk
  obtain rfl := Option.some.inj hdm
  obtain rfl : key = key' := h.key.unique hkey
  obtain rfl : message = message' := h.message.unique (h.size ▸ hmsg)
  exact ⟨signature, hsig.length, hvalid⟩

/-! ## The canonical instruction -/

/-- The data with one signature: key, signature and message in this order after the header. -/
def ed25519IxData (signer signature message : List UInt8) : List UInt8 :=
  [1, 0, 48, 0, 255, 255, 16, 0, 255, 255, 112, 0, 32, 0, 255, 255] ++ (signer ++ (signature ++
    message))

theorem ed25519IxData_declares {signer signature message : List UInt8} (hs : signer.length = 32)
    (hsig : signature.length = 64) (hm : message.length = 32) :
    Declares (ed25519IxData signer signature message) signer message := by
  have hheader : ∀ o < 15, u16At (ed25519IxData signer signature message) o =
      u16At [1, 0, 48, 0, 255, 255, 16, 0, 255, 255, 112, 0, 32, 0, 255, 255] o := fun o ho => by
    simp only [u16At, ed25519IxData, List.getD_eq_getElem?_getD]
    rw [List.getElem?_append_left (by simp; omega), List.getElem?_append_left (by simp; omega)]
  have hkey := slice_append [1, 0, 48, 0, 255, 255, 16, 0, 255, 255, 112, 0, 32, 0, 255, 255] signer
    (signature ++ message)
  have hmessage := slice_append ([1, 0, 48, 0, 255, 255, 16, 0, 255, 255, 112, 0, 32, 0, 255, 255]
    ++ (signer ++ signature)) message []
  simp only [List.append_assoc, List.append_nil, List.length_append, hs, hsig, hm] at hkey hmessage
  refine ⟨?_, rfl, ⟨?_, ?_, ?_⟩, ?_, ?_, ?_⟩
  · simp only [ed25519IxData, List.length_append, List.length_cons, List.length_nil]
    omega
  · rw [hheader 4 (by omega)]
    decide
  · rw [hheader 8 (by omega)]
    decide
  · rw [hheader 14 (by omega)]
    decide
  · rw [hheader 12 (by omega)]
    decide
  · rw [hheader 6 (by omega)]
    exact hkey
  · rw [hheader 10 (by omega)]
    exact hmessage

theorem Host.bytes_length (host : Host) (k : Pubkey) : (host.bytes k).length = 32 := by
  cases k with
  | key b => exact b.length_eq
  | pda p seed => exact (host.derived _).length_eq
  | pdaOf p seed arg => exact (host.derived _).length_eq

/-! ## The gate -/

/-- What the gate guarantees in a transaction. -/
structure Gate (host : Host) (sysvar : InstructionsSysvar) : Prop where
  noPanic : ∀ signer message, verifyIndexed host sysvar signer message =
    Reads.ofResult (verifyPrecedingEd25519Instruction host sysvar signer message)
  accepts : ∀ signer message,
    verifyPrecedingEd25519Instruction host sysvar signer message = .ok () ↔
      ∃ i ix, Attests sysvar i ix (host.bytes signer) message.bytes
  verified : ∀ valid signer message,
    verifyPrecedingEd25519Instruction host sysvar signer message = .ok () →
    (∀ i ix, sysvar.currentIndex = some i → sysvar.instructions[i - 1]? = some ix →
      PrecompileAccepts valid sysvar.instructions ix.data) →
    ∃ signature, signature.length = 64 ∧ valid (host.bytes signer) message.bytes signature
  unique : ∀ signer signer' message message',
    verifyPrecedingEd25519Instruction host sysvar signer message = .ok () →
    verifyPrecedingEd25519Instruction host sysvar signer' message' = .ok () →
    host.bytes signer = host.bytes signer' ∧ message = message'
  canonical : ∀ i signer signature (message : Bytes32), signature.length = 64 → 0 < i →
    sysvar.currentIndex = some i → sysvar.instructions[i - 1]? =
      some ⟨ED25519_PROGRAM_ID, [], ed25519IxData (host.bytes signer) signature message.bytes⟩ →
    verifyPrecedingEd25519Instruction host sysvar signer message = .ok ()

theorem bytes32_ext {b b' : Bytes32} (h : b.bytes = b'.bytes) : b = b' := by
  cases b
  cases b'
  simp only at h
  subst h
  rfl

/-- **The signature gate**, for every transaction. -/
theorem ed25519_gate (host : Host) (sysvar : InstructionsSysvar) : Gate host sysvar where
  noPanic := verifyIndexed_eq host sysvar
  accepts _ _ := verify_eq_ok
  verified valid signer message h hacc := by
    obtain ⟨i, ix, hatt⟩ := verify_eq_ok.mp h
    exact hatt.declares.verified (hacc i ix hatt.current.1 hatt.preceding)
  unique signer signer' message message' h h' := by
    obtain ⟨i, ix, hatt⟩ := verify_eq_ok.mp h
    obtain ⟨i', ix', hatt'⟩ := verify_eq_ok.mp h'
    obtain rfl := Option.some.inj (hatt.current.1.symm.trans hatt'.current.1)
    obtain rfl := Option.some.inj (hatt.preceding.symm.trans hatt'.preceding)
    obtain ⟨hkey, hmsg⟩ := hatt.declares.unique hatt'.declares
    exact ⟨hkey, bytes32_ext hmsg⟩
  canonical i signer signature message hsig hpos hi hix :=
    verify_eq_ok.mpr ⟨i, _, ⟨hi, hpos⟩, hix, rfl, rfl,
      ed25519IxData_declares (host.bytes_length signer) hsig message.length_eq⟩

end Attestation
