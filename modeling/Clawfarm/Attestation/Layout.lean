import Clawfarm.Attestation.Submission
import Clawfarm.Lib.Radix

/-!
# Attestation.Layout — the bytes of preimages and accounts

The preimage of a receipt hash has fields of fixed widths, so it determines all of them
(`preimage_inj`).  An account of the program is stored as the discriminator of its kind followed by
its fields; the hash of a receipt is the first of them.
-/

namespace Attestation

open Checked Bytes

variable {host : Host}

/-! ## Preimages -/

theorem toLeBytes_length (x : UInt64) : (toLeBytes x).length = 8 := by
  rw [toLeBytes, List.length_map, List.length_range]

theorem toLeBytes_inj {x y : UInt64} (h : toLeBytes x = toLeBytes y) : x = y := by
  have hbyte : ∀ i < 8, x.toNat / 256 ^ i % 256 = y.toNat / 256 ^ i % 256 := by
    intro i hi
    have hmap := List.map_inj_left.mp h i (List.mem_range.mpr hi)
    have hnat : (UInt8.ofNat (x.toNat / 256 ^ i)).toNat = (UInt8.ofNat (y.toNat / 256 ^ i)).toNat :=
      congrArg UInt8.toNat hmap
    rwa [UInt8.toNat_ofNat', UInt8.toNat_ofNat'] at hnat
  have hlt : ∀ z : UInt64, z.toNat < 256 ^ 8 := fun z => z.toNat_lt
  have hmod := Radix.mod_pow_eq hbyte
  rw [Nat.mod_eq_of_lt (hlt x), Nat.mod_eq_of_lt (hlt y)] at hmod
  exact UInt64.toNat_inj.mp hmod

/-- The three keys that are hashed. -/
def CompactReceiptHashInputs.keys (inputs : CompactReceiptHashInputs) : List Pubkey :=
  [inputs.providerWallet, inputs.payerUser, inputs.usdcMint]

/-- The same inputs in all eight fields; keys are their 32 bytes. -/
structure CompactReceiptHashInputs.Same (host : Host) (inputs inputs' : CompactReceiptHashInputs) :
    Prop where
  requestNonceHash : inputs.requestNonceHash = inputs'.requestNonceHash
  metadataHash : inputs.metadataHash = inputs'.metadataHash
  providerWallet : host.bytes inputs.providerWallet = host.bytes inputs'.providerWallet
  payerUser : host.bytes inputs.payerUser = host.bytes inputs'.payerUser
  usdcMint : host.bytes inputs.usdcMint = host.bytes inputs'.usdcMint
  promptTokens : inputs.promptTokens = inputs'.promptTokens
  completionTokens : inputs.completionTokens = inputs'.completionTokens
  chargeAtomic : inputs.chargeAtomic = inputs'.chargeAtomic

/-- **Preimages** determine the inputs: every field has a fixed width. -/
theorem preimage_inj {inputs inputs' : CompactReceiptHashInputs}
    (h : inputs.preimage host = inputs'.preimage host) : inputs.Same host inputs' := by
  have hkey : ∀ k k', (host.bytes k).length = (host.bytes k').length := fun k k' =>
    (host.bytes_length k).trans (host.bytes_length k').symm
  have hword : ∀ x y, (toLeBytes x).length = (toLeBytes y).length := fun x y =>
    (toLeBytes_length x).trans (toLeBytes_length y).symm
  have hhash : ∀ a b : Bytes32, a.bytes.length = b.bytes.length := fun a b =>
    a.length_eq.trans b.length_eq.symm
  obtain ⟨h, hcharge⟩ := List.append_inj' h (hword _ _)
  obtain ⟨h, hcompletion⟩ := List.append_inj' h (hword _ _)
  obtain ⟨h, hprompt⟩ := List.append_inj' h (hword _ _)
  obtain ⟨h, hmint⟩ := List.append_inj' h (hkey _ _)
  obtain ⟨h, hpayer⟩ := List.append_inj' h (hkey _ _)
  obtain ⟨h, hwallet⟩ := List.append_inj' h (hkey _ _)
  obtain ⟨h, hmetadata⟩ := List.append_inj' h (hhash _ _)
  obtain ⟨-, hnonce⟩ := List.append_inj' h (hhash _ _)
  exact ⟨bytes32_ext hnonce, bytes32_ext hmetadata, hwallet, hpayer, hmint, toLeBytes_inj hprompt,
    toLeBytes_inj hcompletion, toLeBytes_inj hcharge⟩

/-- Inputs with the same bytes are equal if different keys among them have different bytes. -/
theorem CompactReceiptHashInputs.Same.eq {inputs inputs' : CompactReceiptHashInputs}
    (h : inputs.Same host inputs')
    (hkeys : Set.InjOn host.bytes {k | k ∈ inputs.keys ∨ k ∈ inputs'.keys}) : inputs = inputs' := by
  obtain ⟨hnonce, hmetadata, hwallet, hpayer, hmint, hprompt, hcompletion, hcharge⟩ := h
  have hwallet := hkeys (by simp [keys]) (by simp [keys]) hwallet
  have hpayer := hkeys (by simp [keys]) (by simp [keys]) hpayer
  have hmint := hkeys (by simp [keys]) (by simp [keys]) hmint
  cases inputs
  cases inputs'
  simp only at hnonce hmetadata hwallet hpayer hmint hprompt hcompletion hcharge
  rw [hnonce, hmetadata, hwallet, hpayer, hmint, hprompt, hcompletion, hcharge]

/-- What a submission hashes: the address of the signer's entry is derived from its wallet. -/
def SubmitReceipt.inputs (ctx : SubmitReceipt) (args : SubmitReceiptArgs) :
    CompactReceiptHashInputs :=
  ⟨args.requestNonceHash, args.metadataHash, ctx.providerSigner.1, ctx.payerUser, ctx.usdcMint,
    args.promptTokens, args.completionTokens, args.chargeAtomic⟩

theorem submitReceipt_hash {c : Signers} {now : ℤ} {sysvar : InstructionsSysvar}
    {ctx : SubmitReceipt} {args : SubmitReceiptArgs} {s s' : System}
    (h : submitReceipt host c now sysvar ctx args s = .ok s') :
    args.receiptHash = buildCompactReceiptHash host (ctx.inputs args) := by
  obtain ⟨g, e, p, m, hpass, -⟩ := submitReceipt_iff.mp h
  rw [← hpass.hash, SubmitReceipt.inputs, hpass.key]

/-! ## Accounts -/

/-- `as u8` -/
def SignerStatus.toU8 : SignerStatus → UInt8
  | .Inactive => 0
  | .Active => 1
  | .Revoked => 2

/-- `as u8` -/
def ChallengeStatus.toU8 : ChallengeStatus → UInt8
  | .Open => 0
  | .Accepted => 1
  | .Rejected => 2

/-- `as u8` -/
def ChallengeType.toU8 : ChallengeType → UInt8
  | .InvalidSignature => 0
  | .SignerRegistryMismatch => 1
  | .ReplayNonce => 2
  | .InvalidLogInclusion => 3
  | .PayloadMismatch => 4

/-- `to_le_bytes` of an `i64` -/
def i64LeBytes (x : ℤ) : List UInt8 := toLeBytes (UInt64.ofInt x)

def boolByte (b : Bool) : List UInt8 := [if b then 1 else 0]

inductive Account
  | config (a : Config)
  | providerSigner (a : ProviderSigner)
  | receipt (a : Receipt)
  | challenge (a : Challenge)

/-- The name of the account type. -/
def Account.name : Account → String
  | .config _ => "Config"
  | .providerSigner _ => "ProviderSigner"
  | .receipt _ => "Receipt"
  | .challenge _ => "Challenge"

/-- The first eight bytes of the hash of `account:` and the name of the account type. -/
def accountDiscriminator (host : Host) (name : String) : List UInt8 :=
  (host.hash (("account:" ++ name).toList.map fun c => c.toNat.toUInt8)).bytes.take 8

/-- The fields in the order of their declaration. -/
def Account.fields (host : Host) : Account → List (List UInt8)
  | .config a => [host.bytes a.authority, host.bytes a.pauseAuthority,
      host.bytes a.challengeResolver, host.bytes a.masterpoolProgram,
      i64LeBytes a.challengeWindowSeconds, i64LeBytes a.challengeResolutionTimeoutSeconds,
      boolByte a.isPaused]
  | .providerSigner a => [host.bytes a.signer, host.bytes a.providerWallet, [a.attesterTypeMask],
      [a.status.toU8], i64LeBytes a.validFrom, i64LeBytes a.validUntil]
  | .receipt a => [a.receiptHash.bytes, host.bytes a.signer, host.bytes a.payerUser,
      host.bytes a.providerWallet, i64LeBytes a.submittedAt, i64LeBytes a.challengeDeadline,
      i64LeBytes a.finalizedAt, [a.status.toU8], boolByte a.economicsSettled]
  | .challenge a => [host.bytes a.receipt, host.bytes a.challenger, [a.challengeType.toU8],
      a.evidenceHash.bytes, toLeBytes (UInt64.ofNat a.bondAmount), i64LeBytes a.openedAt,
      i64LeBytes a.resolvedAt, [a.status.toU8], [a.resolutionCode.toU8]]

/-- What is stored in an account. -/
def Account.data (host : Host) (a : Account) : List UInt8 :=
  accountDiscriminator host a.name ++ (a.fields host).flatten

theorem accountDiscriminator_length (host : Host) (name : String) :
    (accountDiscriminator host name).length = 8 := by
  rw [accountDiscriminator, List.length_take, Bytes32.length_eq]
  rfl

theorem Account.slice_discriminator (host : Host) (a : Account) :
    Slice (a.data host) 0 8 (accountDiscriminator host a.name) := by
  have h := slice_append [] (accountDiscriminator host a.name) (a.fields host).flatten
  rwa [accountDiscriminator_length] at h

/-- A receipt keeps its hash in the bytes from `8` to `40`. -/
theorem Account.slice_receiptHash (host : Host) (r : Receipt) :
    Slice ((Account.receipt r).data host) 8 32 r.receiptHash.bytes := by
  have h := slice_append (accountDiscriminator host "Receipt") r.receiptHash.bytes
    ((Account.receipt r).fields host).tail.flatten
  rwa [accountDiscriminator_length, r.receiptHash.length_eq] at h

/-- The state keeps the account `a`, at the address `k` unless it is the entry of a signer. -/
inductive IsAccount (s : State) (k : Pubkey) : Account → Prop
  | config {g : Config} (hk : k = configAddress) (h : s.config = some g) : IsAccount s k (.config g)
  | providerSigner {e : Pubkey × Pubkey} {a : ProviderSigner}
    (h : s.providerSigners.get e = some a) : IsAccount s k (.providerSigner a)
  | receipt {r : Receipt} (h : s.receipts.get k = some r) : IsAccount s k (.receipt r)
  | challenge {x : Challenge} (h : s.challenges.get k = some x) : IsAccount s k (.challenge x)

/-- The bytes of the accounts that the program owns: the receipts are among them, and the others
are accounts of the program, too, or have never been written by it and hold zeros. -/
structure StoredAs (host : Host) (s : State) (accounts : Pubkey → Option (List UInt8)) : Prop where
  receipt : ∀ k r, s.receipts.get k = some r → accounts k = some ((Account.receipt r).data host)
  only : ∀ k d, accounts k = some d →
    (∃ a, IsAccount s k a ∧ d = a.data host) ∨ ∃ n, d = List.replicate n 0

/-- Nothing but a receipt starts with the discriminator of receipts. -/
structure ReceiptsMarked (host : Host) : Prop where
  config : accountDiscriminator host "Config" ≠ accountDiscriminator host "Receipt"
  providerSigner : accountDiscriminator host "ProviderSigner" ≠ accountDiscriminator host "Receipt"
  challenge : accountDiscriminator host "Challenge" ≠ accountDiscriminator host "Receipt"
  blank : accountDiscriminator host "Receipt" ≠ List.replicate 8 0

/-- The accounts with the discriminator and the hash of a receipt are the receipts with that
hash. -/
theorem StoredAs.receipt_iff {s : State} {accounts : Pubkey → Option (List UInt8)}
    (h : StoredAs host s accounts) (hmarked : ReceiptsMarked host) {k : Pubkey} (hash : Bytes32) :
    (∃ d, accounts k = some d ∧ Slice d 0 8 (accountDiscriminator host "Receipt") ∧
      Slice d 8 32 hash.bytes) ↔ ∃ r, s.receipts.get k = some r ∧ r.receiptHash = hash := by
  constructor
  · rintro ⟨d, hd, hdisc, hhash⟩
    rcases h.only k d hd with ⟨a, ha, rfl⟩ | ⟨n, rfl⟩
    · have hname := (a.slice_discriminator host).unique hdisc
      cases ha with
      | config _ _ => exact absurd hname hmarked.config
      | providerSigner _ => exact absurd hname hmarked.providerSigner
      | challenge _ => exact absurd hname hmarked.challenge
      | receipt hr => exact ⟨_, hr, bytes32_ext ((Account.slice_receiptHash host _).unique hhash)⟩
    · refine absurd hdisc.2.symm fun he => hmarked.blank (he.trans ?_)
      have hle := hdisc.1
      rw [List.length_replicate] at hle
      rw [List.drop_zero, List.take_replicate, min_eq_left (by omega)]
  · rintro ⟨r, hr, rfl⟩
    exact ⟨_, h.receipt k r hr, (Account.receipt r).slice_discriminator host,
      Account.slice_receiptHash host r⟩

end Attestation
