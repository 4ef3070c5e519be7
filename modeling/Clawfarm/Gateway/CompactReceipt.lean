import Clawfarm.Attestation.Submission
import Clawfarm.Gateway.Json

/-!
# Gateway.CompactReceipt — the gateway's side of the receipt hash

The functions of `scripts/phase1/compact-receipt.ts` that build the arguments of `submit_receipt`.
The gateway and the on-chain program hash the same bytes (`preimage_eq_ok`), so a receipt hash of
the gateway passes the check of the program (`submitReceipt_ne_mismatch`).
-/

namespace Gateway

open Checked
open Attestation (Host SubmitReceiptArgs)

def COMPACT_RECEIPT_DOMAIN_SEPARATOR : JsString := js "clawfarm:receipt:v2"

def COMPACT_RECEIPT_METADATA_SCHEMA : JsString := js "clawfarm-receipt-metadata/v2"

/-! ## Validation -/

def normalizeHash (value : List UInt8) (label : String) : Except Thrown (List UInt8) := do
  require (value.length = 32) (.error (label ++ " must be exactly 32 bytes"))
  return value

def assertU64 (value : ℤ) (label : String) : Except Thrown ℤ := do
  require (0 ≤ value ∧ value ≤ 18446744073709551615) (.error (label ++ " must fit in u64"))
  return value

def normalizeU64 (value : Numeric) (label : String) : Except Thrown ℤ :=
  match value with
  | .number x => do
    require (x.IsSafeInteger ∧ ¬ x.IsNegative)
      (.error (label ++ " must be a non-negative safe integer"))
    let n ← x.toBigInt
    assertU64 n label
  | .bigint n => assertU64 n label

def u64Le (value : ℤ) : Except Thrown (List UInt8) := writeBigUInt64LE value

def sha256 (host : Host) (data : List UInt8) : List UInt8 := (host.hash data).bytes

/-! ## Metadata -/

structure CompactReceiptMetadataInput where
  schema : Option JsString
  proofId : JsString
  providerCode : JsString
  proofMode : Option JsString
  attesterType : Option JsString
  usageBasis : Option JsString
  model : JsString
  providerRequestId : Option JsString
  issuedAt : Option JsNumber
  expiresAt : Option JsNumber

structure CompactReceiptMetadata where
  schema : JsString
  proofId : JsString
  providerCode : JsString
  proofMode : JsString
  attesterType : JsString
  usageBasis : JsString
  model : JsString
  providerRequestId : Option JsString
  issuedAt : Option JsNumber
  expiresAt : Option JsNumber

def buildCompactReceiptMetadata (input : CompactReceiptMetadataInput) : CompactReceiptMetadata where
  schema := input.schema.getD COMPACT_RECEIPT_METADATA_SCHEMA
  proofId := input.proofId
  providerCode := input.providerCode
  proofMode := input.proofMode.getD (js "sig_log")
  attesterType := input.attesterType.getD (js "gateway")
  usageBasis := input.usageBasis.getD (js "provider_reported")
  model := input.model
  providerRequestId := input.providerRequestId
  issuedAt := input.issuedAt
  expiresAt := input.expiresAt

/-- Complete metadata is an input too. -/
def CompactReceiptMetadata.toInput (metadata : CompactReceiptMetadata) :
    CompactReceiptMetadataInput where
  schema := some metadata.schema
  proofId := metadata.proofId
  providerCode := metadata.providerCode
  proofMode := some metadata.proofMode
  attesterType := some metadata.attesterType
  usageBasis := some metadata.usageBasis
  model := metadata.model
  providerRequestId := metadata.providerRequestId
  issuedAt := metadata.issuedAt
  expiresAt := metadata.expiresAt

/-- The value of an optional property. -/
def optional {α : Type} (f : α → JsValue) (o : Option α) : JsValue := o.elim .undefined f

def stableMetadataJson (json : Stringify) (metadata : CompactReceiptMetadata) :
    Except Thrown JsString :=
  canonicalizeJson json (.object
    [(js "schema", .string metadata.schema),
     (js "proof_id", .string metadata.proofId),
     (js "provider_code", .string metadata.providerCode),
     (js "proof_mode", .string metadata.proofMode),
     (js "attester_type", .string metadata.attesterType),
     (js "usage_basis", .string metadata.usageBasis),
     (js "model", .string metadata.model),
     (js "provider_request_id", optional .string metadata.providerRequestId),
     (js "issued_at", optional .number metadata.issuedAt),
     (js "expires_at", optional .number metadata.expiresAt)])

def hashReceiptMetadata (host : Host) (json : Stringify) (metadata : CompactReceiptMetadataInput) :
    Except Thrown (List UInt8) := do
  let text ← stableMetadataJson json (buildCompactReceiptMetadata metadata)
  return sha256 host (utf8 text)

def hashRequestNonce (host : Host) (requestNonce : JsString) : List UInt8 :=
  sha256 host (utf8 requestNonce)

/-! ## The receipt hash -/

structure CompactReceiptHashInputs where
  requestNonceHash : List UInt8
  metadataHash : List UInt8
  providerWallet : Pubkey
  payerUser : Pubkey
  usdcMint : Pubkey
  promptTokens : Numeric
  completionTokens : Numeric
  chargeAtomic : Numeric

/-- The argument of `sha256`. -/
def CompactReceiptHashInputs.preimage (host : Host) (inputs : CompactReceiptHashInputs) :
    Except Thrown (List UInt8) := do
  let promptTokens ← normalizeU64 inputs.promptTokens "promptTokens"
  let completionTokens ← normalizeU64 inputs.completionTokens "completionTokens"
  let chargeAtomic ← normalizeU64 inputs.chargeAtomic "chargeAtomic"
  let requestNonceHash ← normalizeHash inputs.requestNonceHash "requestNonceHash"
  let metadataHash ← normalizeHash inputs.metadataHash "metadataHash"
  let promptBytes ← u64Le promptTokens
  let completionBytes ← u64Le completionTokens
  let chargeBytes ← u64Le chargeAtomic
  return utf8 COMPACT_RECEIPT_DOMAIN_SEPARATOR ++ requestNonceHash ++ metadataHash ++
    host.bytes inputs.providerWallet ++ host.bytes inputs.payerUser ++ host.bytes inputs.usdcMint ++
    promptBytes ++ completionBytes ++ chargeBytes

def buildCompactReceiptHash (host : Host) (inputs : CompactReceiptHashInputs) :
    Except Thrown (List UInt8) := do
  let data ← inputs.preimage host
  return sha256 host data

structure CompactSubmitArgsInput where
  requestNonce : JsString
  metadata : CompactReceiptMetadataInput
  providerWallet : Pubkey
  payerUser : Pubkey
  usdcMint : Pubkey
  promptTokens : Numeric
  completionTokens : Numeric
  chargeAtomic : Numeric

structure CompactSubmitArgs (TBn : Type) where
  requestNonceHash : List UInt8
  metadataHash : List UInt8
  promptTokens : TBn
  completionTokens : TBn
  chargeAtomic : TBn
  receiptHash : List UInt8

def buildCompactSubmitArgs {TBn : Type} (host : Host) (json : Stringify)
    (input : CompactSubmitArgsInput) (toBn : ℤ → TBn) : Except Thrown (CompactSubmitArgs TBn) := do
  let promptTokens ← normalizeU64 input.promptTokens "promptTokens"
  let completionTokens ← normalizeU64 input.completionTokens "completionTokens"
  let chargeAtomic ← normalizeU64 input.chargeAtomic "chargeAtomic"
  let requestNonceHash := hashRequestNonce host input.requestNonce
  let metadata := buildCompactReceiptMetadata input.metadata
  let metadataHash ← hashReceiptMetadata host json metadata.toInput
  let receiptHash ← buildCompactReceiptHash host
    { requestNonceHash := requestNonceHash
      metadataHash := metadataHash
      providerWallet := input.providerWallet
      payerUser := input.payerUser
      usdcMint := input.usdcMint
      promptTokens := .bigint promptTokens
      completionTokens := .bigint completionTokens
      chargeAtomic := .bigint chargeAtomic }
  return {
    requestNonceHash := requestNonceHash
    metadataHash := metadataHash
    promptTokens := toBn promptTokens
    completionTokens := toBn completionTokens
    chargeAtomic := toBn chargeAtomic
    receiptHash := receiptHash }

/-! ## What an argument denotes -/

def JsNumber.Denotes (n : ℕ) : JsNumber → Prop
  | .finite q => q = n
  | .negativeZero => n = 0
  | _ => False

/-- The argument is the natural number `n`: a number only if it is a safe integer. -/
def Numeric.Denotes (n : ℕ) : Numeric → Prop
  | .number x => x.Denotes n ∧ n ≤ MAX_SAFE_INTEGER
  | .bigint z => z = n

/-- The argument is an integer of 64 bits. -/
def Numeric.IsU64 (v : Numeric) : Prop := ∃ n : UInt64, v.Denotes n.toNat

theorem assertU64_eq_ok {z value : ℤ} {label : String} :
    assertU64 z label = .ok value ↔ ∃ n : UInt64, z = n.toNat ∧ value = n.toNat := by
  simp only [assertU64, bind_eq_ok, require_eq_ok, exists_unit, pure_eq_ok]
  constructor
  · rintro ⟨⟨hlo, hhi⟩, rfl⟩
    have hfit : z.toNat < 2 ^ 64 := by omega
    have hn : (UInt64.ofNat z.toNat).toNat = z.toNat := by
      rw [UInt64.toNat_ofNat', Nat.mod_eq_of_lt hfit]
    exact ⟨UInt64.ofNat z.toNat, by omega, by omega⟩
  · rintro ⟨n, rfl, rfl⟩
    have hlt : n.toNat < 2 ^ 64 := n.toNat_lt
    exact ⟨by omega, rfl⟩

theorem JsNumber.denotes_iff {x : JsNumber} {n : ℕ} :
    x.Denotes n ∧ n ≤ MAX_SAFE_INTEGER ↔
      (x.IsSafeInteger ∧ ¬ x.IsNegative) ∧ x.toBigInt = .ok (n : ℤ) := by
  cases x with
  | nan => simp [Denotes, IsSafeInteger]
  | infinity b => simp [Denotes, IsSafeInteger]
  | negativeZero =>
    simp only [Denotes, IsSafeInteger, IsNegative, toBigInt, Except.ok.injEq]
    constructor
    · rintro ⟨rfl, -⟩
      exact ⟨⟨trivial, id⟩, rfl⟩
    · rintro ⟨-, hn⟩
      obtain rfl : n = 0 := by omega
      exact ⟨rfl, Nat.zero_le _⟩
  | finite q =>
    simp only [Denotes, IsSafeInteger, IsNegative, toBigInt]
    constructor
    · rintro ⟨rfl, hn⟩
      simp only [Rat.den_natCast, Rat.num_natCast, if_true, true_and]
      refine ⟨⟨?_, ?_⟩, trivial⟩
      · rw [Nat.abs_cast]
        exact_mod_cast hn
      · exact not_lt.mpr (Nat.cast_nonneg n)
    · rintro ⟨⟨⟨hden, habs⟩, -⟩, hnum⟩
      rw [if_pos hden, Except.ok.injEq] at hnum
      rw [hnum, Nat.abs_cast] at habs
      refine ⟨?_, by exact_mod_cast habs⟩
      rw [← Rat.coe_int_num_of_den_eq_one hden, hnum]
      rfl

/-- **Numbers**: exactly the integers of 64 bits pass, and as themselves. -/
theorem normalizeU64_eq_ok {v : Numeric} {label : String} {value : ℤ} :
    normalizeU64 v label = .ok value ↔ ∃ n : UInt64, v.Denotes n.toNat ∧ value = n.toNat := by
  cases v with
  | bigint z => exact assertU64_eq_ok
  | number x =>
    simp only [normalizeU64, bind_eq_ok, require_eq_ok, exists_unit, assertU64_eq_ok,
      Numeric.Denotes, JsNumber.denotes_iff]
    constructor
    · rintro ⟨hsafe, z, hz, n, rfl, rfl⟩
      exact ⟨n, ⟨hsafe, hz⟩, rfl⟩
    · rintro ⟨n, ⟨hsafe, hz⟩, rfl⟩
      exact ⟨hsafe, _, hz, n, rfl, rfl⟩

theorem normalizeHash_eq_ok {value bytes : List UInt8} {label : String} :
    normalizeHash value label = .ok bytes ↔ value.length = 32 ∧ value = bytes := by
  simp only [normalizeHash, bind_eq_ok, require_eq_ok, exists_unit, pure_eq_ok]

theorem u64Le_eq_ok {n : UInt64} {bytes : List UInt8} :
    u64Le n.toNat = .ok bytes ↔ Attestation.toLeBytes n = bytes := by
  rw [u64Le, writeBigUInt64LE_toNat, Except.ok.injEq]

/-! ## One byte string -/

/-- The inputs of the gateway are those of the on-chain program. -/
structure CompactReceiptHashInputs.Denotes (inputs : CompactReceiptHashInputs)
    (onChain : Attestation.CompactReceiptHashInputs) : Prop where
  requestNonceHash : inputs.requestNonceHash = onChain.requestNonceHash.bytes
  metadataHash : inputs.metadataHash = onChain.metadataHash.bytes
  providerWallet : inputs.providerWallet = onChain.providerWallet
  payerUser : inputs.payerUser = onChain.payerUser
  usdcMint : inputs.usdcMint = onChain.usdcMint
  promptTokens : inputs.promptTokens.Denotes onChain.promptTokens.toNat
  completionTokens : inputs.completionTokens.Denotes onChain.completionTokens.toNat
  chargeAtomic : inputs.chargeAtomic.Denotes onChain.chargeAtomic.toNat

theorem utf8_domain_separator :
    utf8 COMPACT_RECEIPT_DOMAIN_SEPARATOR = Attestation.COMPACT_RECEIPT_DOMAIN_SEPARATOR := by
  decide

variable {host : Host} {json : Stringify}

/-- **Preimages**: where the gateway has a preimage, it is the one of the on-chain program. -/
theorem preimage_eq_ok {inputs : CompactReceiptHashInputs} {bytes : List UInt8} :
    inputs.preimage host = .ok bytes ↔
      ∃ onChain, inputs.Denotes onChain ∧ bytes = onChain.preimage host := by
  simp only [CompactReceiptHashInputs.preimage, bind_eq_ok, normalizeU64_eq_ok, normalizeHash_eq_ok,
    pure_eq_ok]
  constructor
  · rintro ⟨-, ⟨p, hp, rfl⟩, -, ⟨c, hc, rfl⟩, -, ⟨a, ha, rfl⟩, -, ⟨hnonce, rfl⟩, -, ⟨hmeta, rfl⟩,
      pb, hpb, cb, hcb, ab, hab, rfl⟩
    rw [u64Le_eq_ok] at hpb hcb hab
    refine ⟨⟨⟨_, hnonce⟩, ⟨_, hmeta⟩, inputs.providerWallet, inputs.payerUser, inputs.usdcMint,
      p, c, a⟩, ⟨rfl, rfl, rfl, rfl, rfl, hp, hc, ha⟩, ?_⟩
    rw [← hpb, ← hcb, ← hab, utf8_domain_separator]
    rfl
  · rintro ⟨onChain, h, rfl⟩
    refine ⟨_, ⟨_, h.promptTokens, rfl⟩, _, ⟨_, h.completionTokens, rfl⟩, _,
      ⟨_, h.chargeAtomic, rfl⟩, _, ⟨?_, rfl⟩, _, ⟨?_, rfl⟩, _, u64Le_eq_ok.mpr rfl, _,
      u64Le_eq_ok.mpr rfl, _, u64Le_eq_ok.mpr rfl, ?_⟩
    · rw [h.requestNonceHash, onChain.requestNonceHash.length_eq]
    · rw [h.metadataHash, onChain.metadataHash.length_eq]
    · rw [h.requestNonceHash, h.metadataHash, h.providerWallet, h.payerUser, h.usdcMint,
        utf8_domain_separator]
      rfl

theorem buildCompactReceiptHash_eq_ok {inputs : CompactReceiptHashInputs} {hash : List UInt8} :
    buildCompactReceiptHash host inputs = .ok hash ↔ ∃ onChain, inputs.Denotes onChain ∧
      hash = (Attestation.buildCompactReceiptHash host onChain).bytes := by
  simp only [buildCompactReceiptHash, bind_eq_ok, preimage_eq_ok, pure_eq_ok]
  constructor
  · rintro ⟨-, ⟨onChain, h, rfl⟩, rfl⟩
    exact ⟨onChain, h, rfl⟩
  · rintro ⟨onChain, h, rfl⟩
    exact ⟨_, ⟨onChain, h, rfl⟩, rfl⟩

/-- There are on-chain inputs exactly for hashes of 32 bytes and integers of 64 bits. -/
theorem exists_denotes_iff {inputs : CompactReceiptHashInputs} :
    (∃ onChain, inputs.Denotes onChain) ↔ inputs.requestNonceHash.length = 32 ∧
      inputs.metadataHash.length = 32 ∧ inputs.promptTokens.IsU64 ∧
      inputs.completionTokens.IsU64 ∧ inputs.chargeAtomic.IsU64 := by
  constructor
  · rintro ⟨onChain, h⟩
    refine ⟨?_, ?_, ⟨_, h.promptTokens⟩, ⟨_, h.completionTokens⟩, ⟨_, h.chargeAtomic⟩⟩
    · rw [h.requestNonceHash, onChain.requestNonceHash.length_eq]
    · rw [h.metadataHash, onChain.metadataHash.length_eq]
  · rintro ⟨hnonce, hmeta, ⟨p, hp⟩, ⟨c, hc⟩, a, ha⟩
    exact ⟨⟨⟨_, hnonce⟩, ⟨_, hmeta⟩, _, _, _, p, c, a⟩, rfl, rfl, rfl, rfl, rfl, hp, hc, ha⟩

/-! ## The arguments of a submission -/

/-- The built arguments carry the on-chain arguments `args`. -/
structure CompactSubmitArgs.Carries {TBn : Type} (out : CompactSubmitArgs TBn) (toBn : ℤ → TBn)
    (args : SubmitReceiptArgs) : Prop where
  requestNonceHash : out.requestNonceHash = args.requestNonceHash.bytes
  metadataHash : out.metadataHash = args.metadataHash.bytes
  promptTokens : out.promptTokens = toBn args.promptTokens.toNat
  completionTokens : out.completionTokens = toBn args.completionTokens.toNat
  chargeAtomic : out.chargeAtomic = toBn args.chargeAtomic.toNat
  receiptHash : out.receiptHash = args.receiptHash.bytes

/-- What the program hashes to check `args` against the accounts named in `input`. -/
def CompactSubmitArgsInput.onChain (input : CompactSubmitArgsInput) (args : SubmitReceiptArgs) :
    Attestation.CompactReceiptHashInputs :=
  ⟨args.requestNonceHash, args.metadataHash, input.providerWallet, input.payerUser, input.usdcMint,
    args.promptTokens, args.completionTokens, args.chargeAtomic⟩

theorem hashReceiptMetadata_eq_ok {metadata : CompactReceiptMetadataInput} {hash : List UInt8} :
    hashReceiptMetadata host json metadata = .ok hash ↔ ∃ text,
      stableMetadataJson json (buildCompactReceiptMetadata metadata) = .ok text ∧
        sha256 host (utf8 text) = hash := by
  simp only [hashReceiptMetadata, bind_eq_ok, pure_eq_ok]

/-- Metadata has a text unless one of its times is not finite. -/
theorem stableMetadataJson_succeeds_iff {metadata : CompactReceiptMetadata} :
    (∃ text, stableMetadataJson json metadata = .ok text) ↔
      (∀ x ∈ metadata.issuedAt, x.IsFinite) ∧ ∀ x ∈ metadata.expiresAt, x.IsFinite := by
  have htime : ∀ o : Option JsNumber, (optional .number o = .undefined ∨
      ∃ text, canonicalizeJson json (optional .number o) = .ok text) ↔ ∀ x ∈ o, x.IsFinite := by
    intro o
    cases o with
    | none => exact ⟨fun _ _ h => (nomatch h), fun _ => Or.inl rfl⟩
    | some x =>
      show (JsValue.number x = .undefined ∨ _) ↔ _
      simp only [reduceCtorEq, false_or, optional, Option.elim_some, canonicalizeJson_number_iff,
        Option.mem_some_iff, forall_eq']
  have htext : ∀ s : JsString, JsValue.string s = .undefined ∨
      ∃ text, canonicalizeJson json (.string s) = .ok text :=
    fun s => Or.inr ⟨_, canonicalizeJson_string s⟩
  have hid : ∀ o : Option JsString, optional .string o = .undefined ∨
      ∃ text, canonicalizeJson json (optional .string o) = .ok text := by
    intro o
    cases o with
    | none => exact Or.inl rfl
    | some s => exact htext s
  rw [stableMetadataJson, canonicalizeJson_object_iff]
  simp only [List.forall_mem_cons, htext, hid, htime, true_and, List.not_mem_nil, false_imp_iff,
    implies_true, and_true]

theorem buildCompactSubmitArgs_carries {TBn : Type} {input : CompactSubmitArgsInput}
    {toBn : ℤ → TBn} {out : CompactSubmitArgs TBn}
    (h : buildCompactSubmitArgs host json input toBn = .ok out) : ∃ args, out.Carries toBn args ∧
      args.receiptHash = Attestation.buildCompactReceiptHash host (input.onChain args) := by
  simp only [buildCompactSubmitArgs, bind_eq_ok, normalizeU64_eq_ok, hashReceiptMetadata_eq_ok,
    buildCompactReceiptHash_eq_ok, pure_eq_ok] at h
  obtain ⟨-, ⟨p, -, rfl⟩, -, ⟨c, -, rfl⟩, -, ⟨a, -, rfl⟩, -, ⟨text, -, rfl⟩, -, ⟨onChain, hd, rfl⟩,
    rfl⟩ := h
  refine ⟨⟨onChain.requestNonceHash, onChain.metadataHash, onChain.promptTokens,
    onChain.completionTokens, onChain.chargeAtomic, _⟩, ⟨hd.requestNonceHash, hd.metadataHash,
      congrArg toBn hd.promptTokens, congrArg toBn hd.completionTokens,
      congrArg toBn hd.chargeAtomic, rfl⟩, ?_⟩
  have hwallet : input.providerWallet = onChain.providerWallet := hd.providerWallet
  have hpayer : input.payerUser = onChain.payerUser := hd.payerUser
  have hmint : input.usdcMint = onChain.usdcMint := hd.usdcMint
  rw [CompactSubmitArgsInput.onChain, hwallet, hpayer, hmint]

theorem buildCompactReceiptHash_succeeds_iff {inputs : CompactReceiptHashInputs} :
    (∃ hash, buildCompactReceiptHash host inputs = .ok hash) ↔
      inputs.requestNonceHash.length = 32 ∧ inputs.metadataHash.length = 32 ∧
        inputs.promptTokens.IsU64 ∧ inputs.completionTokens.IsU64 ∧ inputs.chargeAtomic.IsU64 := by
  simp only [← exists_denotes_iff, buildCompactReceiptHash_eq_ok]
  constructor
  · rintro ⟨-, onChain, h, -⟩
    exact ⟨onChain, h⟩
  · rintro ⟨onChain, h⟩
    exact ⟨_, onChain, h, rfl⟩

/-- The gateway builds arguments unless a number is no integer of 64 bits or a time in the metadata
is not finite. -/
theorem buildCompactSubmitArgs_succeeds_iff {TBn : Type} {input : CompactSubmitArgsInput}
    {toBn : ℤ → TBn} : (∃ out, buildCompactSubmitArgs host json input toBn = .ok out) ↔
      input.promptTokens.IsU64 ∧ input.completionTokens.IsU64 ∧ input.chargeAtomic.IsU64 ∧
        (∀ x ∈ input.metadata.issuedAt, x.IsFinite) ∧
          ∀ x ∈ input.metadata.expiresAt, x.IsFinite := by
  have hmetadata : (∃ text, stableMetadataJson json
        (buildCompactReceiptMetadata (buildCompactReceiptMetadata input.metadata).toInput) =
          .ok text) ↔
      (∀ x ∈ input.metadata.issuedAt, x.IsFinite) ∧ ∀ x ∈ input.metadata.expiresAt, x.IsFinite :=
    stableMetadataJson_succeeds_iff
  rw [← hmetadata]
  simp only [buildCompactSubmitArgs, bind_eq_ok, normalizeU64_eq_ok, hashReceiptMetadata_eq_ok,
    buildCompactReceiptHash_eq_ok, pure_eq_ok]
  constructor
  · rintro ⟨-, -, ⟨p, hp, rfl⟩, -, ⟨c, hc, rfl⟩, -, ⟨a, ha, rfl⟩, -, ⟨text, htext, -⟩, -⟩
    exact ⟨⟨p, hp⟩, ⟨c, hc⟩, ⟨a, ha⟩, text, htext⟩
  · rintro ⟨⟨p, hp⟩, ⟨c, hc⟩, ⟨a, ha⟩, text, htext⟩
    exact ⟨_, _, ⟨p, hp, rfl⟩, _, ⟨c, hc, rfl⟩, _, ⟨a, ha, rfl⟩, _, ⟨text, htext, rfl⟩, _,
      ⟨⟨host.hash _, host.hash _, _, _, _, p, c, a⟩, ⟨rfl, rfl, rfl, rfl, rfl, rfl, rfl, rfl⟩, rfl⟩,
      rfl⟩

/-- **Encoders agree**: the gateway hashes the bytes that the on-chain program hashes, and throws
exactly for a hash that does not have 32 bytes or a number that is no integer of 64 bits (or not a
safe one).  The arguments that it builds for a submission, which it does for all such numbers as
long as the times in the metadata are finite, pass the hash check of the program for the same
accounts. -/
theorem encoders_agree (host : Host) (json : Stringify) :
    (∀ inputs onChain, CompactReceiptHashInputs.Denotes inputs onChain →
      inputs.preimage host = .ok (onChain.preimage host) ∧
      buildCompactReceiptHash host inputs =
        .ok (Attestation.buildCompactReceiptHash host onChain).bytes) ∧
    (∀ inputs, (∃ e, buildCompactReceiptHash host inputs = .error e) ↔
      inputs.requestNonceHash.length ≠ 32 ∨ inputs.metadataHash.length ≠ 32 ∨
        ¬ inputs.promptTokens.IsU64 ∨ ¬ inputs.completionTokens.IsU64 ∨
          ¬ inputs.chargeAtomic.IsU64) ∧
    ∀ (TBn : Type) (input : CompactSubmitArgsInput) (toBn : ℤ → TBn),
      ((∃ e, buildCompactSubmitArgs host json input toBn = .error e) ↔
        ¬ input.promptTokens.IsU64 ∨ ¬ input.completionTokens.IsU64 ∨ ¬ input.chargeAtomic.IsU64 ∨
          (∃ x ∈ input.metadata.issuedAt, ¬ x.IsFinite) ∨
            ∃ x ∈ input.metadata.expiresAt, ¬ x.IsFinite) ∧
      ∀ out, buildCompactSubmitArgs host json input toBn = .ok out →
        ∃ args, out.Carries toBn args ∧ ∀ c now sysvar (ctx : Attestation.SubmitReceipt) s,
          ctx.providerSigner.1 = input.providerWallet → ctx.payerUser = input.payerUser →
          ctx.usdcMint = input.usdcMint →
            Attestation.submitReceipt host c now sysvar ctx args s ≠
              .error (.custom (.code .ReceiptHashMismatch)) := by
  refine ⟨fun inputs onChain h => ⟨preimage_eq_ok.mpr ⟨onChain, h, rfl⟩,
    buildCompactReceiptHash_eq_ok.mpr ⟨onChain, h, rfl⟩⟩, fun inputs => ?_,
    fun TBn input toBn => ⟨?_, fun out hout => ?_⟩⟩
  · rw [throws_iff, buildCompactReceiptHash_succeeds_iff]
    simp only [not_and_or]
  · rw [throws_iff, buildCompactSubmitArgs_succeeds_iff]
    simp only [not_and_or, not_forall, exists_prop]
  · obtain ⟨args, hcarries, hhash⟩ := buildCompactSubmitArgs_carries hout
    refine ⟨args, hcarries, fun c now sysvar ctx s hwallet hpayer hmint => ?_⟩
    refine Attestation.submitReceipt_ne_mismatch ?_
    rw [hhash, hwallet, hpayer, hmint]
    rfl

end Gateway
