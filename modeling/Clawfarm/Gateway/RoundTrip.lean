import Clawfarm.Gateway.Lookup
import Clawfarm.Gateway.Metadata
import Clawfarm.Protocol.Enabled
import Clawfarm.Protocol.Owners

/-!
# Gateway.RoundTrip — what the gateway builds is accepted and found again

The gateway builds the arguments of a submission, the signer of the provider signs their hash, both
programs check them, and the gateway looks the receipt up by the same hash.  For built and signed
arguments the checks of the hash and of the signature never fail, and the lookup returns the address
of the receipt until the receipt is closed.
-/

namespace Gateway

open Checked
open Attestation (Admits Attests ED25519_PROGRAM_ID Host InstructionsSysvar ProviderSigner
  ReceiptsMarked StoredAs SubmitReceipt SubmitReceiptArgs ed25519IxData receiptAddress
  submitReceipt)
open Masterpool (GlobalConfig ProviderAccount)
open Protocol (Action Bookable IsReceipt NoCollisions SubmissionCall SubmissionFits hashedInputs
  reached receipt_unique)
open Token (TokenAccount)

variable {host : Host} {json : Stringify} {TBn : Type} {toBn : ℤ → TBn}
  {input : CompactSubmitArgsInput} {out : CompactSubmitArgs TBn} {args : SubmitReceiptArgs}

/-! ## Sending -/

/-- The submission names the accounts that the arguments were built for. -/
structure Names (input : CompactSubmitArgsInput) (ctx : SubmitReceipt) : Prop where
  providerWallet : ctx.providerSigner.1 = input.providerWallet
  payerUser : ctx.payerUser = input.payerUser
  usdcMint : ctx.usdcMint = input.usdcMint

/-- The instruction before the submission has `signer` sign the built hash. -/
def Signed (host : Host) (sysvar : InstructionsSysvar) (signer : Pubkey)
    (out : CompactSubmitArgs TBn) : Prop :=
  ∃ i signature, sysvar.currentIndex = some i ∧ 0 < i ∧ signature.length = 64 ∧
    sysvar.instructions[i - 1]? = some ⟨ED25519_PROGRAM_ID, [],
      ed25519IxData (host.bytes signer) signature out.receiptHash⟩

/-- What else a submission needs: the programs run, the entry `e` admits the receipt, and its charge
can be booked. -/
structure Sendable (now : ℤ) (ctx : SubmitReceipt) (args : SubmitReceiptArgs)
    (s : Attestation.System) (g : Attestation.Config) (m : GlobalConfig) (e : ProviderSigner)
    (pay : TokenAccount Pubkey) (p : ProviderAccount) : Prop where
  running : g.isPaused = false
  tokens : args.promptTokens.toNat + args.completionTokens.toNat < 2 ^ 64
  admits : Admits now e
  bookable : Bookable now ctx args s m pay p

theorem Signed.attests {sysvar : InstructionsSysvar} {signer : Pubkey}
    (h : Signed host sysvar signer out) (hhash : out.receiptHash = args.receiptHash.bytes) :
    ∃ i ix, Attests sysvar i ix (host.bytes signer) args.receiptHash.bytes := by
  obtain ⟨i, signature, hi, hpos, hlength, hix⟩ := h
  rw [hhash] at hix
  exact ⟨i, _, ⟨hi, hpos⟩, hix, rfl, rfl, Attestation.ed25519IxData_declares
    (host.bytes_length signer) hlength args.receiptHash.length_eq⟩

/-- The hash that the program checks is the one that the gateway has built. -/
theorem Names.hash {ctx : SubmitReceipt} (h : Names input ctx)
    (hhash : args.receiptHash = Attestation.buildCompactReceiptHash host (input.onChain args)) :
    args.receiptHash = Attestation.buildCompactReceiptHash host (ctx.inputs args) := by
  rw [hhash, CompactSubmitArgsInput.onChain, SubmitReceipt.inputs, h.providerWallet, h.payerUser,
    h.usdcMint]

/-! ## After the submission -/

/-- The receipt `k`, if it is still there, is the one with the hash `hash`, and no other can take
its place. -/
structure Kept (k : Pubkey) (hash : Bytes32) (s : Attestation.System) : Prop where
  wf : Masterpool.Wf s.masterpool
  settled : ∃ x, s.masterpool.settlements.get k = some x
  hash : ∀ r, IsReceipt s k r → r.receiptHash = hash

theorem step_kept {k : Pubkey} {hash : Bytes32} {s : Attestation.System} (h : Kept k hash s)
    (a : Action) : Kept k hash (Protocol.step host s a) := by
  obtain ⟨x, hx⟩ := h.settled
  obtain ⟨x', hx', -⟩ := (@Protocol.step_grows host s h.wf a).settlements k x hx
  refine ⟨Protocol.step_wf h.wf a, ⟨x', hx'⟩, fun r' hr' => ?_⟩
  rcases Protocol.step_receipt hr' with ⟨r, hr, hsame⟩ | ⟨c, now, sysvar, ctx, args, rfl, rfl, hok⟩
  · exact hsame.receiptHash.trans (h.hash r hr)
  · obtain ⟨signer, y, hauth⟩ := Attestation.submitReceipt_authorizes hok
    cases hauth.fresh.symm.trans hx

theorem run_kept {k : Pubkey} {hash : Bytes32} {s : Attestation.System} (h : Kept k hash s)
    (bs : List Action) : Kept k hash (Machine.run (Protocol.step host) s bs) :=
  Machine.run_induction (P := Kept k hash) (fun _ a hs => step_kept hs a) h bs

/-- A submission that succeeds leaves its receipt. -/
theorem submitReceipt_kept {c : Attestation.Signers} {now : ℤ} {sysvar : InstructionsSysvar}
    {ctx : SubmitReceipt} {s s' : Attestation.System} (hw : Masterpool.Wf s'.masterpool)
    (h : submitReceipt host c now sysvar ctx args s = .ok s') :
    Kept (receiptAddress args.requestNonceHash) args.receiptHash s' := by
  obtain ⟨signer, x, hauth⟩ := Attestation.submitReceipt_authorizes h
  obtain ⟨r, hr, hhash, -⟩ := hauth.receipt
  refine ⟨hw, ⟨x, hauth.created⟩, fun r' hr' => ?_⟩
  rwa [Option.some.inj (hr'.symm.trans hr)]

/-- What a submission of the run has hashed. -/
theorem mem_hashedInputs {as bs : List Action} {c : Attestation.Signers} {now : Int64}
    {sysvar : InstructionsSysvar} {ctx : SubmitReceipt} {s' : Attestation.System}
    (h : (Action.attestation c now (.submitReceipt sysvar ctx args)).exec host (reached host as) =
      .ok s') : ctx.inputs args ∈
        hashedInputs host (as ++ .attestation c now (.submitReceipt sysvar ctx args) :: bs) := by
  rw [hashedInputs, Machine.emitted_append]
  refine List.mem_append_right _ (List.mem_append_left _ ?_)
  show ctx.inputs args ∈ Protocol.hashedBy host (reached host as) _
  rw [Protocol.hashedBy, h]
  exact List.mem_singleton.mpr rfl

/-! ## The round trip -/

/-- What becomes of the arguments `args` that `out` carries: a signed submission is accepted exactly
if its accounts are in order and it is sendable, and in every state after it a lookup of the built
hash finds the receipt as long as it is there. -/
structure RoundTrips (host : Host) (input : CompactSubmitArgsInput) (out : CompactSubmitArgs TBn)
    (args : SubmitReceiptArgs) : Prop where
  accepted : ∀ as c now sysvar ctx, Names input ctx → Signed host sysvar ctx.providerSigner.2 out →
    ((∃ s', submitReceipt host c now sysvar ctx args (reached host as) = .ok s') ↔
      ∃ g m e pay p, SubmissionCall c ctx args (reached host as) g m e pay p ∧
        Sendable now ctx args (reached host as) g m e pay p)
  found : ∀ as bs c now sysvar ctx s' run,
    (Action.attestation c now (.submitReceipt sysvar ctx args)).exec host (reached host as) =
      .ok s' →
    run = as ++ .attestation c now (.submitReceipt sysvar ctx args) :: bs →
    NoCollisions host (hashedInputs host run) → ∀ bs58 connection accounts, ReceiptsMarked host →
      StoredAs host (reached host run).attestation accounts →
      Connection.Serves connection bs58 ATTESTATION_ID accounts → ∃ found,
        findReceiptByHash host bs58 connection ATTESTATION_ID out.receiptHash = .ok found ∧
        ∀ k, found = some k ↔
          k = receiptAddress args.requestNonceHash ∧ ∃ r, IsReceipt (reached host run) k r

theorem accepted_of_carries (hcarries : out.Carries toBn args)
    (hhash : args.receiptHash = Attestation.buildCompactReceiptHash host (input.onChain args))
    (as : List Action) (c : Attestation.Signers) (now : ℤ) (sysvar : InstructionsSysvar)
    (ctx : SubmitReceipt) (hnames : Names input ctx)
    (hsigned : Signed host sysvar ctx.providerSigner.2 out) :
    (∃ s', submitReceipt host c now sysvar ctx args (reached host as) = .ok s') ↔
      ∃ g m e pay p, SubmissionCall c ctx args (reached host as) g m e pay p ∧
        Sendable now ctx args (reached host as) g m e pay p := by
  have hl : Masterpool.Ledgers (reached host as).masterpool := Protocol.ledgers_of_reached as
  have hs : Protocol.Enrolled (reached host as) := Protocol.reached_enrolled as
  have hp : Protocol.Paired (reached host as) := Protocol.reached_paired as
  constructor
  · rintro ⟨s', hok⟩
    obtain ⟨g, m, e, pay, p, h⟩ := Protocol.submitReceipt_call hl hok
    obtain ⟨hrun, htokens, hadm, -, -, hbook⟩ := (h.succeeds_iff hl hs hp).mp ⟨s', hok⟩
    exact ⟨g, m, e, pay, p, h, hrun, htokens, hadm, hbook⟩
  · rintro ⟨g, m, e, pay, p, h, hrun, htokens, hadm, hbook⟩
    obtain ⟨hkey, -⟩ := hs _ e h.entry
    rw [hkey] at hsigned
    exact (h.succeeds_iff hl hs hp).mpr ⟨hrun, htokens, hadm, hnames.hash hhash,
      hsigned.attests hcarries.receiptHash, hbook⟩

theorem found_of_carries (hcarries : out.Carries toBn args) {as bs run : List Action}
    {c : Attestation.Signers} {now : Int64} {sysvar : InstructionsSysvar} {ctx : SubmitReceipt}
    {s' : Attestation.System}
    (h : (Action.attestation c now (.submitReceipt sysvar ctx args)).exec host (reached host as) =
      .ok s') (hrun : run = as ++ .attestation c now (.submitReceipt sysvar ctx args) :: bs)
    (hcollisions : NoCollisions host (hashedInputs host run)) {bs58 : Bs58}
    {connection : Connection} {accounts : Pubkey → Option (List UInt8)}
    (hmarked : ReceiptsMarked host) (hstored : StoredAs host (reached host run).attestation accounts)
    (hserves : connection.Serves bs58 ATTESTATION_ID accounts) : ∃ found,
      findReceiptByHash host bs58 connection ATTESTATION_ID out.receiptHash = .ok found ∧
      ∀ k, found = some k ↔
        k = receiptAddress args.requestNonceHash ∧ ∃ r, IsReceipt (reached host run) k r := by
  have hinputs : ctx.inputs args ∈ hashedInputs host run := hrun ▸ mem_hashedInputs h
  have hkept : Kept (receiptAddress args.requestNonceHash) args.receiptHash (reached host run) := by
    have hp : Protocol.Paired (reached host as) := Protocol.reached_paired as
    have hw := @Protocol.step_wf host _ hp.wf (.attestation c now (.submitReceipt sysvar ctx args))
    rw [Protocol.step_of_ok h] at hw
    rw [hrun, reached, Machine.run_append, Machine.run_cons, ← reached, Protocol.step_of_ok h]
    exact run_kept (submitReceipt_kept hw h) bs
  obtain ⟨found, hfound, hiff⟩ := findReceiptByHash_eq_ok hmarked hstored hserves
    args.receiptHash.length_eq fun k k' r r' hr hr' he he' =>
      (receipt_unique hcollisions hr hr' (Attestation.bytes32_ext (he.trans he'.symm))).1
  rw [hcarries.receiptHash]
  refine ⟨found, hfound, fun k => (hiff k).trans ?_⟩
  constructor
  · rintro ⟨r, hr, he⟩
    refine ⟨?_, r, hr⟩
    -- another receipt with the hash would be a collision with what was submitted
    obtain ⟨i, hi, rfl, hhash⟩ := Protocol.reached_receipt_hashed hr
    have hsame := Attestation.preimage_inj (hcollisions i hi _ hinputs
      (hhash.symm.trans ((Attestation.bytes32_ext he).trans (Attestation.submitReceipt_hash h))))
    exact congrArg receiptAddress hsame.requestNonceHash
  · rintro ⟨rfl, r, hr⟩
    exact ⟨r, hr, congrArg Bytes32.bytes (hkept.hash r hr)⟩

/-- **Round trip**: whatever the gateway builds, its signed submission is refused neither for its
hash nor for its signature, and once it is accepted its hash leads back to the receipt, and to no
other one, for as long as the receipt exists. -/
theorem built_receipt_round_trips (host : Host) (json : Stringify) {TBn : Type} {toBn : ℤ → TBn}
    {input : CompactSubmitArgsInput} {out : CompactSubmitArgs TBn}
    (h : buildCompactSubmitArgs host json input toBn = .ok out) :
    ∃ args, out.Carries toBn args ∧ RoundTrips host input out args := by
  obtain ⟨args, hcarries, hhash⟩ := buildCompactSubmitArgs_carries h
  exact ⟨args, hcarries, accepted_of_carries hcarries hhash,
    fun _ _ _ _ _ _ _ _ hok hrun hcollisions _ _ _ hmarked hstored hserves =>
      found_of_carries hcarries hok hrun hcollisions hmarked hstored hserves⟩

/-! ## A receipt of the gateway

The provider's signer of `Protocol.Owners` attests a receipt that the gateway has built. -/

open Masterpool (RecordingCall wallet)
open Protocol (enrolment gateway nonce recording sampleHost)

/-- The arguments are determined by what carries them. -/
theorem carries_unique {args' : SubmitReceiptArgs} (hinj : Function.Injective toBn)
    (h : out.Carries toBn args) (h' : out.Carries toBn args') : args = args' := by
  have hword : ∀ {n n' : UInt64}, toBn n.toNat = toBn n'.toNat → n = n' := fun he =>
    UInt64.toNat_inj.mp (Int.ofNat.inj (hinj he))
  cases args
  cases args'
  rw [Attestation.SubmitReceiptArgs.mk.injEq]
  exact ⟨Attestation.bytes32_ext (h.requestNonceHash.symm.trans h'.requestNonceHash),
    Attestation.bytes32_ext (h.metadataHash.symm.trans h'.metadataHash),
    hword (h.promptTokens.symm.trans h'.promptTokens),
    hword (h.completionTokens.symm.trans h'.completionTokens),
    hword (h.chargeAtomic.symm.trans h'.chargeAtomic),
    Attestation.bytes32_ext (h.receiptHash.symm.trans h'.receiptHash)⟩

/-- An object whose entries are a permutation of sorted ones. -/
theorem sortedEntries_eq {entries : List (JsString × JsValue)}
    {sorted : List (JsString × Except Thrown JsString)}
    (hperm : (canonicalizeEntries json entries).Perm sorted)
    (hsorted : sorted.Pairwise fun left right => left.1 < right.1) :
    sortedEntries json entries = sorted := by
  have hne : sorted.Pairwise fun left right => left.1 ≠ right.1 := hsorted.imp fun h he => by
    rw [he] at h
    exact List.lt_irrefl _ h
  have hnodup : (sorted.map Prod.fst).Nodup := List.pairwise_map.mpr hne
  have hsame : (sortedEntries json entries).Perm sorted := (List.mergeSort_perm _ _).trans hperm
  refine hsame.eq_of_pairwise ?_ (pairwise_sortedEntries entries)
    (hsorted.imp fun h => List.le_of_lt h)
  intro a b ha hb hab hba
  exact List.inj_on_of_nodup_map hnodup (hsame.mem_iff.mp ha) hb (List.le_antisymm hab hba)

def builtInput : CompactSubmitArgsInput where
  requestNonce := js "request-1"
  metadata := ⟨none, js "proof-1", js "provider-1", none, none, none, js "model-1", none, none, none⟩
  providerWallet := wallet 5
  payerUser := wallet 7
  usdcMint := wallet 3
  promptTokens := .number (.finite 700)
  completionTokens := .number (.finite 300)
  chargeAtomic := .bigint 1000000

def builtText : JsString :=
  js "\x7b\"attester_type\":\"gateway\",\"model\":\"model-1\",\"proof_id\":\"proof-1\"," ++
  js "\"proof_mode\":\"sig_log\",\"provider_code\":\"provider-1\"," ++
  js "\"schema\":\"clawfarm-receipt-metadata/v2\",\"usage_basis\":\"provider_reported\"\x7d"

/-- The SHA-256 digests of the nonce, of the metadata and of the receipt. -/
def builtArgs : SubmitReceiptArgs where
  requestNonceHash :=
    ⟨[25, 241, 6, 75, 97, 157, 73, 211, 83, 146, 234, 199, 38, 28, 215, 38, 108, 114, 6, 113, 252,
      89, 79, 75, 34, 111, 50, 191, 11, 238, 116, 186], rfl⟩
  metadataHash :=
    ⟨[201, 247, 165, 79, 5, 29, 248, 196, 97, 254, 165, 166, 223, 177, 167, 84, 28, 118, 227, 161,
      1, 17, 241, 120, 242, 225, 234, 25, 213, 92, 194, 54], rfl⟩
  promptTokens := 700
  completionTokens := 300
  chargeAtomic := 1000000
  receiptHash :=
    ⟨[240, 226, 156, 174, 210, 25, 219, 224, 240, 153, 150, 215, 255, 172, 150, 9, 99, 229, 97, 218,
      123, 202, 166, 14, 35, 83, 34, 229, 33, 65, 118, 24], rfl⟩

/-- SHA-256 on what is hashed here, where all addresses that are hashed are ordinary keys. -/
def builtHost : Host where
  hash data := (((utf8 builtInput.requestNonce, builtArgs.requestNonceHash) ::
    (utf8 builtText, builtArgs.metadataHash) ::
    ((builtInput.onChain builtArgs).preimage sampleHost, builtArgs.receiptHash) ::
    digests).find? fun p => p.1 = data).elim (nonce 0) (·.2)
  derived _ := nonce 0

def builtOut : CompactSubmitArgs ℤ where
  requestNonceHash := builtArgs.requestNonceHash.bytes
  metadataHash := builtArgs.metadataHash.bytes
  promptTokens := 700
  completionTokens := 300
  chargeAtomic := 1000000
  receiptHash := builtArgs.receiptHash.bytes

theorem stableMetadataJson_built : stableMetadataJson plainStringify
    (buildCompactReceiptMetadata builtInput.metadata) = .ok builtText := by
  refine canonicalizeJson_object_eq_ok.mpr ⟨[(js "attester_type", js "\"gateway\""),
    (js "model", js "\"model-1\""), (js "proof_id", js "\"proof-1\""),
    (js "proof_mode", js "\"sig_log\""), (js "provider_code", js "\"provider-1\""),
    (js "schema", js "\"clawfarm-receipt-metadata/v2\""),
    (js "usage_basis", js "\"provider_reported\"")], sortedEntries_eq ?_ ?_, by decide +kernel⟩
  · simp only [canonicalizeEntries, Gateway.optional, buildCompactReceiptMetadata, builtInput,
      Option.elim_none, canonicalizeJson]
    decide +kernel
  · decide +kernel

theorem buildCompactSubmitArgs_built :
    buildCompactSubmitArgs builtHost plainStringify builtInput id = .ok builtOut := by
  have hnonce : hashRequestNonce builtHost builtInput.requestNonce =
      builtArgs.requestNonceHash.bytes := by decide +kernel
  simp only [buildCompactSubmitArgs, bind_eq_ok, hashReceiptMetadata_eq_ok, hnonce, pure_eq_ok]
  exact ⟨700, by decide +kernel, 300, by decide +kernel, 1000000, by decide +kernel,
    builtArgs.metadataHash.bytes, ⟨builtText, stableMetadataJson_built, by decide +kernel⟩,
    builtArgs.receiptHash.bytes, by decide +kernel, rfl⟩

def builtTransaction : InstructionsSysvar where
  currentIndex := some 1
  instructions := [⟨ED25519_PROGRAM_ID, [], ed25519IxData (nonce 4).bytes (List.replicate 64 0)
    builtOut.receiptHash⟩, ⟨ATTESTATION_ID, [], []⟩]

def builtContext : SubmitReceipt :=
  ⟨wallet 1, (wallet 5, wallet 4), wallet 7, wallet 1, wallet 9, wallet 8, MASTERPOOL_ID, wallet 5,
    Masterpool.treasuryUsdcVault, Masterpool.providerPendingUsdcVault, wallet 3⟩

/-! ### The accounts of the submission -/

def builtBefore : Attestation.System := reached builtHost enrolment

def builtConfig : Attestation.Config := builtBefore.attestation.config.get (by decide +kernel)

def builtPool : GlobalConfig := builtBefore.masterpool.config.get (by decide +kernel)

def builtEntry : ProviderSigner :=
  (builtBefore.attestation.providerSigners.get (wallet 5, wallet 4)).get (by decide +kernel)

def builtPayment : TokenAccount Pubkey :=
  (builtBefore.masterpool.tokens.accounts.get (wallet 8)).get (by decide +kernel)

def builtProvider : ProviderAccount :=
  (builtBefore.masterpool.providers.get (wallet 5)).get (by decide +kernel)

theorem built_recording : RecordingCall gateway.withConfig (recording builtContext builtArgs)
    builtArgs.chargeAtomic.toNat builtBefore.masterpool builtPool builtPayment builtProvider where
  config := by decide +kernel
  attestation := by decide +kernel
  signed := by decide +kernel
  payer := by decide +kernel
  payerOwner := by decide +kernel
  payerMint := by decide +kernel
  delegate := by decide +kernel
  allowance := by decide +kernel
  provider := by decide +kernel
  active := by decide +kernel
  fresh := by decide +kernel
  vaults := by decide +kernel
  mint := by decide +kernel
  unpaused := by decide +kernel
  positive := by decide +kernel
  supported := by decide +kernel

theorem built_call : SubmissionCall gateway builtContext builtArgs builtBefore builtConfig builtPool
    builtEntry builtPayment builtProvider where
  config := by decide +kernel
  authority := by decide +kernel
  program := by decide +kernel
  entry := by decide +kernel
  wallet := by decide +kernel
  signed := by decide +kernel
  recording := built_recording

theorem built_bookable :
    Bookable 10 builtContext builtArgs builtBefore builtPool builtPayment builtProvider :=
  ⟨by decide +kernel, by decide +kernel, by decide +kernel, by decide +kernel, by decide +kernel,
    by decide +kernel⟩

theorem built_sendable : Sendable 10 builtContext builtArgs builtBefore builtConfig builtPool
    builtEntry builtPayment builtProvider where
  running := by decide +kernel
  tokens := by decide +kernel
  admits := ⟨by decide +kernel, by decide +kernel, by decide +kernel, by decide +kernel⟩
  bookable := built_bookable

theorem built_signed : Signed builtHost builtTransaction builtContext.providerSigner.2 builtOut :=
  ⟨1, List.replicate 64 0, rfl, by decide, rfl, rfl⟩

/-! ### The accounts after it -/

def builtRun : List Action :=
  enrolment ++ [.attestation gateway 10 (.submitReceipt builtTransaction builtContext builtArgs)]

def builtKey : Pubkey := receiptAddress builtArgs.requestNonceHash

def builtAccounts : Pubkey → Option (List UInt8) :=
  storedAccounts builtHost (reached builtHost builtRun).attestation

def builtNode : Connection :=
  node base58 ATTESTATION_ID [builtKey, Attestation.configAddress] builtAccounts

theorem built_marked : ReceiptsMarked builtHost :=
  ⟨by decide +kernel, by decide +kernel, by decide +kernel, by decide +kernel⟩

theorem built_served : builtNode.Serves base58 ATTESTATION_ID builtAccounts :=
  node_storedAccounts_serves (by decide +kernel) (by decide +kernel) (by decide +kernel)
    (by decide +kernel)

/-- The built receipt is accepted and found. -/
theorem built_receipt_found : (∃ s', submitReceipt builtHost gateway 10 builtTransaction
    builtContext builtArgs (reached builtHost enrolment) = .ok s') ∧
      findReceiptByHash builtHost base58 builtNode ATTESTATION_ID builtOut.receiptHash =
        .ok (some builtKey) := by
  obtain ⟨args, hcarries, htrips⟩ :=
    built_receipt_round_trips builtHost plainStringify buildCompactSubmitArgs_built
  obtain rfl : builtArgs = args :=
    carries_unique Function.injective_id ⟨rfl, rfl, rfl, rfl, rfl, rfl⟩ hcarries
  have hok := (htrips.accepted enrolment gateway 10 builtTransaction builtContext ⟨rfl, rfl, rfl⟩
    built_signed).mpr ⟨_, _, _, _, _, built_call, built_sendable⟩
  refine ⟨hok, ?_⟩
  obtain ⟨s', hs'⟩ := hok
  obtain ⟨found, hfound, hiff⟩ := htrips.found enrolment [] gateway 10 builtTransaction
    builtContext s' builtRun hs' rfl (by decide +kernel) base58 builtNode builtAccounts
    built_marked (storedAccounts_storedAs _ _) built_served
  rw [hfound, (hiff builtKey).mpr ⟨rfl, ((reached builtHost builtRun).attestation.receipts.get
    builtKey).get (by decide +kernel), (Option.some_get _).symm⟩]

end Gateway
