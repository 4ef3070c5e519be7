import Clawfarm.Attestation.Admin

/-!
# Attestation.Receipt — submitting, finalizing and closing receipts

The handlers of `instructions/receipt.rs` with their account validation.
-/

namespace Attestation

open Checked

/-! ## Submitting -/

structure SubmitReceipt where
  authority : Pubkey
  /-- The wallet and the signer from which the address of the provider signer is derived. -/
  providerSigner : Pubkey × Pubkey
  payerUser : Pubkey
  feePayer : Pubkey
  paymentDelegate : Pubkey
  payerUsdcToken : Pubkey
  masterpoolProgram : Pubkey
  /-- The wallet from which the address of the provider account is derived. -/
  masterpoolProviderAccount : Pubkey
  masterpoolTreasuryUsdcVault : Pubkey
  masterpoolProviderPendingUsdcVault : Pubkey
  usdcMint : Pubkey

/-- The call of `record_mining_from_receipt`. -/
def SubmitReceipt.economics (ctx : SubmitReceipt) (args : SubmitReceiptArgs) :
    Masterpool.Instruction :=
  .recordMiningFromReceipt
    { attestationConfig := configInfo
      payerUser := ctx.payerUser
      feePayer := ctx.feePayer
      paymentDelegate := ctx.paymentDelegate
      payerUsdcToken := ctx.payerUsdcToken
      providerAccount := ctx.masterpoolProviderAccount
      attestationReceipt := receiptAddress args.requestNonceHash
      treasuryUsdcVault := ctx.masterpoolTreasuryUsdcVault
      providerPendingUsdcVault := ctx.masterpoolProviderPendingUsdcVault
      usdcMint := ctx.usdcMint }
    args.chargeAtomic

/-- `saturating_add` of `i64` -/
def saturatingAdd (left right : ℤ) : ℤ := saturate i64Min i64Max (left + right)

def submitReceipt (host : Host) (c : Signers) (now : ℤ) (sysvar : InstructionsSysvar)
    (ctx : SubmitReceipt) (args : SubmitReceiptArgs) (s : System) : Result System := do
  let config ← loadAsAuthority c ctx.authority s
  requireMasterpool config ctx.masterpoolProgram
  let providerSigner ← load (s.attestation.providerSigners.get ctx.providerSigner)
  constraint (ctx.providerSigner = (providerSigner.providerWallet, providerSigner.signer))
    .ConstraintSeeds
  vacant (s.attestation.receipts.get (receiptAddress args.requestNonceHash))
  c.sign ctx.feePayer
  c.sign ctx.paymentDelegate
  let masterpoolProviderAccount ← load (s.masterpool.providers.get ctx.masterpoolProviderAccount)
  -- the handler
  validateSubmitReceiptArgs args
  ensure (config.isPaused = false) .ProgramPaused
  ensure (providerSigner.status = .Active) .SignerInactive
  ensure (providerSigner.signer ≠ .default) .SignerMismatch
  ensure (providerSigner.attesterTypeMask &&& attesterTypeMask .Gateway ≠ 0)
    .SignerAttesterTypeMismatch
  ensure (providerSigner.validFrom ≤ now) .SignerNotYetValid
  ensure (providerSigner.validUntil = 0 ∨ now ≤ providerSigner.validUntil) .SignerExpired
  let computedReceiptHash := buildCompactReceiptHash host
    { requestNonceHash := args.requestNonceHash
      metadataHash := args.metadataHash
      providerWallet := providerSigner.providerWallet
      payerUser := ctx.payerUser
      usdcMint := ctx.usdcMint
      promptTokens := args.promptTokens
      completionTokens := args.completionTokens
      chargeAtomic := args.chargeAtomic }
  ensure (computedReceiptHash = args.receiptHash) .ReceiptHashMismatch
  ensure (masterpoolProviderAccount.providerWallet = providerSigner.providerWallet)
    .ReceiptIdentityMismatch
  verifyPrecedingEd25519Instruction host sysvar providerSigner.signer args.receiptHash
  let masterpool ← invoke c now (ctx.economics args) s.masterpool
  return {
    masterpool := masterpool
    attestation := { s.attestation with
      receipts := s.attestation.receipts.set (receiptAddress args.requestNonceHash)
        { receiptHash := args.receiptHash
          signer := providerSigner.signer
          payerUser := ctx.payerUser
          providerWallet := providerSigner.providerWallet
          submittedAt := now
          challengeDeadline := saturatingAdd now config.challengeWindowSeconds
          finalizedAt := 0
          status := .Submitted
          economicsSettled := false } } }

/-! ## Finalizing -/

structure FinalizeReceipt where
  authority : Pubkey
  receipt : Pubkey
  masterpoolProgram : Pubkey
  masterpoolProviderPendingUsdcVault : Pubkey
  masterpoolProviderDestinationUsdc : Pubkey
  usdcMint : Pubkey

/-- The call of `settle_finalized_receipt`. -/
def FinalizeReceipt.economics (ctx : FinalizeReceipt) : Masterpool.Instruction :=
  .settleFinalizedReceipt
    { attestationConfig := configInfo
      attestationReceipt := ctx.receipt
      providerPendingUsdcVault := ctx.masterpoolProviderPendingUsdcVault
      providerDestinationUsdc := ctx.masterpoolProviderDestinationUsdc
      usdcMint := ctx.usdcMint }
    ReceiptStatus.Finalized.toU8

/-- `match receipt.status` -/
def finalizeStatus (now : ℤ) (receipt : Receipt) : Result Receipt :=
  match receipt.status with
  | .Submitted => do
    ensure (receipt.challengeDeadline < now) .ChallengeWindowOpen
    return { receipt with status := .Finalized, finalizedAt := now }
  | .Finalized => do
    ensure (receipt.economicsSettled = false) .ReceiptAlreadySettled
    return receipt
  | _ => .error (.custom (.code .ReceiptNotFinalizable))

def finalizeReceipt (c : Signers) (now : ℤ) (ctx : FinalizeReceipt) (s : System) :
    Result System := do
  let config ← loadAsAuthority c ctx.authority s
  let receipt ← load (s.attestation.receipts.get ctx.receipt)
  requireMasterpool config ctx.masterpoolProgram
  -- the handler
  let receipt ← finalizeStatus now receipt
  let masterpool ← invoke c now ctx.economics s.masterpool
  return {
    masterpool := masterpool
    attestation := { s.attestation with
      receipts := s.attestation.receipts.set ctx.receipt
        { receipt with economicsSettled := true } } }

/-! ## Closing -/

structure CloseReceipt where
  authority : Pubkey
  receipt : Pubkey

def ReceiptStatus.IsTerminal (status : ReceiptStatus) : Prop :=
  status = .Finalized ∨ status = .Rejected ∨ status = .Slashed

instance : DecidablePred ReceiptStatus.IsTerminal := fun _ => inferInstanceAs (Decidable (_ ∨ _ ∨ _))

def closeReceipt (c : Signers) (ctx : CloseReceipt) (s : System) : Result System := do
  let _ ← loadAsAuthority c ctx.authority s
  let receipt ← load (s.attestation.receipts.get ctx.receipt)
  ensure receipt.status.IsTerminal .ReceiptNotClosable
  ensure (receipt.economicsSettled = true) .ReceiptEconomicsPending
  return { s with attestation := { s.attestation with
    receipts := s.attestation.receipts.erase ctx.receipt } }

/-! ## What the handlers do -/

/-- What a submission has passed: `e` is the entry of the signer, `p` the account of the provider
and `m` the masterpool after the call. -/
structure Passes (host : Host) (c : Signers) (now : ℤ) (sysvar : InstructionsSysvar)
    (ctx : SubmitReceipt) (args : SubmitReceiptArgs) (s : System) (g : Config) (e : ProviderSigner)
    (p : Masterpool.ProviderAccount) (m : Masterpool.State) : Prop where
  config : s.attestation.config = some g
  signed : ctx.authority ∈ c.keys ∧ g.authority = ctx.authority
  program : g.masterpoolProgram = ctx.masterpoolProgram ∧ ctx.masterpoolProgram = MASTERPOOL_ID
  entry : s.attestation.providerSigners.get ctx.providerSigner = some e
  key : ctx.providerSigner = (e.providerWallet, e.signer)
  fresh : s.attestation.receipts.get (receiptAddress args.requestNonceHash) = none
  payers : ctx.feePayer ∈ c.keys ∧ ctx.paymentDelegate ∈ c.keys
  provider : s.masterpool.providers.get ctx.masterpoolProviderAccount = some p
  tokens : args.promptTokens.toNat + args.completionTokens.toNat < 2 ^ 64
  running : g.isPaused = false
  active : e.status = .Active
  signer : e.signer ≠ .default
  gateway : e.attesterTypeMask &&& attesterTypeMask .Gateway ≠ 0
  validFrom : e.validFrom ≤ now
  validUntil : e.validUntil = 0 ∨ now ≤ e.validUntil
  hash : buildCompactReceiptHash host ⟨args.requestNonceHash, args.metadataHash, e.providerWallet,
    ctx.payerUser, ctx.usdcMint, args.promptTokens, args.completionTokens, args.chargeAtomic⟩ =
      args.receiptHash
  wallet : p.providerWallet = e.providerWallet
  verified : verifyPrecedingEd25519Instruction host sysvar e.signer args.receiptHash = .ok ()
  economics : Masterpool.exec c.withConfig now s.masterpool (ctx.economics args) = .ok m

/-- The receipt that a submission creates. -/
def submitted (now : ℤ) (ctx : SubmitReceipt) (args : SubmitReceiptArgs) (g : Config)
    (e : ProviderSigner) : Receipt :=
  ⟨args.receiptHash, e.signer, ctx.payerUser, e.providerWallet, now,
    saturatingAdd now g.challengeWindowSeconds, 0, .Submitted, false⟩

theorem submitReceipt_iff {host : Host} {c : Signers} {now : ℤ} {sysvar : InstructionsSysvar}
    {ctx : SubmitReceipt} {args : SubmitReceiptArgs} {s s' : System} :
    submitReceipt host c now sysvar ctx args s = .ok s' ↔
      ∃ g e p m, Passes host c now sysvar ctx args s g e p m ∧
        s' = ⟨m, { s.attestation with
          receipts := s.attestation.receipts.set (receiptAddress args.requestNonceHash)
            (submitted now ctx args g e) }⟩ := by
  simp only [submitReceipt, validateSubmitReceiptArgs, bind_eq_ok, loadAsAuthority_eq_ok,
    requireMasterpool_eq_ok, load_eq_ok, constraint_eq_ok, vacant_eq_ok, sign_eq_ok, ensure_eq_ok,
    invoke_eq_ok, exists_unit, pure_eq_ok]
  constructor
  · rintro ⟨g, ⟨hsig, hg, hauth⟩, hprogram, e, he, hkey, hfresh, hfee, hdelegate, p, hp, htokens,
      hrun, hact, hdefault, hgate, hfrom, huntil, hhash, hwallet, hverify, m, hm, rfl⟩
    exact ⟨g, e, p, m, ⟨hg, ⟨hsig, hauth⟩, hprogram, he, hkey, hfresh, ⟨hfee, hdelegate⟩, hp,
      htokens, hrun, hact, hdefault, hgate, hfrom, huntil, hhash, hwallet, hverify, hm⟩, rfl⟩
  · rintro ⟨g, e, p, m, h, rfl⟩
    exact ⟨g, ⟨h.signed.1, h.config, h.signed.2⟩, h.program, e, h.entry, h.key, h.fresh, h.payers.1,
      h.payers.2, p, h.provider, h.tokens, h.running, h.active, h.signer, h.gateway, h.validFrom,
      h.validUntil, h.hash, h.wallet, h.verified, m, h.economics, rfl⟩

/-- The receipt that a submission at `now` creates is due at the end of the challenge window. -/
structure Fresh (now : ℤ) (g : Config) (r : Receipt) : Prop where
  submittedAt : r.submittedAt = now
  deadline : r.challengeDeadline = saturatingAdd now g.challengeWindowSeconds
  status : r.status = .Submitted
  unsettled : r.economicsSettled = false

/-- What a successful submission means: `m` is the masterpool after the call. -/
structure Submits (c : Signers) (now : ℤ) (ctx : SubmitReceipt) (args : SubmitReceiptArgs)
    (s : System) (g : Config) (r : Receipt) (m : Masterpool.State) : Prop where
  config : s.attestation.config = some g
  signed : ctx.authority ∈ c.keys ∧ g.authority = ctx.authority
  fresh : s.attestation.receipts.get (receiptAddress args.requestNonceHash) = none
  receipt : Fresh now g r
  economics : Masterpool.exec c.withConfig now s.masterpool (ctx.economics args) = .ok m

theorem submitReceipt_ok {host : Host} {c : Signers} {now : ℤ} {sysvar : InstructionsSysvar}
    {ctx : SubmitReceipt} {args : SubmitReceiptArgs} {s s' : System}
    (h : submitReceipt host c now sysvar ctx args s = .ok s') :
    ∃ g r m, Submits c now ctx args s g r m ∧
      s' = ⟨m, { s.attestation with
        receipts := s.attestation.receipts.set (receiptAddress args.requestNonceHash) r }⟩ := by
  obtain ⟨g, e, p, m, hpass, rfl⟩ := submitReceipt_iff.mp h
  exact ⟨g, _, m, ⟨hpass.config, hpass.signed, hpass.fresh, ⟨rfl, rfl, rfl, rfl⟩,
    hpass.economics⟩, rfl⟩

/-- A receipt can be finalized after its window if it is submitted, and at any time if a
challenge has been rejected but its economics are still open. -/
inductive Finalizable (now : ℤ) (r : Receipt) : Prop
  | unchallenged (h : r.status = .Submitted) (hnow : r.challengeDeadline < now)
  | rejected (h : r.status = .Finalized) (hset : r.economicsSettled = false)

theorem finalizeStatus_ok {now : ℤ} {r r' : Receipt} (h : finalizeStatus now r = .ok r') :
    Finalizable now r ∧ r'.status = .Finalized ∧ r'.submittedAt = r.submittedAt ∧
      r'.challengeDeadline = r.challengeDeadline := by
  unfold finalizeStatus at h
  split at h
  · rename_i hs
    simp only [bind_eq_ok, ensure_eq_ok, exists_unit, pure_eq_ok] at h
    obtain ⟨hnow, rfl⟩ := h
    exact ⟨.unchallenged hs hnow, rfl, rfl, rfl⟩
  · rename_i hs
    simp only [bind_eq_ok, ensure_eq_ok, exists_unit, pure_eq_ok] at h
    obtain ⟨hset, rfl⟩ := h
    exact ⟨.rejected hs hset, hs, rfl, rfl⟩
  · cases h

/-- What a successful finalization means. -/
structure Finalizes (c : Signers) (now : ℤ) (ctx : FinalizeReceipt) (s : System) (g : Config)
    (r r' : Receipt) (m : Masterpool.State) : Prop where
  config : s.attestation.config = some g
  signed : ctx.authority ∈ c.keys ∧ g.authority = ctx.authority
  receipt : s.attestation.receipts.get ctx.receipt = some r
  finalizable : Finalizable now r
  finalized : r'.status = .Finalized ∧ r'.economicsSettled = true
  times : r'.submittedAt = r.submittedAt ∧ r'.challengeDeadline = r.challengeDeadline
  economics : Masterpool.exec c.withConfig now s.masterpool ctx.economics = .ok m

theorem finalizeReceipt_ok {c : Signers} {now : ℤ} {ctx : FinalizeReceipt} {s s' : System}
    (h : finalizeReceipt c now ctx s = .ok s') :
    ∃ g r r' m, Finalizes c now ctx s g r r' m ∧
      s' = ⟨m, { s.attestation with receipts := s.attestation.receipts.set ctx.receipt r' }⟩ := by
  simp only [finalizeReceipt, bind_eq_ok, loadAsAuthority_eq_ok, requireMasterpool_eq_ok,
    load_eq_ok, invoke_eq_ok, pure_eq_ok] at h
  obtain ⟨g, ⟨hsig, hg, hauth⟩, r, hr, -, -, r', hr', m, hm, rfl⟩ := h
  obtain ⟨hfin, hst, hsub, hdl⟩ := finalizeStatus_ok hr'
  exact ⟨g, r, { r' with economicsSettled := true }, m,
    ⟨hg, ⟨hsig, hauth⟩, hr, hfin, ⟨hst, rfl⟩, ⟨hsub, hdl⟩, hm⟩, rfl⟩

/-- What a successful closing means. -/
structure ClosesReceipt (s : System) (k : Pubkey) (r : Receipt) : Prop where
  config : ∃ g, s.attestation.config = some g
  receipt : s.attestation.receipts.get k = some r
  terminal : r.status.IsTerminal
  settled : r.economicsSettled = true

theorem closeReceipt_ok {c : Signers} {ctx : CloseReceipt} {s s' : System}
    (h : closeReceipt c ctx s = .ok s') : ∃ r, ClosesReceipt s ctx.receipt r ∧
      s' = { s with attestation := { s.attestation with
        receipts := s.attestation.receipts.erase ctx.receipt } } := by
  simp only [closeReceipt, bind_eq_ok, loadAsAuthority_eq_ok, load_eq_ok, ensure_eq_ok,
    exists_unit, pure_eq_ok] at h
  obtain ⟨g, ⟨-, hg, -⟩, r, hr, hterm, hset, rfl⟩ := h
  exact ⟨r, ⟨⟨g, hg⟩, hr, hterm, hset⟩, rfl⟩

end Attestation
