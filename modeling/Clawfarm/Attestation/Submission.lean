import Clawfarm.Attestation.Ed25519
import Clawfarm.Attestation.Receipt

/-!
# Attestation.Submission — what a submission rests on

`submit_receipt` checks the entry of its signer, the preceding signature and the receipt hash
against the accounts that it then has the masterpool charge (`submitReceipt_authorizes`).  A revoked
entry admits no submission until it is written again (`exec_revoked`).
-/

namespace Attestation

open Checked
open Masterpool (ReceiptSettlement)

variable {host : Host} {c : Signers} {now : ℤ} {s s' : System}

/-! ## What a submission checks -/

/-- The entry of a signer admits receipts of the gateway at the time `now`. -/
structure Admits (now : ℤ) (entry : ProviderSigner) : Prop where
  active : entry.status = .Active
  gateway : entry.attesterTypeMask &&& attesterTypeMask .Gateway ≠ 0
  validFrom : entry.validFrom ≤ now
  validUntil : entry.validUntil = 0 ∨ now ≤ entry.validUntil

/-- The inputs of a receipt hash are those of the settlement `x`, in the currency `usdcMint`. -/
structure HashesTo (host : Host) (receiptHash : Bytes32) (x : ReceiptSettlement)
    (usdcMint : Pubkey) (inputs : CompactReceiptHashInputs) : Prop where
  hash : receiptHash = buildCompactReceiptHash host inputs
  providerWallet : inputs.providerWallet = x.providerWallet
  payerUser : inputs.payerUser = x.payerUser
  usdcMint : inputs.usdcMint = usdcMint
  chargeAtomic : inputs.chargeAtomic.toNat = x.usdcTotalPaid

/-- The submission that leads from `s` to `s'` creates the settlement `x`, authorised by
`signer`. -/
structure Authorizes (host : Host) (now : ℤ) (sysvar : InstructionsSysvar) (ctx : SubmitReceipt)
    (args : SubmitReceiptArgs) (s s' : System) (signer : Pubkey) (x : ReceiptSettlement) :
    Prop where
  fresh : s.masterpool.settlements.get (receiptAddress args.requestNonceHash) = none
  created : s'.masterpool.settlements.get (receiptAddress args.requestNonceHash) = some x
  through : ctx.providerSigner = (x.providerWallet, signer)
  entry : ∃ entry, s.attestation.providerSigners.get (x.providerWallet, signer) = some entry ∧
    entry.signer = signer ∧ entry.providerWallet = x.providerWallet ∧ Admits now entry
  attested : ∃ i ix, Attests sysvar i ix (host.bytes signer) args.receiptHash.bytes
  verified : ∀ valid, (∀ i ix, sysvar.currentIndex = some i →
      sysvar.instructions[i - 1]? = some ix → PrecompileAccepts valid sysvar.instructions ix.data) →
    ∃ signature, signature.length = 64 ∧
      valid (host.bytes signer) args.receiptHash.bytes signature
  hash : ∃ g inputs, s.masterpool.config = some g ∧
    HashesTo host args.receiptHash x g.usdcMint inputs
  receipt : ∃ r, s'.attestation.receipts.get (receiptAddress args.requestNonceHash) = some r ∧
    r.receiptHash = args.receiptHash ∧ r.signer = signer ∧ r.payerUser = x.payerUser ∧
    r.providerWallet = x.providerWallet

theorem submitReceipt_authorizes {sysvar : InstructionsSysvar} {ctx : SubmitReceipt}
    {args : SubmitReceiptArgs}
    (h : submitReceipt host c now sysvar ctx args s = .ok s') :
    ∃ signer x, Authorizes host now sysvar ctx args s s' signer x := by
  obtain ⟨config, entry, p, m, hpass, rfl⟩ := submitReceipt_iff.mp h
  obtain ⟨g, pay, p', u, v, t₁, t₂, x, hrec, rfl⟩ :=
    Masterpool.recordMiningFromReceipt_ok hpass.economics
  obtain rfl : p = p' := Option.some.inj (hpass.provider.symm.trans hrec.provider)
  have hx := hrec.settlement
  have hwallet : entry.providerWallet = x.providerWallet := by rw [hx, ← hpass.wallet]; rfl
  have hadmits : Admits now entry :=
    ⟨hpass.active, hpass.gateway, hpass.validFrom, hpass.validUntil⟩
  refine ⟨entry.signer, x, hrec.fresh, Store.get_set_self _ _ _, by rw [hpass.key, hwallet],
    ⟨entry, by rw [← hwallet, ← hpass.key, hpass.entry], rfl, hwallet, hadmits⟩,
    verify_eq_ok.mp hpass.verified, fun valid hacc => ?_, ⟨g, _, hrec.config, hpass.hash.symm,
      hwallet, ?_, hrec.mint, ?_⟩, ⟨_, Store.get_set_self _ _ _, rfl, rfl, ?_, hwallet⟩⟩
  · obtain ⟨i, ix, hatt⟩ := verify_eq_ok.mp hpass.verified
    exact hatt.declares.verified (hacc i ix hatt.current.1 hatt.preceding)
  · rw [hx]
    rfl
  · rw [hx]
    rfl
  · rw [hx]
    rfl

/-! ## The hash check -/

theorem ensure_ne_code {p : Prop} [Decidable p] {e e' : ErrorCode} (h : p ∨ e ≠ e') :
    ensure p e ≠ .error (.custom (.code e')) :=
  ensure_ne_custom (h.imp_right fun hne he => hne (Failure.code.inj he))

/-- A check of something else, and what comes after it. -/
theorem ensure_bind_ne {α : Type} {p : Prop} [Decidable p] {e : ErrorCode} {f : Unit → Result α}
    (h : e ≠ .ReceiptHashMismatch)
    (hf : ∀ x, f x ≠ .error (.custom (.code .ReceiptHashMismatch))) :
    (ensure p e >>= f) ≠ .error (.custom (.code .ReceiptHashMismatch)) :=
  bind_ne_error (ensure_ne_code (Or.inr h)) fun x _ => hf x

theorem orFail_ne_code {α : Type} {o : Option α} {e e' : ErrorCode} (h : e ≠ e') :
    orFail o e ≠ .error (.custom (.code e')) := by
  cases o with
  | some a => exact fun he => nomatch he
  | none => exact fun he => h (Failure.code.inj (ProgramError.custom.inj (Except.error.inj he)))

theorem readSlice_ne {data : List UInt8} {offset len : ℕ} :
    readSlice data offset len ≠ .error (.custom (.code .ReceiptHashMismatch)) :=
  ensure_bind_ne (by decide) fun _ he => nomatch he

theorem readU16Le_ne {data : List UInt8} {offset : ℕ} :
    readU16Le data offset ≠ .error (.custom (.code .ReceiptHashMismatch)) :=
  bind_ne_error readSlice_ne fun _ _ he => nomatch he

theorem verify_ne {sysvar : InstructionsSysvar} {signer : Pubkey} {message : Bytes32} :
    verifyPrecedingEd25519Instruction host sysvar signer message ≠
      .error (.custom (.code .ReceiptHashMismatch)) := by
  refine bind_ne_error (orFail_ne_code (by decide)) fun _ _ => ?_
  refine ensure_bind_ne (by decide) fun _ => ?_
  refine bind_ne_error (orFail_ne_code (by decide)) fun _ _ => ?_
  refine ensure_bind_ne (by decide) fun _ => ensure_bind_ne (by decide) fun _ => ?_
  refine ensure_bind_ne (by decide) fun _ => ensure_bind_ne (by decide) fun _ => ?_
  refine bind_ne_error readU16Le_ne fun _ _ => bind_ne_error readU16Le_ne fun _ _ =>
    bind_ne_error readU16Le_ne fun _ _ => bind_ne_error readU16Le_ne fun _ _ =>
    bind_ne_error readU16Le_ne fun _ _ => bind_ne_error readU16Le_ne fun _ _ =>
    bind_ne_error readU16Le_ne fun _ _ => ?_
  refine ensure_bind_ne (by decide) fun _ => ensure_bind_ne (by decide) fun _ => ?_
  refine bind_ne_error readSlice_ne fun _ _ => bind_ne_error readSlice_ne fun _ _ => ?_
  exact ensure_bind_ne (by decide) fun _ => ensure_ne_code (Or.inr (by decide))

/-- **The hash check** passes if the receipt hash is the hash of what is submitted. -/
theorem submitReceipt_ne_mismatch {sysvar : InstructionsSysvar} {ctx : SubmitReceipt}
    {args : SubmitReceiptArgs} (h : args.receiptHash = buildCompactReceiptHash host
      ⟨args.requestNonceHash, args.metadataHash, ctx.providerSigner.1, ctx.payerUser, ctx.usdcMint,
        args.promptTokens, args.completionTokens, args.chargeAtomic⟩) :
    submitReceipt host c now sysvar ctx args s ≠
      .error (.custom (.code .ReceiptHashMismatch)) := by
  refine bind_ne_error ?_ fun _ _ => ?_
  · refine bind_ne_error constraint_ne_custom fun _ _ => bind_ne_error load_ne_custom fun _ _ => ?_
    exact bind_ne_error constraint_ne_custom fun _ _ he => nomatch he
  refine bind_ne_error (bind_ne_error constraint_ne_custom fun _ _ => constraint_ne_custom)
    fun _ _ => ?_
  refine bind_ne_error load_ne_custom fun entry _ => bind_ne_error constraint_ne_custom
    fun _ hkey => ?_
  refine bind_ne_error constraint_ne_custom fun _ _ => bind_ne_error constraint_ne_custom
    fun _ _ => bind_ne_error constraint_ne_custom fun _ _ => bind_ne_error load_ne_custom
    fun _ _ => ?_
  refine ensure_bind_ne (by decide) fun _ => ensure_bind_ne (by decide) fun _ => ?_
  refine ensure_bind_ne (by decide) fun _ => ensure_bind_ne (by decide) fun _ => ?_
  refine ensure_bind_ne (by decide) fun _ => ensure_bind_ne (by decide) fun _ => ?_
  refine ensure_bind_ne (by decide) fun _ => ?_
  have hwallet : entry.providerWallet = ctx.providerSigner.1 := by
    rw [constraint_eq_ok.mp hkey]
  refine bind_ne_error (ensure_ne_code (Or.inl ?_)) fun _ _ => ensure_bind_ne (by decide)
    fun _ => bind_ne_error verify_ne fun _ _ => bind_ne_error ?_ fun _ _ he => nomatch he
  · rw [h, hwallet]
  · rw [invoke]
    cases Masterpool.exec c.withConfig now s.masterpool (ctx.economics args) with
    | error e => exact fun he => nomatch he
    | ok m => exact fun he => nomatch he

/-! ## Revoked entries -/

def IsRevoked (s : System) (e : Pubkey × Pubkey) : Prop :=
  ∃ entry, s.attestation.providerSigners.get e = some entry ∧ entry.status = .Revoked

theorem revokeProviderSigner_revokes {ctx : RevokeProviderSigner} {signer wallet : Pubkey}
    (h : revokeProviderSigner c ctx signer wallet s = .ok s') : IsRevoked s' (wallet, signer) := by
  obtain ⟨g, p, -, rfl⟩ := revokeProviderSigner_ok h
  exact ⟨_, Store.get_set_self _ _ _, rfl⟩

/-- A revoked entry admits no submission. -/
theorem IsRevoked.blocks {sysvar : InstructionsSysvar} {ctx : SubmitReceipt}
    {args : SubmitReceiptArgs} (hrev : IsRevoked s ctx.providerSigner) :
    submitReceipt host c now sysvar ctx args s ≠ .ok s' := by
  intro h
  obtain ⟨entry, hentry, hst⟩ := hrev
  obtain ⟨signer, x, hauth⟩ := submitReceipt_authorizes h
  obtain ⟨entry', hentry', -, -, hadm⟩ := hauth.entry
  rw [hauth.through] at hentry
  obtain rfl := Option.some.inj (hentry.symm.trans hentry')
  exact nomatch hst.symm.trans hadm.active

end Attestation
