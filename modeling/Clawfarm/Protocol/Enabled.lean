import Clawfarm.Protocol.Hashes
import Clawfarm.Protocol.Liveness

/-!
# Protocol.Enabled — when a receipt is accepted and when it is challenged

Both programs check a submission and an opening: the attestation program first, then the masterpool
program in the call.  In a reached state the two never contradict each other, so what is left are
the conditions of the theorems here.
-/

namespace Protocol

open Checked Attestation
open Masterpool (BondFits BondingCall GlobalConfig Ledgers ProviderAccount RecordFits RecordingCall
  recordedSettlement)
open Token (TokenAccount)

variable {host : Host} {c : Signers} {now : ℤ} {s s' : System}

/-! ## The entries of signers -/

/-- The entries of signers are where their keys say, and none of them is for the default key. -/
def Enrolled (s : System) : Prop :=
  ∀ k e, s.attestation.providerSigners.get k = some e →
    k = (e.providerWallet, e.signer) ∧ e.signer ≠ .default

theorem upsertProviderSigner_enrolled {ctx : UpsertProviderSigner} {args : UpsertProviderSignerArgs}
    (hs : Enrolled s) (h : upsertProviderSigner c ctx args s = .ok s') : Enrolled s' := by
  obtain ⟨g, p, hup, rfl⟩ := upsertProviderSigner_ok h
  refine Store.forall_set hs (fun _ _ => id) ?_
  rw [hup.entry]
  exact ⟨rfl, hup.signer⟩

theorem revokeProviderSigner_enrolled {ctx : RevokeProviderSigner} {signer wallet : Pubkey}
    (hs : Enrolled s) (h : revokeProviderSigner c ctx signer wallet s = .ok s') : Enrolled s' := by
  obtain ⟨g, e, hrev, rfl⟩ := revokeProviderSigner_ok h
  have hold := hs _ e hrev.entry
  exact Store.forall_set hs (fun _ _ => id) hold

theorem exec_enrolled {i : Instruction} (hs : Enrolled s) (h : exec host c now s i = .ok s') :
    Enrolled s' := by
  cases i with
  | initializeConfig ctx args =>
    obtain ⟨g, -, rfl⟩ := initializeConfig_ok h
    exact hs
  | upsertProviderSigner ctx args => exact upsertProviderSigner_enrolled hs h
  | setPause ctx b =>
    obtain ⟨g, -, rfl⟩ := setPause_ok h
    exact hs
  | revokeProviderSigner ctx signer wallet => exact revokeProviderSigner_enrolled hs h
  | submitReceipt sysvar ctx args =>
    obtain ⟨g, r, m, -, rfl⟩ := submitReceipt_ok h
    exact hs
  | openChallenge ctx ty hash =>
    obtain ⟨r, x, m, -, rfl⟩ := openChallenge_ok h
    exact hs
  | resolveChallenge ctx code =>
    obtain ⟨rc, r, x, cs, rs, settled, m, -, -, -, rfl⟩ := resolveChallenge_ok h
    exact hs
  | timeoutRejectChallenge ctx =>
    obtain ⟨r, x, cs, rs, settled, m, -, -, rfl⟩ := timeoutRejectChallenge_ok h
    exact hs
  | finalizeReceipt ctx =>
    obtain ⟨g, r, r', m, -, rfl⟩ := finalizeReceipt_ok h
    exact hs
  | closeChallenge ctx =>
    obtain ⟨x, -, rfl⟩ := closeChallenge_ok h
    exact hs
  | closeReceipt ctx =>
    obtain ⟨r, -, rfl⟩ := closeReceipt_ok h
    exact hs

theorem step_enrolled (hs : Enrolled s) (a : Action) : Enrolled (step host s a) := by
  rcases @step_cases host s a with ⟨e, -, heq⟩ | hok
  · rw [heq]
    exact hs
  · cases a with
    | attestation c now i => exact exec_enrolled hs hok
    | masterpool c now i =>
      obtain ⟨m, -, heq⟩ := execMasterpool_eq_ok.mp hok
      rw [heq]
      exact hs
    | token c i =>
      obtain ⟨m, -, heq⟩ := execMasterpool_eq_ok.mp hok
      rw [heq]
      exact hs

theorem enrolled_init : Enrolled .init := fun _ _ h => by cases h

theorem reached_enrolled (as : List Action) : Enrolled (reached host as) :=
  Machine.run_induction (P := Enrolled) (fun _ a h => step_enrolled h a) enrolled_init as

/-! ## Submitting -/

/-- The accounts of the call of `record_mining_from_receipt`. -/
def recording (ctx : SubmitReceipt) (args : SubmitReceiptArgs) :
    Masterpool.RecordMiningFromReceipt where
  attestationConfig := configInfo
  payerUser := ctx.payerUser
  feePayer := ctx.feePayer
  paymentDelegate := ctx.paymentDelegate
  payerUsdcToken := ctx.payerUsdcToken
  providerAccount := ctx.masterpoolProviderAccount
  attestationReceipt := receiptAddress args.requestNonceHash
  treasuryUsdcVault := ctx.masterpoolTreasuryUsdcVault
  providerPendingUsdcVault := ctx.masterpoolProviderPendingUsdcVault
  usdcMint := ctx.usdcMint

/-- A submission through the entry `e`, under the configs `g` and `m`, that is in order for both
programs: the signatures and accounts are right, and so is the call that records the charge from the
token account `pay` for the provider `p` (its allowance, amount, provider and pause flag). -/
structure SubmissionCall (c : Signers) (ctx : SubmitReceipt) (args : SubmitReceiptArgs) (s : System)
    (g : Config) (m : GlobalConfig) (e : ProviderSigner) (pay : TokenAccount Pubkey)
    (p : ProviderAccount) : Prop where
  config : s.attestation.config = some g
  authority : ctx.authority ∈ c.keys ∧ g.authority = ctx.authority
  program : g.masterpoolProgram = ctx.masterpoolProgram ∧ ctx.masterpoolProgram = MASTERPOOL_ID
  entry : s.attestation.providerSigners.get ctx.providerSigner = some e
  wallet : ctx.masterpoolProviderAccount = e.providerWallet
  signed : ctx.feePayer ∈ c.keys ∧ ctx.paymentDelegate ∈ c.keys
  recording : RecordingCall c.withConfig (recording ctx args) args.chargeAtomic.toNat s.masterpool m
    pay p

/-- The charge of a submission can be booked. -/
def Bookable (now : ℤ) (ctx : SubmitReceipt) (args : SubmitReceiptArgs) (s : System)
    (m : GlobalConfig) (pay : TokenAccount Pubkey) (p : ProviderAccount) : Prop :=
  RecordFits (recording ctx args) args.chargeAtomic.toNat s.masterpool m pay p
    (recordedSettlement m p (receiptAddress args.requestNonceHash) ctx.payerUser now
      args.chargeAtomic.toNat)

/-- The entry admits the receipt, its hash is right and signed, and its charge can be booked. -/
structure SubmissionFits (host : Host) (now : ℤ) (sysvar : InstructionsSysvar) (ctx : SubmitReceipt)
    (args : SubmitReceiptArgs) (s : System) (g : Config) (m : GlobalConfig) (e : ProviderSigner)
    (pay : TokenAccount Pubkey) (p : ProviderAccount) : Prop where
  running : g.isPaused = false
  tokens : args.promptTokens.toNat + args.completionTokens.toNat < 2 ^ 64
  admits : Admits now e
  hash : args.receiptHash = buildCompactReceiptHash host (ctx.inputs args)
  attested : ∃ i ix, Attests sysvar i ix (host.bytes e.signer) args.receiptHash.bytes
  bookable : Bookable now ctx args s m pay p

/-- Where a receipt has no settlement, there is no receipt. -/
theorem Paired.fresh (h : Paired s) {k : Pubkey} (hk : s.masterpool.settlements.get k = none) :
    s.attestation.receipts.get k = none := by
  refine Option.eq_none_iff_forall_ne_some.mpr fun r hr => ?_
  obtain ⟨x, hx, -⟩ := h.parties k r hr
  cases hk.symm.trans hx

theorem SubmissionCall.succeeds_iff (hl : Ledgers s.masterpool) (hs : Enrolled s) (hp : Paired s)
    {sysvar : InstructionsSysvar} {ctx : SubmitReceipt} {args : SubmitReceiptArgs} {g : Config}
    {m : GlobalConfig} {e : ProviderSigner} {pay : TokenAccount Pubkey} {p : ProviderAccount}
    (h : SubmissionCall c ctx args s g m e pay p) :
    (∃ s', submitReceipt host c now sysvar ctx args s = .ok s') ↔
      SubmissionFits host now sysvar ctx args s g m e pay p := by
  have hbook := @RecordingCall.succeeds_iff _ hl _ now _ _ _ _ _ h.recording _ rfl
  obtain ⟨hkey, hdefault⟩ := hs _ e h.entry
  have hwallet := (hl.wf.provider _ p h.recording.provider).wallet
  constructor
  · rintro ⟨s', hok⟩
    obtain ⟨g', e', p', t, hpass, -⟩ := submitReceipt_iff.mp hok
    obtain rfl := Option.some.inj (h.config.symm.trans hpass.config)
    obtain rfl := Option.some.inj (h.entry.symm.trans hpass.entry)
    exact ⟨hpass.running, hpass.tokens,
      ⟨hpass.active, hpass.gateway, hpass.validFrom, hpass.validUntil⟩, submitReceipt_hash hok,
      verify_eq_ok.mp hpass.verified, hbook.mp ⟨t, hpass.economics⟩⟩
  · rintro ⟨hrun, htokens, hadm, hhash, hatt, hfits⟩
    obtain ⟨t, ht⟩ := hbook.mpr hfits
    rw [SubmitReceipt.inputs, hkey] at hhash
    exact ⟨_, submitReceipt_iff.mpr ⟨g, e, p, t,
      { config := h.config
        signed := h.authority
        program := h.program
        entry := h.entry
        key := hkey
        fresh := hp.fresh h.recording.fresh
        payers := h.signed
        provider := h.recording.provider
        tokens := htokens
        running := hrun
        active := hadm.active
        signer := hdefault
        gateway := hadm.gateway
        validFrom := hadm.validFrom
        validUntil := hadm.validUntil
        hash := hhash.symm
        wallet := hwallet.trans h.wallet
        verified := verify_eq_ok.mpr hatt
        economics := ht }, rfl⟩⟩

/-- What is accepted was in order. -/
theorem submitReceipt_call (hl : Ledgers s.masterpool) {sysvar : InstructionsSysvar}
    {ctx : SubmitReceipt} {args : SubmitReceiptArgs}
    (h : submitReceipt host c now sysvar ctx args s = .ok s') :
    ∃ g m e pay p, SubmissionCall c ctx args s g m e pay p := by
  obtain ⟨g, e, p, t, hpass, -⟩ := submitReceipt_iff.mp h
  obtain ⟨m, pay, p', hcall⟩ := Masterpool.recordMiningFromReceipt_call hpass.economics
  obtain rfl : p = p' := Option.some.inj (hpass.provider.symm.trans hcall.provider)
  have hwallet := (hl.wf.provider _ p hpass.provider).wallet
  exact ⟨g, m, e, pay, p, hpass.config, hpass.signed, hpass.program, hpass.entry,
    hwallet.symm.trans hpass.wallet, hpass.payers, hcall⟩

/-- **Submitting**: a submission is accepted exactly if it is in order and fits.  That
the receipt is new to the attestation program, that the entry is where it should be and that no
counter overflows follows from the ledgers of the two programs. -/
theorem submission_accepted_iff (host : Host) (as : List Action) (c : Signers) (now : ℤ)
    (sysvar : InstructionsSysvar) (ctx : SubmitReceipt) (args : SubmitReceiptArgs) :
    (∃ s', submitReceipt host c now sysvar ctx args (reached host as) = .ok s') ↔
      ∃ g m e pay p, SubmissionCall c ctx args (reached host as) g m e pay p ∧
        SubmissionFits host now sysvar ctx args (reached host as) g m e pay p := by
  have hl : Ledgers (reached host as).masterpool := ledgers_of_reached as
  constructor
  · rintro ⟨s', hok⟩
    obtain ⟨g, m, e, pay, p, h⟩ := submitReceipt_call hl hok
    exact ⟨g, m, e, pay, p, h,
      (h.succeeds_iff hl (reached_enrolled as) (reached_paired as)).mp ⟨s', hok⟩⟩
  · rintro ⟨g, m, e, pay, p, h, hfits⟩
    exact (h.succeeds_iff hl (reached_enrolled as) (reached_paired as)).mpr hfits

/-! ## Challenging -/

/-- The accounts of the call of `record_challenge_bond`. -/
def bonding (ctx : OpenChallenge) : Masterpool.RecordChallengeBond where
  attestationConfig := configInfo
  challenger := ctx.challenger
  challengerClawToken := ctx.challengerClawToken
  attestationReceipt := ctx.receipt
  attestationChallenge := challengeAddress ctx.receipt
  challengeBondVault := ctx.masterpoolChallengeBondVault
  clawMint := ctx.clawMint

/-- An opening of a challenge on the receipt `r`, under the configs `g` and `m`, that is in order for
both programs: the signatures and accounts are right, the bond is paid from the token account `y`,
and the processing of challenges is not paused. -/
structure OpeningCall (c : Signers) (ctx : OpenChallenge) (s : System) (g : Config)
    (m : GlobalConfig) (r : Receipt) (y : TokenAccount Pubkey) : Prop where
  config : s.attestation.config = some g
  program : g.masterpoolProgram = ctx.masterpoolProgram ∧ ctx.masterpoolProgram = MASTERPOOL_ID
  pool : s.masterpool.config = some m
  attestation : m.attestationProgram = ATTESTATION_ID
  receipt : IsReceipt s ctx.receipt r
  signed : ctx.challenger ∈ c.keys
  challenger : s.masterpool.tokens.accounts.get ctx.challengerClawToken = some y
  challengerOwner : y.owner = ctx.challenger
  challengerMint : y.mint = m.clawMint
  vault : ctx.masterpoolChallengeBondVault = m.challengeBondVault
  mint : ctx.clawMint = m.clawMint
  unpaused : m.pauseChallengeProcessing = false

/-- The receipt can still be challenged, with a known type, and the challenger can pay the bond. -/
structure OpeningFits (now : ℤ) (ctx : OpenChallenge) (challengeType : UInt8) (s : System)
    (m : GlobalConfig) (r : Receipt) (y : TokenAccount Pubkey) : Prop where
  known : challengeType.toNat < 5
  submitted : r.status = .Submitted
  window : now ≤ r.challengeDeadline
  bond : BondFits (bonding ctx) s.masterpool m y

theorem challengeType_known {value : UInt8} :
    (∃ ty, ChallengeType.tryFrom value = .ok ty) ↔ value.toNat < 5 := by
  have hsmall : ∀ n < 5, ∃ ty, ChallengeType.tryFrom (UInt8.ofNat n) = .ok ty := by
    intro n hn
    interval_cases n
    exacts [⟨_, rfl⟩, ⟨_, rfl⟩, ⟨_, rfl⟩, ⟨_, rfl⟩, ⟨_, rfl⟩]
  constructor
  · rintro ⟨ty, h⟩
    unfold ChallengeType.tryFrom at h
    split_ifs at h with h₀ h₁ h₂ h₃ h₄ <;> subst value <;> decide
  · intro h
    obtain ⟨ty, hty⟩ := hsmall _ h
    rw [UInt8.ofNat_toNat] at hty
    exact ⟨ty, hty⟩

/-- A submitted receipt has an open settlement, and neither challenge nor bond. -/
theorem unchallenged_of_submitted {as : List Action} (hlink : Linked (reached host as))
    {k : Pubkey} {r : Receipt} (hr : IsReceipt (reached host as) k r)
    (hst : r.status = .Submitted) :
    (∃ x, (reached host as).masterpool.settlements.get k = some x ∧ x.status = .Recorded) ∧
      (view (reached host as) k).Unchallenged := by
  obtain ⟨ph, -, hsim⟩ := reached_path as hlink k
  have hshow := hsim.shows
  obtain ⟨t₀, -, hph⟩ := hshow.of_receipt hr
  rw [hst] at hph
  obtain ⟨rfl, -⟩ := hph
  exact ⟨isSettled_iff.mpr hshow.2.1, hshow.2.2⟩

theorem OpeningCall.attested {ctx : OpenChallenge} {g : Config} {m : GlobalConfig} {r : Receipt}
    {y : TokenAccount Pubkey} (h : OpeningCall c ctx s g m r y) :
    configInfo.key = .pda m.attestationProgram .CONFIG_SEED ∧
      configInfo.key ∈ c.withConfig.signers ∧ configInfo.owner = m.attestationProgram := by
  rw [h.attestation]
  exact ⟨rfl, List.mem_cons_self, rfl⟩

theorem OpeningCall.succeeds_iff {as : List Action} {ctx : OpenChallenge} {challengeType : UInt8}
    {evidenceHash : Bytes32} {g : Config} {m : GlobalConfig} {r : Receipt} {y : TokenAccount Pubkey}
    (h : OpeningCall c ctx (reached host as) g m r y) :
    (∃ s', openChallenge c now ctx challengeType evidenceHash (reached host as) = .ok s') ↔
      OpeningFits now ctx challengeType (reached host as) m r y := by
  have hl : Ledgers (reached host as).masterpool := ledgers_of_reached as
  have hlink := linked_of_config h.pool h.attestation
  -- for a submitted receipt the bond passes the checks of the masterpool program
  have hbonding : r.status = .Submitted →
      ((∃ t, Masterpool.recordChallengeBond c.withConfig now (bonding ctx)
        (reached host as).masterpool = .ok t) ↔
          BondFits (bonding ctx) (reached host as).masterpool m y) := fun hst => by
    obtain ⟨⟨x, hx, hrec⟩, -, hbond⟩ := unchallenged_of_submitted hlink h.receipt hst
    exact BondingCall.succeeds_iff hl ⟨h.pool, h.attested, List.mem_cons_of_mem _ h.signed,
      h.challenger, h.challengerOwner, h.challengerMint, hx, hrec, hbond, h.vault, h.mint,
      h.unpaused⟩
  constructor
  · rintro ⟨s', hok⟩
    obtain ⟨g', r', q, ty, t, hpass, -⟩ := openChallenge_iff.mp hok
    obtain rfl := Option.some.inj (h.receipt.symm.trans hpass.receipt)
    exact ⟨challengeType_known.mp ⟨ty, hpass.type⟩, hpass.submitted, hpass.window,
      (hbonding hpass.submitted).mp ⟨t, hpass.economics⟩⟩
  · rintro ⟨hty, hst, hwin, hbond⟩
    obtain ⟨ty, hty⟩ := challengeType_known.mpr hty
    obtain ⟨t, ht⟩ := (hbonding hst).mpr hbond
    obtain ⟨-, hvacant, -⟩ := unchallenged_of_submitted hlink h.receipt hst
    have hcfg := hl.wf.sound.config m h.pool
    obtain ⟨z, hz, -⟩ := hcfg.bond
    obtain ⟨n, hn, -⟩ := hcfg.clawMint
    rw [← hcfg.challengeBondVault, ← h.vault] at hz
    rw [← h.mint] at hn
    exact ⟨_, openChallenge_iff.mpr ⟨g, r, m, ty, t,
      { signed := h.signed
        config := h.config
        receipt := h.receipt
        fresh := hvacant
        token := ⟨y, h.challenger⟩
        pool := h.pool
        program := h.program
        vault := ⟨z, hz⟩
        mint := ⟨n, hn⟩
        type := hty
        submitted := hst
        window := hwin
        economics := ht }, rfl⟩⟩

/-- What is opened was in order. -/
theorem openChallenge_call {ctx : OpenChallenge} {challengeType : UInt8} {evidenceHash : Bytes32}
    (h : openChallenge c now ctx challengeType evidenceHash s = .ok s') :
    ∃ g m r y, OpeningCall c ctx s g m r y := by
  obtain ⟨g, r, q, ty, t, hpass, -⟩ := openChallenge_iff.mp h
  obtain ⟨m, x, y, hcall⟩ := Masterpool.recordChallengeBond_call hpass.economics
  exact ⟨g, m, r, y, hpass.config, hpass.program, hcall.config, hcall.attestation.2.2.symm,
    hpass.receipt, hpass.signed, hcall.challenger, hcall.challengerOwner, hcall.challengerMint,
    hcall.vault, hcall.mint, hcall.unpaused⟩

/-- **Challenging**: a challenge is opened exactly if the call is in order and it fits.  The
masterpool program has no say but about the payment: that the settlement is open and that neither a
challenge nor a bond is there follows from the status of the receipt. -/
theorem opening_accepted_iff (host : Host) (as : List Action) (c : Signers) (now : ℤ)
    (ctx : OpenChallenge) (challengeType : UInt8) (evidenceHash : Bytes32) :
    (∃ s', openChallenge c now ctx challengeType evidenceHash (reached host as) = .ok s') ↔
      ∃ g m r y, OpeningCall c ctx (reached host as) g m r y ∧
        OpeningFits now ctx challengeType (reached host as) m r y := by
  constructor
  · rintro ⟨s', hok⟩
    obtain ⟨g, m, r, y, h⟩ := openChallenge_call hok
    exact ⟨g, m, r, y, h, h.succeeds_iff.mp ⟨s', hok⟩⟩
  · rintro ⟨g, m, r, y, h, hfits⟩
    exact h.succeeds_iff.mpr hfits

end Protocol
