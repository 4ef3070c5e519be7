import Clawfarm.Masterpool.Enabled
import Clawfarm.Protocol.Authorization
import Clawfarm.Protocol.Types

/-!
# Protocol.Liveness — the authority can complete every receipt

Whatever the other parties do or leave undone, the authority can bring a receipt to its end once
its deadlines have passed: it rejects the challenge that nobody resolved, finalizes what is not
settled, and closes the receipt.  Only a pause flag, a frozen account, the want of a destination or
of room in the locked totals can be in the way.
-/

namespace Protocol

open Checked Attestation
open Masterpool (ReceiptSettlement GlobalConfig Ledgers SettlementFits wallet)

variable {host : Host}

/-! ## The two programs know each other -/

/-- Each program is configured with the other one. -/
structure Joined (s : System) : Prop where
  program : ∃ g, s.attestation.config = some g ∧ g.masterpoolProgram = MASTERPOOL_ID
  pool : ∃ g, s.masterpool.config = some g ∧ g.attestationProgram = ATTESTATION_ID

theorem Joined.linked {s : System} (h : Joined s) : Linked s := by
  obtain ⟨g, hg, hatt⟩ := h.pool
  exact linked_of_config hg hatt

/-- The config of the attestation program names the same masterpool program as before. -/
theorem exec_program {c : Signers} {now : ℤ} {s s' : System} {i : Instruction}
    (h : exec host c now s i = .ok s') {g : Config} (hg : s.attestation.config = some g) :
    ∃ g', s'.attestation.config = some g' ∧ g'.masterpoolProgram = g.masterpoolProgram := by
  have hadmin : Administers s s' → ∃ g', s'.attestation.config = some g' ∧
      g'.masterpoolProgram = g.masterpoolProgram := fun h => by
    obtain ⟨g', hg', -, -, hprogram, -⟩ := h.config g hg
    exact ⟨g', hg', hprogram⟩
  cases i with
  | initializeConfig ctx args => exact hadmin (initializeConfig_administers h)
  | upsertProviderSigner ctx args => exact hadmin (upsertProviderSigner_administers h)
  | setPause ctx b => exact hadmin (setPause_administers h)
  | revokeProviderSigner ctx k w => exact hadmin (revokeProviderSigner_administers h)
  | submitReceipt sysvar ctx args =>
    obtain ⟨-, -, -, -, rfl⟩ := submitReceipt_ok h
    exact ⟨g, hg, rfl⟩
  | openChallenge ctx ty hash =>
    obtain ⟨-, -, -, -, rfl⟩ := openChallenge_ok h
    exact ⟨g, hg, rfl⟩
  | resolveChallenge ctx code =>
    obtain ⟨-, -, -, -, -, -, -, -, -, -, rfl⟩ := resolveChallenge_ok h
    exact ⟨g, hg, rfl⟩
  | timeoutRejectChallenge ctx =>
    obtain ⟨-, -, -, -, -, -, -, -, rfl⟩ := timeoutRejectChallenge_ok h
    exact ⟨g, hg, rfl⟩
  | finalizeReceipt ctx =>
    obtain ⟨-, -, -, -, -, rfl⟩ := finalizeReceipt_ok h
    exact ⟨g, hg, rfl⟩
  | closeChallenge ctx =>
    obtain ⟨-, -, rfl⟩ := closeChallenge_ok h
    exact ⟨g, hg, rfl⟩
  | closeReceipt ctx =>
    obtain ⟨-, -, rfl⟩ := closeReceipt_ok h
    exact ⟨g, hg, rfl⟩

theorem Joined.step {s : System} (hw : Masterpool.Wf s.masterpool) (h : Joined s) (a : Action) :
    Joined (step host s a) := by
  obtain ⟨⟨g, hg, hprogram⟩, m, hm, hatt⟩ := h
  obtain ⟨m', hm', hid⟩ := @step_identity host s hw a m hm
  refine ⟨?_, m', hm', hid.attestationProgram.trans hatt⟩
  rcases @step_cases host s a with ⟨-, -, h⟩ | h
  · rw [h]
    exact ⟨g, hg, hprogram⟩
  · cases a with
    | attestation c now i =>
      obtain ⟨g', hg', hsame⟩ := exec_program h hg
      exact ⟨g', hg', hsame.trans hprogram⟩
    | masterpool c now i =>
      obtain ⟨m, -, hs⟩ := execMasterpool_eq_ok.mp h
      exact ⟨g, hs ▸ hg, hprogram⟩
    | token c i =>
      obtain ⟨m, -, hs⟩ := execMasterpool_eq_ok.mp h
      exact ⟨g, hs ▸ hg, hprogram⟩

/-- A submission goes through both programs, so each of them has checked the other one. -/
theorem submitReceipt_joined {c : Signers} {now : ℤ} {sysvar : InstructionsSysvar}
    {ctx : SubmitReceipt} {args : SubmitReceiptArgs} {s s' : System}
    (h : submitReceipt host c now sysvar ctx args s = .ok s') : Joined s := by
  obtain ⟨g, e, p, m, hpass, -⟩ := submitReceipt_iff.mp h
  obtain ⟨gm, pay, p', u, v, t₁, t₂, x, hrec, -⟩ :=
    Masterpool.recordMiningFromReceipt_ok hpass.economics
  exact ⟨⟨g, hpass.config, hpass.program.1.trans hpass.program.2⟩, gm, hrec.config,
    hrec.attestation.2.2.symm⟩

/-- Where there is a receipt, the two programs know each other. -/
structure Connected (s : System) : Prop where
  wf : Masterpool.Wf s.masterpool
  joined : ∀ k r, IsReceipt s k r → Joined s

theorem connected_init : Connected .init := ⟨Masterpool.wf_init, fun _ _ h => nomatch h⟩

theorem step_connected {s : System} (h : Connected s) (a : Action) : Connected (step host s a) := by
  refine ⟨step_wf h.wf a, fun k r hr => ?_⟩
  rcases step_receipt hr with ⟨r₀, hr₀, -⟩ | ⟨c, now, sysvar, ctx, args, rfl, -, hok⟩
  · exact (h.joined k r₀ hr₀).step h.wf a
  · exact (submitReceipt_joined hok).step h.wf _

theorem reached_connected (as : List Action) : Connected (reached host as) :=
  Machine.run_induction (P := Connected) (fun _ a h => step_connected h a) connected_init as

/-! ## Finalizing and closing -/

variable {s : System} {k : Pubkey} {r : Receipt}

theorem finalizeStatus_of_finalizable {now : ℤ} (h : Finalizable now r) :
    ∃ r', finalizeStatus now r = .ok r' := by
  cases h with
  | unchallenged hst hnow =>
    simp only [finalizeStatus, hst, bind_eq_ok, Attestation.ensure_eq_ok, exists_unit, pure_eq_ok]
    exact ⟨_, hnow, rfl⟩
  | rejected hst hset =>
    simp only [finalizeStatus, hst, bind_eq_ok, Attestation.ensure_eq_ok, exists_unit, pure_eq_ok]
    exact ⟨r, hset, rfl⟩

/-- The accounts with which the authority completes a receipt. -/
structure Completion where
  authority : Pubkey
  receipt : Pubkey
  providerDestinationUsdc : Pubkey
  challengerClawToken : Pubkey
  payerUsdcToken : Pubkey
  clawMint : Pubkey
  usdcMint : Pubkey

def Completion.rejection (p : Completion) : TimeoutRejectChallenge where
  authority := p.authority
  accounts :=
    { receipt := p.receipt
      challenge := challengeAddress p.receipt
      masterpoolProgram := MASTERPOOL_ID
      masterpoolChallengeBondVault := Masterpool.challengeBondVault
      masterpoolRewardVault := Masterpool.rewardVault
      masterpoolProviderPendingUsdcVault := Masterpool.providerPendingUsdcVault
      challengerClawToken := p.challengerClawToken
      payerUsdcToken := p.payerUsdcToken
      clawMint := p.clawMint
      usdcMint := p.usdcMint }

def Completion.finalization (p : Completion) : FinalizeReceipt where
  authority := p.authority
  receipt := p.receipt
  masterpoolProgram := MASTERPOOL_ID
  masterpoolProviderPendingUsdcVault := Masterpool.providerPendingUsdcVault
  masterpoolProviderDestinationUsdc := p.providerDestinationUsdc
  usdcMint := p.usdcMint

/-- The authority signs, and the accounts are those of the two configs. -/
structure ByAuthority (c : Signers) (p : Completion) (s : System) (g : Config)
    (m : GlobalConfig) : Prop where
  config : s.attestation.config = some g
  authority : p.authority ∈ c.keys ∧ g.authority = p.authority
  pool : s.masterpool.config = some m
  mints : p.clawMint = m.clawMint ∧ p.usdcMint = m.usdcMint

/-- The same, where the two programs know each other. -/
structure Completes (c : Signers) (p : Completion) (s : System) (g : Config)
    (m : GlobalConfig) : Prop extends ByAuthority c p s g m where
  program : g.masterpoolProgram = MASTERPOOL_ID
  attestation : m.attestationProgram = ATTESTATION_ID

theorem ByAuthority.completes {c : Signers} {p : Completion} {g : Config} {m : GlobalConfig}
    (h : ByAuthority c p s g m) (hj : Joined s) : Completes c p s g m := by
  obtain ⟨⟨g', hg, hprogram⟩, m', hm, hatt⟩ := hj
  obtain rfl := Option.some.inj (h.config.symm.trans hg)
  obtain rfl := Option.some.inj (h.pool.symm.trans hm)
  exact ⟨h, hprogram, hatt⟩

theorem Completes.linked {c : Signers} {p : Completion} {g : Config} {m : GlobalConfig}
    (h : Completes c p s g m) : Linked s := linked_of_config h.pool h.attestation

/-- The settlement `x` can be paid out: finalization is not paused, the destination is a token
account of the provider, the locked totals have room, and no account is frozen. -/
structure Payable (p : Completion) (s : System) (m : GlobalConfig) (x : ReceiptSettlement) :
    Prop where
  unpaused : m.pauseFinalization = false
  destination : ∃ d, s.masterpool.tokens.accounts.get p.providerDestinationUsdc = some d ∧
    d.owner = x.providerWallet ∧ d.mint = m.usdcMint
  room : s.masterpool.lockedClaw (.User, x.payerUser) + x.clawToUser < Token.u64Bound ∧
    s.masterpool.lockedClaw (.Provider, x.providerWallet) + x.clawToProviderLocked < Token.u64Bound
  thawed : s.masterpool.tokens.frozen Masterpool.providerPendingUsdcVault = false ∧
    s.masterpool.tokens.frozen p.providerDestinationUsdc = false

theorem Completes.attested {c : Signers} {p : Completion} {g : Config} {m : GlobalConfig}
    (h : Completes c p s g m) : configInfo.key = .pda m.attestationProgram .CONFIG_SEED ∧
      configInfo.key ∈ c.withConfig.signers ∧ configInfo.owner = m.attestationProgram := by
  rw [h.attestation]
  exact ⟨rfl, List.mem_cons_self, rfl⟩

/-- **Finalizing**: what is finalizable and payable is paid out. -/
theorem Completes.finalizes (hl : Ledgers s.masterpool) {c : Signers} {now : ℤ} {p : Completion}
    {g : Config} {m : GlobalConfig} {x : ReceiptSettlement} (h : Completes c p s g m)
    (hr : IsReceipt s p.receipt r) (hfin : Finalizable now r)
    (hx : s.masterpool.settlements.get p.receipt = some x) (hrec : x.status = .Recorded)
    (hpay : Payable p s m x) :
    ∃ s', finalizeReceipt c now p.finalization s = .ok s' := by
  obtain ⟨r', hr'⟩ := finalizeStatus_of_finalizable hfin
  have hcfg := hl.wf.sound.config m h.pool
  have hcall : Masterpool.SettlementCall c.withConfig
      { attestationConfig := configInfo
        attestationReceipt := p.receipt
        providerPendingUsdcVault := Masterpool.providerPendingUsdcVault
        providerDestinationUsdc := p.providerDestinationUsdc
        usdcMint := p.usdcMint } s.masterpool m x :=
    ⟨h.pool, h.attested, hx, hrec, hcfg.providerPendingUsdcVault.symm, h.mints.2,
      hpay.destination, hpay.unpaused⟩
  obtain ⟨t, ht⟩ := SettlementFits.settles hl now hcall
    ⟨hpay.room.1, hpay.room.2, hpay.thawed.1, hpay.thawed.2⟩
  simp only [finalizeReceipt, bind_eq_ok, loadAsAuthority_eq_ok, requireMasterpool_eq_ok,
    load_eq_ok, invoke_eq_ok, pure_eq_ok, exists_unit]
  exact ⟨_, g, ⟨h.authority.1, h.config, h.authority.2⟩, r, hr, ⟨h.program, rfl⟩, r', hr', t, ht,
    rfl⟩

theorem Completes.closes {c : Signers} {p : Completion} {g : Config} {m : GlobalConfig}
    (h : Completes c p s g m) (hr : IsReceipt s p.receipt r) (hterm : r.status.IsTerminal)
    (hset : r.economicsSettled = true) :
    ∃ s', closeReceipt c ⟨p.authority, p.receipt⟩ s = .ok s' := by
  simp only [closeReceipt, bind_eq_ok, loadAsAuthority_eq_ok, load_eq_ok,
    Attestation.ensure_eq_ok, exists_unit, pure_eq_ok]
  exact ⟨_, g, ⟨h.authority.1, h.config, h.authority.2⟩, r, hr, hterm, hset, rfl⟩

/-! ## Rejecting -/

/-- A later state of the same calls. -/
structure Same (s s' : System) : Prop where
  config : s'.attestation.config = s.attestation.config
  pool : s'.masterpool.config = s.masterpool.config

theorem Completes.same {s' : System} {c : Signers} {p : Completion} {g : Config}
    {m : GlobalConfig} (h : Completes c p s g m) (hs : Same s s') : Completes c p s' g m :=
  { h with config := hs.config.trans h.config, pool := hs.pool.trans h.pool }

/-- What a rejection by the authority leaves for the finalization. -/
structure Rejected (now : ℤ) (p : Completion) (r : Receipt) (x : ReceiptSettlement)
    (s s' : System) : Prop where
  same : Same s s'
  receipt : IsReceipt s' p.receipt
    { r with status := .Finalized, finalizedAt := now, economicsSettled := false }
  settlement : s'.masterpool.settlements.get p.receipt = some { x with updatedAt := now }
  rewards : s'.masterpool.rewards = s.masterpool.rewards
  static : ∀ k, s'.masterpool.tokens.static k = s.masterpool.tokens.static k

theorem timeoutRejectChallenge_rejects {c : Signers} {now : ℤ} {p : Completion} {s' : System}
    {x : ReceiptSettlement} (hr : IsReceipt s p.receipt r)
    (hx : s.masterpool.settlements.get p.receipt = some x)
    (h : timeoutRejectChallenge c now p.rejection s = .ok s') : Rejected now p r x s s' := by
  obtain ⟨r', y, cs, rs, settled, m, -, hres, rfl⟩ := timeoutRejectChallenge_ok h
  obtain rfl := Option.some.inj (hr.symm.trans hres.receipt)
  cases hres.outcome
  obtain ⟨g, x', b, q, u, v, t, hrej, hburn, -, rfl⟩ :=
    Masterpool.resolveChallengeEconomics_rejecting hres.economics
  obtain rfl := Option.some.inj (hx.symm.trans hrej.settlement)
  exact ⟨⟨rfl, rfl⟩, Store.get_set_self _ _ _, Store.get_set_self _ _ _, rfl,
    Token.burn_static hburn⟩

theorem Payable.rejected {now : ℤ} {p : Completion} {s' : System} {m : GlobalConfig}
    {x : ReceiptSettlement} (h : Payable p s m x) (hs : Rejected now p r x s s') :
    Payable p s' m { x with updatedAt := now } := by
  have hfrozen : ∀ k, s'.masterpool.tokens.frozen k = s.masterpool.tokens.frozen k :=
    fun k => Token.frozen_of_static (hs.static k)
  obtain ⟨d, hd, howner, hmint⟩ := h.destination
  have hstatic := (hs.static p.providerDestinationUsdc).trans (Token.static_of_get hd)
  rw [howner, hmint] at hstatic
  exact
    { unpaused := h.unpaused
      destination := Token.exists_owned hstatic
      room := by
        simp only [Masterpool.State.lockedClaw, hs.rewards]
        exact h.room
      thawed := by
        rw [hfrozen, hfrozen]
        exact h.thawed }

/-- **Rejecting**: a challenge that nobody resolved in time is rejected. -/
theorem Completes.rejects (hl : Ledgers s.masterpool) (hty : Typed s) (hk : Keyed s) {ph : Phase}
    {c : Signers} {now : Int64} {p : Completion} {g : Config} {m : GlobalConfig}
    (h : Completes c p s g m) (hshow : (view s p.receipt).Shows ph)
    (hr : IsReceipt s p.receipt r) (hst : r.status = .Challenged)
    (hunpaused : m.pauseChallengeProcessing = false)
    (hthawed : s.masterpool.tokens.frozen Masterpool.challengeBondVault = false)
    (htime : ∀ y, s.attestation.challenges.get (challengeAddress p.receipt) = some y →
      y.openedAt + g.challengeResolutionTimeoutSeconds < now.toInt) :
    ∃ s', timeoutRejectChallenge c now.toInt p.rejection s = .ok s' := by
  obtain ⟨t₀, -, hph⟩ := hshow.of_receipt hr
  rw [hst] at hph
  obtain ⟨t₁, rfl, -⟩ := hph
  obtain ⟨-, hrec, ⟨y, hy, -⟩, hj⟩ := hshow
  have hopen := hj.challenge hy
  obtain ⟨b, hb, hlocked, -⟩ := hj
  obtain ⟨x, hx, hxrec⟩ := isSettled_iff.mpr hrec
  have habout : y.receipt = p.receipt := (challengeAddress_inj (hk.challenge _ y hy)).symm
  have hcfg := hl.wf.sound.config m h.pool
  have hcall : Masterpool.ResolutionCall c.withConfig
      { attestationConfig := configInfo
        attestationReceipt := p.receipt
        attestationChallenge := challengeAddress p.receipt
        challengeBondVault := Masterpool.challengeBondVault
        rewardVault := Masterpool.rewardVault
        providerPendingUsdcVault := Masterpool.providerPendingUsdcVault
        challengerClawToken := p.challengerClawToken
        payerUsdcToken := p.payerUsdcToken
        clawMint := p.clawMint
        usdcMint := p.usdcMint } s.masterpool m x b :=
    ⟨h.pool, h.attested, hx, hb, (challengeAddress_inj (hk.bond _ b hb)).symm, hlocked,
      ⟨hcfg.challengeBondVault.symm, hcfg.rewardVault.symm, hcfg.providerPendingUsdcVault.symm⟩,
      h.mints, hunpaused⟩
  obtain ⟨t, ht⟩ := (hcall.reject_iff hl now.toInt).mpr ⟨hxrec, hthawed⟩
  -- the sum of two times cannot overflow: it is positive and lies before the clock
  have hlt := htime y hy
  have hopened := (hty.attestation.challenges _ y hy).openedAt
  have htimeout := (hty.attestation.config g h.config).challengeResolutionTimeoutSeconds
  have hnow := Masterpool.isI64_toInt now
  simp only [timeoutRejectChallenge, resolve, bind_eq_ok, loadAsAuthority_eq_ok, load_eq_ok,
    Attestation.ensure_eq_ok, requireMasterpool_eq_ok, orFail_eq_ok, invoke_eq_ok, checkedAddI64,
    checkedInt_eq_ok, exists_unit, exists_result, pure_eq_ok]
  refine ⟨_, g, ⟨h.authority.1, h.config, h.authority.2⟩, r, hr, y, hy, habout, ⟨h.program, rfl⟩,
    ?_, hlt, hopen, _, rfl, t, ht, rfl⟩
  unfold Masterpool.IsI64 at hopened htimeout hnow
  omega

/-! ## Completing a receipt -/

/-- What the authority does about the receipt `r`. -/
def Completion.instructions (p : Completion) (r : Receipt) : List Instruction :=
  (if r.status = .Challenged then [.timeoutRejectChallenge p.rejection] else []) ++
    (if r.economicsSettled = true then [] else [.finalizeReceipt p.finalization]) ++
    [.closeReceipt ⟨p.authority, p.receipt⟩]

def Completion.actions (p : Completion) (c : Signers) (now : Int64) (r : Receipt) : List Action :=
  (p.instructions r).map (.attestation c now)

/-- The receipt `r` with the settlement `x` is past its deadlines, and neither a pause flag nor a
frozen account nor a lack of room in the locked totals is in the way of what is still to be done. -/
structure Due (now : ℤ) (p : Completion) (s : System) (g : Config) (m : GlobalConfig)
    (r : Receipt) (x : ReceiptSettlement) : Prop where
  receipt : IsReceipt s p.receipt r
  settlement : s.masterpool.settlements.get p.receipt = some x
  unchallenged : r.status = .Submitted → r.challengeDeadline < now
  unresolved : r.status = .Challenged →
    ∀ y, s.attestation.challenges.get (challengeAddress p.receipt) = some y →
      y.openedAt + g.challengeResolutionTimeoutSeconds < now
  rejectable : r.status = .Challenged → m.pauseChallengeProcessing = false ∧
    s.masterpool.tokens.frozen Masterpool.challengeBondVault = false
  payable : r.economicsSettled = false → Payable p s m x

/-- The status in which the settlement of a receipt ends. -/
def Receipt.verdict (r : Receipt) : Masterpool.ReceiptSettlementStatus :=
  if r.status = .Rejected ∨ r.status = .Slashed then .ChallengedReverted else .FinalizedSettled

/-- The receipt `k` is gone, and its settlement has the status `st`. -/
structure Completed (s : System) (k : Pubkey) (st : Masterpool.ReceiptSettlementStatus) :
    Prop where
  closed : ∀ r, ¬ IsReceipt s k r
  settled : IsSettled s k st

section Runs

variable {as : List Action} {c : Signers} {now : Int64} {p : Completion} {g : Config}
  {m : GlobalConfig} {x : ReceiptSettlement}

theorem ledgers_of_reached (as : List Action) : Ledgers (reached host as).masterpool := by
  rw [reached_masterpool]
  exact Masterpool.reached_ledgers _

theorem reached_of_ok {i : Instruction} {s' : System}
    (h : exec host c now.toInt (reached host as) i = .ok s') :
    reached host (as ++ [.attestation c now i]) = s' := by
  rw [reached_concat]
  exact step_of_ok (a := .attestation c now i) h

/-- The last call closes the receipt. -/
theorem reached_close (h : Completes c p (reached host as) g m)
    (hr : IsReceipt (reached host as) p.receipt r) (hterm : r.status.IsTerminal)
    (hset : r.economicsSettled = true) {st : Masterpool.ReceiptSettlementStatus}
    (hst : IsSettled (reached host as) p.receipt st) :
    Completed (reached host (as ++ [.attestation c now (.closeReceipt ⟨p.authority, p.receipt⟩)]))
      p.receipt st := by
  obtain ⟨s', hok⟩ := h.closes hr hterm hset
  rw [reached_of_ok (i := .closeReceipt ⟨p.authority, p.receipt⟩) hok]
  obtain ⟨-, -, rfl⟩ := closeReceipt_ok hok
  exact ⟨(fun r' hr' => nomatch (Store.get_erase_self _ _).symm.trans hr'), hst⟩

/-- The last two calls finalize the receipt and close it. -/
theorem reached_finalize (h : Completes c p (reached host as) g m)
    (hr : IsReceipt (reached host as) p.receipt r) (hfin : Finalizable now.toInt r)
    (hx : (reached host as).masterpool.settlements.get p.receipt = some x)
    (hrec : x.status = .Recorded) (hpay : Payable p (reached host as) m x) :
    Completed (reached host (as ++ [.attestation c now (.finalizeReceipt p.finalization),
      .attestation c now (.closeReceipt ⟨p.authority, p.receipt⟩)])) p.receipt
        .FinalizedSettled := by
  obtain ⟨s', hok⟩ := h.finalizes (ledgers_of_reached as) hr hfin hx hrec hpay
  have hstep := reached_of_ok (i := .finalizeReceipt p.finalization) hok
  obtain ⟨g', r₀, r', m', hfinal, rfl⟩ := finalizeReceipt_ok hok
  obtain ⟨-, y, hy, hset⟩ := settled_economics hfinal.economics
  obtain ⟨hg, x', p', u, v, t, hsettles, hm'⟩ :=
    Masterpool.settleFinalizedReceipt_ok.mp hfinal.economics
  have hsame : Completes c p
      (reached host (as ++ [.attestation c now (.finalizeReceipt p.finalization)])) g m := by
    rw [hstep]
    exact h.same ⟨rfl, by rw [hm']; rfl⟩
  rw [List.append_cons]
  refine reached_close (r := r') hsame ?_ (Or.inl hfinal.finalized.1) hfinal.finalized.2 ?_
  · rw [hstep]
    exact Store.get_set_self _ _ _
  · rw [hstep]
    exact ⟨y, by rw [hset]; exact Store.get_set_self _ _ _, hy⟩

/-- The last three calls reject the challenge, finalize the receipt and close it. -/
theorem reached_reject (h : Completes c p (reached host as) g m)
    (hd : Due now.toInt p (reached host as) g m r x) (hst : r.status = .Challenged)
    (hset : r.economicsSettled = false) :
    Completed (reached host (as ++ [.attestation c now (.timeoutRejectChallenge p.rejection),
      .attestation c now (.finalizeReceipt p.finalization),
      .attestation c now (.closeReceipt ⟨p.authority, p.receipt⟩)])) p.receipt
        .FinalizedSettled := by
  obtain ⟨ph, -, hsim⟩ := reached_path as h.linked p.receipt
  obtain ⟨hunpaused, hthawed⟩ := hd.rejectable hst
  obtain ⟨s', hok⟩ := h.rejects (ledgers_of_reached as) (reached_typed as) hsim.keyed hsim.shows
    hd.receipt hst hunpaused hthawed (hd.unresolved hst)
  have hstep := reached_of_ok (i := .timeoutRejectChallenge p.rejection) hok
  have hrej := timeoutRejectChallenge_rejects hd.receipt hd.settlement hok
  have hrec : x.status = .Recorded := by
    obtain ⟨y, hy, hrec⟩ := (hsim.shows.agrees hsim.keyed).recorded r hd.receipt hst
    rwa [Option.some.inj (hd.settlement.symm.trans hy)]
  rw [List.append_cons]
  rw [← hstep] at hrej
  exact reached_finalize (h.same hrej.same) hrej.receipt (.rejected rfl rfl) hrej.settlement hrec
    ((hd.payable hset).rejected hrej)

end Runs

/-- **Completion**: from every state that the two programs reach, and whatever has been done about
the receipt, the authority alone completes it with at most three calls once the deadlines have
passed, the first two of which are needed only if it is challenged or not settled yet.  Besides what
`Due` says of flags, accounts and room, nothing can be in the way.  The settlement ends as reverted
exactly if a challenge has been accepted before. -/
theorem receipt_completes (host : Host) (as : List Action) {c : Signers} {now : Int64}
    {p : Completion} {g : Config} {m : GlobalConfig} {r : Receipt} {x : ReceiptSettlement}
    (h : ByAuthority c p (reached host as) g m) (hd : Due now.toInt p (reached host as) g m r x) :
    Completed (reached host (as ++ p.actions c now r)) p.receipt (Receipt.verdict r) := by
  have hc := h.completes ((reached_connected as).joined _ r hd.receipt)
  obtain ⟨ph, -, hsim⟩ := reached_path as hc.linked p.receipt
  have hagree := hsim.shows.agrees hsim.keyed
  obtain ⟨t₀, -, hph⟩ := hsim.shows.of_receipt hd.receipt
  have hrecorded : IsSettled (reached host as) p.receipt .Recorded → x.status = .Recorded := by
    rintro ⟨y, hy, hrec⟩
    rwa [Option.some.inj (hd.settlement.symm.trans hy)]
  cases hst : r.status with
  | Submitted =>
    rw [hst] at hph
    have hset := hph.2
    have hrec := hrecorded (hagree.submitted r hd.receipt hst).1
    simp only [Completion.actions, Completion.instructions, Receipt.verdict, hst, hset]
    exact reached_finalize hc hd.receipt (.unchallenged hst (hd.unchallenged hst)) hd.settlement
      hrec (hd.payable hset)
  | Challenged =>
    rw [hst] at hph
    obtain ⟨-, -, hset⟩ := hph
    simp only [Completion.actions, Completion.instructions, Receipt.verdict, hst, hset]
    exact reached_reject hc hd hst hset
  | Finalized =>
    cases hset : r.economicsSettled with
    | false =>
      have hrec := hrecorded (hagree.rejected r hd.receipt hst hset).1
      simp only [Completion.actions, Completion.instructions, Receipt.verdict, hst, hset]
      exact reached_finalize hc hd.receipt (.rejected hst hset) hd.settlement hrec
        (hd.payable hset)
    | true =>
      simp only [Completion.actions, Completion.instructions, Receipt.verdict, hst, hset]
      exact reached_close hc hd.receipt (Or.inl hst) hset (hagree.finalized r hd.receipt hst hset)
  | Rejected =>
    obtain ⟨hset, hrev, -⟩ := hagree.reverted r hd.receipt (Or.inl hst)
    simp only [Completion.actions, Completion.instructions, Receipt.verdict, hst, hset]
    exact reached_close hc hd.receipt (Or.inr (Or.inl hst)) hset hrev
  | Slashed =>
    obtain ⟨hset, hrev, -⟩ := hagree.reverted r hd.receipt (Or.inr hst)
    simp only [Completion.actions, Completion.instructions, Receipt.verdict, hst, hset]
    exact reached_close hc hd.receipt (Or.inr (Or.inr hst)) hset hrev

/-- The receipt of `submission`, challenged at the time `110` and then forgotten. -/
def challenge : List Action := submission ++ faucetClaim.map sent ++
  [.attestation parties 110 (.openChallenge ⟨wallet 10, receiptKey, wallet 11, MASTERPOOL_ID,
    Masterpool.challengeBondVault, wallet 2⟩ 0 (nonce 23))]

def sampleCompletion : Completion :=
  ⟨wallet 1, receiptKey, wallet 6, wallet 11, wallet 8, wallet 2, wallet 3⟩

/-- The authority completes it at the time `161`. -/
theorem challenged_completes : Completed (reached sampleHost (challenge ++
    [.attestation parties 161 (.timeoutRejectChallenge sampleCompletion.rejection),
     .attestation parties 161 (.finalizeReceipt sampleCompletion.finalization),
     .attestation parties 161 (.closeReceipt ⟨wallet 1, receiptKey⟩)])) receiptKey
      .FinalizedSettled := by
  obtain ⟨r, hr, hst, hset⟩ : ∃ r, IsReceipt (reached sampleHost challenge) sampleCompletion.receipt r ∧
      r.status = .Challenged ∧ r.economicsSettled = false :=
    ⟨((reached sampleHost challenge).attestation.receipts.get sampleCompletion.receipt).get
      (by decide +kernel), (Option.some_get _).symm, by decide +kernel, by decide +kernel⟩
  obtain ⟨g, hg, hauth, htimeout⟩ : ∃ g, (reached sampleHost challenge).attestation.config = some g ∧
      g.authority = wallet 1 ∧ g.challengeResolutionTimeoutSeconds = 50 :=
    ⟨(reached sampleHost challenge).attestation.config.get (by decide +kernel),
      (Option.some_get _).symm, by decide +kernel, by decide +kernel⟩
  obtain ⟨y, hy, hopened⟩ : ∃ y, (reached sampleHost challenge).attestation.challenges.get
      (challengeAddress sampleCompletion.receipt) = some y ∧ y.openedAt = 110 :=
    ⟨((reached sampleHost challenge).attestation.challenges.get
      (challengeAddress sampleCompletion.receipt)).get (by decide +kernel),
      (Option.some_get _).symm, by decide +kernel⟩
  have h := @receipt_completes sampleHost challenge parties 161 sampleCompletion g
    ((reached sampleHost challenge).masterpool.config.get (by decide +kernel)) r
    (((reached sampleHost challenge).masterpool.settlements.get
      sampleCompletion.receipt).get (by decide +kernel))
    ⟨hg, ⟨by decide, hauth⟩, (Option.some_get _).symm, by decide +kernel⟩
    { receipt := hr
      settlement := (Option.some_get _).symm
      unchallenged := fun h => nomatch hst.symm.trans h
      unresolved := fun _ z hz => by
        obtain rfl := Option.some.inj (hy.symm.trans hz)
        rw [hopened, htimeout]
        decide
      rejectable := fun _ => by decide +kernel
      payable := fun _ => ⟨by decide +kernel,
        Token.exists_owned (f := false) (by decide +kernel), by decide +kernel, by decide +kernel⟩ }
  rw [Completion.actions, Completion.instructions, if_pos hst, hset, if_neg (by decide),
    Receipt.verdict, hst, if_neg (by decide)] at h
  exact h

end Protocol
