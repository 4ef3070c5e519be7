import Clawfarm.Masterpool.Wf
import Clawfarm.Protocol.Phase

/-!
# Protocol.Progress — the two programs carry out the protocol

Every step of the two programs, seen from one receipt, is an event of the protocol or goes
unnoticed (`step_advances`): each instruction of the attestation program changes the accounts of
the receipt together with its call of the masterpool program, and nobody else can make these calls.
So the events of a run lead to the phase that the accounts show (`reached_path`).
-/

namespace Protocol

open Checked Attestation
open Masterpool (ReceiptSettlement ChallengeBondRecord)

/-- The masterpool is configured with the attestation program.  (The attestation program checks
at each call that its config names the masterpool program.) -/
def Linked (s : System) : Prop :=
  ∀ g, s.masterpool.config = some g → g.attestationProgram = ATTESTATION_ID

/-- The accounts of the receipt `k`. -/
def view (s : System) (k : Pubkey) : View where
  receipt := s.attestation.receipts.get k
  challenge := s.attestation.challenges.get (challengeAddress k)
  settlement := (s.masterpool.settlements.get k).map ReceiptSettlement.status
  bond := s.masterpool.bonds.get (challengeAddress k)

/-- Challenges and bond records are where their receipt says. -/
structure Keyed (s : System) : Prop where
  challenge : ∀ j x, s.attestation.challenges.get j = some x → j = challengeAddress x.receipt
  bond : ∀ j b, s.masterpool.bonds.get j = some b → j = challengeAddress b.attestationReceipt

/-! ## Events of a run -/

/-- The receipt that an instruction is about, and what it means if it succeeds. -/
def Instruction.event (t : Stamp) : Instruction → Option (Pubkey × Event)
  | .submitReceipt _ _ args => some (receiptAddress args.requestNonceHash, .submitted t)
  | .openChallenge ctx _ _ => some (ctx.receipt, .opened t)
  | .resolveChallenge ctx code =>
    (ResolutionCode.tryFrom code).toOption.map fun rc => (ctx.accounts.receipt, .resolved t rc)
  | .timeoutRejectChallenge ctx => some (ctx.accounts.receipt, .timedOut t)
  | .finalizeReceipt ctx => some (ctx.receipt, .finalized t)
  | .closeReceipt ctx => some (ctx.receipt, .closed t)
  | _ => none

/-- What a step means for the receipt `k`, with the clock, the signatures and the config of that
step. -/
def event (host : Host) (k : Pubkey) (s : System) (a : Action) : Option Event :=
  match a with
  | .attestation c now i =>
    if (a.exec host s).toOption.isSome then
      s.attestation.config.bind fun g => (i.event ⟨now.toInt, c.keys, g⟩).bind fun o =>
        if o.1 = k then some o.2 else none
    else none
  | _ => none

/-- The events of the receipt `k` in a run. -/
def history (host : Host) (as : List Action) (k : Pubkey) : List Event :=
  Machine.emitted (step host) (fun s a => (event host k s a).toList) .init as

/-- The accounts of a receipt are as before, or its challenge is closed. -/
def Unnoticed (v v' : View) : Prop :=
  v' = v ∨ ∃ x, v.challenge = some x ∧ x.status ≠ .Open ∧ v' = { v with challenge := none }

/-! ## What the calls do to settlements and bond records -/

section Calls

variable {c : Caller MASTERPOOL_ID} {now : ℤ} {m m' : Masterpool.State}

theorem recorded_economics {ctx : Masterpool.RecordMiningFromReceipt} {n : UInt64}
    (h : Masterpool.exec c now m (.recordMiningFromReceipt ctx n) = .ok m') :
    m.settlements.get ctx.attestationReceipt = none ∧ m'.bonds = m.bonds ∧
      ∃ x, x.status = .Recorded ∧
        m'.settlements = m.settlements.set ctx.attestationReceipt x := by
  obtain ⟨g, pay, p, u, v, t₁, t₂, x, hrec, rfl⟩ := Masterpool.recordMiningFromReceipt_ok h
  exact ⟨hrec.fresh, rfl, x, by rw [hrec.settlement]; rfl, rfl⟩

theorem settled_economics {ctx : Masterpool.SettleFinalizedReceipt} {n : UInt8}
    (h : Masterpool.exec c now m (.settleFinalizedReceipt ctx n) = .ok m') :
    m'.bonds = m.bonds ∧ ∃ x, x.status = .FinalizedSettled ∧
      m'.settlements = m.settlements.set ctx.attestationReceipt x := by
  obtain ⟨g, x, p, u, v, t, hset, rfl⟩ := Masterpool.settleFinalizedReceipt_ok.mp h
  exact ⟨rfl, _, rfl, rfl⟩

theorem bonded_economics {ctx : Masterpool.RecordChallengeBond}
    (h : Masterpool.exec c now m (.recordChallengeBond ctx) = .ok m') :
    m'.settlements = m.settlements ∧ m.bonds.get ctx.attestationChallenge = none ∧
      ∃ g b, m.config = some g ∧ b.status = .Locked ∧ b.challenger = ctx.challenger ∧
        b.bondAmount = g.challengeBondClawAmount ∧
        b.attestationReceipt = ctx.attestationReceipt ∧
        m'.bonds = m.bonds.set ctx.attestationChallenge b := by
  obtain ⟨g, x, p, t, b, hb, rfl⟩ := Masterpool.recordChallengeBond_ok h
  exact ⟨rfl, hb.fresh, g, b, hb.config, by rw [hb.record]; rfl, by rw [hb.record]; rfl,
    by rw [hb.record]; rfl, by rw [hb.record]; rfl, rfl⟩

/-- The codes of the attestation program mean the same to the masterpool program. -/
theorem toU8_cases {code : ResolutionCode} {o : ChallengeStatus × ReceiptStatus × Bool}
    (h : code.outcome = some o) :
    (code = .Rejected ∧ code.toU8.toNat = Masterpool.ATTESTATION_RESOLUTION_REJECTED) ∨
      (code ≠ .Rejected ∧ Masterpool.IsAccepting code.toU8.toNat) := by
  cases code with
  | None => cases h
  | Accepted => decide
  | Rejected => decide
  | ReceiptInvalidated => decide
  | SignerRevoked => decide

theorem resolved_economics {ctx : Masterpool.ResolveChallengeEconomics} {code : ResolutionCode}
    {o : ChallengeStatus × ReceiptStatus × Bool} (hout : code.outcome = some o)
    (h : Masterpool.exec c now m (.resolveChallengeEconomics ctx code.toU8) = .ok m') :
    ∃ x b x', m.settlements.get ctx.attestationReceipt = some x ∧ x.status = .Recorded ∧
      m.bonds.get ctx.attestationChallenge = some b ∧ b.status = .Locked ∧
      x'.status = settlementStatus code ∧
      m'.settlements = m.settlements.set ctx.attestationReceipt x' ∧
      m'.bonds = m.bonds.set ctx.attestationChallenge
        { b with status := bondStatus code, updatedAt := now } := by
  rcases toU8_cases hout with ⟨hcode, hn⟩ | ⟨hcode, hn⟩
  · rw [Masterpool.exec, hn] at h
    obtain ⟨g, x, b, p, u, v, t, hres, -, -, rfl⟩ :=
      Masterpool.resolveChallengeEconomics_rejecting h
    refine ⟨x, b, _, hres.settlement, hres.recorded, hres.bond, hres.locked, ?_, rfl, ?_⟩
    · rw [settlementStatus, if_pos hcode]
      exact hres.recorded
    · rw [bondStatus, if_pos hcode]
      rfl
  · obtain ⟨g, x, b, p, u, v, t₁, t₂, t₃, t₄, hres, -, -, rfl⟩ :=
      (Masterpool.resolveChallengeEconomics_accepting hn).mp h
    refine ⟨x, b, _, hres.settlement, hres.recorded, hres.bond, hres.locked, ?_, rfl, ?_⟩
    · rw [settlementStatus, if_neg hcode]
    · rw [bondStatus, if_neg hcode]
      rfl

/-- What an action that the attestation program does not sign leaves alone. -/
structure Untouched (m m' : Masterpool.State) : Prop where
  bonds : m'.bonds = m.bonds
  settlements : ∀ k, (m'.settlements.get k).map ReceiptSettlement.status =
    (m.settlements.get k).map ReceiptSettlement.status

theorem Untouched.of_eq (hb : m'.bonds = m.bonds) (hs : m'.settlements = m.settlements) :
    Untouched m m' := ⟨hb, fun k => by rw [hs]⟩

/-- Only the attestation program records, settles and reverts. -/
theorem untouched_of_unsigned {a : Masterpool.Action} (h : Masterpool.Effect m a m')
    (hlink : ∀ g, m.config = some g → g.attestationProgram = ATTESTATION_ID)
    (hsig : ∀ c now i, a = .call c now i → configAddress ∉ c.signers) : Untouched m m' := by
  have hno : ∀ {c now i g key} {p : Pubkey}, a = .call c now i → m.config = some g →
      key = Pubkey.pda g.attestationProgram .CONFIG_SEED ∧ key ∈ c.signers ∧
        p = g.attestationProgram → False := by
    rintro c now i g key p rfl hg ⟨rfl, hmem, -⟩
    rw [hlink g hg] at hmem
    exact hsig c now i rfl hmem
  cases h with
  | failed _ => exact .of_eq rfl rfl
  | aside _ h => exact .of_eq h.bonds h.settlements
  | genesis _ => exact .of_eq rfl rfl
  | fund _ => exact .of_eq rfl rfl
  | register _ => exact .of_eq rfl rfl
  | exit _ => exact .of_eq rfl rfl
  | claim _ => exact .of_eq rfl rfl
  | record h => exact (hno rfl h.config h.attestation).elim
  | settle h => exact (hno rfl h.config h.attestation).elim
  | bond h => exact (hno rfl h.config h.attestation).elim
  | reject _ h _ _ => exact (hno rfl h.config h.attestation).elim
  | revert _ h _ _ => exact (hno rfl h.config h.attestation).elim
  | @materialize c now ctx target n tgt x r h =>
    refine ⟨rfl, fun k => ?_⟩
    rw [Masterpool.materialized, Store.get_set]
    split_ifs with hk
    · rw [hk, h.settlement]
      cases tgt <;> rfl
    · rfl

end Calls

/-! ## What the instructions do to the accounts of a receipt -/

section Instructions

variable {host : Host} {c : Signers} {now : ℤ} {s s' : System} {g : Config}

theorem view_eq {k : Pubkey} {v : View} (hr : s'.attestation.receipts.get k = v.receipt)
    (hx : s'.attestation.challenges.get (challengeAddress k) = v.challenge)
    (hs : (s'.masterpool.settlements.get k).map ReceiptSettlement.status = v.settlement)
    (hb : s'.masterpool.bonds.get (challengeAddress k) = v.bond) : view s' k = v := by
  simp only [view, hr, hx, hs, hb]

theorem Keyed.congr (hk : Keyed s) (hx : s'.attestation.challenges = s.attestation.challenges)
    (hb : s'.masterpool.bonds = s.masterpool.bonds) : Keyed s' :=
  ⟨by rw [hx]; exact hk.challenge, by rw [hb]; exact hk.bond⟩

/-- The outcome of an instruction: the receipt that it is about makes the step that it means, and
all others go on as before. -/
structure Carries (o : Option (Pubkey × Event)) (s s' : System) : Prop where
  keyed : Keyed s'
  about : ∀ j e, o = some (j, e) → Transition e (view s j) (view s' j)
  others : ∀ k, (∀ j e, o = some (j, e) → j ≠ k) → Unnoticed (view s k) (view s' k)

theorem carries_none (hk : Keyed s') (h : ∀ k, Unnoticed (view s k) (view s' k)) :
    Carries none s s' := ⟨hk, fun _ _ heq => (nomatch heq), fun k _ => h k⟩

theorem carries_some {j : Pubkey} {e : Event} {v : View} (hk : Keyed s')
    (h : Transition e (view s j) v) (hv : view s' j = v)
    (ho : ∀ k, k ≠ j → view s' k = view s k) : Carries (some (j, e)) s s' where
  keyed := hk
  about j' e' heq := by
    obtain ⟨rfl, rfl⟩ := Prod.mk.inj (Option.some.inj heq)
    exact hv ▸ h
  others k hne := Or.inl (ho k (hne j e rfl).symm)

theorem administers_carries (h : Administers s s') (hk : Keyed s) : Carries none s s' :=
  carries_none (hk.congr h.challenges (by rw [h.masterpool])) fun _ =>
    Or.inl (view_eq (by rw [h.receipts]; rfl) (by rw [h.challenges]; rfl)
      (by rw [h.masterpool]; rfl) (by rw [h.masterpool]; rfl))

theorem submits_carries {ctx : SubmitReceipt} {args : SubmitReceiptArgs} {r : Receipt}
    {m : Masterpool.State} (h : Submits c now ctx args s g r m) (hk : Keyed s) :
    Carries (some (receiptAddress args.requestNonceHash, .submitted ⟨now, c.keys, g⟩)) s
      ⟨m, { s.attestation with
        receipts := s.attestation.receipts.set (receiptAddress args.requestNonceHash) r }⟩ := by
  obtain ⟨hnone, hbonds, x, hx, hset⟩ := recorded_economics h.economics
  refine carries_some (hk.congr rfl hbonds) (.submitted h.fresh ?_ h.receipt)
    (view_eq (Store.get_set_self _ _ _) rfl ?_ ?_) fun k hne =>
      view_eq (Store.get_set_of_ne hne _) rfl ?_ ?_
  · simp only [view, hnone, Option.map_none]
  · simp only [hset, Store.get_set_self, Option.map_some, hx]
  · rw [hbonds]
    rfl
  · simp only [hset, Store.get_set_of_ne hne, view]
  · rw [hbonds]
    rfl

theorem finalizes_carries {ctx : FinalizeReceipt} {r r' : Receipt} {m : Masterpool.State}
    (h : Finalizes c now ctx s g r r' m) (hk : Keyed s) :
    Carries (some (ctx.receipt, .finalized ⟨now, c.keys, g⟩)) s
      ⟨m, { s.attestation with receipts := s.attestation.receipts.set ctx.receipt r' }⟩ := by
  obtain ⟨hbonds, x, hx, hset⟩ := settled_economics h.economics
  refine carries_some (hk.congr rfl hbonds)
    (.finalized h.receipt h.finalizable h.finalized h.times)
    (view_eq (Store.get_set_self _ _ _) rfl ?_ ?_) fun k hne =>
      view_eq (Store.get_set_of_ne hne _) rfl ?_ ?_
  · simp only [hset, Store.get_set_self, Option.map_some, hx]
  · rw [hbonds]
    rfl
  · simp only [hset, Store.get_set_of_ne hne, view]
  · rw [hbonds]
    rfl

theorem closesReceipt_carries {t : Stamp} {k : Pubkey} {r : Receipt} (h : ClosesReceipt s k r)
    (hk : Keyed s) : Carries (some (k, .closed t)) s
      { s with attestation := { s.attestation with
        receipts := s.attestation.receipts.erase k } } :=
  carries_some ⟨hk.challenge, hk.bond⟩ (.closed h.receipt h.terminal h.settled)
    (view_eq (Store.get_erase_self _ _) rfl rfl rfl) fun _ hne =>
      view_eq (Store.get_erase_of_ne hne) rfl rfl rfl

theorem opens_carries {ctx : OpenChallenge} {r : Receipt} {x : Challenge} {m : Masterpool.State}
    (h : Opens c now ctx s r x m) (hk : Keyed s) :
    Carries (some (ctx.receipt, .opened ⟨now, c.keys, g⟩)) s
      ⟨m, { s.attestation with
        receipts := s.attestation.receipts.set ctx.receipt { r with status := .Challenged }
        challenges := s.attestation.challenges.set (challengeAddress ctx.receipt) x }⟩ := by
  obtain ⟨hset, -, g₀, b, hg₀, hlocked, hch, hamt, habout, hbonds⟩ := bonded_economics h.economics
  obtain ⟨g₁, hg₁, hbond⟩ := h.bond
  obtain rfl := Option.some.inj (hg₀.symm.trans hg₁)
  obtain ⟨hxr, hxc, hxt⟩ := h.about
  refine carries_some ⟨fun j y hy => ?_, fun j y hy => ?_⟩
    (.opened h.receipt h.submitted h.window ⟨h.opened, hxt⟩ hlocked
      ⟨hch.trans hxc.symm, hamt.trans hbond.symm⟩)
    (view_eq (Store.get_set_self _ _ _) (Store.get_set_self _ _ _) ?_ ?_) fun k hne =>
      view_eq (Store.get_set_of_ne hne _)
        (Store.get_set_of_ne (fun e => hne (challengeAddress_inj e)) _) ?_ ?_
  · rcases Store.get_set_cases hy with ⟨rfl, rfl⟩ | ⟨-, hy⟩
    · rw [hxr]
    · exact hk.challenge j y hy
  · rw [hbonds] at hy
    rcases Store.get_set_cases hy with ⟨rfl, rfl⟩ | ⟨-, hy⟩
    · rw [habout]
    · exact hk.bond j y hy
  · rw [hset]
    rfl
  · rw [hbonds]
    exact Store.get_set_self _ _ _
  · rw [hset]
    rfl
  · rw [hbonds]
    exact Store.get_set_of_ne (fun e => hne (challengeAddress_inj e)) _

/-- The challenge of a resolution is the one of its receipt, and it finds a locked bond. -/
theorem resolves_carries {accounts : ChallengeAccounts} {code : ResolutionCode} {r : Receipt}
    {x : Challenge} {cs : ChallengeStatus} {rs : ReceiptStatus} {settled : Bool}
    {m : Masterpool.State} {e : Event} (h : Resolves c now accounts code s r x cs rs settled m)
    (hk : Keyed s) (he : ∀ b v, v.Resolvable r x b →
      Transition e v (.resolved now code cs rs settled r x b)) :
    Carries (some (accounts.receipt, e)) s (resolved now accounts code s r x cs rs settled m) := by
  obtain ⟨y, b, y', hy, hrec, hb, hlocked, hst, hset, hbonds⟩ :=
    resolved_economics h.outcome h.economics
  have haddr : accounts.challenge = challengeAddress accounts.receipt := by
    rw [hk.challenge _ _ h.challenge, h.about]
  have hres : (view s accounts.receipt).Resolvable r x b :=
    ⟨h.receipt, by rw [view, ← haddr, h.challenge], h.opened,
      by simp only [view, hy, Option.map_some, hrec], by rw [view, ← haddr, ← hb], hlocked⟩
  refine carries_some ⟨fun j z hz => ?_, fun j z hz => ?_⟩ (he b _ hres)
    (view_eq (Store.get_set_self _ _ _) ?_ ?_ ?_) fun k hne =>
      view_eq (Store.get_set_of_ne hne _) ?_ ?_ ?_
  · rcases Store.get_set_cases hz with ⟨rfl, rfl⟩ | ⟨-, hz⟩
    · rw [haddr, h.about]
    · exact hk.challenge j z hz
  · rw [resolved, hbonds] at hz
    rcases Store.get_set_cases hz with ⟨rfl, rfl⟩ | ⟨-, hz⟩
    · rw [hk.bond _ b hb]
    · exact hk.bond j z hz
  · rw [← haddr]
    exact Store.get_set_self _ _ _
  · simp only [resolved, hset, Store.get_set_self, Option.map_some, hst, View.resolved]
  · rw [resolved, hbonds, ← haddr]
    exact Store.get_set_self _ _ _
  · rw [resolved, haddr]
    exact Store.get_set_of_ne (fun e => hne (challengeAddress_inj e)) _
  · simp only [resolved, hset, Store.get_set_of_ne hne, view]
  · rw [resolved, hbonds, haddr]
    exact Store.get_set_of_ne (fun e => hne (challengeAddress_inj e)) _

theorem closesChallenge_carries {j : Pubkey} {x : Challenge} (h : ClosesChallenge s j x)
    (hk : Keyed s) : Carries none s { s with attestation := { s.attestation with
      challenges := s.attestation.challenges.erase j } } := by
  refine carries_none ⟨fun i y hy => hk.challenge i y (Store.get_erase_some hy).2, hk.bond⟩
    fun k => ?_
  by_cases hkey : challengeAddress k = j
  · subst hkey
    exact Or.inr ⟨x, h.challenge, h.resolved, view_eq rfl (Store.get_erase_self _ _) rfl rfl⟩
  · exact Or.inl (view_eq rfl (Store.get_erase_of_ne hkey) rfl rfl)

/-- **Step of the attestation program**, one case per instruction. -/
theorem exec_carries {host : Host} {i : Instruction} (hk : Keyed s)
    (h : exec host c now s i = .ok s') :
    (∃ g, s.attestation.config = some g ∧ Carries (i.event ⟨now, c.keys, g⟩) s s') ∨
      (∀ t, i.event t = none) ∧ Carries none s s' := by
  cases i with
  | initializeConfig ctx args =>
    exact Or.inr ⟨fun _ => rfl, administers_carries (initializeConfig_administers h) hk⟩
  | upsertProviderSigner ctx args =>
    exact Or.inr ⟨fun _ => rfl, administers_carries (upsertProviderSigner_administers h) hk⟩
  | setPause ctx b =>
    exact Or.inr ⟨fun _ => rfl, administers_carries (setPause_administers h) hk⟩
  | revokeProviderSigner ctx k w =>
    exact Or.inr ⟨fun _ => rfl, administers_carries (revokeProviderSigner_administers h) hk⟩
  | submitReceipt sysvar ctx args =>
    obtain ⟨g, r, m, hm, rfl⟩ := submitReceipt_ok h
    exact Or.inl ⟨g, hm.config, submits_carries hm hk⟩
  | openChallenge ctx ty hash =>
    obtain ⟨r, x, m, hm, rfl⟩ := openChallenge_ok h
    obtain ⟨g, hg⟩ := hm.config
    exact Or.inl ⟨g, hg, opens_carries hm hk⟩
  | resolveChallenge ctx code =>
    obtain ⟨rc, r, x, cs, rs, settled, m, hrc, hby, hm, rfl⟩ := resolveChallenge_ok h
    obtain ⟨g, hg, hres⟩ := hby.resolver
    refine Or.inl ⟨g, hg, ?_⟩
    rw [Instruction.event, hrc]
    exact resolves_carries hm hk fun b v hv => .resolved hv hm.outcome (hres ▸ hby.signed)
  | timeoutRejectChallenge ctx =>
    obtain ⟨r, x, cs, rs, settled, m, hby, hm, rfl⟩ := timeoutRejectChallenge_ok h
    obtain ⟨g, hg, hauth, hnow⟩ := hby.authority
    cases hm.outcome
    exact Or.inl ⟨g, hg,
      resolves_carries hm hk fun b v hv => .timedOut hv (hauth ▸ hby.signed) hnow⟩
  | finalizeReceipt ctx =>
    obtain ⟨g, r, r', m, hm, rfl⟩ := finalizeReceipt_ok h
    exact Or.inl ⟨g, hm.config, finalizes_carries hm hk⟩
  | closeChallenge ctx =>
    obtain ⟨x, hx, rfl⟩ := closeChallenge_ok h
    exact Or.inr ⟨fun _ => rfl, closesChallenge_carries hx hk⟩
  | closeReceipt ctx =>
    obtain ⟨r, hr, rfl⟩ := closeReceipt_ok h
    obtain ⟨g, hg⟩ := hr.config
    exact Or.inl ⟨g, hg, closesReceipt_carries hr hk⟩

/-- A call of the masterpool program that comes from elsewhere goes unnoticed. -/
theorem execMasterpool_carries {a : Masterpool.Action} (hw : Masterpool.Wf s.masterpool)
    (hk : Keyed s) (hlink : Linked s)
    (hsig : ∀ c now i, a = .call c now i → configAddress ∉ c.signers)
    (h : execMasterpool a s = .ok s') : Carries none s s' := by
  obtain ⟨m, hm, rfl⟩ := execMasterpool_eq_ok.mp h
  have heff := Masterpool.step_effect hw.sound a
  rw [Masterpool.step_of_ok hm] at heff
  have hun := untouched_of_unsigned heff hlink hsig
  exact carries_none (hk.congr rfl hun.bonds) fun k =>
    Or.inl (view_eq rfl rfl (hun.settlements k) (by rw [hun.bonds]; rfl))

end Instructions

/-! ## Steps and runs -/

variable {host : Host}

theorem configAddress_not_mem_keys (c : Signers) : configAddress ∉ c.keys := fun h =>
  (c.foreign _ h).2 rfl

theorem event_of_error {s : System} {a : Action} {e : ProgramError Failure}
    (h : a.exec host s = .error e) (k : Pubkey) : event host k s a = none := by
  cases a with
  | attestation c now i =>
    rw [event, h]
    rfl
  | masterpool c now i => rfl
  | token c i => rfl

/-- How the accounts of a receipt change in a step with the event `o`. -/
def Advances (v v' : View) : Option Event → Prop
  | none => Unnoticed v v'
  | some e => Transition e v v'

theorem Carries.advances {s s' : System} {o : Option (Pubkey × Event)} (h : Carries o s s')
    (k : Pubkey) : Advances (view s k) (view s' k)
      (o.bind fun p => if p.1 = k then some p.2 else none) := by
  cases o with
  | none => exact h.others k fun _ _ heq => nomatch heq
  | some p =>
    rw [Option.bind_some]
    split_ifs with hk
    · exact hk ▸ h.about p.1 p.2 rfl
    · exact h.others k fun j e heq hj => hk (Option.some.inj heq ▸ hj)

/-- **Step**: seen from a receipt, a step is the event that it means, or goes unnoticed. -/
theorem step_advances {s : System} (hw : Masterpool.Wf s.masterpool) (hk : Keyed s)
    (hlink : Linked s) (a : Action) : Keyed (step host s a) ∧
      ∀ k, Advances (view s k) (view (step host s a) k) (event host k s a) := by
  rcases step_cases s a with ⟨e, he, h⟩ | h
  · rw [h]
    exact ⟨hk, fun k => event_of_error he k ▸ Or.inl rfl⟩
  · cases a with
    | attestation c now i =>
      have hev : ∀ k, event host k s (.attestation c now i) =
          s.attestation.config.bind fun g => (i.event ⟨now.toInt, c.keys, g⟩).bind fun o =>
            if o.1 = k then some o.2 else none := fun k => by
        rw [event, h]
        rfl
      rcases exec_carries hk h with ⟨g, hg, hc⟩ | ⟨hi, hc⟩
      · refine ⟨hc.keyed, fun k => ?_⟩
        rw [hev, hg]
        exact hc.advances k
      · refine ⟨hc.keyed, fun k => ?_⟩
        rw [hev]
        simp only [hi, Option.bind_none, Option.bind_fun_none]
        exact hc.advances k
    | masterpool c now i =>
      have hc := execMasterpool_carries hw hk hlink
        (fun c' now' i' heq => (Masterpool.Action.call.inj heq).1 ▸ configAddress_not_mem_keys c)
        h
      exact ⟨hc.keyed, hc.advances⟩
    | token c i =>
      have hc := execMasterpool_carries hw hk hlink (by rintro _ _ _ ⟨⟩) h
      exact ⟨hc.keyed, hc.advances⟩

theorem step_wf {s : System} (hw : Masterpool.Wf s.masterpool) (a : Action) :
    Masterpool.Wf (step host s a).masterpool := by
  rw [step_masterpool]
  exact Masterpool.run_wf hw _

theorem step_grows {s : System} (hw : Masterpool.Wf s.masterpool) (a : Action) :
    Masterpool.Grows s.masterpool (step host s a).masterpool := by
  rw [step_masterpool]
  exact Masterpool.run_grows hw _

/-- The masterpool keeps what identifies it. -/
theorem step_identity {s : System} (hw : Masterpool.Wf s.masterpool) (a : Action)
    {g : Masterpool.GlobalConfig} (hg : s.masterpool.config = some g) :
    ∃ g', (step host s a).masterpool.config = some g' ∧ Masterpool.SameIdentity g g' := by
  rw [step_masterpool]
  exact (Machine.run_induction
    (P := fun m => Masterpool.Wf m ∧ ∃ g', m.config = some g' ∧ Masterpool.SameIdentity g g')
    (fun m (b : Masterpool.Action) ⟨hm, g', hg', hid⟩ => by
      obtain ⟨g'', hg'', hid', -⟩ := (Masterpool.step_effect hm.sound b).config hg'
      exact ⟨Masterpool.step_wf hm b, g'', hg'', hid.trans hid'⟩)
    ⟨hw, g, hg, .refl g⟩ (calls host s a)).2

theorem linked_of_step {s : System} {a : Action} (hw : Masterpool.Wf s.masterpool)
    (h : Linked (step host s a)) : Linked s := by
  intro g hg
  obtain ⟨g', hg', hid⟩ := step_identity hw a hg
  rw [← hid.attestationProgram]
  exact h g' hg'

/-- The accounts of the receipt `k` show the phase `ph`, in a state that is in order. -/
structure Simulates (k : Pubkey) (s : System) (ph : Phase) : Prop where
  wf : Masterpool.Wf s.masterpool
  keyed : Keyed s
  shows : (view s k).Shows ph

theorem simulates_init (k : Pubkey) : Simulates k .init .absent :=
  ⟨Masterpool.wf_init, ⟨fun _ _ h => (nomatch h), fun _ _ h => (nomatch h)⟩, rfl, rfl, rfl, rfl⟩

/-- A step that is not an event leaves the phase and the settlement. -/
theorem Simulates.unnoticed {k : Pubkey} {s : System} {ph : Phase} {a : Action}
    (h : Simulates k s ph) (hl : Linked (step host s a)) (he : event host k s a = none) :
    Simulates k (step host s a) ph ∧
      (view (step host s a) k).settlement = (view s k).settlement := by
  obtain ⟨hkeyed, hadv⟩ := step_advances h.wf h.keyed (linked_of_step h.wf hl) a
  have hadv := hadv k
  rw [he] at hadv
  rcases hadv with heq | ⟨x, hx, hst, heq⟩
  · rw [heq]
    exact ⟨⟨step_wf h.wf a, hkeyed, heq ▸ h.shows⟩, rfl⟩
  · rw [heq]
    exact ⟨⟨step_wf h.wf a, hkeyed, heq ▸ h.shows.challengeClosed hx hst⟩, rfl⟩

/-- An event is a step of the protocol. -/
theorem Simulates.event {k : Pubkey} {s : System} {ph : Phase} {a : Action} {e : Event}
    (h : Simulates k s ph) (hl : Linked (step host s a)) (he : event host k s a = some e) :
    ∃ ph', Next e ph ph' ∧ Simulates k (step host s a) ph' := by
  obtain ⟨hkeyed, hadv⟩ := step_advances h.wf h.keyed (linked_of_step h.wf hl) a
  have hadv := hadv k
  rw [he] at hadv
  obtain ⟨ph', hnext, hshows⟩ := Transition.simulated hadv h.shows
  exact ⟨ph', hnext, step_wf h.wf a, hkeyed, hshows⟩

/-- **Run**: the events of a receipt lead to the phase that its accounts show. -/
theorem reached_path (as : List Action) (hlink : Linked (reached host as)) (k : Pubkey) :
    ∃ ph, Machine.Path Next .absent (history host as k) ph ∧ Simulates k (reached host as) ph := by
  refine Machine.run_path (P := fun s => Masterpool.Wf s.masterpool → Linked s)
    (fun s a h hw => linked_of_step hw (h (step_wf hw a))) (fun s a ph hl h => ?_)
    (simulates_init k) as fun _ => hlink
  have hlink := hl (step_wf h.wf a)
  cases he : Protocol.event host k s a with
  | none => exact (h.unnoticed hlink he).1
  | some e => exact h.event hlink he

end Protocol
