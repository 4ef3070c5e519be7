import Clawfarm.Masterpool.BondPayments
import Clawfarm.Masterpool.Payments

/-!
# Masterpool.Operators — calls that need the admin or the attestation program

Each instruction has an operator, or is open to everybody (`Instruction.operator`), and no call
succeeds without the signature of its operator (`exec_signed`).  The lemmas after that say what is
left as it was by calls of other kinds: the configs and the released rewards by all but the admin's,
the statuses of receipts by all but three of the attestation program.
-/

namespace Masterpool

open Token Checked

inductive Operator
  | admin
  | attestation
  deriving DecidableEq

/-- The key that an operator signs with. -/
def Operator.key (g : GlobalConfig) : Operator → Pubkey
  | .admin => g.adminAuthority
  | .attestation => .pda g.attestationProgram .CONFIG_SEED

/-- Who has to sign a call.  The initialization comes before there is an admin. -/
def Instruction.operator : Instruction → Option Operator
  | .initializeMasterpool .. => none
  | .mintGenesisSupply _ => some .admin
  | .updateConfig .. => some .admin
  | .setPauseFlags .. => some .admin
  | .initializeFaucet _ => some .admin
  | .setFaucetEnabled .. => some .admin
  | .updateFaucetLimits .. => some .admin
  | .fundFaucetClaw .. => some .admin
  | .claimFaucet .. => none
  | .registerProvider _ => none
  | .exitProvider _ => none
  | .materializeRewardRelease .. => some .admin
  | .claimReleasedClaw _ => none
  | .recordMiningFromReceipt .. => some .attestation
  | .settleFinalizedReceipt .. => some .attestation
  | .recordChallengeBond _ => some .attestation
  | .resolveChallengeEconomics .. => some .attestation

/-- The status that a call gives to a receipt.  A rejected challenge leaves it as it is. -/
def Instruction.judgement : Instruction → Option ReceiptSettlementStatus
  | .recordMiningFromReceipt .. => some .Recorded
  | .settleFinalizedReceipt .. => some .FinalizedSettled
  | .resolveChallengeEconomics _ code =>
    if code.toNat = ATTESTATION_RESOLUTION_REJECTED then none else some .ChallengedReverted
  | _ => none

def Action.judgement : Action → Option ReceiptSettlementStatus
  | .call _ _ i => i.judgement
  | .token .. => none

/-- The action decides about a receipt or a challenge. -/
def Action.Decides (a : Action) : Prop := a.judgement ≠ none ∨ a.resolution ≠ none

theorem not_decides_of_operator {c : Caller MASTERPOOL_ID} {now : Int64} {i : Instruction}
    (h : i.operator ≠ some .attestation) : ¬ (Action.call c now i).Decides := by
  rintro (hj | hr)
  · cases i <;> first | exact hj rfl | exact h rfl
  · cases i <;> first | exact hr rfl | exact h rfl

variable {c : Caller MASTERPOOL_ID} {s s' : State} {i : Instruction} {a : Action} {g : GlobalConfig}

theorem loadFaucetAsAdmin_signed {admin : Pubkey} {f : FaucetConfig}
    (hg : s.config = some g) (h : loadFaucetAsAdmin c admin s = .ok f) :
    g.adminAuthority ∈ c.signers := by
  simp only [loadFaucetAsAdmin, bind_eq_ok, load_eq_ok, sign_eq_ok, ensure_eq_ok, exists_unit,
    pure_eq_ok] at h
  obtain ⟨g', hg', hadmin, -, -, -, hsig, -⟩ := h
  rwa [Option.some.inj (hg.symm.trans hg'), hadmin]

/-- **Signatures**: a call succeeds only with the signature of its operator. -/
theorem exec_signed {now : ℤ} {o : Operator} (hg : s.config = some g) (hi : i.operator = some o)
    (h : exec c now s i = .ok s') : o.key g ∈ c.signers := by
  have hadmin : ∀ {g' : GlobalConfig} {k : Pubkey}, s.config = some g' → g'.adminAuthority = k →
      k ∈ c.signers → g.adminAuthority ∈ c.signers := by
    intro g' k hg' hk hsig
    rwa [Option.some.inj (hg.symm.trans hg'), hk]
  have hattestation : ∀ {g' : GlobalConfig} {k k' : Pubkey}, s.config = some g' →
      k = .pda g'.attestationProgram .CONFIG_SEED ∧ k ∈ c.signers ∧ k' = g'.attestationProgram →
      Operator.attestation.key g ∈ c.signers := by
    rintro g' k k' hg' ⟨rfl, hsig, -⟩
    rwa [Option.some.inj (hg.symm.trans hg')]
  cases i with
  | mintGenesisSupply ctx =>
    obtain rfl := Option.some.inj hi
    simp only [exec, mintGenesisSupply, bind_eq_ok, load_eq_ok, sign_eq_ok, ensure_eq_ok,
      exists_unit] at h
    obtain ⟨g', hg', hk, -, hsig, -⟩ := h
    exact hadmin hg' hk hsig
  | updateConfig ctx params =>
    obtain rfl := Option.some.inj hi
    simp only [exec, updateConfig, bind_eq_ok, load_eq_ok, sign_eq_ok, ensure_eq_ok,
      exists_unit] at h
    obtain ⟨g', hg', hk, hsig, -⟩ := h
    exact hadmin hg' hk hsig
  | setPauseFlags ctx a b d e =>
    obtain rfl := Option.some.inj hi
    simp only [exec, setPauseFlags, bind_eq_ok, load_eq_ok, sign_eq_ok, ensure_eq_ok,
      exists_unit] at h
    obtain ⟨g', hg', hk, hsig, -⟩ := h
    exact hadmin hg' hk hsig
  | initializeFaucet ctx =>
    obtain rfl := Option.some.inj hi
    simp only [exec, initializeFaucet, bind_eq_ok, load_eq_ok, sign_eq_ok, ensure_eq_ok,
      vacant_eq_ok, cpi_eq_ok, exists_unit] at h
    obtain ⟨g', hg', hk, -, -, -, -, -, -, -, -, hsig, -⟩ := h
    exact hadmin hg' hk hsig
  | setFaucetEnabled ctx enabled =>
    obtain rfl := Option.some.inj hi
    simp only [exec, setFaucetEnabled, bind_eq_ok] at h
    obtain ⟨f, hf, -⟩ := h
    exact loadFaucetAsAdmin_signed hg hf
  | updateFaucetLimits ctx limits =>
    obtain rfl := Option.some.inj hi
    simp only [exec, updateFaucetLimits, bind_eq_ok] at h
    obtain ⟨f, hf, -⟩ := h
    exact loadFaucetAsAdmin_signed hg hf
  | fundFaucetClaw ctx amount =>
    obtain rfl := Option.some.inj hi
    simp only [exec, fundFaucetClaw, bind_eq_ok, load_eq_ok, sign_eq_ok, ensure_eq_ok,
      tokenAccount_eq_ok, mintAccount_eq_ok, exists_unit] at h
    obtain ⟨g', hg', hk, -, -, -, -, -, -, -, -, -, -, -, -, -, -, -, -, -, -, hsig, -⟩ := h
    exact hadmin hg' hk hsig
  | materializeRewardRelease ctx target amount =>
    obtain rfl := Option.some.inj hi
    obtain ⟨tgt, x, r, -, hr, -⟩ := materializeRewardRelease_ok h
    obtain ⟨g', hg', hk, hsig⟩ := hr.admin
    exact hadmin hg' hk hsig
  | recordMiningFromReceipt ctx n =>
    obtain rfl := Option.some.inj hi
    obtain ⟨g', pay, p, u, v, t₁, t₂, x, hr, -⟩ := recordMiningFromReceipt_ok h
    exact hattestation hr.config hr.attestation
  | settleFinalizedReceipt ctx status =>
    obtain rfl := Option.some.inj hi
    obtain ⟨g', x, p, u, v, t, hr, -⟩ := settleFinalizedReceipt_ok.mp h
    exact hattestation hr.config hr.attestation
  | recordChallengeBond ctx =>
    obtain rfl := Option.some.inj hi
    obtain ⟨g', x, p, t, b, hr, -⟩ := recordChallengeBond_ok h
    exact hattestation hr.config hr.attestation
  | resolveChallengeEconomics ctx code =>
    obtain rfl := Option.some.inj hi
    obtain ⟨g', x, b, p, u, v, r, hr, -⟩ := resolveChallengeEconomics_iff.mp h
    exact hattestation hr.config hr.attestation
  | _ => cases hi

/-! ## What the admin keeps -/

/-- The configs are the same, and nothing was released of a reward. -/
structure AdminKept (s s' : State) : Prop where
  config : s'.config = s.config
  faucetConfig : s'.faucetConfig = s.faucetConfig
  released : Store.Grows (fun x x' => x'.releasedSoFar = x.releasedSoFar)
    s.settlements s'.settlements

theorem AdminKept.refl (s : State) : AdminKept s s :=
  ⟨rfl, rfl, fun _ x hx => ⟨x, hx, rfl⟩⟩

theorem AdminKept.trans {s'' : State} (h : AdminKept s s') (h' : AdminKept s' s'') :
    AdminKept s s'' :=
  ⟨h'.config.trans h.config, h'.faucetConfig.trans h.faucetConfig,
    h.released.trans (fun _ _ _ h h' => h'.trans h) h'.released⟩

/-- Only the admin changes a config, or releases a reward. -/
theorem exec_adminKept {now : ℤ} (hg : s.config = some g) (hi : i.operator ≠ some .admin)
    (h : exec c now s i = .ok s') : AdminKept s s' := by
  have hfun : ∀ x : ReceiptSettlement, x.releasedSoFar = x.releasedSoFar := fun _ => rfl
  have hset : ∀ {k : Pubkey} {x x' : ReceiptSettlement}, s.settlements.get k = some x →
      x'.userClawReleased = x.userClawReleased → x'.providerClawReleased = x.providerClawReleased →
      Store.Grows (fun x x' => x'.releasedSoFar = x.releasedSoFar) s.settlements
        (s.settlements.set k x') := by
    intro k x x' hx hu hp
    refine Store.grows_update hfun hx (funext fun tgt => ?_)
    cases tgt
    · exact hu
    · exact hp
  have heconomic : i.IsEconomic → Store.Grows (fun x x' => x'.releasedSoFar = x.releasedSoFar)
      s.settlements s'.settlements → AdminKept s s' := fun hi hr =>
    ⟨(exec_economic hi h).config, (exec_economic hi h).faucetConfig, hr⟩
  cases i with
  | initializeMasterpool ctx params =>
    obtain ⟨x, y, t₁, t₂, t₃, t₄, t₅, hnone, -⟩ := initializeMasterpool_ok h
    cases hg.symm.trans hnone
  | claimFaucet ctx args =>
    obtain ⟨f, gl, u, t₁, t₂, -, rfl⟩ := claimFaucet_ok h
    exact ⟨rfl, rfl, .refl hfun _⟩
  | registerProvider ctx =>
    obtain ⟨g', t, -, rfl⟩ := registerProvider_ok h
    exact heconomic trivial (.refl hfun _)
  | exitProvider ctx =>
    obtain ⟨g', p, t, -, rfl⟩ := exitProvider_ok h
    exact heconomic trivial (.refl hfun _)
  | claimReleasedClaw ctx =>
    obtain ⟨g', r, t, -, rfl⟩ := claimReleasedClaw_ok h
    exact heconomic trivial (.refl hfun _)
  | recordMiningFromReceipt ctx n =>
    obtain ⟨g', pay, p, u, v, t₁, t₂, x, hr, rfl⟩ := recordMiningFromReceipt_ok h
    exact heconomic trivial (Store.grows_insert hfun hr.fresh x)
  | settleFinalizedReceipt ctx status =>
    obtain ⟨g', x, p, u, v, t, hr, rfl⟩ := settleFinalizedReceipt_ok.mp h
    exact heconomic trivial (hset hr.settlement rfl rfl)
  | recordChallengeBond ctx =>
    obtain ⟨g', x, p, t, b, -, rfl⟩ := recordChallengeBond_ok h
    exact heconomic trivial (.refl hfun _)
  | resolveChallengeEconomics ctx code =>
    rcases resolveChallengeEconomics_code h with hcode | hcode
    · have h' : resolveChallengeEconomics c now ctx code.toNat s = .ok s' := h
      rw [hcode] at h'
      obtain ⟨g', x, b, p, u, v, t, hr, -, -, rfl⟩ := resolveChallengeEconomics_rejecting h'
      exact heconomic trivial (hset hr.settlement rfl rfl)
    · obtain ⟨g', x, b, p, u, v, t₁, t₂, t₃, t₄, hr, -, -, rfl⟩ :=
        (resolveChallengeEconomics_accepting hcode).mp h
      exact heconomic trivial (hset hr.settlement rfl rfl)
  | _ => exact absurd rfl hi

/-! ## The status of receipts -/

/-- **Statuses**: a settlement has its status from before, or the step gave it. -/
theorem Effect.status (h : Effect s a s') {k : Pubkey} {x' : ReceiptSettlement}
    (hx' : s'.settlements.get k = some x') :
    (∃ x, s.settlements.get k = some x ∧ (x'.status = x.status ∨ a.judgement = some x'.status)) ∨
      (a.judgement = some .Recorded ∧ x'.status = .Recorded) := by
  have hsame : s'.settlements = s.settlements →
      ∃ x, s.settlements.get k = some x ∧ (x'.status = x.status ∨ a.judgement = some x'.status) :=
    fun he => ⟨x', by rw [← he]; exact hx', Or.inl rfl⟩
  have hset : ∀ {k' : Pubkey} {x x₁ : ReceiptSettlement}, s.settlements.get k' = some x →
      (s.settlements.set k' x₁).get k = some x' →
      (x₁.status = x.status ∨ a.judgement = some x₁.status) →
      ∃ x, s.settlements.get k = some x ∧
        (x'.status = x.status ∨ a.judgement = some x'.status) := by
    intro k' x x₁ hx hx₁ hst
    rcases Store.get_set_cases hx₁ with ⟨rfl, rfl⟩ | ⟨-, hold⟩
    · exact ⟨x, hx, hst⟩
    · exact ⟨x', hold, Or.inl rfl⟩
  cases h with
  | failed _ => exact Or.inl (hsame rfl)
  | aside _ h => exact Or.inl (hsame h.settlements)
  | genesis _ => exact Or.inl (hsame rfl)
  | fund _ => exact Or.inl (hsame rfl)
  | register _ => exact Or.inl (hsame rfl)
  | exit _ => exact Or.inl (hsame rfl)
  | claim _ => exact Or.inl (hsame rfl)
  | bond _ => exact Or.inl (hsame rfl)
  | record h =>
    rcases Store.get_set_cases hx' with ⟨-, rfl⟩ | ⟨-, hold⟩
    · exact Or.inr ⟨rfl, by rw [h.settlement]; rfl⟩
    · exact Or.inl ⟨x', hold, Or.inl rfl⟩
  | settle h => exact Or.inl (hset h.settlement hx' (Or.inr rfl))
  | reject _ h _ _ => exact Or.inl (hset h.settlement hx' (Or.inl rfl))
  | revert hn h _ _ =>
    refine Or.inl (hset h.settlement hx' (Or.inr (if_neg fun hcode => ?_)))
    rw [hcode] at hn
    revert hn
    decide
  | @materialize c now ctx target n tgt x r h =>
    refine Or.inl (hset h.settlement hx' (Or.inl ?_))
    cases tgt <;> rfl

/-- Nothing is recorded but by the call for it. -/
theorem Effect.unrecorded (h : Effect s a s') (ha : a.judgement ≠ some .Recorded) :
    Store.NoneNew (fun _ => True) s.settlements s'.settlements := by
  intro k x' hx' _
  rcases h.status hx' with ⟨x, hx, -⟩ | ⟨hrec, -⟩
  · exact ⟨x, hx, trivial⟩
  · exact absurd hrec ha

/-- No receipt gets a status but by the call for it. -/
theorem Effect.unjudged (h : Effect s a s') {st : ReceiptSettlementStatus} (hst : st ≠ .Recorded)
    (ha : a.judgement ≠ some st) :
    Store.NoneNew (fun x => x.status = st) s.settlements s'.settlements := by
  rintro k x' hx' rfl
  rcases h.status hx' with ⟨x, hx, hsame | hjudged⟩ | ⟨-, hrec⟩
  · exact ⟨x, hx, hsame.symm⟩
  · exact absurd hjudged ha
  · exact absurd hrec hst

/-- Receipts keep their status, no bond is resolved, and nothing leaves the vaults that hold what
is in dispute. -/
structure Undecided (s s' : State) : Prop where
  settlements : Store.Grows (fun x x' => x'.status = x.status) s.settlements s'.settlements
  bonds : Store.Grows Eq s.bonds s'.bonds
  pending : s.tokens.amount providerPendingUsdcVault ≤ s'.tokens.amount providerPendingUsdcVault
  bondVault : s.tokens.amount challengeBondVault ≤ s'.tokens.amount challengeBondVault

theorem Undecided.refl (s : State) : Undecided s s :=
  ⟨fun _ x hx => ⟨x, hx, rfl⟩, .refl Eq.refl _, le_rfl, le_rfl⟩

theorem Undecided.trans {s'' : State} (h : Undecided s s') (h' : Undecided s' s'') :
    Undecided s s'' :=
  ⟨h.settlements.trans (fun _ _ _ h h' => h'.trans h) h'.settlements,
    h.bonds.trans (fun _ _ _ h h' => h.trans h') h'.bonds,
    h.pending.trans h'.pending, h.bondVault.trans h'.bondVault⟩

/-- **Undecided**: a step that neither judges a receipt nor resolves a challenge. -/
theorem step_undecided (hw : Wf s) (hdec : ¬ a.Decides) : Undecided s (step s a) := by
  have heffect := step_effect hw.sound a
  obtain ⟨hj, hr⟩ := not_or.mp hdec
  have ha : a.judgement = none := not_not.mp hj
  have hres : a.resolution = none := not_not.mp hr
  have hpayee : a.payee = none := by
    cases a with
    | token c i => rfl
    | call c now i => cases i <;> first | rfl | cases ha | cases hres
  refine ⟨fun k x hx => ?_, ?_, ?_, ?_⟩
  · obtain ⟨x', hx', -⟩ := heffect.grows.settlements k x hx
    rcases heffect.status hx' with ⟨y, hy, hsame | hjudged⟩ | ⟨hjudged, -⟩
    · obtain rfl := Option.some.inj (hx.symm.trans hy)
      exact ⟨x', hx', hsame⟩
    · cases ha.symm.trans hjudged
    · cases ha.symm.trans hjudged
  · have hrefl : Store.Grows Eq s.bonds s.bonds := .refl Eq.refl _
    generalize step s a = s' at heffect
    cases heffect with
    | failed _ => exact hrefl
    | aside _ h => exact h.bonds ▸ hrefl
    | genesis _ => exact hrefl
    | fund _ => exact hrefl
    | register _ => exact hrefl
    | exit _ => exact hrefl
    | claim _ => exact hrefl
    | materialize _ => exact hrefl
    | bond h => exact Store.grows_insert Eq.refl h.fresh _
    | record _ => cases ha
    | settle _ => cases ha
    | reject _ _ _ _ => cases hres
    | revert _ _ _ _ => cases hres
  · exact Nat.sub_eq_zero_iff_le.mp (heffect.attributed hw hpayee)
  · exact Nat.sub_eq_zero_iff_le.mp (step_bondAttributed hw hres)

end Masterpool
