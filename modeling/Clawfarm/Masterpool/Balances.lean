import Clawfarm.Masterpool.Solvency

/-!
# Masterpool.Balances — what the four vaults hold, to the last unit

The books say what each vault should hold: the treasury all shares that it ever got, the pending
vault the provider shares of recorded receipts, the stake vault the stakes of active providers, the
bond vault the locked bonds.  No step takes a vault out of balance (`step_balance`) except a gift:
tokens that arrive from outside, from the faucet, or as the stake of a leaving provider who names
the vault as its destination.
-/

namespace Masterpool

open Token Checked

inductive Vault
  | treasury
  | pending
  | stake
  | bond
  deriving DecidableEq

def Vault.address : Vault → Pubkey
  | .treasury => treasuryUsdcVault
  | .pending => providerPendingUsdcVault
  | .stake => providerStakeUsdcVault
  | .bond => challengeBondVault

/-- What the books of the program have in the vault. -/
def Vault.held (v : Vault) (s : State) : ℕ :=
  match v with
  | .treasury => s.settlements.sum fun _ x => x.usdcToTreasury
  | .pending => s.settlements.sum fun _ x => x.owed
  | .stake => s.providers.sum fun _ p => p.owed
  | .bond => s.bonds.sum fun _ b => b.owed

/-- What the vault has beyond its books. -/
def Vault.surplus (v : Vault) (s : State) : ℕ := s.tokens.amount v.address - v.held s

/-- Actions by which a vault may get tokens that the program does not book. -/
def Action.gives (v : Vault) : Action → Bool
  | .token _ _ => true
  | .call _ _ (.claimFaucet ctx _) =>
    ctx.userClawToken = v.address ∨ ctx.userUsdcToken = v.address
  | .call _ _ (.exitProvider ctx) => ctx.providerDestinationUsdc = v.address
  | _ => false

/-- What a step gives to the vault. -/
def gift (v : Vault) (s : State) (a : Action) : ℕ :=
  if a.gives v then v.surplus (step s a) - v.surplus s else 0

/-- The vault and its books change by the same amount. -/
def InBalance (v : Vault) (s s' : State) : Prop :=
  s'.tokens.amount v.address + v.held s = s.tokens.amount v.address + v.held s'

variable {s s' : State} {v : Vault}

theorem Vault.owned (v : Vault) : Owned v.address := by
  cases v <;> rfl

/-- The four vaults are none of the other three accounts of the program. -/
theorem Vault.apart (v : Vault) : v.address ≠ Masterpool.rewardVault ∧
    v.address ≠ faucetClawVault ∧ v.address ≠ faucetUsdcVault := by
  cases v <;> decide

theorem inBalance_of_eq (hamt : s'.tokens.amount v.address = s.tokens.amount v.address)
    (hheld : v.held s' = v.held s) : InBalance v s s' := by
  rw [InBalance, hamt, hheld]

/-- Books that show nothing but the four stores. -/
theorem Vault.held_congr (v : Vault) (hx : s'.settlements = s.settlements)
    (hp : s'.providers = s.providers) (hb : s'.bonds = s.bonds) : v.held s' = v.held s := by
  cases v
  · exact congrArg (fun m => Store.sum m _) hx
  · exact congrArg (fun m => Store.sum m _) hx
  · exact congrArg (fun m => Store.sum m _) hp
  · exact congrArg (fun m => Store.sum m _) hb

/-! ## Actions that book nothing -/

theorem faucetTransfer_amount_eq {l l' : Ledger Pubkey} {a m d k : Pubkey} {n dec : ℕ}
    (h : faucetTransfer l a m d n dec = .ok l') (ha : k ≠ a) (hd : k ≠ d) :
    l'.amount k = l.amount k := by
  rcases faucetTransfer_ok h with h | ⟨-, rfl⟩
  · have hmove := transferChecked_amount h k
    rwa [if_neg ha, if_neg hd] at hmove
  · rfl

theorem aside_amount {a : Action} (hs : Sound s) (ha : a.IsAside) (hg : a.gives v = false)
    (h : a.exec s = .ok s') : s'.tokens.amount v.address = s.tokens.amount v.address := by
  cases a with
  | token c i => cases hg
  | call c now i =>
    cases i with
    | initializeMasterpool ctx params =>
      obtain ⟨x, y, t₁, t₂, t₃, t₄, t₅, -, -, -, -, -, -, h₁, h₂, h₃, h₄, h₅, rfl⟩ :=
        initializeMasterpool_ok h
      show t₅.amount _ = _
      rw [initializeAccount_amount h₅, initializeAccount_amount h₄, initializeAccount_amount h₃,
        initializeAccount_amount h₂, initializeAccount_amount h₁]
    | updateConfig ctx params =>
      obtain ⟨g, -, -, rfl⟩ := updateConfig_ok h
      rfl
    | setPauseFlags ctx r x f c' =>
      obtain ⟨g, -, rfl⟩ := setPauseFlags_ok h
      rfl
    | initializeFaucet ctx =>
      obtain ⟨g, f, gl, t₁, t₂, -, h₁, h₂, -, -, rfl⟩ := initializeFaucet_ok h
      show t₂.amount _ = _
      rw [initializeAccount_amount h₂, initializeAccount_amount h₁]
    | setFaucetEnabled ctx enabled =>
      obtain ⟨f, -, rfl⟩ := setFaucetEnabled_ok h
      rfl
    | updateFaucetLimits ctx limits =>
      obtain ⟨f, -, -, rfl⟩ := updateFaucetLimits_ok h
      rfl
    | claimFaucet ctx args =>
      obtain ⟨f, gl, u, t₁, t₂, hpays, rfl⟩ := claimFaucet_ok h
      obtain ⟨dec, h₁⟩ := hpays.claw
      obtain ⟨dec', h₂⟩ := hpays.usdc
      obtain ⟨hcv, huv⟩ := hpays.vaults
      obtain ⟨-, hclaw, husdc⟩ := v.apart
      have hdest := not_or.mp (of_decide_eq_false hg)
      rw [hcv, (hs.faucet f hpays.faucet).1] at h₁
      rw [huv, (hs.faucet f hpays.faucet).2] at h₂
      exact (faucetTransfer_amount_eq h₂ husdc fun e => hdest.2 e.symm).trans
        (faucetTransfer_amount_eq h₁ hclaw fun e => hdest.1 e.symm)
    | _ => exact absurd ha id

/-! ## Steps -/

theorem Vault.address_inj {v w : Vault} : v.address = w.address ↔ v = w := by
  cases v <;> cases w <;> decide

/-- The vault gets `i` and pays `o`, and so do its books. -/
theorem inBalance_of_moves {i o : ℕ} (hamt : s'.tokens.amount v.address + o =
    s.tokens.amount v.address + i) (hheld : v.held s' + o = v.held s + i) : InBalance v s s' := by
  rw [InBalance]
  omega

/-- A write that adds the obligation `n`, or takes it off. -/
theorem owed_added {K V : Type} [DecidableEq K] {m : Store K V} {k : K} {w : V} (f : V → ℕ) {n : ℕ}
    (h : m.get k = none) (hw : f w = n) :
    (m.set k w).sum (fun _ v => f v) + 0 = m.sum (fun _ v => f v) + n := by
  rw [owed_insert f h, hw]
  rfl

theorem owed_removed {K V : Type} [DecidableEq K] {m : Store K V} {k : K} {u w : V} (f : V → ℕ)
    {n : ℕ} (h : m.get k = some u) (hu : f u = n) (hw : f w = 0) :
    (m.set k w).sum (fun _ v => f v) + n = m.sum (fun _ v => f v) + 0 := by
  rw [← hu, owed_set f h, hw]

theorem ReceiptSettlement.owed_of_recorded {x : ReceiptSettlement} (h : x.status = .Recorded) :
    x.owed = x.usdcToProvider := if_pos h

theorem ChallengeBondRecord.owed_of_locked {b : ChallengeBondRecord} (h : b.status = .Locked) :
    b.owed = b.bondAmount := if_pos h

section Steps

variable {c : Caller MASTERPOOL_ID} {now : Int64}

theorem register_balance {ctx : RegisterProvider} {g : GlobalConfig} {t : Ledger Pubkey}
    (hs : Sound s) (h : Registers c ctx s g t) : InBalance v s (registered now.toInt ctx s g t) := by
  have hamt := h.amount hs v.owned
  rw [show providerStakeUsdcVault = Vault.stake.address from rfl] at hamt
  refine inBalance_of_moves (o := 0) hamt ?_
  simp only [Vault.address_inj]
  cases v
  · rfl
  · rfl
  · exact owed_added ProviderAccount.owed h.fresh rfl
  · rfl

theorem exit_balance {ctx : ExitProvider} {g : GlobalConfig} {p : ProviderAccount}
    {t : Ledger Pubkey} (hs : Sound s) (hdest : ctx.providerDestinationUsdc ≠ v.address)
    (h : Exits c ctx s g p t) : InBalance v s (exited now.toInt ctx s p t) := by
  have hamt := h.amount hs v.address
  rw [if_neg hdest.symm, show providerStakeUsdcVault = Vault.stake.address from rfl] at hamt
  refine inBalance_of_moves hamt ?_
  simp only [Vault.address_inj]
  cases v
  · rfl
  · rfl
  · exact owed_removed ProviderAccount.owed h.provider (if_pos h.active) rfl
  · rfl

theorem record_balance {ctx : RecordMiningFromReceipt} {n : ℕ} {g : GlobalConfig}
    {pay : TokenAccount Pubkey} {p : ProviderAccount} {u w : RewardAccount}
    {t₁ t₂ : Ledger Pubkey} {x : ReceiptSettlement} (hs : Sound s)
    (h : Records c now.toInt ctx n s g pay p u w t₁ t₂ x) :
    InBalance v s (recorded now.toInt ctx s p u w t₂ x) := by
  have hamt := h.amount hs v.owned
  rw [Nat.add_assoc, show treasuryUsdcVault = Vault.treasury.address from rfl,
    show providerPendingUsdcVault = Vault.pending.address from rfl] at hamt
  refine inBalance_of_moves (o := 0) hamt ?_
  simp only [Vault.address_inj]
  have howed : x.owed = x.usdcToProvider :=
    ReceiptSettlement.owed_of_recorded (by rw [h.settlement]; rfl)
  cases v
  · exact owed_added ReceiptSettlement.usdcToTreasury h.fresh rfl
  · exact owed_added ReceiptSettlement.owed h.fresh (howed.trans (Nat.zero_add _).symm)
  · exact owed_set_of_eq ProviderAccount.owed h.provider rfl
  · rfl

theorem settle_balance {ctx : SettleFinalizedReceipt} {n : ℕ} {g : GlobalConfig}
    {x : ReceiptSettlement} {p : ProviderAccount} {u w : RewardAccount} {t : Ledger Pubkey}
    (hw : Wf s) (h : Settles c ctx n s g x p u w t) :
    InBalance v s (settled now.toInt ctx s x p u w t) := by
  obtain ⟨hout, hall⟩ := h.amount hw
  have hamt := hall v.address
  rw [if_neg (v.owned.ne hout), show providerPendingUsdcVault = Vault.pending.address from rfl]
    at hamt
  refine inBalance_of_moves hamt ?_
  simp only [Vault.address_inj]
  cases v
  · exact owed_set_of_eq ReceiptSettlement.usdcToTreasury h.settlement rfl
  · exact owed_removed ReceiptSettlement.owed h.settlement
      (ReceiptSettlement.owed_of_recorded h.recorded) rfl
  · exact owed_set_of_eq ProviderAccount.owed h.provider rfl
  · rfl

theorem bond_balance {ctx : RecordChallengeBond} {g : GlobalConfig} {x : ReceiptSettlement}
    {p : ProviderAccount} {t : Ledger Pubkey} {b : ChallengeBondRecord} (hs : Sound s)
    (h : Bonds c now.toInt ctx s g x p t b) : InBalance v s (bonded now.toInt ctx s x p t b) := by
  have hamt := h.amount hs v.owned
  rw [show challengeBondVault = Vault.bond.address from rfl] at hamt
  refine inBalance_of_moves (o := 0) hamt ?_
  simp only [Vault.address_inj]
  cases v
  · rfl
  · rfl
  · exact owed_set_of_eq ProviderAccount.owed h.provider rfl
  · exact owed_added ChallengeBondRecord.owed h.fresh
      (ChallengeBondRecord.owed_of_locked (by rw [h.record]; rfl))

section Resolutions

variable {ctx : ResolveChallengeEconomics} {g : GlobalConfig} {x : ReceiptSettlement}
  {b : ChallengeBondRecord} {p : ProviderAccount} {u w : RewardAccount}

theorem reject_balance {t : Ledger Pubkey} (hs : Sound s) (h : Resolves c ctx s g x b p u w)
    (ht : burn s.tokens ctx.clawMint ctx.challengeBondVault poolAuthority b.bondAmount = .ok t) :
    InBalance v s (rejected now.toInt ctx s x b p t) := by
  have hamt := (h.burn_bond hs ht).1 v.address
  rw [show challengeBondVault = Vault.bond.address from rfl] at hamt
  refine inBalance_of_moves (i := 0) hamt ?_
  simp only [Vault.address_inj]
  cases v
  · exact owed_set_of_eq ReceiptSettlement.usdcToTreasury h.settlement rfl
  · exact owed_set_of_eq ReceiptSettlement.owed h.settlement rfl
  · exact owed_set_of_eq ProviderAccount.owed h.provider rfl
  · exact owed_removed ChallengeBondRecord.owed h.bond
      (ChallengeBondRecord.owed_of_locked h.locked) rfl

theorem revert_balance {t₁ t₂ t₃ t₄ : Ledger Pubkey} (hw : Wf s)
    (h : Resolves c ctx s g x b p u w) (ha : Accepts g ctx ⟨s.tokens, x, b, p, u, w⟩ t₁ t₂ t₃ t₄) :
    InBalance v s (reverted now.toInt ctx s x b p u w t₄) := by
  have hamt := h.amount hw ha v.owned
  rw [if_neg v.apart.1, Nat.add_zero, Nat.add_assoc,
    show challengeBondVault = Vault.bond.address from rfl,
    show providerPendingUsdcVault = Vault.pending.address from rfl] at hamt
  refine inBalance_of_moves (i := 0) hamt ?_
  simp only [Vault.address_inj]
  cases v
  · exact owed_set_of_eq ReceiptSettlement.usdcToTreasury h.settlement rfl
  · exact (congrArg (_ + ·) (Nat.zero_add _)).trans (owed_removed ReceiptSettlement.owed h.settlement
      (ReceiptSettlement.owed_of_recorded h.recorded) rfl)
  · exact owed_set_of_eq ProviderAccount.owed h.provider rfl
  · exact owed_removed ChallengeBondRecord.owed h.bond
      (ChallengeBondRecord.owed_of_locked h.locked) rfl

end Resolutions

end Steps

/-- **Step**: unless it is a gift, a step changes the vault and its books alike. -/
theorem Effect.balance {a : Action} (hw : Wf s) (hg : a.gives v = false)
    (haside : a.IsAside → s'.tokens.amount v.address = s.tokens.amount v.address)
    (h : Effect s a s') : InBalance v s s' := by
  cases h with
  | failed _ => rfl
  | aside ha h =>
    exact inBalance_of_eq (haside ha) (v.held_congr h.settlements h.providers h.bonds)
  | genesis h =>
    have hamt := h.amount v.address
    rw [if_neg v.apart.1] at hamt
    exact inBalance_of_eq hamt (v.held_congr rfl rfl rfl)
  | fund h =>
    have hamt := h.amount v.address
    rw [if_neg v.apart.1, if_neg v.apart.2.1] at hamt
    exact inBalance_of_eq hamt (v.held_congr rfl rfl rfl)
  | register h => exact register_balance hw.sound h
  | exit h => exact exit_balance hw.sound (of_decide_eq_false hg) h
  | record h => exact record_balance hw.sound h
  | settle h => exact settle_balance hw h
  | bond h => exact bond_balance hw.sound h
  | reject _ h ht _ => exact reject_balance hw.sound h ht
  | revert _ h ha _ => exact revert_balance hw h ha
  | @materialize c now ctx target n tgt x r h =>
    refine inBalance_of_eq rfl ?_
    cases v
    · exact owed_set_of_eq ReceiptSettlement.usdcToTreasury h.settlement (by cases tgt <;> rfl)
    · exact owed_set_of_eq ReceiptSettlement.owed h.settlement (by cases tgt <;> rfl)
    · rfl
    · rfl
  | claim h =>
    obtain ⟨hout, hall⟩ := h.amount hw.sound
    have hamt := hall v.address
    rw [if_neg v.apart.1, if_neg (v.owned.ne hout)] at hamt
    exact inBalance_of_eq hamt (v.held_congr rfl rfl rfl)

theorem step_balance {a : Action} (hw : Wf s) (hg : a.gives v = false) :
    InBalance v s (step s a) := by
  refine (step_effect hw.sound a).balance hw hg fun ha => ?_
  rcases step_cases s a with ⟨-, -, hs⟩ | hok
  · rw [hs]
  · exact aside_amount hw.sound ha hg hok

/-- **Gift**: the books stay, or the stake of a leaving provider comes off them. -/
theorem Effect.surplus {a : Action} (hw : Wf s) (hg : a.gives v = true) (h : Effect s a s') :
    s.tokens.amount v.address + v.held s' ≤ s'.tokens.amount v.address + v.held s := by
  cases h with
  | failed _ => exact le_rfl
  | aside _ h =>
    rw [v.held_congr h.settlements h.providers h.bonds]
    exact Nat.add_le_add_right (h.noLoss _ v.owned v.apart.2.1 v.apart.2.2) _
  | @exit c now ctx g p t h =>
    have hamt := h.amount hw.sound v.address
    rw [if_pos (of_decide_eq_true hg).symm] at hamt
    have hheld : v.held (exited now.toInt ctx s p t) ≤ v.held s ∧
        (v.address = providerStakeUsdcVault →
          v.held (exited now.toInt ctx s p t) + p.stakedUsdcAmount = v.held s) := by
      have hstake := owed_removed (n := p.stakedUsdcAmount)
        (w := { p with stakedUsdcAmount := 0, status := .Exited, updatedAt := now.toInt })
        ProviderAccount.owed h.provider (if_pos h.active) rfl
      cases v
      · exact ⟨le_rfl, fun e => absurd e (by decide)⟩
      · exact ⟨le_rfl, fun e => absurd e (by decide)⟩
      · exact ⟨(Nat.le_add_right _ _).trans hstake.le, fun _ => hstake⟩
      · exact ⟨le_rfl, fun e => absurd e (by decide)⟩
    show s.tokens.amount v.address + _ ≤ t.amount v.address + _
    split_ifs at hamt with hv
    · have := hheld.2 hv
      omega
    · have := hheld.1
      omega
  | _ => cases hg

theorem step_surplus (hw : Wf s) (a : Action) (v : Vault) :
    s.tokens.amount v.address + v.held (step s a) ≤
      (step s a).tokens.amount v.address + v.held s := by
  cases hg : a.gives v with
  | false => exact (step_balance hw hg).ge
  | true => exact (step_effect hw.sound a).surplus hw hg

/-! ## Runs -/

/-- The vault holds what the books have in it and the gifts `n`. -/
structure Balances (v : Vault) (n : ℕ) (s : State) : Prop where
  wf : Wf s
  amount : s.tokens.amount v.address = v.held s + n

theorem balances_init (v : Vault) : Balances v 0 .init := ⟨wf_init, by cases v <;> rfl⟩

theorem Balances.next {n : ℕ} (h : Balances v n s) (a : Action) :
    Balances v (n + gift v s a) (step s a) := by
  refine ⟨step_wf h.wf a, ?_⟩
  have hamt := h.amount
  have hsurplus := step_surplus h.wf a v
  unfold gift Vault.surplus
  cases hg : a.gives v with
  | false =>
    have hbal := step_balance h.wf hg
    unfold InBalance at hbal
    simp only [Bool.false_eq_true, if_false]
    omega
  | true =>
    simp only [if_true]
    omega

theorem reached_balances (as : List Action) (v : Vault) :
    Balances v (Machine.total step (gift v) .init as) (reached as) :=
  Machine.total_induction step (gift v) (I := Balances v) (fun _ _ a h => h.next a)
    (balances_init v) as

/-- The treasury is paid out of by no instruction. -/
theorem step_treasury (hw : Wf s) (a : Action) :
    s.tokens.amount treasuryUsdcVault ≤ (step s a).tokens.amount treasuryUsdcVault := by
  have hheld : Vault.treasury.held s ≤ Vault.treasury.held (step s a) :=
    Store.sum_le_of_grows (step_grows hw a).settlements fun x x' hx => hx.usdcToTreasury.ge
  have hsurplus := step_surplus hw a .treasury
  simp only [Vault.address] at hsurplus
  omega

/-- **Vault balances**: in every run, the treasury, the pending, the stake and the bond vault hold
exactly what the books have in them and what they were given; every other step changes a vault and
its books alike; and nothing ever leaves the treasury. -/
theorem vault_balances (as : List Action) :
    (∀ v : Vault, (reached as).tokens.amount v.address =
      v.held (reached as) + Machine.total step (gift v) .init as) ∧
    (∀ (v : Vault) (a : Action), a.gives v = false →
      InBalance v (reached as) (step (reached as) a)) ∧
    ∀ bs, (reached as).tokens.amount treasuryUsdcVault ≤
      (reached (as ++ bs)).tokens.amount treasuryUsdcVault := by
  refine ⟨fun v => (reached_balances as v).amount,
    fun v a hg => step_balance (reached_wf as) hg, fun bs => ?_⟩
  rw [reached_append]
  exact Machine.run_relation_of_inv (P := Wf)
    (R := fun s s' => s.tokens.amount treasuryUsdcVault ≤ s'.tokens.amount treasuryUsdcVault)
    (fun s a hw => step_wf hw a) (fun _ => le_rfl) (fun _ _ _ h h' => h.trans h')
    (fun s a hw => step_treasury hw a) (reached_wf as) bs

end Masterpool
