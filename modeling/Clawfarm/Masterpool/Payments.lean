import Clawfarm.Masterpool.Flows

/-!
# Masterpool.Payments — what has been paid on behalf of a settlement

Along a run, four totals are kept of each settlement: what left the pending vault on its behalf,
what of that reached token accounts of a given wallet, how often it was paid out and how often it
was refunded.  They are functions of its status (`ReceiptSettlement.paid`), so no order of calls
pays or refunds it twice.
-/

namespace Masterpool

open Token Checked

/-! ## Four measures of a step -/

/-- The receipt that a payout or a resolution is about, and the token account that it pays. -/
def Action.payee : Action → Option (Pubkey × Pubkey)
  | .call _ _ (.settleFinalizedReceipt ctx _) =>
    some (ctx.attestationReceipt, ctx.providerDestinationUsdc)
  | .call _ _ (.resolveChallengeEconomics ctx _) => some (ctx.attestationReceipt, ctx.payerUsdcToken)
  | _ => none

/-- What leaves the pending vault between two states. -/
def vaultOutflow (s s' : State) : ℕ :=
  s.tokens.amount providerPendingUsdcVault - s'.tokens.amount providerPendingUsdcVault

/-- What leaves it on behalf of the receipt `k`. -/
def outflow (k : Pubkey) (s : State) (a : Action) (s' : State) : ℕ :=
  if a.payee.any fun p => p.1 = k then vaultOutflow s s' else 0

/-- The part of it that is credited to a token account of the wallet `w`. -/
def creditedTo (k w : Pubkey) (s : State) (a : Action) (s' : State) : ℕ :=
  if a.payee.any fun p => p.1 = k ∧ ((s.tokens.accounts.get p.2).any fun y => y.owner = w) ∧
    s.tokens.amount p.2 + vaultOutflow s s' ≤ s'.tokens.amount p.2 then vaultOutflow s s' else 0

def Action.pays (k : Pubkey) : Action → Bool
  | .call _ _ (.settleFinalizedReceipt ctx _) => ctx.attestationReceipt = k
  | _ => false

def Action.refunds (k : Pubkey) : Action → Bool
  | .call _ _ (.resolveChallengeEconomics ctx code) =>
    ctx.attestationReceipt = k ∧ IsAccepting code.toNat
  | _ => false

/-- The receipt `k` is paid out by this step. -/
def payouts (k : Pubkey) (s : State) (a : Action) : ℕ :=
  if a.pays k ∧ (a.exec s).toOption.isSome then 1 else 0

/-- The receipt `k` is refunded by this step. -/
def refunds (k : Pubkey) (s : State) (a : Action) : ℕ :=
  if a.refunds k ∧ (a.exec s).toOption.isSome then 1 else 0

def payments (k w : Pubkey) (s : State) (a : Action) (s' : State) : ℕ × ℕ × ℕ × ℕ :=
  (outflow k s a s', creditedTo k w s a s', payouts k s a, refunds k s a)

/-- What the status of a settlement says about its payments. -/
def ReceiptSettlement.paid (w : Pubkey) (x : ReceiptSettlement) : ℕ × ℕ × ℕ × ℕ :=
  match x.status with
  | .Recorded => (0, 0, 0, 0)
  | .FinalizedSettled =>
    (x.usdcToProvider, if x.providerWallet = w then x.usdcToProvider else 0, 1, 0)
  | .ChallengedReverted =>
    (x.usdcToProvider, if x.payerUser = w then x.usdcToProvider else 0, 0, 1)

theorem ReceiptSettlement.paid_eq (w : Pubkey) (x : ReceiptSettlement) : x.paid w =
    (if x.status = .Recorded then 0 else x.usdcToProvider,
      if x.status = .FinalizedSettled ∧ x.providerWallet = w ∨
        x.status = .ChallengedReverted ∧ x.payerUser = w then x.usdcToProvider else 0,
      if x.status = .FinalizedSettled then 1 else 0,
      if x.status = .ChallengedReverted then 1 else 0) := by
  unfold ReceiptSettlement.paid
  cases hst : x.status <;> simp

def State.paid (k w : Pubkey) (s : State) : ℕ × ℕ × ℕ × ℕ :=
  s.settlements.term (fun _ x => x.paid w) k

/-! ## Steps that pay nothing -/

variable {s s' : State} {a : Action} {k w : Pubkey}

theorem payouts_eq_zero (h : a.pays k = false ∨ ∃ e, a.exec s = .error e) : payouts k s a = 0 := by
  refine if_neg fun hp => ?_
  rcases h with h | ⟨e, he⟩
  · rw [h] at hp
    exact Bool.false_ne_true hp.1
  · rw [he] at hp
    exact Bool.false_ne_true hp.2

theorem refunds_eq_zero (h : a.refunds k = false ∨ ∃ e, a.exec s = .error e) :
    refunds k s a = 0 := by
  refine if_neg fun hp => ?_
  rcases h with h | ⟨e, he⟩
  · rw [h] at hp
    exact Bool.false_ne_true hp.1
  · rw [he] at hp
    exact Bool.false_ne_true hp.2

/-- Nothing leaves the vault, or nothing does on behalf of `k`. -/
theorem flow_eq_zero (h : vaultOutflow s s' = 0 ∨ ∀ p, a.payee = some p → p.1 ≠ k) :
    outflow k s a s' = 0 ∧ creditedTo k w s a s' = 0 := by
  unfold outflow creditedTo
  rcases h with h | h
  · rw [h, ite_self, ite_self]
    exact ⟨rfl, rfl⟩
  · cases ha : a.payee with
    | none => exact ⟨rfl, rfl⟩
    | some p =>
      have hne := h p ha
      simp only [Option.any_some, decide_eq_true_eq, hne, false_and, if_false, and_self]

theorem payments_eq_zero (hflow : vaultOutflow s s' = 0 ∨ ∀ p, a.payee = some p → p.1 ≠ k)
    (hpay : a.pays k = false ∨ ∃ e, a.exec s = .error e)
    (href : a.refunds k = false ∨ ∃ e, a.exec s = .error e) : payments k w s a s' = 0 := by
  obtain ⟨hout, hcred⟩ := flow_eq_zero (w := w) hflow
  rw [payments, hout, hcred, payouts_eq_zero hpay, refunds_eq_zero href]
  rfl

theorem payments_of_noPayee (h : a.payee = none) : payments k w s a s' = 0 := by
  have hflow : ∀ p, a.payee = some p → p.1 ≠ k := fun p hp => by
    rw [h] at hp
    cases hp
  have hpay : a.pays k = false ∧ a.refunds k = false := by
    cases a with
    | call c now i => cases i <;> first | exact ⟨rfl, rfl⟩ | cases h
    | token c i => exact ⟨rfl, rfl⟩
  exact payments_eq_zero (Or.inr hflow) (Or.inl hpay.1) (Or.inl hpay.2)

theorem Action.IsAside.noPayee (h : a.IsAside) : a.payee = none := by
  cases a with
  | call c now i => cases i <;> first | rfl | exact absurd h id
  | token c i => rfl

/-! ## Steps that pay -/

/-- A payment of the amount `n` to a token account of `o`. -/
theorem flow_eq {d o : Pubkey} {n : ℕ} (hpayee : a.payee = some (k, d))
    (hout : vaultOutflow s s' = n) (hd : ∃ y, s.tokens.accounts.get d = some y ∧ y.owner = o)
    (hcred : s.tokens.amount d + n ≤ s'.tokens.amount d) :
    outflow k s a s' = n ∧ creditedTo k w s a s' = if o = w then n else 0 := by
  obtain ⟨y, hy, rfl⟩ := hd
  constructor
  · rw [outflow, hpayee, Option.any_some, if_pos (decide_eq_true rfl), hout]
  · rw [creditedTo, hpayee, Option.any_some, hy, Option.any_some, hout]
    simp only [hcred, decide_eq_true_eq, true_and, and_true]

theorem payouts_eq_one (h : a.pays k = true) (he : a.exec s = .ok s') : payouts k s a = 1 := by
  refine if_pos ⟨h, ?_⟩
  rw [he]
  rfl

theorem refunds_eq_one (h : a.refunds k = true) (he : a.exec s = .ok s') : refunds k s a = 1 := by
  refine if_pos ⟨h, ?_⟩
  rw [he]
  rfl

theorem paid_set (m : Store Pubkey ReceiptSettlement) (k₀ : Pubkey) (y : ReceiptSettlement)
    (h : y.paid w = m.term (fun _ x => x.paid w) k₀) :
    (m.set k₀ y).term (fun _ x => x.paid w) k = m.term (fun _ x => x.paid w) k := by
  rw [Store.term_set]
  split_ifs with hk
  · rw [h, hk]
  · rfl

theorem paid_of_recorded {x : ReceiptSettlement} (h : x.status = .Recorded) : x.paid w = 0 := by
  rw [ReceiptSettlement.paid, h]
  rfl

theorem Settles.paid {c : Caller MASTERPOOL_ID} {now : Int64} {ctx : SettleFinalizedReceipt}
    {n : UInt8} {g : GlobalConfig} {x : ReceiptSettlement} {p : ProviderAccount}
    {u v : RewardAccount} {t : Ledger Pubkey} (hw : Wf s)
    (h : Settles c ctx n.toNat s g x p u v t) :
    payments k w s (.call c now (.settleFinalizedReceipt ctx n))
        (settled now.toInt ctx s x p u v t) + s.paid k w =
      (settled now.toInt ctx s x p u v t).paid k w := by
  by_cases hk : ctx.attestationReceipt = k
  · subst hk
    obtain ⟨hd, hamt⟩ := h.amount hw
    obtain ⟨y, hy, hyo, -⟩ := h.destination
    have hvault := hamt providerPendingUsdcVault
    have hdest := hamt ctx.providerDestinationUsdc
    have hne : providerPendingUsdcVault ≠ ctx.providerDestinationUsdc := Owned.ne rfl hd
    rw [if_pos rfl, if_neg hne] at hvault
    rw [if_neg hne.symm, if_pos rfl] at hdest
    have hexec : (Action.call c now (.settleFinalizedReceipt ctx n)).exec s =
      .ok (settled now.toInt ctx s x p u v t) :=
      settleFinalizedReceipt_ok.mpr ⟨g, x, p, u, v, t, h, rfl⟩
    have hout : vaultOutflow s (settled now.toInt ctx s x p u v t) = x.usdcToProvider := by
      show s.tokens.amount _ - t.amount _ = _
      omega
    obtain ⟨hflow, hcred⟩ := flow_eq (w := w) (a := .call c now (.settleFinalizedReceipt ctx n)) rfl
      hout ⟨y, hy, hyo⟩ hdest.ge
    have hbefore : s.paid ctx.attestationReceipt w = 0 := by
      rw [State.paid, Store.term_some h.settlement, paid_of_recorded h.recorded]
    have hafter : (settled now.toInt ctx s x p u v t).paid ctx.attestationReceipt w =
        (x.usdcToProvider, if x.providerWallet = w then x.usdcToProvider else 0, 1, 0) :=
      Store.term_set_self _ _ _ _
    have hcount : payouts ctx.attestationReceipt s (.call c now (.settleFinalizedReceipt ctx n)) = 1 :=
      payouts_eq_one (decide_eq_true rfl) hexec
    rw [hbefore, hafter, add_zero, payments, hflow, hcred, hcount, refunds_eq_zero (Or.inl rfl)]
  · have hzero : payments k w s (.call c now (.settleFinalizedReceipt ctx n))
        (settled now.toInt ctx s x p u v t) = 0 := by
      refine payments_eq_zero (Or.inr fun q hq => ?_) (Or.inl (decide_eq_false hk)) (Or.inl rfl)
      obtain rfl := Option.some.inj hq
      exact hk
    rw [hzero, zero_add]
    exact (Store.term_set_of_ne (fun he => hk he.symm) _ _).symm

/-- The refund of an acceptance reaches the payer's token account. -/
theorem Resolves.refund_credit {c : Caller MASTERPOOL_ID} {ctx : ResolveChallengeEconomics}
    {g : GlobalConfig} {x : ReceiptSettlement} {b : ChallengeBondRecord} {p : ProviderAccount}
    {u v : RewardAccount} {t₁ t₂ t₃ t₄ : Ledger Pubkey} (hw : Wf s)
    (h : Resolves c ctx s g x b p u v) (ha : Accepts g ctx ⟨s.tokens, x, b, p, u, v⟩ t₁ t₂ t₃ t₄) :
    s.tokens.amount ctx.payerUsdcToken + x.usdcToProvider ≤ t₄.amount ctx.payerUsdcToken := by
  have hpay := (h.outside hw ha).1
  obtain ⟨hbv, hrv, hpv⟩ := h.vaults_eq hw.sound
  have hne : ∀ v, Owned v → ctx.payerUsdcToken ≠ v := fun v hv => (hv.ne hpay).symm
  have h₁ := transferChecked_amount ha.bondReturn ctx.payerUsdcToken
  rw [if_neg (hne _ (hbv ▸ rfl))] at h₁
  have h₂ : t₁.amount ctx.payerUsdcToken ≤ t₂.amount ctx.payerUsdcToken := by
    have hr := ifPositive_ok.mp ha.reward
    rcases Nat.eq_zero_or_pos b.challengerRewardAmount with hn | hn
    · rw [hr.2 hn]
    · have hmove := transferChecked_amount (hr.1 hn) ctx.payerUsdcToken
      rw [if_neg (hne _ (hrv ▸ rfl))] at hmove
      omega
  have h₃ := (ifPositive_burn ha.slash).1 ctx.payerUsdcToken
  rw [if_neg (hne _ (hrv ▸ rfl))] at h₃
  have h₄ := transferChecked_amount ha.refund ctx.payerUsdcToken
  rw [if_neg (hne _ (hpv ▸ rfl)), if_pos rfl] at h₄
  simp only at h₁ h₄
  omega

theorem Resolves.paid {c : Caller MASTERPOOL_ID} {now : Int64} {ctx : ResolveChallengeEconomics}
    {n : UInt8} {g : GlobalConfig} {x : ReceiptSettlement} {b : ChallengeBondRecord}
    {p : ProviderAccount} {u v : RewardAccount} {t₁ t₂ t₃ t₄ : Ledger Pubkey} (hw : Wf s)
    (hn : IsAccepting n.toNat) (h : Resolves c ctx s g x b p u v)
    (ha : Accepts g ctx ⟨s.tokens, x, b, p, u, v⟩ t₁ t₂ t₃ t₄)
    (hp : 1 ≤ p.unresolvedChallengeCount) :
    payments k w s (.call c now (.resolveChallengeEconomics ctx n))
        (reverted now.toInt ctx s x b p u v t₄) + s.paid k w =
      (reverted now.toInt ctx s x b p u v t₄).paid k w := by
  by_cases hk : ctx.attestationReceipt = k
  · subst hk
    have hvault := h.amount hw ha (k := providerPendingUsdcVault) rfl
    rw [if_neg (by decide), if_neg (by decide), if_pos rfl] at hvault
    have hexec : (Action.call c now (.resolveChallengeEconomics ctx n)).exec s =
      .ok (reverted now.toInt ctx s x b p u v t₄) :=
      (resolveChallengeEconomics_accepting hn).mpr
        ⟨g, x, b, p, u, v, t₁, t₂, t₃, t₄, h, ha, hp, rfl⟩
    have hout : vaultOutflow s (reverted now.toInt ctx s x b p u v t₄) = x.usdcToProvider := by
      show s.tokens.amount _ - t₄.amount _ = _
      omega
    obtain ⟨y, hy, hyo, -⟩ := ha.payer
    obtain ⟨hflow, hcred⟩ := flow_eq (w := w)
      (a := .call c now (.resolveChallengeEconomics ctx n)) rfl hout ⟨y, hy, hyo⟩
      (h.refund_credit hw ha)
    have hbefore : s.paid ctx.attestationReceipt w = 0 := by
      rw [State.paid, Store.term_some h.settlement, paid_of_recorded h.recorded]
    have hafter : (reverted now.toInt ctx s x b p u v t₄).paid ctx.attestationReceipt w =
        (x.usdcToProvider, if x.payerUser = w then x.usdcToProvider else 0, 0, 1) :=
      Store.term_set_self _ _ _ _
    have hcount : refunds ctx.attestationReceipt s (.call c now (.resolveChallengeEconomics ctx n)) =
      1 := refunds_eq_one (decide_eq_true ⟨rfl, hn⟩) hexec
    rw [hbefore, hafter, add_zero, payments, hflow, hcred, hcount, payouts_eq_zero (Or.inl rfl)]
  · have hzero : payments k w s (.call c now (.resolveChallengeEconomics ctx n))
        (reverted now.toInt ctx s x b p u v t₄) = 0 := by
      refine payments_eq_zero (Or.inr fun q hq => ?_) (Or.inl rfl)
        (Or.inl (decide_eq_false fun h => hk h.1))
      obtain rfl := Option.some.inj hq
      exact hk
    rw [hzero, zero_add]
    exact (Store.term_set_of_ne (fun he => hk he.symm) _ _).symm

/-! ## Every step -/

theorem Effect.paid (hw : Wf s) (h : Effect s a s') :
    payments k w s a s' + s.paid k w = s'.paid k w := by
  -- steps that pay nothing and leave every settlement's terms and status
  have hquiet : a.payee = none → s'.paid k w = s.paid k w →
      payments k w s a s' + s.paid k w = s'.paid k w := fun hnone hsame => by
    rw [payments_of_noPayee hnone, zero_add, hsame]
  cases h with
  | failed he =>
    rw [payments_eq_zero (Or.inl (Nat.sub_self _)) (Or.inr ⟨_, he⟩) (Or.inr ⟨_, he⟩), zero_add]
  | aside ha h => exact hquiet ha.noPayee (by rw [State.paid, h.settlements]; rfl)
  | genesis _ => exact hquiet rfl rfl
  | fund _ => exact hquiet rfl rfl
  | register _ => exact hquiet rfl rfl
  | exit _ => exact hquiet rfl rfl
  | record h =>
    refine hquiet rfl (paid_set _ _ _ ?_)
    rw [Store.term_none h.fresh, h.settlement]
    rfl
  | settle h => exact h.paid hw
  | bond _ => exact hquiet rfl rfl
  | @reject c now ctx n g x b p u v t hn h ht hp =>
    have hvault := (h.burn_bond hw.sound ht).1 providerPendingUsdcVault
    rw [if_neg (by decide), Nat.add_zero] at hvault
    have hflow : vaultOutflow s (rejected now.toInt ctx s x b p t) = 0 := by
      show s.tokens.amount _ - t.amount _ = 0
      rw [hvault, Nat.sub_self]
    have hcode : ¬ IsAccepting n.toNat := by
      rw [hn]
      decide
    have hzero : payments k w s (.call c now (.resolveChallengeEconomics ctx n))
        (rejected now.toInt ctx s x b p t) = 0 :=
      payments_eq_zero (Or.inl hflow) (Or.inl rfl) (Or.inl (decide_eq_false fun h => hcode h.2))
    rw [hzero, zero_add]
    refine (paid_set _ _ _ ?_).symm
    rw [Store.term_some h.settlement]
    rfl
  | revert hn h ha hp => exact h.paid hw hn ha hp
  | @materialize c now ctx target n tgt x r h =>
    refine hquiet rfl (paid_set _ _ _ ?_)
    rw [Store.term_some h.settlement]
    cases tgt <;> rfl
  | claim _ => exact hquiet rfl rfl

/-- Settlements are created as `Recorded`. -/
theorem Effect.created (h : Effect s a s') {x : ReceiptSettlement}
    (hnone : s.settlements.get k = none) (hx : s'.settlements.get k = some x) :
    x.status = .Recorded := by
  have hsame : s.settlements.get k ≠ some x := fun he => nomatch hnone.symm.trans he
  have hset : ∀ {k₀ : Pubkey} {y z : ReceiptSettlement}, s.settlements.get k₀ = some y →
      (s.settlements.set k₀ z).get k = some x → x.status = .Recorded := fun hy hz => by
    rcases Store.get_set_cases hz with ⟨rfl, -⟩ | ⟨-, he⟩
    · exact nomatch hnone.symm.trans hy
    · exact absurd he hsame
  cases h with
  | failed _ => exact absurd hx hsame
  | aside _ h => exact absurd (h.settlements ▸ hx) hsame
  | genesis _ => exact absurd hx hsame
  | fund _ => exact absurd hx hsame
  | register _ => exact absurd hx hsame
  | exit _ => exact absurd hx hsame
  | record h =>
    rcases Store.get_set_cases hx with ⟨-, rfl⟩ | ⟨-, he⟩
    · rw [h.settlement]
      rfl
    · exact absurd he hsame
  | settle h => exact hset h.settlement hx
  | bond _ => exact absurd hx hsame
  | reject _ h _ _ => exact hset h.settlement hx
  | revert _ h _ _ => exact hset h.settlement hx
  | materialize h => exact hset h.settlement hx
  | claim _ => exact absurd hx hsame

/-- Whatever leaves the pending vault does so on behalf of a receipt. -/
theorem Effect.attributed (hw : Wf s) (h : Effect s a s') (ha : a.payee = none) :
    vaultOutflow s s' = 0 := by
  refine Nat.sub_eq_zero_of_le ?_
  cases h with
  | failed _ => exact le_rfl
  | aside _ h => exact h.noLoss _ rfl (by decide) (by decide)
  | @genesis c now ctx g t h =>
    exact (Nat.le_add_right _ _).trans (h.amount providerPendingUsdcVault).ge
  | @fund c now ctx amount f t h =>
    have hamt := h.amount providerPendingUsdcVault
    rw [if_neg (by decide)] at hamt
    exact (Nat.le_add_right _ _).trans hamt.ge
  | register h => exact (Nat.le_add_right _ _).trans (h.amount hw.sound owned_pendingVault).ge
  | exit h =>
    have hamt := h.amount hw.sound providerPendingUsdcVault
    rw [if_neg (by decide)] at hamt
    exact (Nat.le_add_right _ _).trans hamt.ge
  | record h =>
    have hpending := h.amount hw.sound owned_pendingVault
    exact ((Nat.le_add_right _ _).trans (Nat.le_add_right _ _)).trans hpending.ge
  | bond h => exact (Nat.le_add_right _ _).trans (h.amount hw.sound owned_pendingVault).ge
  | materialize _ => exact le_rfl
  | claim h =>
    have hamt := (h.amount hw.sound).2 providerPendingUsdcVault
    rw [if_neg (by decide)] at hamt
    exact (Nat.le_add_right _ _).trans hamt.ge
  | settle _ => cases ha
  | reject _ _ _ _ => cases ha
  | revert _ _ _ _ => cases ha

/-- **Payments**: the totals of a settlement follow its status. -/
theorem run_paid (k w : Pubkey) (as : List Action) :
    Machine.total step (fun s a => payments k w s a (step s a)) .init as =
      (reached as).paid k w := by
  refine (Machine.total_induction step (fun s a => payments k w s a (step s a))
    (I := fun m s => Wf s ∧ m = s.paid k w) (fun m s a h => ?_) ⟨wf_init, rfl⟩ as).2
  refine ⟨step_wf h.1 a, ?_⟩
  rw [h.2, add_comm]
  exact (step_effect h.1.sound a).paid h.1

end Masterpool
