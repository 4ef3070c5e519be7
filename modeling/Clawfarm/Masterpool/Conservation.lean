import Clawfarm.Masterpool.RewardLedger

/-!
# Masterpool.Conservation — where the CLAW goes

The reward vault starts with the genesis supply and is drained by claims, slashes and the funding of
the faucet; the supply of CLAW falls by burned bonds and burned parts of slashes.  Both balances are
kept along every run, together with what comes in or is burned from outside.
-/

namespace Masterpool

open Token Checked

def State.genesisMinted (s : State) : Bool := s.config.any fun g => g.genesisMinted

def State.genesisSupply (s : State) : ℕ := if s.genesisMinted then GENESIS_TOTAL_SUPPLY else 0

/-- What all reward accounts have claimed. -/
def State.claimedTotal (s : State) : ℕ := s.rewards.sum fun _ r => r.claimedClawTotal

/-- What accepted challenges have cost the reward vault. -/
def State.slashedTotal (s : State) : ℕ :=
  s.bonds.sum fun _ b => if b.status = .Returned then b.slashClawAmountSnapshot else 0

def Action.isGenesis : Action → Bool
  | .call _ _ (.mintGenesisSupply _) => true
  | _ => false

/-- The amount that an action moves to the faucet if it succeeds. -/
def Action.funds : Action → ℕ
  | .call _ _ (.fundFaucetClaw _ amount) => amount.toNat
  | _ => 0

/-- What `fund_faucet_claw` takes out of the reward vault. -/
def faucetFunded (s : State) (a : Action) : ℕ := if (a.exec s).isOk then a.funds else 0

/-- What reaches the reward vault in a step that is not genesis minting. -/
def rewardInflow (s : State) (a : Action) : ℕ :=
  if a.isGenesis then 0 else (step s a).tokens.amount rewardVault - s.tokens.amount rewardVault

/-- The balance of the reward vault over one step. -/
def RewardFlow (s : State) (a : Action) (s' : State) : Prop :=
  s'.tokens.amount rewardVault + s'.claimedTotal + s'.slashedTotal + a.funds + s.genesisSupply =
    s.tokens.amount rewardVault + s.claimedTotal + s.slashedTotal + s'.genesisSupply +
      if a.isGenesis then 0 else s'.tokens.amount rewardVault - s.tokens.amount rewardVault

variable {s s' : State}

/-- A step that takes nothing out of the vault and books nothing. -/
theorem rewardFlow_of_quiet {a : Action} (hle : s.tokens.amount rewardVault ≤
    s'.tokens.amount rewardVault) (hclaimed : s'.claimedTotal = s.claimedTotal)
    (hslashed : s'.slashedTotal = s.slashedTotal) (hgen : s'.genesisMinted = s.genesisMinted)
    (hfunds : a.funds = 0) (hcall : a.isGenesis = false) : RewardFlow s a s' := by
  unfold RewardFlow State.genesisSupply
  rw [hclaimed, hslashed, hgen, hfunds, hcall, if_neg Bool.false_ne_true]
  omega

/-- The step that brings the genesis supply into the vault. -/
theorem rewardFlow_of_genesis {a : Action} (hamt : s'.tokens.amount rewardVault =
    s.tokens.amount rewardVault + GENESIS_TOTAL_SUPPLY) (hclaimed : s'.claimedTotal = s.claimedTotal)
    (hslashed : s'.slashedTotal = s.slashedTotal) (hbefore : s.genesisMinted = false)
    (hafter : s'.genesisMinted = true) (hfunds : a.funds = 0) (hcall : a.isGenesis = true) :
    RewardFlow s a s' := by
  unfold RewardFlow State.genesisSupply
  rw [hamt, hclaimed, hslashed, hbefore, hafter, hfunds, hcall, if_pos rfl, if_pos rfl,
    if_neg Bool.false_ne_true]
  omega

theorem IsAside.quiet {a : Action} (h : a.IsAside) : a.funds = 0 ∧ a.isGenesis = false := by
  cases a with
  | call c now i => cases i <;> first | exact ⟨rfl, rfl⟩ | exact absurd h id
  | token c i => exact ⟨rfl, rfl⟩

theorem Aside.genesisMinted {a : Action} (h : Aside s a s') :
    s'.genesisMinted = s.genesisMinted := by
  unfold State.genesisMinted
  cases hg : s.config with
  | some g =>
    obtain ⟨g', hg', -, hgen⟩ := h.config g hg
    rw [hg']
    exact hgen
  | none =>
    cases hg' : s'.config with
    | none => rfl
    | some g' => exact h.created g' hg hg'

/-- Two accounts written without a claim. -/
theorem claimedTotal_set_set {m : Store (RewardAccountKind × Pubkey) RewardAccount} {v w : Pubkey}
    {r q : RewardAccount}
    (hr : r.claimedClawTotal = m.term (fun _ r => r.claimedClawTotal) (.User, w))
    (hq : q.claimedClawTotal = m.term (fun _ r => r.claimedClawTotal) (.Provider, v)) :
    ((m.set (.User, w) r).set (.Provider, v) q).sum (fun _ r => r.claimedClawTotal) =
      m.sum fun _ r => r.claimedClawTotal := by
  refine (Store.sum_set_of_term ?_).trans (Store.sum_set_of_term hr)
  rw [hq, Store.term_set_of_ne (provider_ne_user v w)]

theorem Effect.rewardFlow {a : Action} (hw : Wf s) (hu : Unclaimed s) (h : Effect s a s') :
    ((∃ e, a.exec s = .error e) ∧ s' = s) ∨ RewardFlow s a s' := by
  cases h with
  | failed he => exact Or.inl ⟨⟨_, he⟩, rfl⟩
  | aside ha h =>
    obtain ⟨hfunds, hcall⟩ := IsAside.quiet ha
    refine Or.inr (rewardFlow_of_quiet (h.noLoss _ rfl (by decide) (by decide)) ?_ ?_
      h.genesisMinted hfunds hcall)
    · rw [State.claimedTotal, h.rewards]
      rfl
    · rw [State.slashedTotal, h.bonds]
      rfl
  | @genesis c now ctx g t h =>
    have hamt := h.amount rewardVault
    have hbefore : s.genesisMinted = false := by
      rw [State.genesisMinted, h.config, Option.any_some, h.first]
    rw [if_pos rfl] at hamt
    exact Or.inr (rewardFlow_of_genesis hamt rfl rfl hbefore rfl rfl rfl)
  | @fund c now ctx amount f t h =>
    have hamt := h.amount rewardVault
    rw [if_pos rfl, if_neg (by decide)] at hamt
    refine Or.inr ?_
    show t.amount rewardVault + s.claimedTotal + s.slashedTotal + amount.toNat + s.genesisSupply =
      s.tokens.amount rewardVault + s.claimedTotal + s.slashedTotal + s.genesisSupply +
        (t.amount rewardVault - s.tokens.amount rewardVault)
    omega
  | register h =>
    refine Or.inr (rewardFlow_of_quiet ?_ (Store.sum_set_of_term ?_) rfl rfl rfl rfl)
    · exact (h.amount hw.sound owned_rewardVault).ge.trans' (Nat.le_add_right _ _)
    · exact (Store.term_none h.freshReward _).symm
  | exit h =>
    have hamt := h.amount hw.sound rewardVault
    rw [if_neg (by decide)] at hamt
    exact Or.inr (rewardFlow_of_quiet ((Nat.le_add_right _ _).trans hamt.ge) rfl rfl rfl rfl rfl)
  | record h =>
    have hamt := h.amount hw.sound owned_rewardVault
    obtain ⟨hcu, hcv⟩ := h.rewards_term (fun r => r.claimedClawTotal) hw fun _ _ => rfl
    rw [if_neg (by decide), if_neg (by decide)] at hamt
    refine Or.inr (rewardFlow_of_quiet hamt.ge (claimedTotal_set_set ?_ ?_) rfl rfl rfl rfl)
    · exact hcu
    · exact hcv
  | settle h =>
    obtain ⟨-, hamt⟩ := h.amount hw
    have hv := hamt rewardVault
    rw [if_neg (by decide)] at hv
    refine Or.inr (rewardFlow_of_quiet ((Nat.le_add_right _ _).trans hv.ge)
      (claimedTotal_set_set ?_ ?_) rfl rfl rfl rfl)
    · exact (Store.term_some h.userReward fun _ r => r.claimedClawTotal).symm
    · exact (Store.term_some h.providerReward fun _ r => r.claimedClawTotal).symm
  | bond h =>
    have hamt := h.amount hw.sound owned_rewardVault
    rw [if_neg (by decide)] at hamt
    refine Or.inr (rewardFlow_of_quiet hamt.ge rfl (Store.sum_set_of_term ?_) rfl rfl rfl)
    rw [Store.term_none h.fresh, h.record]
    rfl
  | reject _ h ht _ =>
    have hamt := (h.burn_bond hw.sound ht).1 rewardVault
    rw [if_neg (by decide)] at hamt
    refine Or.inr (rewardFlow_of_quiet hamt.ge rfl (Store.sum_set_of_term ?_) rfl rfl rfl)
    rw [Store.term_some h.bond, h.locked]
    rfl
  | @revert c now ctx n g x b p u v t₁ t₂ t₃ t₄ _ h ha _ =>
    have hamt := h.amount hw ha owned_rewardVault
    rw [if_neg (by decide), if_pos rfl, if_neg (by decide)] at hamt
    have hclaimed : (reverted now.toInt ctx s x b p u v t₄).claimedTotal = s.claimedTotal := by
      refine claimedTotal_set_set ?_ ?_
      · exact (Store.term_some h.userReward fun _ r => r.claimedClawTotal).symm
      · exact (Store.term_some h.providerReward fun _ r => r.claimedClawTotal).symm
    have hslashed : (reverted now.toInt ctx s x b p u v t₄).slashedTotal + 0 =
        s.slashedTotal + b.slashClawAmountSnapshot := by
      have hsum := Store.sum_set s.bonds ctx.attestationChallenge
        { b with status := .Returned, updatedAt := now.toInt }
        fun _ b => if b.status = .Returned then b.slashClawAmountSnapshot else 0
      rwa [Store.term_some h.bond, h.locked] at hsum
    refine Or.inr ?_
    show t₄.amount rewardVault + _ + _ + 0 + s.genesisSupply =
      s.tokens.amount rewardVault + s.claimedTotal + s.slashedTotal + s.genesisSupply +
        (t₄.amount rewardVault - s.tokens.amount rewardVault)
    omega
  | materialize h =>
    refine Or.inr (rewardFlow_of_quiet le_rfl (Store.sum_set_of_term ?_) rfl rfl rfl rfl)
    exact (Store.term_some h.reward fun _ r => r.claimedClawTotal).symm
  | @claim c now ctx g r t h =>
    have hle := hu _ _ h.reward
    obtain ⟨hout, hamt⟩ := h.amount hw.sound
    have hv := hamt rewardVault
    rw [if_pos rfl, if_neg (owned_rewardVault.ne hout)] at hv
    have hclaimed : (Masterpool.claimed now.toInt ctx s r t).claimedTotal + r.claimedClawTotal =
        s.claimedTotal + r.releasedClawTotal := by
      have hsum := Store.sum_set s.rewards ctx.rewardAccount
        { r with claimedClawTotal := r.releasedClawTotal, updatedAt := now.toInt }
        fun _ r => r.claimedClawTotal
      rwa [Store.term_some h.reward] at hsum
    refine Or.inr ?_
    show t.amount rewardVault + _ + s.slashedTotal + 0 + s.genesisSupply =
      s.tokens.amount rewardVault + s.claimedTotal + s.slashedTotal + s.genesisSupply +
        (t.amount rewardVault - s.tokens.amount rewardVault)
    omega

/-- The balance with what came in (`i`) and what went to the faucet (`f`) so far. -/
def RewardBalance (i f : ℕ) (s : State) : Prop :=
  s.tokens.amount rewardVault + s.claimedTotal + s.slashedTotal + f = s.genesisSupply + i

theorem step_rewardBalance {i f : ℕ} {a : Action} (hw : Wf s) (hu : Unclaimed s)
    (h : RewardBalance i f s) :
    RewardBalance (i + rewardInflow s a) (f + faucetFunded s a) (step s a) := by
  unfold RewardBalance at h ⊢
  unfold rewardInflow faucetFunded
  rcases (step_effect hw.sound a).rewardFlow hw hu with ⟨⟨e, he⟩, hs⟩ | hflow
  · rw [hs, he, Nat.sub_self, ite_self]
    exact h
  · unfold RewardFlow at hflow
    rcases step_cases s a with ⟨e, he, hs⟩ | hok
    · -- a failed call moves nothing, so its amount does not count
      rw [hs, Nat.sub_self, ite_self] at hflow ⊢
      rw [he]
      simp only [Except.isOk, Except.toBool, Bool.false_eq_true, if_false]
      omega
    · rw [hok]
      simp only [Except.isOk, Except.toBool, if_true]
      omega

/-! ## The supply -/

def State.bondStatus (s : State) (k : Pubkey) : Option ChallengeBondStatus :=
  (s.bonds.get k).map fun b => b.status

/-- The bonds of the records that became `Burned` since the state `s₀`. -/
def burnedSince (s₀ s : State) : ℕ := s.bonds.sum fun k b =>
  if b.status = .Burned ∧ s₀.bondStatus k ≠ some .Burned then b.bondAmount else 0

/-- The burned parts of the slashes of the records that became `Returned` since `s₀`. -/
def slashBurnedSince (s₀ s : State) : ℕ := s.bonds.sum fun k b =>
  if b.status = .Returned ∧ s₀.bondStatus k ≠ some .Returned then b.burnAmount else 0

/-- What token holders burn of the mint `m` in a step. -/
def burnedOutside (m : Pubkey) (s : State) (a : Action) : ℕ :=
  if (a.exec s).isOk then a.burned m else 0

/-- What the program has destroyed since `s₀`. -/
def destroyedSince (s₀ s : State) : ℕ := burnedSince s₀ s + slashBurnedSince s₀ s

theorem destroyedSince_congr {s₀ : State} (h : s'.bonds = s.bonds) :
    destroyedSince s₀ s' = destroyedSince s₀ s := by
  unfold destroyedSince burnedSince slashBurnedSince
  rw [h]

theorem destroyedSince_self : destroyedSince s s = 0 := by
  have hstatus : ∀ k b, s.bonds.get k = some b → s.bondStatus k = some b.status := fun k b hb => by
    rw [State.bondStatus, hb]
    rfl
  have hburned : burnedSince s s = 0 := Store.sum_eq_zero fun k b hb =>
    if_neg fun h => h.2 (h.1 ▸ hstatus k b hb)
  have hslash : slashBurnedSince s s = 0 := Store.sum_eq_zero fun k b hb =>
    if_neg fun h => h.2 (h.1 ▸ hstatus k b hb)
  rw [destroyedSince, hburned, hslash]

/-- A record that is `Locked` now never had another status. -/
theorem bondStatus_of_locked {s₀ : State} (hg : Grows s₀ s) {k : Pubkey} {b : ChallengeBondRecord}
    (hb : s.bonds.get k = some b) (hlock : b.status = .Locked) {st : ChallengeBondStatus}
    (hst : st ≠ .Locked) : s₀.bondStatus k ≠ some st := by
  intro h
  obtain ⟨b₀, hb₀, rfl⟩ := Option.map_eq_some_iff.mp h
  obtain ⟨b', hb', hstep⟩ := hg.bonds k b₀ hb₀
  obtain rfl := Option.some.inj (hb.symm.trans hb')
  rcases hstep.status with e | e
  · exact hst (e ▸ hlock)
  · exact hst e

/-- The outcome of a locked bond adds its burned part. -/
theorem destroyedSince_set {s₀ : State} (hg : Grows s₀ s) {k : Pubkey} {b b' : ChallengeBondRecord}
    (hb : s.bonds.get k = some b) (hlock : b.status = .Locked) (hbonds : s'.bonds = s.bonds.set k b') :
    destroyedSince s₀ s' = destroyedSince s₀ s + match b'.status with
      | .Locked => 0
      | .Returned => b'.burnAmount
      | .Burned => b'.bondAmount := by
  have hburned := Store.sum_set s.bonds k b' fun k b =>
    if b.status = .Burned ∧ s₀.bondStatus k ≠ some .Burned then b.bondAmount else 0
  have hslash := Store.sum_set s.bonds k b' fun k b =>
    if b.status = .Returned ∧ s₀.bondStatus k ≠ some .Returned then b.burnAmount else 0
  have hne₁ := bondStatus_of_locked hg hb hlock (show ChallengeBondStatus.Burned ≠ .Locked by decide)
  have hne₂ := bondStatus_of_locked hg hb hlock (show ChallengeBondStatus.Returned ≠ .Locked by decide)
  rw [Store.term_some hb, hlock] at hburned hslash
  unfold destroyedSince burnedSince slashBurnedSince
  rw [hbonds]
  cases hst : b'.status <;> simp [hst, hne₁, hne₂] at hburned hslash ⊢ <;> omega

/-- The supply over one step after genesis. -/
def SupplyFlow (s₀ s : State) (m : Pubkey) (a : Action) (s' : State) : Prop :=
  s'.tokens.supply m + destroyedSince s₀ s' + a.burned m = s.tokens.supply m + destroyedSince s₀ s

theorem supplyFlow_of_mints {s₀ : State} {m : Pubkey} {a : Action} (hcall : a.burned m = 0)
    (hmints : s'.tokens.mints = s.tokens.mints)
    (hbonds : destroyedSince s₀ s' = destroyedSince s₀ s) : SupplyFlow s₀ s m a s' := by
  unfold SupplyFlow
  rw [supply_congr hmints, hbonds, hcall, Nat.add_zero]

theorem Effect.supplyFlow {s₀ : State} {a : Action} {g : GlobalConfig} (hw : Wf s)
    (hgrows : Grows s₀ s) (hg : s.config = some g) (hgen : g.genesisMinted = true)
    (h : Effect s a s') :
    ((∃ e, a.exec s = .error e) ∧ s' = s) ∨ SupplyFlow s₀ s g.clawMint a s' := by
  cases h with
  | failed he => exact Or.inl ⟨⟨_, he⟩, rfl⟩
  | aside _ h =>
    obtain ⟨y, hy, -, hfixed⟩ := (hw.sound.config g hg).clawMint
    refine Or.inr ?_
    unfold SupplyFlow
    rw [destroyedSince_congr h.bonds, add_right_comm, h.supply _ y hy (hfixed hgen)]
  | genesis h =>
    obtain rfl := Option.some.inj (hg.symm.trans h.config)
    rw [h.first] at hgen
    cases hgen
  | fund h => exact Or.inr (supplyFlow_of_mints rfl h.mints rfl)
  | register h =>
    obtain ⟨m, -, ht⟩ := h.transfer
    exact Or.inr (supplyFlow_of_mints rfl (transferChecked_mints ht) rfl)
  | exit h =>
    obtain ⟨m, -, ht⟩ := h.transfer
    exact Or.inr (supplyFlow_of_mints rfl (transferChecked_mints ht) rfl)
  | record h =>
    obtain ⟨m, -, h₁, h₂⟩ := h.toTreasury
    refine Or.inr (supplyFlow_of_mints rfl ?_ rfl)
    exact (transferChecked_mints h₂).trans (transferChecked_mints h₁)
  | settle h =>
    obtain ⟨m, -, ht⟩ := h.transfer
    exact Or.inr (supplyFlow_of_mints rfl (transferChecked_mints ht) rfl)
  | @bond c now ctx g₀ x p t b h =>
    obtain ⟨m, -, ht⟩ := h.transfer
    refine Or.inr (supplyFlow_of_mints rfl (transferChecked_mints ht) ?_)
    have hlock : b.status = .Locked := by rw [h.record]; rfl
    refine congrArg₂ (· + ·) (Store.sum_set_of_term ?_) (Store.sum_set_of_term ?_)
    · rw [Store.term_none h.fresh, hlock]
      rfl
    · rw [Store.term_none h.fresh, hlock]
      rfl
  | reject _ h ht _ =>
    obtain rfl := Option.some.inj (hg.symm.trans h.config)
    have hsup := (h.burn_bond hw.sound ht).2 g.clawMint
    refine Or.inr ?_
    unfold SupplyFlow
    rw [destroyedSince_set hgrows h.bond h.locked rfl]
    rw [if_pos rfl] at hsup
    simp only [rejected, Action.burned]
    omega
  | revert _ h ha _ =>
    obtain rfl := Option.some.inj (hg.symm.trans h.config)
    have hsup := h.supply ha g.clawMint
    refine Or.inr ?_
    unfold SupplyFlow
    rw [destroyedSince_set hgrows h.bond h.locked rfl]
    rw [if_pos rfl] at hsup
    simp only [reverted, Action.burned]
    omega
  | materialize _ => exact Or.inr (supplyFlow_of_mints rfl rfl rfl)
  | claim h =>
    obtain ⟨m, -, ht⟩ := h.transfer
    exact Or.inr (supplyFlow_of_mints rfl (transferChecked_mints ht) rfl)

/-- The supply `n` of the mint `m` at genesis, less what was destroyed since: by the program, and
by token holders (`burned`). -/
structure SupplyBalance (s₀ : State) (m : Pubkey) (n burned : ℕ) (s : State) : Prop where
  wf : Wf s
  grows : Grows s₀ s
  config : ∃ g, s.config = some g ∧ g.clawMint = m ∧ g.genesisMinted = true
  supply : s.tokens.supply m + destroyedSince s₀ s + burned = n

theorem SupplyBalance.next {s₀ : State} {m : Pubkey} {n burned : ℕ}
    (h : SupplyBalance s₀ m n burned s) (a : Action) :
    SupplyBalance s₀ m n (burned + burnedOutside m s a) (step s a) := by
  obtain ⟨g, hg, rfl, hgen⟩ := h.config
  have heff := step_effect h.wf.sound a
  obtain ⟨g', hg', hid, hgen'⟩ := heff.config hg
  refine ⟨step_wf h.wf a, h.grows.trans (step_grows h.wf a), ⟨g', hg', hid.clawMint, hgen' hgen⟩, ?_⟩
  have hsup := h.supply
  unfold burnedOutside
  rcases heff.supplyFlow h.wf h.grows hg hgen with ⟨⟨e, he⟩, hs⟩ | hflow
  · rw [hs, he]
    exact hsup
  · unfold SupplyFlow at hflow
    rcases step_cases s a with ⟨e, he, hs⟩ | hok
    · rw [hs] at hflow ⊢
      rw [he]
      simp only [Except.isOk, Except.toBool, Bool.false_eq_true, if_false]
      omega
    · rw [hok]
      simp only [Except.isOk, Except.toBool, if_true]
      omega

theorem SupplyBalance.run {s₀ : State} {m : Pubkey} {n burned : ℕ}
    (h : SupplyBalance s₀ m n burned s) (as : List Action) :
    SupplyBalance s₀ m n (burned + Machine.total step (burnedOutside m) s as)
      (Machine.run step s as) :=
  Machine.total_induction _ _ (I := fun b s => SupplyBalance s₀ m n (burned + b) s)
    (fun b s a h => by rw [← Nat.add_assoc]; exact h.next a) h as

/-! ## Genesis -/

/-- `1` for a step that mints the genesis supply. -/
def genesisMints (s : State) (a : Action) : ℕ := if a.isGenesis ∧ (a.exec s).isOk then 1 else 0

theorem Effect.genesisMinted {a : Action} (h : Effect s a s') :
    ((∃ e, a.exec s = .error e) ∧ s' = s) ∨
      (a.isGenesis = false ∧ s'.genesisMinted = s.genesisMinted) ∨
      (s.genesisMinted = false ∧ s'.genesisMinted = true ∧ a.isGenesis = true) := by
  cases h with
  | failed he => exact Or.inl ⟨⟨_, he⟩, rfl⟩
  | aside ha h => exact Or.inr (Or.inl ⟨(IsAside.quiet ha).2, h.genesisMinted⟩)
  | genesis h =>
    refine Or.inr (Or.inr ⟨?_, rfl, rfl⟩)
    rw [State.genesisMinted, h.config, Option.any_some, h.first]
  | fund _ => exact Or.inr (Or.inl ⟨rfl, rfl⟩)
  | register _ => exact Or.inr (Or.inl ⟨rfl, rfl⟩)
  | exit _ => exact Or.inr (Or.inl ⟨rfl, rfl⟩)
  | record _ => exact Or.inr (Or.inl ⟨rfl, rfl⟩)
  | settle _ => exact Or.inr (Or.inl ⟨rfl, rfl⟩)
  | bond _ => exact Or.inr (Or.inl ⟨rfl, rfl⟩)
  | reject _ _ _ _ => exact Or.inr (Or.inl ⟨rfl, rfl⟩)
  | revert _ _ _ _ => exact Or.inr (Or.inl ⟨rfl, rfl⟩)
  | materialize _ => exact Or.inr (Or.inl ⟨rfl, rfl⟩)
  | claim _ => exact Or.inr (Or.inl ⟨rfl, rfl⟩)

theorem step_genesisMints (hw : Wf s) (a : Action) :
    s.genesisMinted.toNat + genesisMints s a = (step s a).genesisMinted.toNat := by
  unfold genesisMints
  rcases (step_effect hw.sound a).genesisMinted with ⟨⟨e, he⟩, hs⟩ | ⟨hcall, hsame⟩ | ⟨hold, hnew, hcall⟩
  · rw [hs, he, if_neg fun h => (nomatch h.2), Nat.add_zero]
  · rw [hsame, hcall, if_neg fun h => (nomatch h.1), Nat.add_zero]
  · rcases step_cases s a with ⟨e, he, hs⟩ | hok
    · rw [hs, hold] at hnew
      cases hnew
    · rw [hold, hnew, hok, if_pos ⟨hcall, rfl⟩]
      rfl

/-- The state right after genesis. -/
theorem supplyBalance_genesis {c : Caller MASTERPOOL_ID} {now : Int64} {ctx : MintGenesisSupply}
    (hw : Wf s) (hok : (Action.exec s (.call c now (.mintGenesisSupply ctx))).isOk = true) :
    ∃ g, s.config = some g ∧ SupplyBalance s g.clawMint
      (s.tokens.supply g.clawMint + GENESIS_TOTAL_SUPPLY) 0
      (step s (.call c now (.mintGenesisSupply ctx))) := by
  have heff := step_effect hw.sound (.call c now (.mintGenesisSupply ctx))
  have hw' := step_wf hw (.call c now (.mintGenesisSupply ctx))
  generalize step s (.call c now (.mintGenesisSupply ctx)) = s' at heff hw'
  cases heff with
  | failed he =>
    rw [he] at hok
    cases hok
  | aside ha _ => exact absurd ha id
  | @genesis _ _ _ g t h =>
    have hsup := h.supply g.clawMint
    rw [if_pos rfl] at hsup
    have hgrows := Grows.refl s
    refine ⟨g, h.config, hw', ⟨hgrows.1, hgrows.2, hgrows.3, hgrows.4⟩, ⟨_, rfl, rfl, rfl⟩, ?_⟩
    show t.supply g.clawMint + destroyedSince s s + 0 = _
    rw [destroyedSince_self]
    exact hsup

/-- **CLAW conservation**: the exact balance of the reward vault and of the supply, in every run. -/
theorem claw_conservation (as : List Action) :
    (reached as).tokens.amount rewardVault + (reached as).claimedTotal + (reached as).slashedTotal +
        Machine.total step faucetFunded .init as =
      (reached as).genesisSupply + Machine.total step rewardInflow .init as ∧
    (∀ pre c now ctx post g, as = pre ++ .call c now (.mintGenesisSupply ctx) :: post →
      (Action.exec (reached pre) (.call c now (.mintGenesisSupply ctx))).isOk = true →
      (reached as).config = some g →
        (reached as).tokens.supply g.clawMint + burnedSince (reached pre) (reached as) +
            slashBurnedSince (reached pre) (reached as) +
            Machine.total step (burnedOutside g.clawMint)
              (reached (pre ++ [.call c now (.mintGenesisSupply ctx)])) post =
          (reached pre).tokens.supply g.clawMint + GENESIS_TOTAL_SUPPLY) ∧
    Machine.total step genesisMints .init as ≤ 1 ∧
    (∀ g a, (reached as).config = some g → g.genesisMinted = true →
      (step (reached as) a).tokens.supply g.clawMint ≤ (reached as).tokens.supply g.clawMint) := by
  refine ⟨?_, ?_, ?_, ?_⟩
  · have hrun := Machine.total_induction step (fun s a => (rewardInflow s a, faucetFunded s a))
      (I := fun m s => (Wf s ∧ Unclaimed s) ∧ RewardBalance m.1 m.2 s)
      (fun m s a h => ⟨⟨step_wf h.1.1 a, (step_effect h.1.1.sound a).unclaimed h.1.1 h.1.2⟩,
        step_rewardBalance h.1.1 h.1.2 h.2⟩)
      ⟨⟨wf_init, unclaimed_init⟩, show RewardBalance 0 0 .init from rfl⟩ as
    rw [Machine.total_mk] at hrun
    exact hrun.2
  · rintro pre c now ctx post g rfl hok hg
    obtain ⟨g₀, -, hstart⟩ := supplyBalance_genesis (reached_wf pre) hok
    have hrun := hstart.run post
    rw [reached_append, Machine.run_cons] at hg ⊢
    obtain ⟨g', hg', hmint, -⟩ := hrun.config
    obtain rfl := Option.some.inj (hg.symm.trans hg')
    have hsup := hrun.supply
    rw [Nat.zero_add, ← hmint, destroyedSince] at hsup
    rw [Nat.add_assoc (Ledger.supply _ _), reached_concat]
    exact hsup
  · have hcount := Machine.total_induction step genesisMints
      (I := fun n s => Wf s ∧ s.genesisMinted.toNat = n)
      (fun n s a h => ⟨step_wf h.1 a, by rw [← step_genesisMints h.1 a, h.2]⟩) ⟨wf_init, rfl⟩ as
    rw [← hcount.2]
    exact Bool.toNat_le _
  · intro g a hg hgen
    have hw := reached_wf as
    rcases (step_effect hw.sound a).supplyFlow hw (Grows.refl _) hg hgen with ⟨-, hs⟩ | hflow
    · rw [hs]
    · unfold SupplyFlow at hflow
      rw [destroyedSince_self] at hflow
      omega

end Masterpool
