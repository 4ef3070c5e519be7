import Clawfarm.Lib.Agree
import Clawfarm.Lib.TokenSwap
import Clawfarm.Masterpool.Enforcement

/-!
# Masterpool.Exit — a provider leaves

A provider exits with the stake that it registered with, and with nothing left open: its ledger
says so at that moment (`Exits.left`), and no later step opens anything for it again (`run_left`).
What an exit leaves alone are the rewards: releases and claims go on as they would have without it
(`exit_commutes`).
-/

namespace Masterpool

open Token Checked

variable {s s' : State}

/-! ## The stake -/

/-- The same provider later: if it is still active, its stake is the same. -/
def ProviderStep (p p' : ProviderAccount) : Prop :=
  p'.status = .Active → p.status = .Active ∧ p'.stakedUsdcAmount = p.stakedUsdcAmount

theorem ProviderStep.refl (p : ProviderAccount) : ProviderStep p p := fun h => ⟨h, rfl⟩

theorem ProviderStep.trans {p p' p'' : ProviderAccount} (h : ProviderStep p p')
    (h' : ProviderStep p' p'') : ProviderStep p p'' := by
  intro hact
  obtain ⟨hact', hstake⟩ := h' hact
  exact ⟨(h hact').1, hstake.trans (h hact').2⟩

theorem Effect.providers {a : Action} (h : Effect s a s') :
    Store.Grows ProviderStep s.providers s'.providers := by
  have hrefl := Store.Grows.refl ProviderStep.refl s.providers
  have hupdate : ∀ {w : Pubkey} {p p' : ProviderAccount}, s.providers.get w = some p →
      ProviderStep p p' → Store.Grows ProviderStep s.providers (s.providers.set w p') :=
    fun hp hstep => Store.grows_update ProviderStep.refl hp hstep
  cases h with
  | failed _ => exact hrefl
  | aside _ h => exact h.providers ▸ hrefl
  | genesis _ => exact hrefl
  | fund _ => exact hrefl
  | register h => exact Store.grows_insert ProviderStep.refl h.fresh _
  | exit h => exact hupdate h.provider fun hact => nomatch hact
  | record h => exact hupdate h.provider fun hact => ⟨hact, rfl⟩
  | settle h => exact hupdate h.provider fun hact => ⟨hact, rfl⟩
  | bond h => exact hupdate h.provider fun hact => ⟨hact, rfl⟩
  | reject _ h _ _ => exact hupdate h.provider fun hact => ⟨hact, rfl⟩
  | revert _ h _ _ => exact hupdate h.provider fun hact => ⟨hact, rfl⟩
  | materialize _ => exact hrefl
  | claim _ => exact hrefl

theorem run_providers (hw : Wf s) (as : List Action) :
    Store.Grows ProviderStep s.providers (Machine.run step s as).providers :=
  Machine.run_relation_of_inv (P := Wf)
    (R := fun s s' => Store.Grows ProviderStep s.providers s'.providers)
    (fun _ a h => step_wf h a) (fun _ => .refl ProviderStep.refl _)
    (fun _ _ _ h h' => h.trans (fun _ _ _ h₁ h₂ => h₁.trans h₂) h')
    (fun _ a h => (step_effect h.sound a).providers) hw as

/-- Only a registration creates a provider account. -/
theorem Effect.registers {a : Action} (h : Effect s a s') {w : Pubkey}
    (hnone : s.providers.get w = none) (hsome : s'.providers.get w ≠ none) :
    ∃ c now ctx g t, a = .call c now (.registerProvider ctx) ∧ ctx.providerWallet = w ∧
      Registers c ctx s g t ∧ s' = registered now.toInt ctx s g t := by
  have hupdate : ∀ {k : Pubkey} {p p' : ProviderAccount}, s.providers.get k = some p →
      (s.providers.set k p').get w ≠ none → False := by
    intro k p p' hp hne
    have hkw : w ≠ k := by
      rintro rfl
      rw [hnone] at hp
      cases hp
    rw [Store.get_set_of_ne hkw] at hne
    exact hne hnone
  cases h with
  | failed _ => exact absurd hnone hsome
  | aside _ h => exact absurd (h.providers ▸ hnone) hsome
  | genesis _ => exact absurd hnone hsome
  | fund _ => exact absurd hnone hsome
  | @register c now ctx g t h =>
    refine ⟨c, now, ctx, g, t, rfl, ?_, h, rfl⟩
    by_contra hw
    exact hsome ((Store.get_set_of_ne (Ne.symm hw) _).trans hnone)
  | exit h => exact (hupdate h.provider hsome).elim
  | record h => exact (hupdate h.provider hsome).elim
  | settle h => exact (hupdate h.provider hsome).elim
  | bond h => exact (hupdate h.provider hsome).elim
  | reject _ h _ _ => exact (hupdate h.provider hsome).elim
  | revert _ h _ _ => exact (hupdate h.provider hsome).elim
  | materialize _ => exact absurd hnone hsome
  | claim _ => exact absurd hnone hsome

/-- The run `as` has registered the wallet `w` with a stake of `n`, which went into the vault. -/
def Deposited (as : List Action) (w : Pubkey) (n : ℕ) : Prop :=
  ∃ pre c now ctx mid, as = pre ++ .call c now (.registerProvider ctx) :: mid ∧
    ctx.providerWallet = w ∧
    ∀ k, (reached (pre ++ [.call c now (.registerProvider ctx)])).tokens.amount k +
      (if k = ctx.providerUsdcToken then n else 0) =
        (reached pre).tokens.amount k + if k = ctx.providerStakeUsdcVault then n else 0

/-- **Stake**: an active provider has the stake that it has deposited. -/
theorem reached_deposited {as : List Action} {w : Pubkey} {p : ProviderAccount}
    (hp : (reached as).providers.get w = some p) (hact : p.status = .Active) :
    Deposited as w p.stakedUsdcAmount := by
  have hnone : ¬ State.init.providers.get w ≠ none := fun h => h rfl
  have hsome : (Machine.run step .init as).providers.get w ≠ none := by
    show (reached as).providers.get w ≠ none
    rw [hp]
    exact fun e => nomatch e
  obtain ⟨pre, a, mid, rfl, hnot, hreg⟩ := Machine.exists_step
    (P := fun s : State => s.providers.get w ≠ none) hnone hsome
  have hw := reached_wf pre
  rw [Machine.run_concat] at hreg
  obtain ⟨c, now, ctx, g, t, rfl, rfl, h, hstep⟩ :=
    (step_effect hw.sound a).registers (not_not.mp hnot) hreg
  have hconcat : reached (pre ++ [.call c now (.registerProvider ctx)]) =
      registered now.toInt ctx (reached pre) g t := (reached_concat _ _).trans hstep
  refine ⟨pre, c, now, ctx, mid, rfl, rfl, fun k => ?_⟩
  have hgrows := run_providers (reached_wf (pre ++ [.call c now (.registerProvider ctx)])) mid
  rw [← reached_append, List.append_assoc, List.singleton_append, hconcat] at hgrows
  obtain ⟨p', hp', hlater⟩ := hgrows _ _ (Store.get_set_self _ _ _)
  obtain rfl := Option.some.inj (hp.symm.trans hp')
  obtain ⟨m, -, ht⟩ := h.transfer
  rw [hconcat, (hlater hact).2]
  exact transferChecked_amount ht k

/-! ## Nothing is opened any more -/

/-- The wallet `w` has left with the account `p`: none of its receipts is recorded, none of its
bonds is locked. -/
structure Left (w : Pubkey) (p : ProviderAccount) (s : State) : Prop where
  provider : s.providers.get w = some p
  exited : p.status = .Exited
  settlements : ∀ k x, s.settlements.get k = some x → x.providerWallet = w → x.status ≠ .Recorded
  bonds : ∀ k b, s.bonds.get k = some b → b.providerWallet = w → b.status ≠ .Locked

/-- No receipt and no bond of `w` in `s'` that is not there in `s`. -/
structure NothingNew (w : Pubkey) (s s' : State) : Prop where
  settlements : Store.NoneNew (fun x => x.providerWallet = w) s.settlements s'.settlements
  bonds : Store.NoneNew (fun b => b.providerWallet = w) s.bonds s'.bonds

theorem NothingNew.refl (w : Pubkey) (s : State) : NothingNew w s s := ⟨.refl _, .refl _⟩

theorem NothingNew.trans {w : Pubkey} {s s' s'' : State} (h : NothingNew w s s')
    (h' : NothingNew w s' s'') : NothingNew w s s'' :=
  ⟨h.settlements.trans h'.settlements, h.bonds.trans h'.bonds⟩

/-- **Exit**: the ledger of a provider without open figures has no open receipts and bonds. -/
theorem Exits.left {c : Caller MASTERPOOL_ID} {now : ℤ} {ctx : ExitProvider} {g : GlobalConfig}
    {p : ProviderAccount} {t : Ledger Pubkey} (hb : Booked s) (h : Exits c ctx s g p t) :
    Left ctx.providerWallet { p with stakedUsdcAmount := 0, status := .Exited, updatedAt := now }
      (exited now ctx s p t) := by
  have hledger := hb.ledger h.provider
  obtain ⟨-, hunsettled, hunresolved, -⟩ := h.clear
  refine ⟨Store.get_set_self _ _ _, rfl, fun k x hx hw hrec => ?_, fun k b hb hw hlock => ?_⟩
  · have hcount := (hledger.of_recorded hx hw hrec).2
    omega
  · have hcount := hledger.of_locked hb hw hlock
    omega

/-- **Step**: whatever opens or closes something is about an active provider, a recorded receipt
or a locked bond, so not about a provider that has left. -/
theorem Effect.left {a : Action} {w : Pubkey} {p : ProviderAccount} (hw : Wf s) (hl : Left w p s)
    (h : Effect s a s') : Left w p s' ∧ NothingNew w s s' := by
  have hsame := NothingNew.refl w s
  have hother : ∀ {k : Pubkey} (q : ProviderAccount), k ≠ w →
      (s.providers.set k q).get w = some p :=
    fun q hne => (Store.get_set_of_ne (Ne.symm hne) q).trans hl.provider
  have hrecorded : ∀ {k : Pubkey} {x : ReceiptSettlement}, s.settlements.get k = some x →
      x.status = .Recorded → x.providerWallet ≠ w :=
    fun hx hrec hxw => hl.settlements _ _ hx hxw hrec
  cases h with
  | failed _ => exact ⟨hl, hsame⟩
  | aside _ h =>
    refine ⟨⟨h.providers ▸ hl.provider, hl.exited, ?_, ?_⟩, ?_, ?_⟩
    · rw [h.settlements]
      exact hl.settlements
    · rw [h.bonds]
      exact hl.bonds
    · rw [h.settlements]
      exact .refl _
    · rw [h.bonds]
      exact .refl _
  | genesis _ => exact ⟨⟨hl.provider, hl.exited, hl.settlements, hl.bonds⟩, hsame.1, hsame.2⟩
  | fund _ => exact ⟨⟨hl.provider, hl.exited, hl.settlements, hl.bonds⟩, hsame.1, hsame.2⟩
  | register h =>
    refine ⟨⟨hother _ fun e => ?_, hl.exited, hl.settlements, hl.bonds⟩, hsame.1, hsame.2⟩
    have hfresh := e ▸ h.fresh
    rw [hl.provider] at hfresh
    cases hfresh
  | exit h =>
    refine ⟨⟨hother _ fun e => ?_, hl.exited, hl.settlements, hl.bonds⟩, hsame.1, hsame.2⟩
    have hp := e ▸ h.provider
    rw [hl.provider] at hp
    exact absurd (Option.some.inj hp ▸ h.active) (by rw [hl.exited]; exact fun e => nomatch e)
  | @record c now ctx n g pay q u v t₁ t₂ x h =>
    have hne : ctx.providerAccount ≠ w := by
      rintro rfl
      obtain rfl := Option.some.inj (hl.provider.symm.trans h.provider)
      exact absurd h.active (by rw [hl.exited]; exact fun e => nomatch e)
    have hxw : x.providerWallet ≠ w := by
      rw [h.settlement, recordedSettlement]
      exact h.wallet ▸ hne
    exact ⟨⟨hother _ hne, hl.exited, Store.forall_set hl.settlements (fun _ _ => id) fun e =>
      absurd e hxw, hl.bonds⟩, Store.noneNew_set fun e => absurd e hxw, hsame.2⟩
  | settle h =>
    have hxw := hrecorded h.settlement h.recorded
    exact ⟨⟨hother _ hxw, hl.exited, Store.forall_set hl.settlements (fun _ _ => id) fun e =>
      absurd e hxw, hl.bonds⟩, Store.noneNew_set fun e => absurd e hxw, hsame.2⟩
  | @bond c now ctx g x q t b h =>
    have hxw := hrecorded h.settlement h.recorded
    have hbw : b.providerWallet ≠ w := by
      rw [h.record]
      exact hxw
    exact ⟨⟨hother _ hxw, hl.exited, hl.settlements, Store.forall_set hl.bonds (fun _ _ => id)
      fun e => absurd e hbw⟩, hsame.1, Store.noneNew_set fun e => absurd e hbw⟩
  | @reject c now ctx n g x b q u v t _ h _ _ =>
    have hxw := hrecorded h.settlement h.recorded
    have hbw : b.providerWallet ≠ w := h.bondProvider hw ▸ hxw
    exact ⟨⟨hother _ hxw, hl.exited, Store.forall_set hl.settlements (fun _ _ => id) fun e =>
      absurd e hxw, Store.forall_set hl.bonds (fun _ _ => id) fun e => absurd e hbw⟩,
      Store.noneNew_set fun e => absurd e hxw, Store.noneNew_set fun e => absurd e hbw⟩
  | @revert c now ctx n g x b q u v t₁ t₂ t₃ t₄ _ h _ _ =>
    have hxw := hrecorded h.settlement h.recorded
    have hbw : b.providerWallet ≠ w := h.bondProvider hw ▸ hxw
    exact ⟨⟨hother _ hxw, hl.exited, Store.forall_set hl.settlements (fun _ _ => id) fun e =>
      absurd e hxw, Store.forall_set hl.bonds (fun _ _ => id) fun e => absurd e hbw⟩,
      Store.noneNew_set fun e => absurd e hxw, Store.noneNew_set fun e => absurd e hbw⟩
  | @materialize c now ctx target n tgt x r h =>
    have hstep := settlementStep_released x n.toNat tgt now.toInt
    have hclosed : x.status ≠ .Recorded := by
      rw [h.finalized]
      exact fun e => nomatch e
    refine ⟨⟨hl.provider, hl.exited, Store.forall_set hl.settlements (fun _ _ => id) fun _ => ?_,
      hl.bonds⟩, Store.noneNew_set fun e => ⟨x, h.settlement, hstep.providerWallet ▸ e⟩, hsame.2⟩
    rcases hstep.status with hst | hst
    · exact hst ▸ hclosed
    · exact absurd hst hclosed
  | claim _ => exact ⟨⟨hl.provider, hl.exited, hl.settlements, hl.bonds⟩, hsame.1, hsame.2⟩

theorem run_left {w : Pubkey} {p : ProviderAccount} (hw : Wf s) (hl : Left w p s)
    (as : List Action) :
    Left w p (Machine.run step s as) ∧ NothingNew w s (Machine.run step s as) := by
  have hstep : ∀ s a, Wf s ∧ Left w p s → Wf (step s a) ∧ Left w p (step s a) :=
    fun s a h => ⟨step_wf h.1 a, ((step_effect h.1.sound a).left h.1 h.2).1⟩
  exact ⟨(Machine.run_induction (P := fun s => Wf s ∧ Left w p s) hstep ⟨hw, hl⟩ as).2,
    Machine.run_relation_of_inv hstep (NothingNew.refl w) (fun _ _ _ => .trans)
      (fun s a h => ((step_effect h.1.sound a).left h.1 h.2).2) ⟨hw, hl⟩ as⟩

theorem Left.not_registers {w : Pubkey} {p : ProviderAccount} (hl : Left w p s)
    {c : Caller MASTERPOOL_ID} {now : ℤ} {ctx : RegisterProvider} (hw : ctx.providerWallet = w) :
    registerProvider c now ctx s ≠ .ok s' := by
  intro hok
  obtain ⟨g, t, h, -⟩ := registerProvider_ok hok
  have hfresh := h.fresh
  rw [hw, hl.provider] at hfresh
  cases hfresh

theorem Left.not_exits {w : Pubkey} {p : ProviderAccount} (hl : Left w p s)
    {c : Caller MASTERPOOL_ID} {now : ℤ} {ctx : ExitProvider} (hw : ctx.providerWallet = w) :
    exitProvider c now ctx s ≠ .ok s' := by
  intro hok
  obtain ⟨g, q, t, h, -⟩ := exitProvider_ok hok
  have hp := h.provider
  rw [hw, hl.provider] at hp
  have hact := Option.some.inj hp ▸ h.active
  rw [hl.exited] at hact
  cases hact

/-! ## Rewards -/

def Instruction.IsRewardCall : Instruction → Prop
  | .materializeRewardRelease .. => True
  | .claimReleasedClaw _ => True
  | _ => False

def Action.IsRewardCall : Action → Prop
  | .call _ _ i => i.IsRewardCall
  | .token _ _ => False

/-- A release reads neither provider accounts nor tokens. -/
theorem materialize_frame (c : Caller MASTERPOOL_ID) (now : ℤ) (ctx : MaterializeRewardRelease)
    (target n : ℕ) (s : State) (f : Ledger Pubkey → Ledger Pubkey)
    (m : Store Pubkey ProviderAccount) :
    materializeRewardRelease c now ctx target n { s with tokens := f s.tokens, providers := m } =
      (fun u => { u with tokens := f u.tokens, providers := m }) <$>
        materializeRewardRelease c now ctx target n s := by
  simp only [materializeRewardRelease, map_bind, map_pure]

/-- A claim reads no provider account. -/
theorem claim_frame (c : Caller MASTERPOOL_ID) (now : ℤ) (ctx : ClaimReleasedClaw) (s : State)
    (m : Store Pubkey ProviderAccount) :
    claimReleasedClaw c now ctx { s with providers := m } =
      (fun u => { u with providers := m }) <$> claimReleasedClaw c now ctx s := by
  simp only [claimReleasedClaw, State.tokenAccount, State.mintAccount, map_bind, map_pure]

/-- **Rewards do not depend on the provider account.** -/
theorem reward_call_frame {a : Action} (ha : a.IsRewardCall) (s : State)
    (m : Store Pubkey ProviderAccount) :
    a.exec { s with providers := m } = (fun u => { u with providers := m }) <$> a.exec s := by
  cases a with
  | token c i => exact ha.elim
  | call c now i =>
    cases i with
    | materializeRewardRelease ctx target n =>
      exact materialize_frame c now.toInt ctx target.toNat n.toNat s id m
    | claimReleasedClaw ctx => exact claim_frame c now.toInt ctx s m
    | _ => exact ha.elim

/-- An exit reads neither reward accounts nor settlements. -/
theorem exit_frame (c : Caller MASTERPOOL_ID) (now : ℤ) (ctx : ExitProvider) (s : State)
    (m : Store (RewardAccountKind × Pubkey) RewardAccount) (q : Store Pubkey ReceiptSettlement) :
    exitProvider c now ctx { s with rewards := m, settlements := q } =
      (fun u => { u with rewards := m, settlements := q }) <$> exitProvider c now ctx s := by
  simp only [exitProvider, State.tokenAccount, State.mintAccount, map_bind, map_pure]

/-- The movement of the stake. -/
theorem Exits.made {c : Caller MASTERPOOL_ID} {ctx : ExitProvider} {g : GlobalConfig}
    {p : ProviderAccount} {t : Ledger Pubkey} (hs : Sound s) (h : Exits c ctx s g p t) :
    ∃ o m, s.tokens.mints.get ctx.usdcMint = some m ∧
      (Movement.pay ctx.providerStakeUsdcVault ctx.usdcMint ctx.providerDestinationUsdc o
        p.stakedUsdcAmount m.decimals).Made poolAuthority s.tokens t := by
  obtain ⟨m, hm, ht⟩ := h.transfer
  have howned : Owned ctx.providerStakeUsdcVault := by
    rw [h.vault, (hs.config g h.config).providerStakeUsdcVault]
    decide
  obtain ⟨o, hmade⟩ := exists_made hs.custody howned ht
  exact ⟨o, m, hm, hmade⟩

/-- The movement of a claim. -/
theorem Claims.made {c : Caller MASTERPOOL_ID} {ctx : ClaimReleasedClaw} {g : GlobalConfig}
    {r : RewardAccount} {t : Ledger Pubkey} (hs : Sound s) (h : Claims c ctx s g r t) :
    ∃ o m, s.tokens.mints.get ctx.clawMint = some m ∧
      (Movement.pay rewardVault ctx.clawMint ctx.claimantClawToken o
        (r.releasedClawTotal - r.claimedClawTotal) m.decimals).Made poolAuthority s.tokens t := by
  obtain ⟨m, hm, ht⟩ := h.transfer
  rw [h.vault, (hs.config g h.config).rewardVault] at ht
  obtain ⟨o, hmade⟩ := exists_made hs.custody (show Owned rewardVault by decide) ht
  exact ⟨o, m, hm, hmade⟩

/-- A claim has one outcome in two states that differ in provider accounts and balances only, as
long as the reward vault has the same funds. -/
theorem claim_agree {c : Caller MASTERPOOL_ID} {now : ℤ} {ctx : ClaimReleasedClaw} (hs : Sound s)
    (hs' : Sound s') (hconfig : s'.config = s.config) (hrewards : s'.rewards = s.rewards)
    (hshape : SameShape s.tokens s'.tokens)
    (hfunds : s'.tokens.amount rewardVault = s.tokens.amount rewardVault) :
    Agree (fun _ _ => True) (claimReleasedClaw c now ctx s) (claimReleasedClaw c now ctx s') := by
  unfold claimReleasedClaw
  rw [hconfig, hrewards]
  refine agree_bind fun g hg => agree_bind fun r _ => agree_bind fun _ _ => ?_
  refine (agree_orError (hshape.accountRel _)).bind fun _ _ _ _ _ => ?_
  refine agree_bind fun _ hvault => ?_
  refine (agree_orError (hshape.accountRel _)).bind fun y y' _ _ hy => ?_
  refine (agree_orError (hshape.mintRel _)).bind fun m m' _ _ hm => ?_
  have hdec : m'.decimals = m.decimals := congrArg (fun x => x.decimals) hm
  have hsource : ctx.rewardVault = rewardVault :=
    (ensure_eq_ok.mp hvault).trans (hs.config g (load_eq_ok.mp hg)).rewardVault
  refine agree_bind fun _ _ => agree_bind fun _ _ => agree_bind fun _ _ => agree_bind fun n _ =>
    agree_bind fun _ _ => ?_
  refine (agree_require (by rw [shape_owner hy])).bind fun _ _ _ _ _ => ?_
  refine (agree_require (by rw [shape_mint hy])).bind fun _ _ _ _ _ => ?_
  rw [hdec, hsource]
  refine ((transferChecked_agree hs.balanced hs'.balanced hshape hfunds).mapError _).bind
    fun _ _ _ _ _ => ?_
  exact agree_bind fun _ _ => .ok trivial

/-- **An exit commutes with a reward call**: with the stake paid anywhere but into the reward vault,
the call fails with the same error before and after the exit, or it succeeds in both and the exit
leads from the one outcome to the other. -/
theorem exit_commutes {c c' : Caller MASTERPOOL_ID} {now now' : Int64} {ctx : ExitProvider}
    {i : Instruction} (hs : Sound s) (hi : i.IsRewardCall)
    (hdest : ctx.providerDestinationUsdc ≠ rewardVault)
    (hexit : exitProvider c now.toInt ctx s = .ok s') :
    Agree (fun u u' => exitProvider c now.toInt ctx u = .ok u') (exec c' now'.toInt s i)
      (exec c' now'.toInt s' i) := by
  have hok : (Action.call c now (.exitProvider ctx)).exec s = .ok s' := hexit
  have hs' : Sound s' := step_of_ok hok ▸ step_sound hs _
  obtain ⟨g, p, t, hexits, rfl⟩ := exitProvider_ok hexit
  cases i with
  | materializeRewardRelease ctx' target n =>
    have hframe : exec c' now'.toInt (exited now.toInt ctx s p t)
        (.materializeRewardRelease ctx' target n) =
      (fun u => { u with tokens := t, providers := (exited now.toInt ctx s p t).providers }) <$>
        exec c' now'.toInt s (.materializeRewardRelease ctx' target n) :=
      materialize_frame c' now'.toInt ctx' target.toNat n.toNat s (fun _ => t) _
    rw [hframe]
    refine agree_map.mono fun u u' hu _ he => ?_
    obtain ⟨tgt, x, r, -, -, rfl⟩ := materializeRewardRelease_ok hu
    rw [← he, materialized, exit_frame, hexit]
    rfl
  | claimReleasedClaw ctx' =>
    obtain ⟨o, m, hm, hmade⟩ := hexits.made hs
    have hstake : ctx.providerStakeUsdcVault = providerStakeUsdcVault :=
      hexits.vault.trans (hs.config g hexits.config).providerStakeUsdcVault
    have hfunds : t.amount rewardVault = s.tokens.amount rewardVault := by
      have hamt := hmade.amounts rewardVault
      rw [Movement.source, if_neg (by rw [hstake]; decide), Movement.credited,
        if_neg (Ne.symm hdest)] at hamt
      exact hamt
    refine (claim_agree hs hs' rfl rfl (hmade.shape hs.custody) hfunds).mono fun u u' hu hu' _ => ?_
    obtain ⟨g₁, r, t₁, hclaims, rfl⟩ := claimReleasedClaw_ok hu
    obtain ⟨g₂, r₂, t₂, hclaims', rfl⟩ := claimReleasedClaw_ok hu'
    obtain rfl := Option.some.inj (hclaims.reward.symm.trans hclaims'.reward)
    obtain ⟨o₁, x, hx, hfirst⟩ := hclaims.made hs
    obtain ⟨o₂, x₂, hx₂, hsecond⟩ := hclaims'.made hs'
    rw [show (exited now.toInt ctx s p t).tokens.mints = s.tokens.mints from
      transferChecked_mints hmade.2.2] at hx₂
    obtain rfl := Option.some.inj (hx.symm.trans hx₂)
    -- the stake and the claim come from different vaults
    obtain ⟨l, hclaim, hstakes⟩ := hmade.swap hs.balanced hs.custody hsecond hfirst.funds (by
      rw [Movement.source, Movement.source, hstake, if_neg (by decide), Nat.add_zero]
      exact hstake ▸ hmade.funds)
    obtain rfl := Except.ok.inj (hclaim.2.2.symm.trans hfirst.2.2)
    rw [← transferChecked_mints hfirst.2.2] at hm
    have hexits' : Exits c ctx (claimed now'.toInt ctx' s r l) g p t₂ :=
      { hexits with transfer := ⟨m, hm, hstakes.2.2⟩ }
    exact hexits'.exitProvider now.toInt
  | _ => exact hi.elim

/-- The run of `bs` from `s` is the run of `bs` from `s'` but for the exit `a`, which leads from `s`
to `s'`. -/
structure SameResults (a : Action) (s s' : State) (bs : List Action) : Prop where
  exit : a.exec (Machine.run step s bs) = .ok (Machine.run step s' bs)
  rewards : (Machine.run step s' bs).rewards = (Machine.run step s bs).rewards
  settlements : (Machine.run step s' bs).settlements = (Machine.run step s bs).settlements
  error : ∀ b : Action, b.IsRewardCall → ∀ e, b.exec (Machine.run step s bs) = .error e ↔
    b.exec (Machine.run step s' bs) = .error e

theorem run_sameResults {c : Caller MASTERPOOL_ID} {now : Int64} {ctx : ExitProvider} (hw : Wf s)
    (hdest : ctx.providerDestinationUsdc ≠ rewardVault)
    (hexit : (Action.call c now (.exitProvider ctx)).exec s = .ok s') {bs : List Action}
    (hbs : ∀ b ∈ bs, b.IsRewardCall) : SameResults (.call c now (.exitProvider ctx)) s s' bs := by
  have hagree : ∀ {t t' : State} {b : Action}, Sound t → b.IsRewardCall →
      (Action.call c now (.exitProvider ctx)).exec t = .ok t' →
      Agree (fun u u' => (Action.call c now (.exitProvider ctx)).exec u = .ok u') (b.exec t)
        (b.exec t') := by
    intro t t' b ht hb hexit
    cases b with
    | token c i => exact hb.elim
    | call c' now' i => exact exit_commutes ht hb hdest hexit
  have hrun : (Action.call c now (.exitProvider ctx)).exec (Machine.run step s bs) =
      .ok (Machine.run step s' bs) := by
    induction bs using List.reverseRecOn with
    | nil => exact hexit
    | append_singleton bs b ih =>
      have hprev := ih fun b hb => hbs b (List.mem_append_left _ hb)
      rw [Machine.run_concat, Machine.run_concat]
      exact step_related hprev (hagree (run_wf hw bs).sound
        (hbs b (List.mem_append_right _ (List.mem_singleton_self b))) hprev)
  obtain ⟨g, p, t, -, hafter⟩ := exitProvider_ok hrun
  exact ⟨hrun, by rw [hafter]; rfl, by rw [hafter]; rfl,
    fun b hb e => (hagree (run_wf hw bs).sound hb hrun).error_iff e⟩

/-! ## Exit is final -/

/-- The account that an exit leaves behind. -/
structure Settled (p : ProviderAccount) : Prop where
  exited : p.status = .Exited
  stakedUsdcAmount : p.stakedUsdcAmount = 0
  pendingProviderUsdc : p.pendingProviderUsdc = 0
  unsettledReceiptCount : p.unsettledReceiptCount = 0
  unresolvedChallengeCount : p.unresolvedChallengeCount = 0
  clawNetPosition : 0 ≤ p.clawNetPosition

/-- **Provider exit** is safe and final: at the exit no receipt of the provider is recorded and no
bond of it is locked, and it is paid the stake that it has deposited.  Ever after its account is the
same, it gets no receipt and no bond, and it neither registers nor exits again.  Releases and claims
read no provider account, and calls of these two give what they would have given without the exit,
unless the stake is paid into the reward vault itself. -/
theorem provider_exit (as : List Action) {c : Caller MASTERPOOL_ID} {now : Int64}
    {ctx : ExitProvider} {s' : State}
    (hexit : (Action.call c now (.exitProvider ctx)).exec (reached as) = .ok s') :
    (∀ k x, (reached as).settlements.get k = some x → x.providerWallet = ctx.providerWallet →
      x.status ≠ .Recorded) ∧
    (∀ k b, (reached as).bonds.get k = some b → b.providerWallet = ctx.providerWallet →
      b.status ≠ .Locked) ∧
    (∃ n, Deposited as ctx.providerWallet n ∧
      ∀ k, s'.tokens.amount k + (if k = ctx.providerStakeUsdcVault then n else 0) =
        (reached as).tokens.amount k + if k = ctx.providerDestinationUsdc then n else 0) ∧
    (∃ p, Settled p ∧ ∀ bs, (Machine.run step s' bs).providers.get ctx.providerWallet = some p ∧
      NothingNew ctx.providerWallet s' (Machine.run step s' bs)) ∧
    (∀ bs c' now' u, (∀ ctx' : RegisterProvider, ctx'.providerWallet = ctx.providerWallet →
        registerProvider c' now' ctx' (Machine.run step s' bs) ≠ .ok u) ∧
      ∀ ctx' : ExitProvider, ctx'.providerWallet = ctx.providerWallet →
        exitProvider c' now' ctx' (Machine.run step s' bs) ≠ .ok u) ∧
    (∀ bs (b : Action) m, b.IsRewardCall →
      b.exec { Machine.run step s' bs with providers := m } =
        (fun u => { u with providers := m }) <$> b.exec (Machine.run step s' bs)) ∧
    (ctx.providerDestinationUsdc ≠ rewardVault → ∀ bs : List Action, (∀ b ∈ bs, b.IsRewardCall) →
      SameResults (.call c now (.exitProvider ctx)) (reached as) s' bs) := by
  have hw := reached_wf as
  have hw' : Wf s' := step_of_ok hexit ▸ step_wf hw _
  obtain ⟨g, p, t, h, rfl⟩ := exitProvider_ok hexit
  obtain ⟨hpending, hunsettled, hunresolved, hposition⟩ := h.clear
  have hleft : Left ctx.providerWallet
      { p with stakedUsdcAmount := 0, status := .Exited, updatedAt := now.toInt }
      (exited now.toInt ctx (reached as) p t) := h.left (reached_booked as)
  have hsettled : Settled
      { p with stakedUsdcAmount := 0, status := .Exited, updatedAt := now.toInt } :=
    ⟨rfl, rfl, hpending, hunsettled, hunresolved, hposition⟩
  have hlater := fun bs => run_left hw' hleft bs
  refine ⟨hleft.settlements, hleft.bonds, ⟨p.stakedUsdcAmount, reached_deposited h.provider h.active,
    fun k => ?_⟩, ⟨_, hsettled, fun bs => ⟨(hlater bs).1.provider, (hlater bs).2⟩⟩,
    fun bs c' now' u => ?_, fun bs b m hb => reward_call_frame hb _ m,
    fun hdest bs hbs => run_sameResults hw hdest hexit hbs⟩
  · obtain ⟨m, -, ht⟩ := h.transfer
    exact transferChecked_amount ht k
  · have hgone := (hlater bs).1
    exact ⟨fun ctx' hctx => hgone.not_registers hctx, fun ctx' hctx => hgone.not_exits hctx⟩

/-- The provider `5` takes its stake out, into the account `destination`. -/
def exitInto (destination mint : Pubkey) : Action :=
  .call everyone 2592011 (.exitProvider ⟨wallet 5, providerStakeUsdcVault, destination, mint⟩)

/-- It does so after one receipt was reverted and another one settled. -/
theorem provider_exit_cleared : ∃ s', (exitInto (wallet 6) (wallet 3)).exec (reached cleared) =
      .ok s' ∧
    (∃ n, Deposited cleared (wallet 5) n ∧
      ∀ k, s'.tokens.amount k + (if k = providerStakeUsdcVault then n else 0) =
        (reached cleared).tokens.amount k + if k = wallet 6 then n else 0) ∧
    ∃ p, Settled p ∧ ∀ bs, (Machine.run step s' bs).providers.get (wallet 5) = some p ∧
      NothingNew (wallet 5) s' (Machine.run step s' bs) := by
  obtain ⟨s', hs'⟩ : ∃ s', (exitInto (wallet 6) (wallet 3)).exec (reached cleared) = .ok s' :=
    ⟨_, eq_ok_get (by decide +kernel)⟩
  obtain ⟨-, -, hstake, hfinal, -⟩ := provider_exit cleared hs'
  exact ⟨s', hs', hstake, hfinal⟩

/-- A pool with one mint for CLAW and USDC, whose admin has moved the whole reward vault into the
faucet after a reward of the provider was released. -/
def oneMint : List Action :=
  [.token everyone (.initializeMint (wallet 2) 6 (wallet 4) (some poolAuthority)),
   .token everyone (.initializeAccount (wallet 6) (wallet 2) (wallet 5)),
   .token everyone (.initializeAccount (wallet 8) (wallet 2) (wallet 7)),
   .token everyone (.mintTo (wallet 2) (wallet 6) (wallet 4) 1000000),
   .token everyone (.mintTo (wallet 2) (wallet 8) (wallet 4) 1000000),
   .token everyone (.setMintAuthority (wallet 2) (wallet 4) (some poolAuthority)),
   .token everyone (.approve (wallet 8) (wallet 7) (wallet 9) 1000000),
   .call everyone 1 (.initializeMasterpool ⟨wallet 2, wallet 2, ATTESTATION_ID, true,
    some (wallet 0), wallet 0, some (wallet 1), wallet 1, wallet 1⟩ moderateRate),
   .call everyone 1 (.mintGenesisSupply ⟨wallet 1, rewardVault, wallet 2⟩),
   .call everyone 1 (.registerProvider ⟨wallet 5, providerStakeUsdcVault, wallet 6, wallet 2⟩),
   .call everyone 1
    (.recordMiningFromReceipt { recordContext 20 with usdcMint := wallet 2 } 1000000),
   .call everyone 10 (.settleFinalizedReceipt { settleContext 20 with usdcMint := wallet 2 } 2),
   .call everyone 2592010
    (.materializeRewardRelease ⟨wallet 1, (.Provider, wallet 5), wallet 20⟩ 1 700000),
   .call everyone 2592010 (.initializeFaucet ⟨wallet 2, wallet 2, wallet 1, wallet 1⟩),
   .call everyone 2592010 (.fundFaucetClaw ⟨rewardVault, faucetClawVault, wallet 2, wallet 1⟩
    1000000000000000)]

/-- A stake that is paid into the reward vault pays a claim for which there were no funds. -/
theorem exit_funds_claims : ¬ ∀ (as : List Action) (c : Caller MASTERPOOL_ID) (now : Int64)
    (ctx : ExitProvider) (s' : State),
    (Action.call c now (.exitProvider ctx)).exec (reached as) = .ok s' →
    ∀ (c' : Caller MASTERPOOL_ID) (now' : Int64) (ctx' : ClaimReleasedClaw)
      (e : ProgramError ErrorCode), ctx'.rewardAccount = (.Provider, ctx.providerWallet) →
      (Action.call c' now' (.claimReleasedClaw ctx')).exec (reached as) = .error e →
      (Action.call c' now' (.claimReleasedClaw ctx')).exec s' = .error e := by
  intro h
  obtain ⟨s', hs'⟩ : ∃ s', (exitInto rewardVault (wallet 2)).exec (reached oneMint) = .ok s' :=
    ⟨_, eq_ok_get (by decide +kernel)⟩
  have herror := h oneMint everyone 2592011 _ s' hs' everyone 2592012
    ⟨(.Provider, wallet 5), wallet 5, rewardVault, wallet 6, wallet 2⟩ (.token .InsufficientFunds)
    rfl (errorOf_eq_some.mp (by decide +kernel))
  have hsuccess : ((Action.call everyone 2592012 (.claimReleasedClaw
      ⟨(.Provider, wallet 5), wallet 5, rewardVault, wallet 6, wallet 2⟩)).exec
        (reached (oneMint ++ [exitInto rewardVault (wallet 2)]))).toOption.isSome := by
    decide +kernel
  rw [reached_concat, step_of_ok hs', herror] at hsuccess
  cases hsuccess

end Masterpool
