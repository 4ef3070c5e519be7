import Clawfarm.Masterpool.Payout

/-!
# Masterpool.Enforcement — when a challenge can be accepted

Accepting a challenge is all or nothing: the bond goes back, the slash is paid and burned out of the
reward vault, and the payer is refunded.  Bond and refund are covered by their vaults; the slash is
covered only if the reward vault still holds it, and nothing reserves it there.
-/

namespace Masterpool

open Token Checked

variable {s s' : State}

/-! ## Net positions fit -/

/-- Every net position is an `i128`. -/
def PositionsFit (s : State) : Prop :=
  ∀ w p, s.providers.get w = some p → i128Min ≤ p.clawNetPosition ∧ p.clawNetPosition ≤ i128Max

theorem positionsFit_init : PositionsFit .init := fun _ _ h => nomatch h

theorem Effect.positionsFit {a : Action} (hp : PositionsFit s) (h : Effect s a s') :
    PositionsFit s' := by
  cases h with
  | failed _ => exact hp
  | aside _ h =>
    unfold PositionsFit
    rw [h.providers]
    exact hp
  | genesis _ => exact hp
  | fund _ => exact hp
  | register _ =>
    have hzero : i128Min ≤ 0 ∧ 0 ≤ i128Max := by decide
    exact Store.forall_set hp (fun _ _ => id) hzero
  | exit h =>
    have hfit := hp _ _ h.provider
    exact Store.forall_set hp (fun _ _ => id) hfit
  | record h => exact Store.forall_set hp (fun _ _ => id) h.position
  | settle h =>
    have hfit := hp _ _ h.provider
    exact Store.forall_set hp (fun _ _ => id) hfit
  | bond h =>
    have hfit := hp _ _ h.provider
    exact Store.forall_set hp (fun _ _ => id) hfit
  | reject _ h _ _ =>
    have hfit := hp _ _ h.provider
    exact Store.forall_set hp (fun _ _ => id) hfit
  | revert _ _ ha _ => exact Store.forall_set hp (fun _ _ => id) ha.slashed
  | materialize _ => exact hp
  | claim _ => exact hp

theorem reached_positionsFit (as : List Action) : PositionsFit (reached as) := by
  refine (Machine.run_induction (P := fun s => Wf s ∧ PositionsFit s) (fun s a h => ?_)
    ⟨wf_init, positionsFit_init⟩ as).2
  exact ⟨step_wf h.1 a, (step_effect h.1.sound a).positionsFit h.2⟩

/-! ## Accepting -/

/-- The attestation program accepts the challenge with the locked record `b` on the settlement
`x`, paying token accounts of the challenger and of the payer. -/
structure AcceptanceCall (c : Caller MASTERPOOL_ID) (ctx : ResolveChallengeEconomics) (s : State)
    (g : GlobalConfig) (x : ReceiptSettlement) (b : ChallengeBondRecord) : Prop where
  config : s.config = some g
  attestation : ctx.attestationConfig.key = .pda g.attestationProgram .CONFIG_SEED ∧
    ctx.attestationConfig.key ∈ c.signers ∧ ctx.attestationConfig.owner = g.attestationProgram
  settlement : s.settlements.get ctx.attestationReceipt = some x
  bond : s.bonds.get ctx.attestationChallenge = some b
  receipt : b.attestationReceipt = ctx.attestationReceipt
  locked : b.status = .Locked
  vaults : ctx.challengeBondVault = g.challengeBondVault ∧ ctx.rewardVault = g.rewardVault ∧
    ctx.providerPendingUsdcVault = g.providerPendingUsdcVault
  mints : ctx.clawMint = g.clawMint ∧ ctx.usdcMint = g.usdcMint
  payer : ∃ y, s.tokens.accounts.get ctx.payerUsdcToken = some y ∧ y.owner = x.payerUser ∧
    y.mint = g.usdcMint
  challenger : ∃ y, s.tokens.accounts.get ctx.challengerClawToken = some y ∧
    y.owner = b.challenger ∧ y.mint = g.clawMint
  unpaused : g.pauseChallengeProcessing = false

def State.netPosition (s : State) (w : Pubkey) : ℤ :=
  s.providers.term (fun _ p => p.clawNetPosition) w

/-- The reward vault still holds the slash, the net position can still be lowered by it, and the
token accounts are not frozen. -/
structure Enforceable (ctx : ResolveChallengeEconomics) (s : State) (x : ReceiptSettlement)
    (b : ChallengeBondRecord) : Prop where
  recorded : x.status = .Recorded
  inventory : b.slashClawAmountSnapshot ≤ s.tokens.amount rewardVault
  position : i128Min ≤
    s.netPosition x.providerWallet - x.clawToProviderTotal - b.slashClawAmountSnapshot
  bondVault : s.tokens.frozen challengeBondVault = false
  rewardVault : b.slashClawAmountSnapshot = 0 ∨ s.tokens.frozen rewardVault = false
  pendingVault : s.tokens.frozen providerPendingUsdcVault = false
  challenger : s.tokens.frozen ctx.challengerClawToken = false
  payer : s.tokens.frozen ctx.payerUsdcToken = false

/-- A movement that is skipped for `0` succeeds if it is skipped or if it would succeed. -/
theorem ifPositive_succeeds_iff {n : ℕ} {move : Except TokenError (Ledger Pubkey)}
    {l : Ledger Pubkey} :
    (∃ l', ifPositive n move l = .ok l') ↔ n = 0 ∨ ∃ l', move = .ok l' := by
  simp only [ifPositive_ok]
  rcases Nat.eq_zero_or_pos n with hn | hn
  · subst hn
    exact ⟨fun _ => Or.inl rfl, fun _ => ⟨l, fun h => absurd h (Nat.lt_irrefl 0), fun _ => rfl⟩⟩
  · refine ⟨fun ⟨l', h, _⟩ => Or.inr ⟨l', h hn⟩, fun h => ?_⟩
    obtain ⟨l', h⟩ := h.resolve_left hn.ne'
    exact ⟨l', fun _ => h, fun h0 => absurd h0 hn.ne'⟩

theorem moved_of_ifPositive {l l' : Ledger Pubkey} {n : ℕ}
    {move : Except TokenError (Ledger Pubkey)} (hmove : ∀ l', move = .ok l' → Moved l l')
    (h : ifPositive n move l = .ok l') : Moved l l' := by
  rw [ifPositive_ok] at h
  rcases Nat.eq_zero_or_pos n with hn | hn
  · rw [h.2 hn]
    exact Moved.refl l
  · exact hmove l' (h.1 hn)

/-- The four movements of an acceptance. -/
structure AcceptanceMoves (ctx : ResolveChallengeEconomics) (l : Ledger Pubkey)
    (x : ReceiptSettlement) (b : ChallengeBondRecord) (t₁ t₂ t₃ t₄ : Ledger Pubkey) : Prop where
  bondReturn : transferChecked l ctx.challengeBondVault ctx.clawMint ctx.challengerClawToken
    poolAuthority b.bondAmount CLAW_DECIMALS = .ok t₁
  reward : ifPositive b.challengerRewardAmount
    (transferChecked t₁ ctx.rewardVault ctx.clawMint ctx.challengerClawToken poolAuthority
      b.challengerRewardAmount CLAW_DECIMALS) t₁ = .ok t₂
  slash : ifPositive b.burnAmount
    (burn t₂ ctx.clawMint ctx.rewardVault poolAuthority b.burnAmount) t₂ = .ok t₃
  refund : transferChecked t₃ ctx.providerPendingUsdcVault ctx.usdcMint ctx.payerUsdcToken
    poolAuthority x.usdcToProvider USDC_DECIMALS = .ok t₄

/-! What the first three movements leave in the vaults that the later ones use. -/

theorem bondReturn_leaves {l t : Ledger Pubkey} {m d : Pubkey} {n dec : ℕ} (hd : ¬ Owned d)
    (h : transferChecked l challengeBondVault m d poolAuthority n dec = .ok t) :
    Moved l t ∧ t.amount rewardVault = l.amount rewardVault ∧
      t.amount providerPendingUsdcVault = l.amount providerPendingUsdcVault := by
  have hr := outbound h hd owned_rewardVault
  have hp := outbound (k := providerPendingUsdcVault) h hd rfl
  rw [if_neg (by decide), Nat.add_zero] at hr hp
  exact ⟨moved_of_transfer h, hr, hp⟩

theorem reward_leaves {l t : Ledger Pubkey} {m d : Pubkey} {n dec : ℕ} (hd : ¬ Owned d)
    (h : ifPositive n (transferChecked l rewardVault m d poolAuthority n dec) l = .ok t) :
    Moved l t ∧ t.amount rewardVault + n = l.amount rewardVault ∧
      t.amount providerPendingUsdcVault = l.amount providerPendingUsdcVault := by
  have hr := (ifPositive_outbound h hd owned_rewardVault).1
  have hp := (ifPositive_outbound (k := providerPendingUsdcVault) h hd rfl).1
  rw [if_pos rfl] at hr
  rw [if_neg (by decide), Nat.add_zero] at hp
  exact ⟨moved_of_ifPositive (fun _ => moved_of_transfer) h, hr, hp⟩

theorem slash_leaves {l t : Ledger Pubkey} {m : Pubkey} {n : ℕ}
    (h : ifPositive n (burn l m rewardVault poolAuthority n) l = .ok t) :
    Moved l t ∧ t.amount rewardVault + n = l.amount rewardVault ∧
      t.amount providerPendingUsdcVault = l.amount providerPendingUsdcVault := by
  have hr := (ifPositive_burn h).1 rewardVault
  have hp := (ifPositive_burn h).1 providerPendingUsdcVault
  rw [if_pos rfl] at hr
  rw [if_neg (by decide), Nat.add_zero] at hp
  exact ⟨moved_of_ifPositive (fun _ => moved_of_burn) h, hr, hp⟩

/-- **Movements**: they all succeed exactly if the reward vault has the slash and no account that
they use is frozen. -/
theorem AcceptanceCall.moves_iff {c : Caller MASTERPOOL_ID} {ctx : ResolveChallengeEconomics}
    {g : GlobalConfig} {x : ReceiptSettlement} {b : ChallengeBondRecord} (hw : Wf s)
    (hv : Solvent s) (h : AcceptanceCall c ctx s g x b) (hrec : x.status = .Recorded) :
    (∃ t₁ t₂ t₃ t₄, AcceptanceMoves ctx s.tokens x b t₁ t₂ t₃ t₄) ↔
      b.slashClawAmountSnapshot ≤ s.tokens.amount rewardVault ∧
      s.tokens.frozen challengeBondVault = false ∧
      (b.slashClawAmountSnapshot = 0 ∨ s.tokens.frozen rewardVault = false) ∧
      s.tokens.frozen providerPendingUsdcVault = false ∧
      s.tokens.frozen ctx.challengerClawToken = false ∧
      s.tokens.frozen ctx.payerUsdcToken = false := by
  have hs := hw.sound
  have hcfg := hs.config g h.config
  have hsplit := (hw.bond _ _ h.bond).slash
  obtain ⟨y, hy, hyo, hym⟩ := h.payer
  obtain ⟨z, hz, hzo, hzm⟩ := h.challenger
  have hch : ¬ Owned ctx.challengerClawToken := hs.not_owned hz (hzo ▸ (hw.bond _ _ h.bond).outside)
  have hbv := h.vaults.1.trans hcfg.challengeBondVault
  have hrv := h.vaults.2.1.trans hcfg.rewardVault
  have hpv := h.vaults.2.2.trans hcfg.providerPendingUsdcVault
  -- when each movement succeeds, and what it leaves in the vaults
  have hbond : (∃ t, transferChecked s.tokens ctx.challengeBondVault ctx.clawMint
      ctx.challengerClawToken poolAuthority b.bondAmount CLAW_DECIMALS = .ok t) ↔
        s.tokens.frozen challengeBondVault = false ∧
          s.tokens.frozen ctx.challengerClawToken = false := by
    rw [h.mints.1, hbv, (Moved.refl _).transfer_iff hs hcfg.bond hcfg.clawMint hz hzm]
    exact ⟨fun h => ⟨h.1, h.2.1⟩, fun hf => ⟨hf.1, hf.2, hv.of_locked h.bond h.locked⟩⟩
  have hreward : ∀ t, Moved s.tokens t → ((∃ t', ifPositive b.challengerRewardAmount
      (transferChecked t ctx.rewardVault ctx.clawMint ctx.challengerClawToken poolAuthority
        b.challengerRewardAmount CLAW_DECIMALS) t = .ok t') ↔ b.challengerRewardAmount = 0 ∨
          s.tokens.frozen rewardVault = false ∧ s.tokens.frozen ctx.challengerClawToken = false ∧
            b.challengerRewardAmount ≤ t.amount rewardVault) := fun t ht => by
    rw [ifPositive_succeeds_iff, h.mints.1, hrv,
      ht.transfer_iff hs hcfg.reward hcfg.clawMint hz hzm]
  have hburn : ∀ t, Moved s.tokens t → ((∃ t', ifPositive b.burnAmount
      (burn t ctx.clawMint ctx.rewardVault poolAuthority b.burnAmount) t = .ok t') ↔
        b.burnAmount = 0 ∨ s.tokens.frozen rewardVault = false ∧
          b.burnAmount ≤ t.amount rewardVault) := fun t ht => by
    rw [ifPositive_succeeds_iff, h.mints.1, hrv, ht.burn_iff hs hcfg.reward hcfg.clawMint]
  have hrefund : ∀ t, Moved s.tokens t → ((∃ t', transferChecked t ctx.providerPendingUsdcVault
      ctx.usdcMint ctx.payerUsdcToken poolAuthority x.usdcToProvider USDC_DECIMALS = .ok t') ↔
        s.tokens.frozen providerPendingUsdcVault = false ∧
          s.tokens.frozen ctx.payerUsdcToken = false ∧
            x.usdcToProvider ≤ t.amount providerPendingUsdcVault) := fun t ht => by
    rw [h.mints.2, hpv, ht.transfer_iff hs hcfg.pending hcfg.usdcMint hy hym]
  have hpending := hv.of_recorded h.settlement hrec
  constructor
  · rintro ⟨t₁, t₂, t₃, t₄, m⟩
    obtain ⟨hfb, hfc⟩ := hbond.mp ⟨t₁, m.bondReturn⟩
    obtain ⟨hm₁, hr₁, -⟩ := bondReturn_leaves hch (hbv ▸ m.bondReturn)
    obtain ⟨hm₂, hr₂, -⟩ := reward_leaves hch (hrv ▸ m.reward)
    obtain ⟨hm₃, hr₃, -⟩ := slash_leaves (hrv ▸ m.slash)
    obtain ⟨hfp, hfy, -⟩ := (hrefund t₃ ((hm₁.trans hm₂).trans hm₃)).mp ⟨t₄, m.refund⟩
    refine ⟨by omega, hfb, ?_, hfp, hfc, hfy⟩
    rcases (hreward t₁ hm₁).mp ⟨t₂, m.reward⟩ with h0 | ⟨hf, -⟩
    · rcases (hburn t₂ (hm₁.trans hm₂)).mp ⟨t₃, m.slash⟩ with h0' | ⟨hf, -⟩
      · exact Or.inl (by omega)
      · exact Or.inr hf
    · exact Or.inr hf
  · rintro ⟨hslash, hfb, hfr, hfp, hfc, hfy⟩
    obtain ⟨t₁, h₁⟩ := hbond.mpr ⟨hfb, hfc⟩
    obtain ⟨hm₁, hr₁, hp₁⟩ := bondReturn_leaves hch (hbv ▸ h₁)
    have hreward' : b.challengerRewardAmount = 0 ∨ s.tokens.frozen rewardVault = false ∧
        s.tokens.frozen ctx.challengerClawToken = false ∧
          b.challengerRewardAmount ≤ t₁.amount rewardVault :=
      hfr.imp (fun h0 => by omega) fun hf => ⟨hf, hfc, by omega⟩
    obtain ⟨t₂, h₂⟩ := (hreward t₁ hm₁).mpr hreward'
    obtain ⟨hm₂, hr₂, hp₂⟩ := reward_leaves hch (hrv ▸ h₂)
    have hburn' : b.burnAmount = 0 ∨ s.tokens.frozen rewardVault = false ∧
        b.burnAmount ≤ t₂.amount rewardVault :=
      hfr.imp (fun h0 => by omega) fun hf => ⟨hf, by omega⟩
    obtain ⟨t₃, h₃⟩ := (hburn t₂ (hm₁.trans hm₂)).mpr hburn'
    obtain ⟨hm₃, -, hp₃⟩ := slash_leaves (hrv ▸ h₃)
    obtain ⟨t₄, h₄⟩ := (hrefund t₃ ((hm₁.trans hm₂).trans hm₃)).mpr ⟨hfp, hfy, by omega⟩
    exact ⟨t₁, t₂, t₃, t₄, h₁, h₂, h₃, h₄⟩

/-- **Enforcement**: a challenge with a locked bond can be accepted exactly if it is enforceable. -/
theorem accept_succeeds_iff (as : List Action) {c : Caller MASTERPOOL_ID} {now : ℤ} {code : ℕ}
    {ctx : ResolveChallengeEconomics} {g : GlobalConfig} {x : ReceiptSettlement}
    {b : ChallengeBondRecord} (hcode : IsAccepting code)
    (h : AcceptanceCall c ctx (reached as) g x b) :
    (∃ s', resolveChallengeEconomics c now ctx code (reached as) = .ok s') ↔
      Enforceable ctx (reached as) x b := by
  have hw := reached_wf as
  have hv := reached_solvent as
  have hx := hw.settlement _ _ h.settlement
  have hb := hw.bond _ _ h.bond
  obtain ⟨p, hp⟩ := hx.provider
  obtain ⟨u, hu⟩ := hx.user
  have hpw := hw.provider _ p hp
  obtain ⟨v, hv'⟩ := hpw.reward
  simp only [resolveChallengeEconomics_accepting hcode]
  have hnet : (reached as).netPosition x.providerWallet = p.clawNetPosition :=
    Store.term_some hp fun _ p => p.clawNetPosition
  constructor
  · rintro ⟨s', g', x', b', p', u', v', t₁, t₂, t₃, t₄, hres, ha, -⟩
    obtain rfl := Option.some.inj (h.settlement.symm.trans hres.settlement)
    obtain rfl := Option.some.inj (h.bond.symm.trans hres.bond)
    obtain rfl := Option.some.inj (hp.symm.trans hres.provider)
    obtain ⟨hinv, hfb, hfr, hfp, hfc, hfy⟩ := (h.moves_iff hw hv hres.recorded).mp
      ⟨t₁, t₂, t₃, t₄, ha.bondReturn, ha.reward, ha.slash, ha.refund⟩
    exact ⟨hres.recorded, hinv, hnet ▸ ha.slashed.1, hfb, hfr, hfp, hfc, hfy⟩
  · intro he
    have hposition := hnet ▸ he.position
    obtain ⟨hmin, hmax⟩ := reached_positionsFit as _ p hp
    obtain ⟨t₁, t₂, t₃, t₄, m⟩ := (h.moves_iff hw hv he.recorded).mpr ⟨he.inventory, he.bondVault,
      he.rewardVault, he.pendingVault, he.challenger, he.payer⟩
    have hledger := (reached_booked as).ledger hp
    obtain ⟨hpending, hcount⟩ := hledger.of_recorded h.settlement rfl he.recorded
    have hup := ((reached_credited as).ledger .User hu).of_recorded h.settlement rfl he.recorded
    have hvp := ((reached_credited as).ledger .Provider hv').of_recorded h.settlement rfl he.recorded
    obtain ⟨x', hx', -, hwallet⟩ := hb.settlement
    obtain rfl : x = x' := Option.some.inj (h.settlement.symm.trans (h.receipt ▸ hx'))
    obtain ⟨y, hy, -⟩ := (hw.sound.config g h.config).bond
    rw [← (hw.sound.config g h.config).challengeBondVault, ← h.vaults.1] at hy
    have hresolves : Resolves c ctx (reached as) g x b p u v :=
      ⟨h.config, h.attestation, h.settlement, h.bond, hp, hpw.wallet, hv', hu, ⟨y, hy⟩, h.vaults,
        h.mints, h.unpaused, he.recorded, hx.receipt, ⟨hb.challenge, h.receipt.trans hx.receipt.symm⟩,
        h.locked⟩
    refine ⟨_, g, x, b, p, u, v, t₁, t₂, t₃, t₄, hresolves, ⟨h.payer, h.challenger, hup, hvp,
      m.bondReturn, m.reward, m.slash, m.refund, hpending, hcount, ?_, ?_⟩,
      hledger.of_locked h.bond hwallet h.locked, rfl⟩
    · exact ⟨by simp only; omega, by simp only; omega⟩
    · exact ⟨hposition, by simp only; omega⟩

/-! ## A run that funds the faucet

The pool of `Payout`, with an admin who moves `funding` from the reward vault to the faucet before
the receipt `20` is challenged by `10`, from the CLAW account `11` that the faucet has paid into. -/

def moderateRate : Phase1ConfigParams :=
  ⟨1000000, 1000000, 900, 100, 300, 700, 30, 1000, 700, 300, 7⟩

def challengeContext (receipt challenge : UInt8) : RecordChallengeBond :=
  ⟨attestationAccount, wallet 10, wallet 11, wallet receipt, wallet challenge, challengeBondVault,
    wallet 2⟩

def resolveContext (receipt challenge : UInt8) : ResolveChallengeEconomics :=
  ⟨attestationAccount, wallet receipt, wallet challenge, challengeBondVault, rewardVault,
    providerPendingUsdcVault, wallet 11, wallet 8, wallet 2, wallet 3⟩

def challenged (funding : UInt64) : List Action := opening moderateRate ++
  [.call everyone 1 (.recordMiningFromReceipt (recordContext 20) 1000000),
   .token everyone (.initializeAccount (wallet 11) (wallet 2) (wallet 10)),
   .token everyone (.initializeAccount (wallet 12) (wallet 3) (wallet 10)),
   .call everyone 2 (.initializeFaucet ⟨wallet 2, wallet 3, wallet 1, wallet 1⟩),
   .call everyone 2 (.fundFaucetClaw ⟨rewardVault, faucetClawVault, wallet 2, wallet 1⟩ funding),
   .call everyone 2 (.setFaucetEnabled ⟨wallet 1⟩ true),
   .call everyone 3 (.claimFaucet ⟨faucetClawVault, faucetUsdcVault, wallet 11, wallet 12, wallet 2,
    wallet 3, wallet 10, wallet 10⟩ ⟨1000, 0⟩),
   .call everyone 4 (.recordChallengeBond (challengeContext 20 30))]

/-- The challenge is accepted, and a second receipt of the provider is settled. -/
def cleared : List Action := challenged 10000000 ++
  [.call everyone 5 (.resolveChallengeEconomics (resolveContext 20 30) 1),
   .call everyone 6 (.recordMiningFromReceipt (recordContext 21) 1000000),
   .call everyone 7 (.settleFinalizedReceipt (settleContext 21) 2)]

/-- The challenge is accepted while the reward vault has the slash. -/
theorem accept_moderate_funding :
    ∃ s', resolveChallengeEconomics everyone 5 (resolveContext 20 30)
      ATTESTATION_RESOLUTION_ACCEPTED
      (reached (challenged 10000000)) = .ok s' := by
  refine (accept_succeeds_iff (challenged 10000000)
    (g := (reached (challenged 10000000)).config.get (by decide +kernel))
    (x := ((reached (challenged 10000000)).settlements.get (wallet 20)).get (by decide +kernel))
    (b := ((reached (challenged 10000000)).bonds.get (wallet 30)).get (by decide +kernel))
    (Or.inl rfl) ?_).mpr ?_
  · exact ⟨by decide +kernel, by decide +kernel, by decide +kernel, by decide +kernel,
      by decide +kernel, by decide +kernel, by decide +kernel, by decide +kernel,
      exists_owned (f := false) (by decide +kernel),
      exists_owned (f := false) (by decide +kernel), by decide +kernel⟩
  · exact ⟨by decide +kernel, by decide +kernel, by decide +kernel, by decide +kernel,
      by decide +kernel, by decide +kernel, by decide +kernel, by decide +kernel⟩

/-- The challenge cannot be accepted once the admin has funded the faucet with the whole supply. -/
theorem funding_blocks_acceptance : ¬ ∀ (as : List Action) (c : Caller MASTERPOOL_ID) (now : ℤ)
    (code : ℕ) (ctx : ResolveChallengeEconomics) (g : GlobalConfig) (x : ReceiptSettlement)
    (b : ChallengeBondRecord), IsAccepting code → AcceptanceCall c ctx (reached as) g x b →
    g.genesisMinted = true → x.status = .Recorded →
    (∀ k ∈ [ctx.challengeBondVault, ctx.rewardVault, ctx.providerPendingUsdcVault,
      ctx.challengerClawToken, ctx.payerUsdcToken], (reached as).tokens.frozen k = false) →
    ∃ s', resolveChallengeEconomics c now ctx code (reached as) = .ok s' := by
  intro h
  have herror : resolveChallengeEconomics everyone 5 (resolveContext 20 30)
      ATTESTATION_RESOLUTION_ACCEPTED
      (reached (challenged 1000000000000000)) = .error (.token .InsufficientFunds) :=
    errorOf_eq_some.mp (by decide +kernel)
  obtain ⟨s', hs'⟩ := h (challenged 1000000000000000) everyone 5 ATTESTATION_RESOLUTION_ACCEPTED
    (resolveContext 20 30) ((reached (challenged 1000000000000000)).config.get (by decide +kernel))
    (((reached (challenged 1000000000000000)).settlements.get (wallet 20)).get (by decide +kernel))
    (((reached (challenged 1000000000000000)).bonds.get (wallet 30)).get (by decide +kernel))
    (Or.inl rfl)
    ⟨by decide +kernel, by decide +kernel, by decide +kernel, by decide +kernel,
      by decide +kernel, by decide +kernel, by decide +kernel, by decide +kernel,
      exists_owned (f := false) (by decide +kernel),
      exists_owned (f := false) (by decide +kernel), by decide +kernel⟩
    (by decide +kernel) (by decide +kernel) (by decide +kernel)
  rw [herror] at hs'
  cases hs'

end Masterpool
