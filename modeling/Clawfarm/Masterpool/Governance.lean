import Clawfarm.Lib.Agree
import Clawfarm.Masterpool.Closing
import Clawfarm.Masterpool.Vesting

/-!
# Masterpool.Governance — a change of the parameters does not touch what is recorded

The eleven economic parameters are read when a provider registers, when a receipt is recorded and
when a bond is recorded, and by no other instruction (`exec_agree`): settlements and bond records
carry what they need of them.  So the terms of a receipt and of its challenge are those of the
moment at which they were recorded, whatever `update_config` is called with later.
-/

namespace Masterpool

open Token Checked Swap

variable {s s' : State}

/-! ## States up to the parameters -/

/-- The config without its economic parameters. -/
def GlobalConfig.fixed (g : GlobalConfig) : GlobalConfig :=
  { g with
    exchangeRateClawPerUsdcE6 := 0
    providerStakeUsdc := 0
    providerUsdcShareBps := 0
    treasuryUsdcShareBps := 0
    userClawShareBps := 0
    providerClawShareBps := 0
    lockDays := 0
    providerSlashClawAmount := 0
    challengerRewardBps := 0
    burnBps := 0
    challengeBondClawAmount := 0 }

def State.fixed (s : State) : State := { s with config := s.config.map GlobalConfig.fixed }

/-- The states differ in the economic parameters only. -/
def SameButParams (s s' : State) : Prop := s'.fixed = s.fixed

theorem SameButParams.tokens (h : SameButParams s s') : s'.tokens = s.tokens := by
  have htokens := congrArg State.tokens (show s'.fixed = s.fixed from h)
  exact htokens

theorem agree_of_fixed {x y : Result State} (h : State.fixed <$> x = State.fixed <$> y) :
    Agree SameButParams x y :=
  (agree_iff_map.mpr h).mono fun u u' _ _ (hu : u.fixed = u'.fixed) => hu.symm

def Instruction.ReadsParams : Instruction → Prop
  | .registerProvider _ => True
  | .recordMiningFromReceipt .. => True
  | .recordChallengeBond _ => True
  | _ => False

theorem loadFaucetAsAdmin_fixed (c : Caller MASTERPOOL_ID) (admin : Pubkey) (s : State) :
    loadFaucetAsAdmin c admin s.fixed = loadFaucetAsAdmin c admin s := by
  unfold loadFaucetAsAdmin State.fixed
  cases s.config <;> rfl

/-- What an instruction does to the rest of the state does not depend on the parameters. -/
theorem exec_fixed {i : Instruction} (hi : ¬ i.ReadsParams) (c : Caller MASTERPOOL_ID) (now : ℤ)
    (s : State) : State.fixed <$> exec c now s.fixed i = State.fixed <$> exec c now s i := by
  obtain ⟨tokens, config, providers, rewards, settlements, bonds, faucet, global, users⟩ := s
  cases config with
  | none => rfl
  | some g =>
    cases i with
    | initializeMasterpool ctx params => rfl
    | mintGenesisSupply ctx =>
      simp only [exec, mintGenesisSupply, State.fixed, GlobalConfig.fixed, load, orError,
        Option.map_some, ok_bind, State.tokenAccount, State.mintAccount, map_bind, map_pure]
    | updateConfig ctx params =>
      simp only [exec, updateConfig, State.fixed, GlobalConfig.fixed, applyPhase1Params, load,
        orError, Option.map_some, ok_bind, map_bind, map_pure]
    | setPauseFlags ctx a b d e =>
      simp only [exec, setPauseFlags, State.fixed, GlobalConfig.fixed, load, orError,
        Option.map_some, ok_bind, map_bind, map_pure]
    | initializeFaucet ctx =>
      simp only [exec, initializeFaucet, State.fixed, GlobalConfig.fixed, load, orError,
        Option.map_some, ok_bind, map_bind, map_pure]
    | setFaucetEnabled ctx enabled =>
      have hload := loadFaucetAsAdmin_fixed c ctx.adminAuthority
        ⟨tokens, some g, providers, rewards, settlements, bonds, faucet, global, users⟩
      simp only [State.fixed, GlobalConfig.fixed, Option.map_some] at hload
      simp only [exec, setFaucetEnabled, State.fixed, GlobalConfig.fixed, Option.map_some, hload,
        map_bind, map_pure]
    | updateFaucetLimits ctx limits =>
      have hload := loadFaucetAsAdmin_fixed c ctx.adminAuthority
        ⟨tokens, some g, providers, rewards, settlements, bonds, faucet, global, users⟩
      simp only [State.fixed, GlobalConfig.fixed, Option.map_some] at hload
      simp only [exec, updateFaucetLimits, State.fixed, GlobalConfig.fixed, Option.map_some, hload,
        map_bind, map_pure]
    | fundFaucetClaw ctx amount =>
      simp only [exec, fundFaucetClaw, State.fixed, GlobalConfig.fixed, load, orError,
        Option.map_some, ok_bind, State.tokenAccount, State.mintAccount, map_bind, map_pure]
    | claimFaucet ctx args =>
      simp only [exec, claimFaucet, State.fixed, GlobalConfig.fixed, load, orError,
        Option.map_some, ok_bind, State.tokenAccount, State.mintAccount, map_bind, map_pure]
    | exitProvider ctx =>
      simp only [exec, exitProvider, State.fixed, GlobalConfig.fixed, load, orError,
        Option.map_some, ok_bind, State.tokenAccount, State.mintAccount, map_bind, map_pure]
    | materializeRewardRelease ctx target n =>
      simp only [exec, materializeRewardRelease, State.fixed, GlobalConfig.fixed, load, orError,
        Option.map_some, ok_bind, map_bind, map_pure]
    | claimReleasedClaw ctx =>
      simp only [exec, claimReleasedClaw, State.fixed, GlobalConfig.fixed, load, orError,
        Option.map_some, ok_bind, State.tokenAccount, State.mintAccount, map_bind, map_pure]
    | settleFinalizedReceipt ctx status =>
      simp only [exec, settleFinalizedReceipt, State.fixed, GlobalConfig.fixed, load, orError,
        Option.map_some, ok_bind, State.tokenAccount, State.mintAccount, requireAttestationCaller,
        map_bind, map_pure]
    | resolveChallengeEconomics ctx code =>
      have harm : ∀ r, resolveArm g.fixed ctx code.toNat r = resolveArm g ctx code.toNat r :=
        fun _ => rfl
      simp only [GlobalConfig.fixed] at harm
      simp only [exec, resolveChallengeEconomics, State.fixed, GlobalConfig.fixed, load, orError,
        Option.map_some, ok_bind, State.tokenAccount, requireAttestationCaller, harm, map_bind,
        map_pure]
    | registerProvider ctx => exact absurd trivial hi
    | recordMiningFromReceipt ctx n => exact absurd trivial hi
    | recordChallengeBond ctx => exact absurd trivial hi

/-- **Parameters that are not read do not matter**: an instruction that reads none fails with the
same error in states that differ in the parameters only, or takes them to such states. -/
theorem exec_agree {i : Instruction} (hi : ¬ i.ReadsParams) (h : SameButParams s s')
    (c : Caller MASTERPOOL_ID) (now : ℤ) :
    Agree SameButParams (exec c now s i) (exec c now s' i) := by
  refine agree_of_fixed ?_
  rw [← exec_fixed hi c now s, ← exec_fixed hi c now s', show s'.fixed = s.fixed from h]

theorem updateConfig_agree {params params' : Phase1ConfigParams}
    (hp : validatePhase1Params params = .ok ()) (hp' : validatePhase1Params params' = .ok ())
    (h : SameButParams s s') (c : Caller MASTERPOOL_ID) (now : ℤ) (ctx : UpdateConfig) :
    Agree SameButParams (exec c now s (.updateConfig ctx params))
      (exec c now s' (.updateConfig ctx params')) := by
  have hother : State.fixed <$> exec c now s' (.updateConfig ctx params') =
      State.fixed <$> exec c now s' (.updateConfig ctx params) := by
    simp only [exec, updateConfig, hp, hp', ok_bind, State.fixed, GlobalConfig.fixed,
      applyPhase1Params, Option.map_some, map_bind, map_pure]
  refine agree_of_fixed ?_
  have hi : ¬ (Instruction.updateConfig ctx params).ReadsParams := id
  rw [hother, ← exec_fixed hi c now s, ← exec_fixed hi c now s', show s'.fixed = s.fixed from h]

def Action.ReadsParams : Action → Prop
  | .call _ _ i => i.ReadsParams
  | .token _ _ => False

/-- The same action, or a valid `update_config` with other arguments. -/
inductive Replaced : Action → Action → Prop
  | same (a : Action) : Replaced a a
  | update {c now ctx params params'} (hp : validatePhase1Params params = .ok ())
    (hp' : validatePhase1Params params' = .ok ()) :
    Replaced (.call c now (.updateConfig ctx params)) (.call c now (.updateConfig ctx params'))

theorem Replaced.agree {a a' : Action} (h : Replaced a a') (ha : ¬ a.ReadsParams)
    (hs : SameButParams s s') : Agree SameButParams (a.exec s) (a'.exec s') := by
  cases h with
  | @update c now ctx params params' hp hp' => exact updateConfig_agree hp hp' hs c now.toInt ctx
  | same =>
    cases a with
    | call c now i => exact exec_agree ha hs c now.toInt
    | token c i =>
      simp only [Action.exec, hs.tokens]
      refine agree_bind fun t _ => .ok ?_
      show State.fixed { s' with tokens := t } = State.fixed { s with tokens := t }
      exact congrArg (fun u : State => { u with tokens := t }) (show s'.fixed = s.fixed from hs)

/-- Runs in which nothing reads the parameters. -/
theorem run_sameButParams {as as' : List Action} (h : List.Forall₂ Replaced as as')
    (has : ∀ a ∈ as, ¬ a.ReadsParams) (hs : SameButParams s s') :
    SameButParams (Machine.run step s as) (Machine.run step s' as') := by
  induction h generalizing s s' with
  | nil => exact hs
  | cons ha _ ih =>
    exact ih (fun a ha => has a (List.mem_cons_of_mem _ ha))
      (step_related hs (ha.agree (has _ List.mem_cons_self) hs))

/-! ## The terms of a receipt -/

/-- `x` vests on the terms of `x₀`. -/
theorem SettlementStep.vested {x₀ x : ReceiptSettlement} (h : SettlementStep x₀ x)
    (tgt : ReleaseTarget) (t : ℤ) : x.vested tgt t =
      linearVested (x₀.totalLocked tgt) x₀.lockSeconds (t - x.rewardLockStartedAt).toNat := by
  have hlock : x.lockSeconds = x₀.lockSeconds := by
    unfold ReceiptSettlement.lockSeconds
    rw [h.lockDaysSnapshot]
  have htotal : x.totalLocked tgt = x₀.totalLocked tgt := by
    cases tgt with
    | User => exact h.clawToUser
    | Provider => exact h.clawToProviderLocked
  rw [ReceiptSettlement.vested, hlock, htotal]

/-- The settlement at `k` has the terms of `x₀`. -/
def State.Keeps (s : State) (k : Pubkey) (x₀ : ReceiptSettlement) : Prop :=
  ∃ x, s.settlements.get k = some x ∧ SettlementStep x₀ x ∧ ∀ tgt t, x.vested tgt t =
    linearVested (x₀.totalLocked tgt) x₀.lockSeconds (t - x.rewardLockStartedAt).toNat

/-- The bond record at `k` has the terms of `b₀`. -/
def State.KeepsBond (s : State) (k : Pubkey) (b₀ : ChallengeBondRecord) : Prop :=
  ∃ b, s.bonds.get k = some b ∧ BondStep b₀ b

theorem reached_keeps {pre : List Action} {k : Pubkey} {x₀ : ReceiptSettlement}
    (h : (reached pre).settlements.get k = some x₀) (post : List Action) :
    (reached (pre ++ post)).Keeps k x₀ := by
  rw [reached_append]
  obtain ⟨x, hx, hstep⟩ := (run_grows (reached_wf pre) post).settlements k x₀ h
  exact ⟨x, hx, hstep, hstep.vested⟩

theorem reached_keepsBond {pre : List Action} {k : Pubkey} {b₀ : ChallengeBondRecord}
    (h : (reached pre).bonds.get k = some b₀) (post : List Action) :
    (reached (pre ++ post)).KeepsBond k b₀ := by
  rw [reached_append]
  exact (run_grows (reached_wf pre) post).bonds k b₀ h

/-! ## What a closing pays -/

/-- The closings do the same: the same movements of funds, the same taken from the same accounts,
and the receipt and its bond end with the same status. -/
structure SameClosing (z y : Closing) : Prop where
  receipt : y.receipt = z.receipt
  payer : y.settlement.payerUser = z.settlement.payerUser
  wallet : y.settlement.providerWallet = z.settlement.providerWallet
  movements : y.movements = z.movements
  provider : y.provider = z.provider
  userReward : y.userReward = z.userReward
  providerReward : y.providerReward = z.providerReward
  status : y.outcome.status = z.outcome.status
  bondStatus : (y.bond.map fun q => (q.1, q.2.2.status)) = z.bond.map fun q => (q.1, q.2.2.status)

/-- What the call closes is recorded: the receipt, and the challenge to be resolved. -/
def ClosingCall.Opened (s : State) : ClosingCall → Prop
  | .settle _ ctx _ => ∃ x, s.settlements.get ctx.attestationReceipt = some x
  | .resolve _ ctx _ => (∃ x, s.settlements.get ctx.attestationReceipt = some x) ∧
    ∃ b, s.bonds.get ctx.attestationChallenge = some b

theorem settling_same {now : ℤ} {ctx : SettleFinalizedReceipt} {x₀ x x' : ReceiptSettlement}
    (h : SettlementStep x₀ x) (h' : SettlementStep x₀ x') :
    SameClosing (settling now ctx x) (settling now ctx x') := by
  constructor <;> simp only [settling, h.payerUser, h'.payerUser, h.providerWallet,
    h'.providerWallet, h.usdcToProvider, h'.usdcToProvider, h.clawToUser, h'.clawToUser,
    h.clawToProviderLocked, h'.clawToProviderLocked]

section Resolving

variable {now : ℤ} {ctx : ResolveChallengeEconomics} {x₀ x x' : ReceiptSettlement}
  {b₀ b b' : ChallengeBondRecord}

theorem rejecting_same (h : SettlementStep x₀ x) (h' : SettlementStep x₀ x')
    (hb : BondStep b₀ b) (hb' : BondStep b₀ b') (hx : x.status = .Recorded)
    (hx' : x'.status = .Recorded) :
    SameClosing (rejecting now ctx x b) (rejecting now ctx x' b') := by
  constructor <;> simp only [rejecting, h.payerUser, h'.payerUser, h.providerWallet,
    h'.providerWallet, hb.bondAmount, hb'.bondAmount, hx, hx', Option.map_some]

theorem accepting_same (h : SettlementStep x₀ x) (h' : SettlementStep x₀ x')
    (hb : BondStep b₀ b) (hb' : BondStep b₀ b') :
    SameClosing (accepting now ctx x b) (accepting now ctx x' b') := by
  constructor <;> simp only [accepting, h.payerUser, h'.payerUser, h.providerWallet,
    h'.providerWallet, h.usdcToProvider, h'.usdcToProvider, h.clawToUser, h'.clawToUser,
    h.clawToProviderLocked, h'.clawToProviderLocked, h.clawToProviderTotal, h'.clawToProviderTotal,
    hb.challenger, hb'.challenger, hb.bondAmount, hb'.bondAmount, hb.slashClawAmountSnapshot,
    hb'.slashClawAmountSnapshot, hb.challengerRewardAmount, hb'.challengerRewardAmount,
    hb.burnAmount, hb'.burnAmount, Option.map_some]

end Resolving

theorem Closing.Closes.settlement {now : ℤ} {z : Closing} (h : z.Closes now s s') :
    s.settlements.get z.receipt = some z.settlement := by
  obtain ⟨-, -, -, -, -, -, -, -, -, -, -, -, hx, -, -⟩ := closes_iff.mp h
  exact hx

theorem Closing.Closes.bond {now : ℤ} {z : Closing} (h : z.Closes now s s') {j : Pubkey}
    {b b' : ChallengeBondRecord} (hb : z.bond = some (j, b, b')) : s.bonds.get j = some b := by
  obtain ⟨-, -, -, -, -, -, -, bonds, -, -, -, -, -, hbonds, -⟩ := closes_iff.mp h
  rw [hb] at hbonds
  obtain ⟨v, v', hv, ⟨rfl, -⟩, -⟩ := hbonds
  exact hv

/-- **The same payments**: a call that closes what is recorded after `pre` does the same after any
two continuations of `pre` in which it succeeds. -/
theorem closings_same {pre post post' : List Action} {now : Int64} {call : ClosingCall}
    (hopened : call.Opened (reached pre)) (h : call.Runs now (reached (pre ++ post)) s)
    (h' : call.Runs now (reached (pre ++ post')) s') :
    ∃ z y, z.Closes now.toInt (reached (pre ++ post)) s ∧
      y.Closes now.toInt (reached (pre ++ post')) s' ∧ SameClosing z y := by
  obtain ⟨g, z, -, hmeans, hz⟩ := (closing_iff (reached_wf _) (reached_positionsFit _)).mp h
  obtain ⟨g', y, -, hmeans', hy⟩ := (closing_iff (reached_wf _) (reached_positionsFit _)).mp h'
  refine ⟨z, y, hz, hy, ?_⟩
  -- what is found on either side has the terms of what was there after `pre`
  have hterms : ∀ {k x₀ x bs}, (reached pre).settlements.get k = some x₀ →
      (reached (pre ++ bs)).settlements.get k = some x → SettlementStep x₀ x := fun hx₀ hx => by
    obtain ⟨x, hx', hstep, -⟩ := reached_keeps hx₀ _
    rwa [Option.some.inj (hx.symm.trans hx')]
  have hbonds : ∀ {k b₀ b bs}, (reached pre).bonds.get k = some b₀ →
      (reached (pre ++ bs)).bonds.get k = some b → BondStep b₀ b := fun hb₀ hb => by
    obtain ⟨b, hb', hstep⟩ := reached_keepsBond hb₀ _
    rwa [Option.some.inj (hb.symm.trans hb')]
  cases hmeans with
  | settle hmay =>
    obtain ⟨x₀, hx₀⟩ := hopened
    cases hmeans' with
    | settle hmay' =>
      exact settling_same (hterms hx₀ hz.settlement) (hterms hx₀ hy.settlement)
  | reject hcode hmay =>
    obtain ⟨⟨x₀, hx₀⟩, b₀, hb₀⟩ := hopened
    cases hmeans' with
    | reject _ hmay' =>
      exact rejecting_same (hterms hx₀ hz.settlement) (hterms hx₀ hy.settlement)
        (hbonds hb₀ (hz.bond rfl)) (hbonds hb₀ (hy.bond rfl)) hmay.recorded hmay'.recorded
    | accept hcode' => exact absurd hcode' (by rw [hcode]; decide)
  | accept hcode hmay =>
    obtain ⟨⟨x₀, hx₀⟩, b₀, hb₀⟩ := hopened
    cases hmeans' with
    | reject hcode' _ => exact absurd hcode (by rw [hcode']; decide)
    | accept _ hmay' =>
      exact accepting_same (hterms hx₀ hz.settlement) (hterms hx₀ hy.settlement)
        (hbonds hb₀ (hz.bond rfl)) (hbonds hb₀ (hy.bond rfl))

/-- **Governance**: parameters matter only to the instructions that read them, and never to what
is recorded already.  An instruction that reads none fails with the same error, or does the same, in
states that differ in the parameters only; so do runs of such instructions, whatever values
`update_config` sets.  After any two continuations of a run, its receipts and challenges have kept
their terms, and a call that closes one of them pays the same in both. -/
theorem governance :
    (∀ {s s' : State} {i : Instruction} (c : Caller MASTERPOOL_ID) (now : ℤ), ¬ i.ReadsParams →
      SameButParams s s' → Agree (fun t t' => SameButParams t t' ∧ t'.tokens = t.tokens)
        (exec c now s i) (exec c now s' i)) ∧
    (∀ (pre : List Action) {as as' : List Action}, List.Forall₂ Replaced as as' →
      (∀ a ∈ as, ¬ a.ReadsParams) →
        SameButParams (reached (pre ++ as)) (reached (pre ++ as'))) ∧
    ∀ pre post post' : List Action,
      (∀ k x₀, (reached pre).settlements.get k = some x₀ →
        (reached (pre ++ post)).Keeps k x₀ ∧ (reached (pre ++ post')).Keeps k x₀) ∧
      (∀ k b₀, (reached pre).bonds.get k = some b₀ →
        (reached (pre ++ post)).KeepsBond k b₀ ∧ (reached (pre ++ post')).KeepsBond k b₀) ∧
      ∀ (call : ClosingCall) (now : Int64) (s s' : State), call.Opened (reached pre) →
        call.Runs now (reached (pre ++ post)) s → call.Runs now (reached (pre ++ post')) s' →
          ∃ z y, z.Closes now.toInt (reached (pre ++ post)) s ∧
            y.Closes now.toInt (reached (pre ++ post')) s' ∧ SameClosing z y := by
  refine ⟨fun c now hi h => ?_, fun pre as as' h has => ?_, fun pre post post' => ⟨?_, ?_, ?_⟩⟩
  · exact (exec_agree hi h c now).mono fun t t' _ _ ht => ⟨ht, ht.tokens⟩
  · rw [reached_append, reached_append]
    exact run_sameButParams h has rfl
  · intro k x₀ hx
    exact ⟨reached_keeps hx post, reached_keeps hx post'⟩
  · intro k b₀ hb
    exact ⟨reached_keepsBond hb post, reached_keepsBond hb post'⟩
  · intro call now s s' hopened h h'
    exact closings_same hopened h h'

/-! ## A replaced update that reaches an earlier receipt

All rewards are paid out of one vault, and nothing in it is set aside for a receipt.  After the
receipt `20` an `update_config` sets the rate for the receipt `21`, whose provider claims first. -/

/-- The whole reward goes to the provider, and a large receipt earns more than the vault holds. -/
def drainingRate : Phase1ConfigParams := ⟨18446744073, 1000000, 900, 100, 0, 1000, 30, 5, 500, 500, 7⟩

def laterReceipt (params : Phase1ConfigParams) : List Action :=
  [.call everyone 2 (.updateConfig ⟨wallet 1⟩ params),
   .call everyone 3 (.recordMiningFromReceipt (recordContext 21) 100000000000),
   .call everyone 4 (.settleFinalizedReceipt (settleContext 20) 2),
   .call everyone 5 (.settleFinalizedReceipt (settleContext 21) 2),
   .token everyone (.initializeAccount (wallet 10) (wallet 2) (wallet 5)),
   .token everyone (.initializeAccount (wallet 12) (wallet 2) (wallet 7)),
   .call everyone 3000000 (.materializeRewardRelease
    ⟨wallet 1, (.Provider, wallet 5), wallet 21⟩ 1 999999999999900),
   .call everyone 3000001 (.claimReleasedClaw
    ⟨(.Provider, wallet 5), wallet 5, rewardVault, wallet 10, wallet 2⟩),
   .call everyone 3000002 (.materializeRewardRelease
    ⟨wallet 1, (.User, wallet 7), wallet 20⟩ 0 300000)]

def claimEarlier : ClaimReleasedClaw :=
  ⟨(.User, wallet 7), wallet 7, rewardVault, wallet 12, wallet 2⟩

/-- With the one update the payer of the earlier receipt is paid its reward, with the other the
vault does not hold it any more. -/
theorem replaced_update_blocks_claim : ¬ ∀ (pre post post' : List Action) (k : Pubkey)
    (x : ReceiptSettlement) (c : Caller MASTERPOOL_ID) (ctx : ClaimReleasedClaw) (now : Int64)
    (s : State), (reached pre).settlements.get k = some x → List.Forall₂ Replaced post post' →
    ctx.rewardAccount = (.User, x.payerUser) →
    (Action.call c now (.claimReleasedClaw ctx)).exec (reached (pre ++ post)) = .ok s →
    s.tokens.amount ctx.claimantClawToken =
      (reached (pre ++ post)).tokens.amount ctx.claimantClawToken + x.clawToUser →
    ∃ s', (Action.call c now (.claimReleasedClaw ctx)).exec (reached (pre ++ post')) = .ok s' := by
  intro h
  have hreplaced : List.Forall₂ Replaced (laterReceipt moderateRate) (laterReceipt drainingRate) :=
    .cons (.update (by decide) (by decide)) (List.forall₂_same.mpr fun a _ => .same a)
  have herror : (Action.call everyone 3000003 (.claimReleasedClaw claimEarlier)).exec
      (reached (recordedReceipt ++ laterReceipt drainingRate)) = .error (.token .InsufficientFunds) :=
    errorOf_eq_some.mp (by decide +kernel)
  obtain ⟨s', hs'⟩ := h recordedReceipt (laterReceipt moderateRate) (laterReceipt drainingRate)
    (wallet 20) (((reached recordedReceipt).settlements.get (wallet 20)).get (by decide +kernel))
    everyone claimEarlier 3000003 _ (by decide +kernel) hreplaced (by decide +kernel)
    (eq_ok_get (by decide +kernel)) (by decide +kernel)
  rw [herror] at hs'
  cases hs'

end Masterpool
