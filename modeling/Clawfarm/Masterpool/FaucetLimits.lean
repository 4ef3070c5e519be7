import Clawfarm.Lib.Tally
import Clawfarm.Masterpool.Enforcement
import Mathlib.Algebra.Order.Monoid.Prod

/-!
# Masterpool.FaucetLimits — what the faucet pays on one day

The counters of the faucet are reset when the first claim of a new day comes.  While the clock does
not run backwards, the global one holds what everybody has claimed on its day, and the one of a
recipient what that recipient has, unless the recipient is the all-zero key: this is also the mark
of an account that is not in use yet, so the counter of that recipient starts again at every claim.
-/

namespace Masterpool

open Token Checked

variable {s s' : State}

/-! ## Amounts of CLAW and USDC -/

def FaucetClaimArgs.amounts (args : FaucetClaimArgs) : ℕ × ℕ :=
  (args.clawAmount.toNat, args.usdcAmount.toNat)

def FaucetConfig.perWallet (f : FaucetConfig) : ℕ × ℕ :=
  (f.maxClawPerWalletPerDay, f.maxUsdcPerWalletPerDay)

def FaucetConfig.globally (f : FaucetConfig) : ℕ × ℕ :=
  (f.maxClawGlobalPerDay, f.maxUsdcGlobalPerDay)

def FaucetUserState.tally (u : FaucetUserState) : Tally ℤ (ℕ × ℕ) :=
  ⟨u.currentDayIndex, (u.clawClaimedToday, u.usdcClaimedToday)⟩

def FaucetGlobalState.tally (g : FaucetGlobalState) : Tally ℤ (ℕ × ℕ) :=
  ⟨g.currentDayIndex, (g.clawClaimedToday, g.usdcClaimedToday)⟩

/-- What the recipients `p` claim by an action, on the day on which it is executed. -/
def faucetClaimed (p : Pubkey → Bool) (s : State) : Action → ℤ → ℕ × ℕ
  | .call c now (.claimFaucet ctx args) => fun d =>
    if p ctx.user ∧ d = currentDayIndex now.toInt ∧
      ((Action.call c now (.claimFaucet ctx args)).exec s).toOption.isSome then args.amounts else 0
  | _ => 0

/-- What leaves the two vaults of the faucet by a claim, on the day on which it is executed. -/
def faucetOutflow (s : State) : Action → ℤ → ℕ × ℕ
  | .call c now (.claimFaucet ctx args) => fun d =>
    if d = currentDayIndex now.toInt then
      (s.tokens.amount faucetClawVault -
        (step s (.call c now (.claimFaucet ctx args))).tokens.amount faucetClawVault,
       s.tokens.amount faucetUsdcVault -
        (step s (.call c now (.claimFaucet ctx args))).tokens.amount faucetUsdcVault)
    else 0
  | _ => 0

/-- The sums of what the recipients `p` have claimed on each day of a run. -/
def claimedOn (p : Pubkey → Bool) (as : List Action) : ℤ → ℕ × ℕ :=
  Machine.total step (faucetClaimed p) .init as

/-- The sums of what has left the vaults by claims on each day of a run. -/
def outflowOn (as : List Action) : ℤ → ℕ × ℕ := Machine.total step faucetOutflow .init as

/-- The clock value of a claim. -/
def Action.claimTime : Action → Option ℤ
  | .call _ now (.claimFaucet _ _) => some now.toInt
  | _ => none

def claimTimes (as : List Action) : List ℤ := as.filterMap Action.claimTime

theorem claimTimes_concat (as : List Action) (a : Action) :
    claimTimes (as ++ [a]) = claimTimes as ++ a.claimTime.toList := by
  rw [claimTimes, List.filterMap_append]
  cases h : a.claimTime <;> simp [claimTimes, h]

/-! ## Days -/

theorem currentDayIndex_mono {t t' : ℤ} (h : t ≤ t') : currentDayIndex t ≤ currentDayIndex t' := by
  unfold currentDayIndex
  exact Int.tdiv_le_tdiv (by decide) h

/-! ## Resets -/

theorem reset_tally (gl : FaucetGlobalState) (d now : ℤ) (n m : ℕ) :
    (({ resetGlobalIfNeeded gl d now with
        clawClaimedToday := (resetGlobalIfNeeded gl d now).clawClaimedToday + n
        usdcClaimedToday := (resetGlobalIfNeeded gl d now).usdcClaimedToday + m
        updatedAt := now } : FaucetGlobalState)).tally = gl.tally.add d (n, m) := by
  unfold resetGlobalIfNeeded FaucetGlobalState.tally Tally.add
  by_cases h : gl.currentDayIndex = d
  · simp [h]
  · simp [h]

/-- The state of a recipient who is not the all-zero key is counted on, or is a new one. -/
theorem initializeOrReset_tally {st u : FaucetUserState} {owner : Pubkey} {d now : ℤ}
    (h : initializeOrResetUserIfNeeded st owner d now = .ok u) (hst : st.owner ≠ .default)
    (n m : ℕ) : (({ u with
        clawClaimedToday := u.clawClaimedToday + n
        usdcClaimedToday := u.usdcClaimedToday + m
        updatedAt := now } : FaucetUserState)).tally = st.tally.add d (n, m) := by
  obtain ⟨-, hday, hcount⟩ := initializeOrResetUserIfNeeded_ok h
  obtain ⟨hclaw, husdc⟩ := hcount hst
  unfold FaucetUserState.tally Tally.add
  simp only [hday, hclaw, husdc]
  by_cases h : st.currentDayIndex = d
  · simp [h]
  · simp [h]

theorem reset_day (gl : FaucetGlobalState) (d now : ℤ) :
    (resetGlobalIfNeeded gl d now).currentDayIndex = d := by
  unfold resetGlobalIfNeeded
  split_ifs with hd
  · rfl
  · exact not_not.mp hd

/-! ## What a step does to the counters -/

/-- What a step does to the states of the faucet. -/
inductive FaucetEffect (s : State) : Action → State → Prop
  | quiet {a s'} (hu : s'.faucetUserStates = s.faucetUserStates)
    (hg : s'.faucetGlobalState = s.faucetGlobalState) (ha : ∀ p, faucetClaimed p s a = 0) :
    FaucetEffect s a s'
  | created {a s'} {d now : ℤ} (hu : s'.faucetUserStates = s.faucetUserStates)
    (hg : s.faucetGlobalState = none) (hg' : s'.faucetGlobalState = some ⟨d, 0, 0, now⟩)
    (ha : ∀ p, faucetClaimed p s a = 0) : FaucetEffect s a s'
  | paid {c now ctx args f gl u t₁ t₂} (h : FaucetPays (Int64.toInt now) ctx
      (UInt64.toNat (FaucetClaimArgs.clawAmount args)) args.usdcAmount.toNat s f gl u t₁ t₂)
    (ha : ∀ p, faucetClaimed p s (.call c now (.claimFaucet ctx args)) = fun d =>
      if p ctx.user ∧ d = currentDayIndex now.toInt then args.amounts else 0) :
    FaucetEffect s (.call c now (.claimFaucet ctx args))
      (faucetPaid now.toInt ctx args.clawAmount.toNat args.usdcAmount.toNat s gl u t₂)

theorem faucetClaimed_of_error {a : Action} {e : ProgramError ErrorCode} (h : a.exec s = .error e)
    (p : Pubkey → Bool) : faucetClaimed p s a = 0 := by
  unfold faucetClaimed
  split
  · funext d
    rw [h, if_neg (by simp [Except.toOption])]
    rfl
  · rfl

theorem exec_faucet {c : Caller MASTERPOOL_ID} {now : Int64} {i : Instruction}
    (h : exec c now.toInt s i = .ok s') : FaucetEffect s (.call c now i) s' := by
  cases i with
  | initializeMasterpool ctx params =>
    obtain ⟨-, -, -, -, -, -, -, -, -, -, -, -, -, -, -, -, -, -, rfl⟩ := initializeMasterpool_ok h
    exact .quiet rfl rfl fun _ => rfl
  | mintGenesisSupply ctx =>
    obtain ⟨-, -, -, -, -, -, -, -, -, -, -, rfl⟩ := mintGenesisSupply_ok h
    exact .quiet rfl rfl fun _ => rfl
  | updateConfig ctx params =>
    obtain ⟨-, -, -, rfl⟩ := updateConfig_ok h
    exact .quiet rfl rfl fun _ => rfl
  | setPauseFlags ctx _ _ _ _ =>
    obtain ⟨-, -, rfl⟩ := setPauseFlags_ok h
    exact .quiet rfl rfl fun _ => rfl
  | initializeFaucet ctx =>
    simp only [exec, initializeFaucet, bind_eq_ok, load_eq_ok, sign_eq_ok, ensure_eq_ok,
      vacant_eq_ok, cpi_eq_ok, exists_unit, pure_eq_ok] at h
    obtain ⟨-, -, -, -, -, -, hnone, -, -, -, -, -, -, -, rfl⟩ := h
    exact .created rfl hnone rfl fun _ => rfl
  | setFaucetEnabled ctx _ =>
    obtain ⟨-, -, rfl⟩ := setFaucetEnabled_ok h
    exact .quiet rfl rfl fun _ => rfl
  | updateFaucetLimits ctx _ =>
    obtain ⟨-, -, -, rfl⟩ := updateFaucetLimits_ok h
    exact .quiet rfl rfl fun _ => rfl
  | fundFaucetClaw ctx _ =>
    obtain ⟨-, -, -, -, -, -, -, -, -, rfl⟩ := fundFaucetClaw_ok h
    exact .quiet rfl rfl fun _ => rfl
  | claimFaucet ctx args =>
    obtain ⟨f, gl, u, t₁, t₂, hpays, rfl⟩ := claimFaucet_ok h
    refine .paid hpays fun p => ?_
    funext d
    have hsome : ((Action.call c now (.claimFaucet ctx args)).exec s).toOption.isSome = true := by
      rw [show (Action.call c now (.claimFaucet ctx args)).exec s = _ from h]
      rfl
    simp only [faucetClaimed, hsome, and_true]
  | _ =>
    have hsame := exec_economic (by trivial) h
    exact .quiet hsame.faucetUserStates hsame.faucetGlobalState fun _ => rfl

theorem step_faucet (s : State) (a : Action) : FaucetEffect s a (step s a) := by
  rcases step_cases s a with ⟨e, he, hs⟩ | hok
  · rw [hs]
    exact .quiet rfl rfl (faucetClaimed_of_error he)
  · cases a with
    | call c now i => exact exec_faucet hok
    | token c i =>
      simp only [Action.exec, bind_eq_ok, pure_eq_ok] at hok
      obtain ⟨t, -, he⟩ := hok
      rw [← he]
      exact .quiet rfl rfl fun _ => rfl

/-! ## The counters hold the sums -/

theorem claimedOn_concat (p : Pubkey → Bool) (as : List Action) (a : Action) :
    claimedOn p (as ++ [a]) = claimedOn p as + faucetClaimed p (reached as) a :=
  Machine.total_concat _ _ _ _

/-- The global state tracks the sums of all claims, none of them later than the day `d`. -/
def GlobalTracks (s : State) (total : ℤ → ℕ × ℕ) (d : ℤ) : Prop :=
  match s.faucetGlobalState with
  | none => total = 0
  | some gl => gl.tally.Tracks total d

/-- The state of the recipient `u` tracks the sums of its claims. -/
def UserTracks (u : Pubkey) (s : State) (total : ℤ → ℕ × ℕ) (d : ℤ) : Prop :=
  match s.faucetUserStates.get u with
  | none => total = 0
  | some st => st.owner = u ∧ st.tally.Tracks total d

variable {total : ℤ → ℕ × ℕ} {d d' : ℤ} {u : Pubkey} {a : Action}

theorem GlobalTracks.mono (h : GlobalTracks s total d) (hd : d ≤ d') : GlobalTracks s total d' := by
  unfold GlobalTracks at *
  split at h
  · exact h
  · exact Tally.Tracks.mono h hd

theorem UserTracks.mono (h : UserTracks u s total d) (hd : d ≤ d') : UserTracks u s total d' := by
  unfold UserTracks at *
  split at h
  · exact h
  · exact ⟨h.1, Tally.Tracks.mono h.2 hd⟩

/-- **A step** keeps the global counter right if it comes at the day `d` or claims nothing. -/
theorem FaucetEffect.globalTracks (h : FaucetEffect s a s') (hs : GlobalTracks s total d)
    (hd : ∀ t ∈ a.claimTime, d = currentDayIndex t) :
    GlobalTracks s' (total + faucetClaimed (fun _ => true) s a) d := by
  cases h with
  | quiet _ hg ha =>
    rw [ha, add_zero]
    unfold GlobalTracks at *
    rwa [hg]
  | created _ hg hg' ha =>
    rw [ha, add_zero]
    unfold GlobalTracks at *
    rw [hg] at hs
    rw [hg']
    exact Tally.tracks_of_zero rfl fun e => congrFun hs e
  | @paid c now ctx args f gl st t₁ t₂ h ha =>
    have hday : d = currentDayIndex now.toInt := hd _ rfl
    obtain ⟨gl₀, hgl₀, rfl⟩ := h.global
    unfold GlobalTracks at hs
    rw [hgl₀] at hs
    have hadd := Tally.Tracks.add hs le_rfl args.amounts
    have htotal : total + faucetClaimed (fun _ => true) s (.call c now (.claimFaucet ctx args)) =
        Tally.withAmount total d args.amounts := by
      funext e
      rw [ha, hday]
      simp [Tally.withAmount]
    rw [htotal]
    show Tally.Tracks (FaucetGlobalState.tally _) _ _
    rw [reset_tally, ← hday]
    exact hadd

/-- **A step** keeps the counter of a recipient right who is not the all-zero key. -/
theorem FaucetEffect.userTracks (hu : u ≠ .default) (h : FaucetEffect s a s')
    (hs : UserTracks u s total d) (hd : ∀ t ∈ a.claimTime, d = currentDayIndex t) :
    UserTracks u s' (total + faucetClaimed (fun k => k = u) s a) d := by
  cases h with
  | quiet hus _ ha =>
    rw [ha, add_zero]
    unfold UserTracks at *
    rwa [hus]
  | created hus _ _ ha =>
    rw [ha, add_zero]
    unfold UserTracks at *
    rwa [hus]
  | @paid c now ctx args f gl st t₁ t₂ h ha =>
    have hday : d = currentDayIndex now.toInt := hd _ rfl
    by_cases hk : ctx.user = u
    · subst hk
      have htotal : total +
          faucetClaimed (fun k => k = ctx.user) s (.call c now (.claimFaucet ctx args)) =
            Tally.withAmount total d args.amounts := by
        funext e
        rw [ha, hday]
        simp [Tally.withAmount]
      have hget : (faucetPaid now.toInt ctx args.clawAmount.toNat args.usdcAmount.toNat s gl st
          t₂).faucetUserStates.get ctx.user = some _ := Store.get_set_self _ _ _
      have huser := h.user
      rw [htotal, UserTracks, hget]
      refine ⟨(initializeOrResetUserIfNeeded_ok huser).1, ?_⟩
      unfold UserTracks at hs
      cases hst : s.faucetUserStates.get ctx.user with
      | none =>
        rw [hst] at hs huser
        obtain rfl := Except.ok.inj huser
        show Tally.Tracks ⟨currentDayIndex now.toInt, (0 + _, 0 + _)⟩ _ _
        rw [Nat.zero_add, Nat.zero_add, ← hday]
        exact Tally.tracks_restart (fun e he => absurd (congrFun hs e) he) (congrFun hs d) _
      | some st₀ =>
        rw [hst] at hs huser
        have howner : st₀.owner ≠ .default := by
          rw [hs.1]
          exact hu
        rw [initializeOrReset_tally huser howner, ← hday]
        exact hs.2.add le_rfl _
    · have htotal : total + faucetClaimed (fun k => k = u) s (.call c now (.claimFaucet ctx args)) =
          total := by
        funext e
        rw [ha]
        simp [hk]
      rw [htotal]
      unfold UserTracks at *
      rwa [show (faucetPaid now.toInt ctx args.clawAmount.toNat args.usdcAmount.toNat s gl st
        t₂).faucetUserStates.get u = s.faucetUserStates.get u from
          Store.get_set_of_ne (Ne.symm hk) _]

/-- **Counters**, over any run in which the clock of the claims does not run backwards. -/
theorem run_tracks {as : List Action} (hclock : (claimTimes as).Pairwise (· ≤ ·))
    (hd : ∀ t ∈ claimTimes as, currentDayIndex t ≤ d) :
    GlobalTracks (reached as) (claimedOn (fun _ => true) as) d ∧
      ∀ u, u ≠ .default → UserTracks u (reached as) (claimedOn (fun k => k = u) as) d := by
  induction as using List.reverseRecOn generalizing d with
  | nil => exact ⟨rfl, fun u _ => rfl⟩
  | append_singleton as a ih =>
    rw [claimTimes_concat] at hclock hd
    obtain ⟨hsorted, -, hlast⟩ := List.pairwise_append.mp hclock
    have heffect := step_faucet (reached as) a
    rw [← reached_concat] at heffect
    -- the day on which the action finds the counters, and leaves them
    obtain ⟨e, hbefore, hnow, hafter⟩ : ∃ e, (∀ t ∈ claimTimes as, currentDayIndex t ≤ e) ∧
        (∀ t ∈ a.claimTime, e = currentDayIndex t) ∧ e ≤ d := by
      cases ht : a.claimTime with
      | none =>
        exact ⟨d, fun t h => hd t (List.mem_append_left _ h), fun t h => (nomatch h), le_rfl⟩
      | some t₀ =>
        rw [ht] at hlast hd
        refine ⟨currentDayIndex t₀, fun t h => ?_, fun t h => ?_, ?_⟩
        · exact currentDayIndex_mono (hlast t h t₀ (List.mem_singleton_self t₀))
        · rw [Option.some.inj h]
        · exact hd t₀ (List.mem_append_right _ (List.mem_singleton_self t₀))
    obtain ⟨hglobal, huser⟩ := ih hsorted hbefore
    simp only [claimedOn_concat]
    exact ⟨(heffect.globalTracks hglobal hnow).mono hafter, fun u hu =>
      (heffect.userTracks hu (huser u hu) hnow).mono hafter⟩

/-- The last claim of a run comes on its last day. -/
theorem days_le_last {as : List Action} {t : ℤ}
    (hclock : (claimTimes (as ++ [a])).Pairwise (· ≤ ·)) (ht : a.claimTime = some t) :
    ∀ t' ∈ claimTimes (as ++ [a]), currentDayIndex t' ≤ currentDayIndex t := by
  intro t' ht'
  rw [claimTimes_concat, ht] at hclock ht'
  rcases List.mem_append.mp ht' with h | h
  · exact currentDayIndex_mono
      ((List.pairwise_append.mp hclock).2.2 t' h t (List.mem_singleton_self t))
  · rw [List.mem_singleton.mp h]

/-! ## The limit of a recipient -/

/-- What an action claims that the faucet pays. -/
theorem faucetClaimed_of_ok {c : Caller MASTERPOOL_ID} {now : Int64} {ctx : ClaimFaucet}
    {args : FaucetClaimArgs} {p : Pubkey → Bool} (hp : p ctx.user)
    (hok : (Action.call c now (.claimFaucet ctx args)).exec s = .ok s') :
    faucetClaimed p s (.call c now (.claimFaucet ctx args)) (currentDayIndex now.toInt) =
      args.amounts := by
  refine if_pos ⟨hp, rfl, ?_⟩
  rw [hok]
  rfl

/-- **The limit per wallet** holds for every recipient but the all-zero key, whose counters start
again at every claim; for that one it is sure only as long as nothing has been claimed on the day. -/
theorem wallet_limit (as : List Action) {c : Caller MASTERPOOL_ID} {now : Int64} {ctx : ClaimFaucet}
    {args : FaucetClaimArgs} {f : FaucetConfig}
    (hclock : (claimTimes (as ++ [.call c now (.claimFaucet ctx args)])).Pairwise (· ≤ ·))
    (hf : (reached as).faucetConfig = some f)
    (hok : (Action.call c now (.claimFaucet ctx args)).exec (reached as) = .ok s')
    (hkey : ctx.user ≠ .default ∨
      claimedOn (fun k => k = ctx.user) as (currentDayIndex now.toInt) = 0) :
    claimedOn (fun k => k = ctx.user) (as ++ [.call c now (.claimFaucet ctx args)])
      (currentDayIndex now.toInt) ≤ f.perWallet := by
  obtain ⟨f', gl, u, t₁, t₂, h, rfl⟩ := claimFaucet_ok hok
  obtain rfl : f = f' := Option.some.inj (hf.symm.trans h.faucet)
  rcases hkey with hkey | hfirst
  · have htracks := (run_tracks hclock (days_le_last hclock rfl)).2 ctx.user hkey
    have hget : (faucetPaid now.toInt ctx args.clawAmount.toNat args.usdcAmount.toNat (reached as)
        gl u t₂).faucetUserStates.get ctx.user = some _ := Store.get_set_self _ _ _
    rw [reached_concat, step_of_ok hok, UserTracks, hget] at htracks
    have hcount := htracks.2.count
    simp only [FaucetUserState.tally, (initializeOrResetUserIfNeeded_ok h.user).2.1] at hcount
    rw [← hcount]
    exact h.perWallet
  · rw [claimedOn_concat, Pi.add_apply, hfirst, zero_add,
      faucetClaimed_of_ok (by simp) hok]
    exact ⟨(Nat.le_add_left _ _).trans h.perWallet.1, (Nat.le_add_left _ _).trans h.perWallet.2⟩

/-- The pool of `Payout` with a faucet, and the token accounts `11` and `12` of `user`. -/
def faucetOpen (user : UInt8) : List Action := opening moderateRate ++
  [.token everyone (.initializeAccount (wallet 11) (wallet 2) (wallet user)),
   .token everyone (.initializeAccount (wallet 12) (wallet 3) (wallet user)),
   .call everyone 2 (.initializeFaucet ⟨wallet 2, wallet 3, wallet 1, wallet 1⟩),
   .call everyone 2 (.fundFaucetClaw ⟨rewardVault, faucetClawVault, wallet 2, wallet 1⟩ 1000000000),
   .call everyone 2 (.setFaucetEnabled ⟨wallet 1⟩ true)]

def claimContext (user : UInt8) : ClaimFaucet :=
  ⟨faucetClawVault, faucetUsdcVault, wallet 11, wallet 12, wallet 2, wallet 3, wallet user, wallet 1⟩

def maxClaim : FaucetClaimArgs := ⟨10000000, 0⟩

/-- Five claims of the largest amount on one day use up the limit. -/
def claimRun (user : UInt8) (n : ℕ) : List Action := faucetOpen user ++
  List.replicate n (.call everyone 3 (.claimFaucet (claimContext user) maxClaim))

theorem wallet_limit_reached : ∃ f, (reached (claimRun 10 4)).faucetConfig = some f ∧
    f.perWallet = (50000000, 50000000) ∧
    claimedOn (fun k => k = (claimContext 10).user)
      (claimRun 10 4 ++ [.call everyone 3 (.claimFaucet (claimContext 10) maxClaim)])
      (currentDayIndex (Int64.toInt 3)) ≤ f.perWallet := by
  obtain ⟨s', hs'⟩ : ∃ s', (Action.call everyone 3 (.claimFaucet (claimContext 10) maxClaim)).exec
    (reached (claimRun 10 4)) = .ok s' := ⟨_, eq_ok_get (by decide +kernel)⟩
  have hf : (reached (claimRun 10 4)).faucetConfig =
      some ((reached (claimRun 10 4)).faucetConfig.get (by decide +kernel)) :=
    (Option.some_get _).symm
  exact ⟨_, hf, by decide +kernel, wallet_limit (claimRun 10 4) (by decide +kernel) hf hs'
    (Or.inl (by decide))⟩

/-- The all-zero key claims a sixth time. -/
theorem sixth_claim : ¬ ∀ (as : List Action) (c : Caller MASTERPOOL_ID) (now : Int64)
    (ctx : ClaimFaucet) (args : FaucetClaimArgs) (f : FaucetConfig) (s' : State),
    (claimTimes (as ++ [.call c now (.claimFaucet ctx args)])).Pairwise (· ≤ ·) →
    (reached as).faucetConfig = some f →
    (Action.call c now (.claimFaucet ctx args)).exec (reached as) = .ok s' →
    claimedOn (fun k => k = ctx.user) (as ++ [.call c now (.claimFaucet ctx args)])
      (currentDayIndex now.toInt) ≤ f.perWallet := by
  intro h
  obtain ⟨s', hs'⟩ : ∃ s', (Action.call everyone 3 (.claimFaucet (claimContext 0) maxClaim)).exec
    (reached (claimRun 0 5)) = .ok s' := ⟨_, eq_ok_get (by decide +kernel)⟩
  have hle := h (claimRun 0 5) everyone 3 (claimContext 0) maxClaim _ s' (by decide +kernel)
    (Option.some_get (by decide +kernel)).symm hs'
  revert hle
  decide +kernel

/-! ## The limit of everybody -/

/-- A payment takes from a vault at most its amount, less if it is made to the vault itself. -/
theorem faucetTransfer_le {l l' : Ledger Pubkey} {a m dst : Pubkey} {n dec : ℕ}
    (h : faucetTransfer l a m dst n dec = .ok l') (k : Pubkey) :
    l.amount k ≤ l'.amount k + if k = a then n else 0 := by
  rcases faucetTransfer_ok h with h | ⟨-, rfl⟩
  · have hmove := transferChecked_amount h k
    omega
  · exact Nat.le_add_right _ _

/-- **Outflow**: a claim takes from the two vaults at most what it is counted with. -/
theorem faucetOutflow_le (hs : Sound s) (a : Action) (d : ℤ) :
    faucetOutflow s a d ≤ faucetClaimed (fun _ => true) s a d := by
  unfold faucetOutflow
  split
  · next c now ctx args =>
    rcases step_cases s (.call c now (.claimFaucet ctx args)) with ⟨e, he, hsame⟩ | hok
    · rw [hsame]
      simp only [Nat.sub_self]
      split_ifs <;> exact ⟨Nat.zero_le _, Nat.zero_le _⟩
    · by_cases hd : d = currentDayIndex now.toInt
      · obtain ⟨f, gl, u, t₁, t₂, h, hstep⟩ := claimFaucet_ok hok
        rw [if_pos hd, hd, faucetClaimed_of_ok rfl hok, hstep]
        obtain ⟨dec, h₁⟩ := h.claw
        obtain ⟨dec', h₂⟩ := h.usdc
        rw [h.vaults.1, (hs.faucet f h.faucet).1] at h₁
        rw [h.vaults.2, (hs.faucet f h.faucet).2] at h₂
        have hne : faucetClawVault ≠ faucetUsdcVault := by decide
        have hclaw := faucetTransfer_le h₁ faucetClawVault
        have hclaw' := faucetTransfer_le h₂ faucetClawVault
        have husdc := faucetTransfer_le h₁ faucetUsdcVault
        have husdc' := faucetTransfer_le h₂ faucetUsdcVault
        rw [if_pos rfl] at hclaw husdc'
        rw [if_neg hne] at hclaw'
        rw [if_neg hne.symm] at husdc
        refine ⟨?_, ?_⟩
        · show s.tokens.amount faucetClawVault - t₂.amount faucetClawVault ≤ args.clawAmount.toNat
          omega
        · show s.tokens.amount faucetUsdcVault - t₂.amount faucetUsdcVault ≤ args.usdcAmount.toNat
          omega
      · rw [if_neg hd]
        exact ⟨Nat.zero_le _, Nat.zero_le _⟩
  · exact ⟨Nat.zero_le _, Nat.zero_le _⟩

theorem outflowOn_le (as : List Action) (d : ℤ) :
    outflowOn as d ≤ claimedOn (fun _ => true) as d := by
  induction as using List.reverseRecOn with
  | nil => exact le_rfl
  | append_singleton as a ih =>
    rw [claimedOn_concat, outflowOn, Machine.total_concat]
    exact add_le_add ih (faucetOutflow_le (reached_sound as) a d)

theorem exists_lastDay (ts : List ℤ) : ∃ d, ∀ t ∈ ts, currentDayIndex t ≤ d := by
  induction ts with
  | nil => exact ⟨0, fun t h => (nomatch h)⟩
  | cons t ts ih =>
    obtain ⟨d, hd⟩ := ih
    refine ⟨max (currentDayIndex t) d, fun t' h => ?_⟩
    rcases List.mem_cons.mp h with rfl | h
    · exact le_max_left _ _
    · exact (hd t' h).trans (le_max_right _ _)

/-- What holds for everybody's claims together. -/
structure GlobalLimit (as : List Action) : Prop where
  /-- The global counter is the sum of the claims of its day. -/
  counted : ∀ gl, (reached as).faucetGlobalState = some gl →
    (gl.clawClaimedToday, gl.usdcClaimedToday) =
      claimedOn (fun _ => true) as gl.currentDayIndex
  /-- A claim that is paid last leaves the sum of its day within the limit in force. -/
  limited : ∀ bs c now ctx args f s', as = bs ++ [.call c now (.claimFaucet ctx args)] →
    (reached bs).faucetConfig = some f →
    (Action.call c now (.claimFaucet ctx args)).exec (reached bs) = .ok s' →
    claimedOn (fun _ => true) as (currentDayIndex now.toInt) ≤ f.globally
  /-- No more than that leaves the vaults. -/
  outflow : ∀ d, outflowOn as d ≤ claimedOn (fun _ => true) as d

/-- **The global limit** holds after every run in which the clock of the claims does not run
backwards. -/
theorem global_limit (as : List Action) (hclock : (claimTimes as).Pairwise (· ≤ ·)) :
    GlobalLimit as where
  counted gl hgl := by
    obtain ⟨d, hd⟩ := exists_lastDay (claimTimes as)
    have htracks := (run_tracks hclock hd).1
    rw [GlobalTracks, hgl] at htracks
    exact htracks.count
  limited bs c now ctx args f s' has hf hok := by
    subst has
    obtain ⟨f', gl, u, t₁, t₂, h, rfl⟩ := claimFaucet_ok hok
    obtain rfl : f = f' := Option.some.inj (hf.symm.trans h.faucet)
    have htracks := (run_tracks hclock (days_le_last hclock rfl)).1
    rw [reached_concat, step_of_ok hok] at htracks
    have hcount := Tally.Tracks.count htracks
    obtain ⟨gl₀, -, rfl⟩ := h.global
    simp only [FaucetGlobalState.tally, reset_day] at hcount
    rw [← hcount]
    exact h.globally
  outflow := outflowOn_le as

theorem global_limit_two_claims :
    claimedOn (fun _ => true) (claimRun 10 2) 0 = (20000000, 0) ∧ GlobalLimit (claimRun 10 2) :=
  ⟨by decide +kernel, global_limit (claimRun 10 2) (by decide +kernel)⟩

end Masterpool
