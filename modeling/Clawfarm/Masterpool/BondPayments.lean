import Clawfarm.Masterpool.Balances
import Clawfarm.Masterpool.Payments

/-!
# Masterpool.BondPayments — what a bond has been used for

Along a run, five totals are kept of each bond: what left the bond vault and the reward vault in
its name, what of it was burned, what was credited to token accounts of a given wallet, and how
often it was resolved.  They are functions of its status (`ChallengeBondRecord.used`), so no order
of calls returns or burns it twice.
-/

namespace Masterpool

open Token Checked

/-! ## Five measures of a step -/

/-- The resolution that an action asks for. -/
def Action.resolution : Action → Option ResolveChallengeEconomics
  | .call _ _ (.resolveChallengeEconomics ctx _) => some ctx
  | _ => none

/-- What leaves the account `k` between two states. -/
def State.lost (k : Pubkey) (s s' : State) : ℕ := s.tokens.amount k - s'.tokens.amount k

/-- What is burned of the mint `m` between two states. -/
def State.burned (m : Pubkey) (s s' : State) : ℕ := s.tokens.supply m - s'.tokens.supply m

/-- What the vaults pay out in CLAW, less what is burned of it. -/
def challengerPayment (ctx : ResolveChallengeEconomics) (s s' : State) : ℕ :=
  State.lost challengeBondVault s s' + State.lost rewardVault s s' -
    State.burned ctx.clawMint s s'

/-- What a resolution takes from the bond vault and from the reward vault, what it burns, what of
the rest is credited to a token account of the wallet `w`, and how often it happens. -/
def bondUses (j w : Pubkey) (s : State) (a : Action) (s' : State) : ℕ × ℕ × ℕ × ℕ × ℕ :=
  match a.resolution with
  | none => 0
  | some ctx =>
    if ctx.attestationChallenge = j ∧ (a.exec s).toOption.isSome then
      (State.lost challengeBondVault s s', State.lost rewardVault s s',
        State.burned ctx.clawMint s s',
        if ((s.tokens.accounts.get ctx.challengerClawToken).any fun y => y.owner = w) ∧
            s.tokens.amount ctx.challengerClawToken + challengerPayment ctx s s' ≤
              s'.tokens.amount ctx.challengerClawToken then challengerPayment ctx s s' else 0,
        1)
    else 0

/-- What the status of a bond says about its uses. -/
def ChallengeBondRecord.used (w : Pubkey) (b : ChallengeBondRecord) : ℕ × ℕ × ℕ × ℕ × ℕ :=
  match b.status with
  | .Locked => 0
  | .Burned => (b.bondAmount, 0, b.bondAmount, 0, 1)
  | .Returned => (b.bondAmount, b.slashClawAmountSnapshot, b.burnAmount,
      if b.challenger = w then b.bondAmount + b.challengerRewardAmount else 0, 1)

def State.bondUsed (j w : Pubkey) (s : State) : ℕ × ℕ × ℕ × ℕ × ℕ :=
  s.bonds.term (fun _ b => b.used w) j

variable {s s' : State} {a : Action} {j w : Pubkey}

theorem bondUses_of_none (h : a.resolution = none) : bondUses j w s a s' = 0 := by
  rw [bondUses, h]

theorem bondUses_of_error {e : ProgramError ErrorCode} (h : a.exec s = .error e) :
    bondUses j w s a s' = 0 := by
  unfold bondUses
  split
  · rfl
  · rw [h]
    exact if_neg fun hp => Bool.false_ne_true hp.2

theorem Action.IsAside.noResolution (h : a.IsAside) : a.resolution = none := by
  cases a with
  | call c now i => cases i <;> first | rfl | exact absurd h id
  | token c i => rfl

theorem used_of_locked {b : ChallengeBondRecord} (h : b.status = .Locked) : b.used w = 0 := by
  rw [ChallengeBondRecord.used, h]

/-! ## Resolutions -/

section Resolution

variable {c : Caller MASTERPOOL_ID} {now : Int64} {ctx : ResolveChallengeEconomics} {n : UInt8}
  {g : GlobalConfig} {x : ReceiptSettlement} {b : ChallengeBondRecord} {p : ProviderAccount}
  {u v : RewardAccount}

/-- A resolution of another challenge leaves the bond `j`, and its uses are not counted. -/
theorem bondUses_of_ne (hj : ctx.attestationChallenge ≠ j) :
    bondUses j w s (.call c now (.resolveChallengeEconomics ctx n)) s' = 0 :=
  if_neg fun hp => hj hp.1

/-- The uses of a resolution that succeeds. -/
theorem bondUses_eq {bond reward burnt paid : ℕ}
    (he : (Action.call c now (.resolveChallengeEconomics ctx n)).exec s = .ok s')
    (hbond : State.lost challengeBondVault s s' = bond)
    (hreward : State.lost rewardVault s s' = reward)
    (hburnt : State.burned ctx.clawMint s s' = burnt)
    (hpaid : (if ((s.tokens.accounts.get ctx.challengerClawToken).any fun y => y.owner = w) ∧
        s.tokens.amount ctx.challengerClawToken + (bond + reward - burnt) ≤
          s'.tokens.amount ctx.challengerClawToken then bond + reward - burnt else 0) = paid) :
    bondUses ctx.attestationChallenge w s (.call c now (.resolveChallengeEconomics ctx n)) s' =
      (bond, reward, burnt, paid, 1) := by
  rw [bondUses, Action.resolution, he]
  refine (if_pos ⟨rfl, rfl⟩).trans ?_
  rw [challengerPayment, hbond, hreward, hburnt, hpaid]

theorem Resolves.exec_rejected {t : Ledger Pubkey}
    (hn : n.toNat = ATTESTATION_RESOLUTION_REJECTED) (h : Resolves c ctx s g x b p u v)
    (ht : burn s.tokens ctx.clawMint ctx.challengeBondVault poolAuthority b.bondAmount = .ok t)
    (hp : 1 ≤ p.unresolvedChallengeCount) :
    (Action.call c now (.resolveChallengeEconomics ctx n)).exec s =
      .ok (rejected now.toInt ctx s x b p t) := by
  refine resolveChallengeEconomics_iff.mpr
    ⟨g, x, b, p, u, v, ⟨t, x, { b with status := .Burned }, p, u, v⟩, h, ?_, hp, ?_⟩
  · rw [hn, resolveArm, if_pos rfl, resolveRejected_ok]
    exact ⟨t, ht, rfl⟩
  · simp only [Store.set_get_self h.userReward, Store.set_get_self h.providerReward, rejected]

/-- A rejection burns the bond and pays nobody. -/
theorem Resolves.used_rejected {t : Ledger Pubkey} (hw : Wf s)
    (h : Resolves c ctx s g x b p u v)
    (ht : burn s.tokens ctx.clawMint ctx.challengeBondVault poolAuthority b.bondAmount = .ok t)
    (he : (Action.call c now (.resolveChallengeEconomics ctx n)).exec s =
      .ok (rejected now.toInt ctx s x b p t)) :
    bondUses j w s (.call c now (.resolveChallengeEconomics ctx n))
        (rejected now.toInt ctx s x b p t) + s.bondUsed j w =
      (rejected now.toInt ctx s x b p t).bondUsed j w := by
  by_cases hj : ctx.attestationChallenge = j
  · subst hj
    obtain ⟨hamt, hsupply⟩ := h.burn_bond hw.sound ht
    have hbond := hamt challengeBondVault
    have hreward := hamt rewardVault
    have hburnt := hsupply ctx.clawMint
    rw [if_pos rfl] at hbond
    rw [if_neg (by decide)] at hreward
    rw [if_pos h.mints.1] at hburnt
    have hbefore : s.bondUsed ctx.attestationChallenge w = 0 := by
      rw [State.bondUsed, Store.term_some h.bond, used_of_locked h.locked]
    have hafter : (rejected now.toInt ctx s x b p t).bondUsed ctx.attestationChallenge w =
        (b.bondAmount, 0, b.bondAmount, 0, 1) := Store.term_set_self _ _ _ _
    rw [hbefore, hafter, add_zero]
    refine bondUses_eq he ?_ ?_ ?_ ?_
    · show s.tokens.amount _ - t.amount _ = _
      omega
    · show s.tokens.amount _ - t.amount _ = _
      omega
    · show s.tokens.supply _ - t.supply _ = _
      omega
    · rw [Nat.add_zero, Nat.sub_self, ite_self]
  · rw [bondUses_of_ne hj, zero_add]
    exact (Store.term_set_of_ne (fun he => hj he.symm) _ _).symm

/-- What an acceptance pays in CLAW reaches the challenger's token account. -/
theorem Resolves.bond_credit {t₁ t₂ t₃ t₄ : Ledger Pubkey} (hw : Wf s)
    (h : Resolves c ctx s g x b p u v) (ha : Accepts g ctx ⟨s.tokens, x, b, p, u, v⟩ t₁ t₂ t₃ t₄) :
    s.tokens.amount ctx.challengerClawToken + (b.bondAmount + b.challengerRewardAmount) ≤
      t₄.amount ctx.challengerClawToken := by
  have hout := (h.outside hw ha).2
  obtain ⟨hbv, hrv, hpv⟩ := h.vaults_eq hw.sound
  have hne : ∀ v, Owned v → ctx.challengerClawToken ≠ v := fun v hv => (hv.ne hout).symm
  have h₁ := transferChecked_amount ha.bondReturn ctx.challengerClawToken
  rw [if_neg (hne _ (hbv ▸ rfl)), if_pos rfl] at h₁
  have h₂ : t₁.amount ctx.challengerClawToken + b.challengerRewardAmount ≤
      t₂.amount ctx.challengerClawToken := by
    have hr := ifPositive_ok.mp ha.reward
    rcases Nat.eq_zero_or_pos b.challengerRewardAmount with hn | hn
    · have hzero : b.challengerRewardAmount = 0 := hn
      rw [hr.2 hn, hzero, Nat.add_zero]
    · have hmove := transferChecked_amount (hr.1 hn) ctx.challengerClawToken
      rw [if_neg (hne _ (hrv ▸ rfl)), if_pos rfl] at hmove
      simp only at hmove
      omega
  have h₃ := (ifPositive_burn ha.slash).1 ctx.challengerClawToken
  rw [if_neg (hne _ (hrv ▸ rfl))] at h₃
  have h₄ := transferChecked_amount ha.refund ctx.challengerClawToken
  rw [if_neg (hne _ (hpv ▸ rfl))] at h₄
  simp only at h₁ h₄
  omega

/-- An acceptance returns the bond with the reward, and burns the rest of the slash. -/
theorem Resolves.used_returned {t₁ t₂ t₃ t₄ : Ledger Pubkey} (hw : Wf s)
    (h : Resolves c ctx s g x b p u v)
    (ha : Accepts g ctx ⟨s.tokens, x, b, p, u, v⟩ t₁ t₂ t₃ t₄)
    (he : (Action.call c now (.resolveChallengeEconomics ctx n)).exec s =
      .ok (reverted now.toInt ctx s x b p u v t₄)) :
    bondUses j w s (.call c now (.resolveChallengeEconomics ctx n))
        (reverted now.toInt ctx s x b p u v t₄) + s.bondUsed j w =
      (reverted now.toInt ctx s x b p u v t₄).bondUsed j w := by
  by_cases hj : ctx.attestationChallenge = j
  · subst hj
    have hbond := h.amount hw ha (k := challengeBondVault) rfl
    have hreward := h.amount hw ha (k := rewardVault) rfl
    have hburnt := h.supply ha ctx.clawMint
    rw [if_pos rfl, if_neg (by decide), if_neg (by decide)] at hbond
    rw [if_neg (by decide), if_pos rfl, if_neg (by decide)] at hreward
    rw [if_pos h.mints.1] at hburnt
    have hslash := (hw.bond _ _ h.bond).slash
    have hcredit := h.bond_credit hw ha
    obtain ⟨y, hy, hyo, -⟩ := ha.challenger
    have hpaid : b.bondAmount + b.slashClawAmountSnapshot - b.burnAmount =
        b.bondAmount + b.challengerRewardAmount := by omega
    have hbefore : s.bondUsed ctx.attestationChallenge w = 0 := by
      rw [State.bondUsed, Store.term_some h.bond, used_of_locked h.locked]
    have hafter : (reverted now.toInt ctx s x b p u v t₄).bondUsed ctx.attestationChallenge w =
        (b.bondAmount, b.slashClawAmountSnapshot, b.burnAmount,
          if b.challenger = w then b.bondAmount + b.challengerRewardAmount else 0, 1) :=
      Store.term_set_self _ _ _ _
    rw [hbefore, hafter, add_zero]
    refine bondUses_eq he ?_ ?_ ?_ ?_
    · show s.tokens.amount _ - t₄.amount _ = _
      omega
    · show s.tokens.amount _ - t₄.amount _ = _
      omega
    · show s.tokens.supply _ - t₄.supply _ = _
      omega
    · have howner : (s.tokens.accounts.get ctx.challengerClawToken) = some y := hy
      rw [hpaid, howner, Option.any_some, hyo]
      simp only [decide_eq_true_eq]
      exact if_congr (and_iff_left hcredit) rfl rfl
  · rw [bondUses_of_ne hj, zero_add]
    exact (Store.term_set_of_ne (fun he => hj he.symm) _ _).symm

end Resolution

/-! ## Every step -/

theorem Effect.bondUsed (hw : Wf s) (h : Effect s a s') :
    bondUses j w s a s' + s.bondUsed j w = s'.bondUsed j w := by
  -- steps that resolve nothing and leave every bond's terms and status
  have hquiet : a.resolution = none → s'.bonds = s.bonds →
      bondUses j w s a s' + s.bondUsed j w = s'.bondUsed j w := fun hnone hsame => by
    rw [bondUses_of_none hnone, zero_add, State.bondUsed, State.bondUsed, hsame]
  cases h with
  | failed he => rw [bondUses_of_error he, zero_add]
  | aside ha h => exact hquiet ha.noResolution h.bonds
  | genesis _ => exact hquiet rfl rfl
  | fund _ => exact hquiet rfl rfl
  | register _ => exact hquiet rfl rfl
  | exit _ => exact hquiet rfl rfl
  | record _ => exact hquiet rfl rfl
  | settle _ => exact hquiet rfl rfl
  | @bond c now ctx g x p t b h =>
    rw [bondUses_of_none rfl, zero_add, State.bondUsed, State.bondUsed, bonded, Store.term_set]
    split_ifs with hj
    · rw [hj, Store.term_none h.fresh, used_of_locked (by rw [h.record]; rfl)]
    · rfl
  | @reject c now ctx n g x b p u v t hn h ht hp =>
    exact h.used_rejected hw ht (h.exec_rejected hn ht hp)
  | @revert c now ctx n g x b p u v t₁ t₂ t₃ t₄ hn h ha hp =>
    exact h.used_returned hw ha ((resolveChallengeEconomics_accepting hn).mpr
      ⟨g, x, b, p, u, v, t₁, t₂, t₃, t₄, h, ha, hp, rfl⟩)
  | materialize _ => exact hquiet rfl rfl
  | claim _ => exact hquiet rfl rfl

/-- Only a resolution takes a bond off the books. -/
theorem Effect.bonds_held (h : Effect s a s') (ha : a.resolution = none) :
    Vault.bond.held s ≤ Vault.bond.held s' := by
  cases h with
  | failed _ => exact le_rfl
  | aside _ h => rw [Vault.held, Vault.held, h.bonds]
  | genesis _ => exact le_rfl
  | fund _ => exact le_rfl
  | register _ => exact le_rfl
  | exit _ => exact le_rfl
  | record _ => exact le_rfl
  | settle _ => exact le_rfl
  | bond h => exact (Nat.le_add_right _ _).trans (owed_added _ h.fresh rfl).ge
  | reject _ _ _ _ => cases ha
  | revert _ _ _ _ => cases ha
  | materialize _ => exact le_rfl
  | claim _ => exact le_rfl

/-- Whatever leaves the bond vault does so by a resolution. -/
theorem step_bondAttributed (hw : Wf s) (ha : a.resolution = none) :
    State.lost challengeBondVault s (step s a) = 0 := by
  have hheld := (step_effect hw.sound a).bonds_held ha
  have hsurplus := step_surplus hw a .bond
  refine Nat.sub_eq_zero_of_le ?_
  show s.tokens.amount Vault.bond.address ≤ (step s a).tokens.amount Vault.bond.address
  omega

/-- Bonds are created as `Locked`. -/
theorem Effect.lockedFirst (h : Effect s a s') {b : ChallengeBondRecord}
    (hnone : s.bonds.get j = none) (hb : s'.bonds.get j = some b) : b.status = .Locked := by
  have hsame : s.bonds.get j ≠ some b := fun he => nomatch hnone.symm.trans he
  have hset : ∀ {i : Pubkey} {y z : ChallengeBondRecord}, s.bonds.get i = some y →
      (s.bonds.set i z).get j = some b → b.status = .Locked := fun hy hz => by
    rcases Store.get_set_cases hz with ⟨rfl, -⟩ | ⟨-, he⟩
    · exact nomatch hnone.symm.trans hy
    · exact absurd he hsame
  cases h with
  | failed _ => exact absurd hb hsame
  | aside _ h => exact absurd (h.bonds ▸ hb) hsame
  | genesis _ => exact absurd hb hsame
  | fund _ => exact absurd hb hsame
  | register _ => exact absurd hb hsame
  | exit _ => exact absurd hb hsame
  | record _ => exact absurd hb hsame
  | settle _ => exact absurd hb hsame
  | bond h =>
    rcases Store.get_set_cases hb with ⟨-, rfl⟩ | ⟨-, he⟩
    · rw [h.record]
      rfl
    · exact absurd he hsame
  | reject _ h _ _ => exact hset h.bond hb
  | revert _ h _ _ => exact hset h.bond hb
  | materialize _ => exact absurd hb hsame
  | claim _ => exact absurd hb hsame

/-- **Uses**: the totals of a bond follow its status. -/
theorem run_bondUsed (j w : Pubkey) (as : List Action) :
    Machine.total step (fun s a => bondUses j w s a (step s a)) .init as =
      (reached as).bondUsed j w := by
  refine (Machine.total_induction step (fun s a => bondUses j w s a (step s a))
    (I := fun m s => Wf s ∧ m = s.bondUsed j w) (fun m s a h => ?_) ⟨wf_init, rfl⟩ as).2
  refine ⟨step_wf h.1 a, ?_⟩
  rw [h.2, add_comm]
  exact (step_effect h.1.sound a).bondUsed h.1

end Masterpool
