import Clawfarm.Masterpool.FaucetLimits
import Clawfarm.Masterpool.Payout
import Clawfarm.Masterpool.Types

/-!
# Masterpool.FaucetClaims — what the faucet admits

The limits of `FaucetLimits` say what the faucet never exceeds.  It does not stay below them either:
while the clock does not run backwards, a claim whose accounts are in order is paid exactly if the
amounts fit into what the wallet and everybody together have left of the day, and into the vaults
(`faucet_succeeds_iff`).
-/

namespace Masterpool

open Token Checked

variable {s s' : State} {c : Caller MASTERPOOL_ID} {ctx : ClaimFaucet} {f : FaucetConfig}
  {g : GlobalConfig} {gl : FaucetGlobalState} {total : ℤ → ℕ × ℕ} {d now : ℤ} {u : Pubkey}

def FaucetConfig.perClaim (f : FaucetConfig) : ℕ × ℕ := (f.maxClawPerClaim, f.maxUsdcPerClaim)

/-! ## The counters at the start of a claim -/

/-- The state of a recipient is found in order, and with what the recipient has claimed that day. -/
theorem UserTracks.opens (hu : u ≠ .default) (h : UserTracks u s total d) (now : ℤ) :
    ∃ st, initializeOrResetUserIfNeeded ((s.faucetUserStates.get u).getD .zeroed) u d now = .ok st ∧
      (st.clawClaimedToday, st.usdcClaimedToday) = total d := by
  unfold UserTracks at h
  cases hst : s.faucetUserStates.get u with
  | none =>
    rw [hst] at h
    refine ⟨_, if_pos rfl, ?_⟩
    rw [show total = 0 from h]
    rfl
  | some st =>
    rw [hst] at h
    obtain ⟨howner, htracks⟩ := h
    have hne : st.owner ≠ .default := howner ▸ hu
    have hcarried := htracks.carried le_rfl
    rw [Option.getD_some, initializeOrResetUserIfNeeded, if_neg hne, ensure, require_true howner,
      ok_bind]
    refine ⟨_, rfl, hcarried ▸ ?_⟩
    show _ = if st.currentDayIndex = d then _ else _
    by_cases hday : st.currentDayIndex = d
    · rw [if_pos hday, if_neg (not_not.mpr hday)]
      rfl
    · rw [if_neg hday, if_pos hday]
      rfl

/-- The global state shows what everybody has claimed that day. -/
theorem GlobalTracks.reset (hgl : s.faucetGlobalState = some gl) (h : GlobalTracks s total d)
    (now : ℤ) : ((resetGlobalIfNeeded gl d now).clawClaimedToday,
      (resetGlobalIfNeeded gl d now).usdcClaimedToday) = total d := by
  unfold GlobalTracks at h
  rw [hgl] at h
  have hcarried := Tally.Tracks.carried h le_rfl
  rw [← hcarried]
  show _ = if gl.currentDayIndex = d then _ else _
  unfold resetGlobalIfNeeded
  by_cases hday : gl.currentDayIndex = d
  · rw [if_pos hday, if_neg (not_not.mpr hday)]
    rfl
  · rw [if_neg hday, if_pos hday]
    rfl

/-! ## A claim -/

/-- A claim to the two token accounts of the recipient, with the vaults and mints of the faucet and
the signature of the payer. -/
structure FaucetCall (c : Caller MASTERPOOL_ID) (ctx : ClaimFaucet) (s : State) (g : GlobalConfig)
    (f : FaucetConfig) (gl : FaucetGlobalState) : Prop where
  config : s.config = some g
  faucet : s.faucetConfig = some f
  global : s.faucetGlobalState = some gl
  vaults : ctx.faucetClawVault = f.faucetClawVault ∧ ctx.faucetUsdcVault = f.faucetUsdcVault
  clawVault : Holds s.tokens ctx.faucetClawVault g.clawMint
  usdcVault : Holds s.tokens ctx.faucetUsdcVault g.usdcMint
  mints : ctx.clawMint = g.clawMint ∧ ctx.usdcMint = g.usdcMint
  signed : ctx.payer ∈ c.signers
  claw : ∃ y, s.tokens.accounts.get ctx.userClawToken = some y ∧ y.owner = ctx.user ∧
    y.mint = g.clawMint
  usdc : ∃ y, s.tokens.accounts.get ctx.userUsdcToken = some y ∧ y.owner = ctx.user ∧
    y.mint = g.usdcMint

/-- The faucet is enabled, the amounts fit into the limits after what the recipient (`mine`) and
everybody (`everybodys`) have claimed, the vaults have them, and no account they move through is
frozen. -/
structure FaucetFits (ctx : ClaimFaucet) (n m : ℕ) (s : State) (f : FaucetConfig)
    (mine everybodys : ℕ × ℕ) : Prop where
  enabled : f.enabled = true
  positive : 0 < n ∨ 0 < m
  perClaim : (n, m) ≤ f.perClaim
  perWallet : mine + (n, m) ≤ f.perWallet
  globally : everybodys + (n, m) ≤ f.globally
  inventory : n ≤ s.tokens.amount faucetClawVault ∧ m ≤ s.tokens.amount faucetUsdcVault
  claw : 0 < n → s.tokens.frozen faucetClawVault = false ∧
    s.tokens.frozen ctx.userClawToken = false
  usdc : 0 < m → s.tokens.frozen faucetUsdcVault = false ∧
    s.tokens.frozen ctx.userUsdcToken = false

/-- A payment of the faucet, after other movements of funds that took nothing from the vault. -/
theorem faucetTransfer_iff {l : Ledger Pubkey} {k m a : Pubkey} {n dec : ℕ} {fixed : Prop}
    {y : TokenAccount Pubkey} (hl : Moved s.tokens l) (hs : Sound s) (hk : Holds s.tokens k m)
    (hmint : HasMint s.tokens m dec fixed) (ha : s.tokens.accounts.get a = some y)
    (hy : y.mint = m) (hn : n ≤ l.amount k) :
    (∃ l', faucetTransfer l k m a n dec = .ok l') ↔
      (0 < n → s.tokens.frozen k = false ∧ s.tokens.frozen a = false) := by
  unfold faucetTransfer
  split_ifs with hpos
  · simp only [cpi_eq_ok]
    rw [hl.transfer_iff hs hk hmint ha hy]
    constructor
    · rintro ⟨hf, hf', -⟩ -
      exact ⟨hf, hf'⟩
    · intro h
      exact ⟨(h hpos).1, (h hpos).2, hn⟩
  · exact ⟨fun _ h => absurd h hpos, fun _ => ⟨l, rfl⟩⟩

theorem moved_of_faucetTransfer {l l' : Ledger Pubkey} {k m a : Pubkey} {n dec : ℕ}
    (h : faucetTransfer l k m a n dec = .ok l') : Moved l l' := by
  rcases faucetTransfer_ok h with h | ⟨-, rfl⟩
  · exact moved_of_transfer h
  · exact Moved.refl _

theorem FaucetCall.vaults_eq (hs : Sound s) (h : FaucetCall c ctx s g f gl) :
    ctx.faucetClawVault = faucetClawVault ∧ ctx.faucetUsdcVault = faucetUsdcVault :=
  ⟨h.vaults.1.trans (hs.faucet f h.faucet).1, h.vaults.2.trans (hs.faucet f h.faucet).2⟩

/-- The two payments one after the other. -/
theorem FaucetCall.transfers_iff (hs : Sound s) (h : FaucetCall c ctx s g f gl) {n m : ℕ}
    {x₁ x₂ : Mint Pubkey} (hx₁ : s.tokens.mints.get ctx.clawMint = some x₁)
    (hx₂ : s.tokens.mints.get ctx.usdcMint = some x₂)
    (hn : n ≤ s.tokens.amount faucetClawVault) (hm : m ≤ s.tokens.amount faucetUsdcVault) :
    (∃ t₁ t₂, faucetTransfer s.tokens ctx.faucetClawVault ctx.clawMint ctx.userClawToken n
        x₁.decimals = .ok t₁ ∧
      faucetTransfer t₁ ctx.faucetUsdcVault ctx.usdcMint ctx.userUsdcToken m x₂.decimals = .ok t₂) ↔
      (0 < n → s.tokens.frozen faucetClawVault = false ∧
        s.tokens.frozen ctx.userClawToken = false) ∧
      (0 < m → s.tokens.frozen faucetUsdcVault = false ∧
        s.tokens.frozen ctx.userUsdcToken = false) := by
  obtain ⟨y, hy, -, hym⟩ := h.claw
  obtain ⟨z, hz, -, hzm⟩ := h.usdc
  obtain ⟨hv, hw⟩ := h.vaults_eq hs
  have hclaw := h.clawVault
  have husdc := h.usdcVault
  rw [← h.mints.1, hv] at hclaw
  rw [← h.mints.2, hw] at husdc
  rw [← h.mints.1] at hym
  rw [← h.mints.2] at hzm
  rw [hv, hw]
  have hfirst := faucetTransfer_iff (Moved.refl s.tokens) hs hclaw
    ⟨x₁, hx₁, rfl, fun h : False => h.elim⟩ hy hym hn
  -- the first payment takes nothing from the other vault
  have hsecond : ∀ {t₁}, faucetTransfer s.tokens faucetClawVault ctx.clawMint ctx.userClawToken n
      x₁.decimals = .ok t₁ →
      ((∃ t₂, faucetTransfer t₁ faucetUsdcVault ctx.usdcMint ctx.userUsdcToken m x₂.decimals =
        .ok t₂) ↔ (0 < m → s.tokens.frozen faucetUsdcVault = false ∧
          s.tokens.frozen ctx.userUsdcToken = false)) := by
    intro t₁ h₁
    have hne : faucetUsdcVault ≠ faucetClawVault := by decide
    exact faucetTransfer_iff (moved_of_faucetTransfer h₁) hs husdc
      ⟨x₂, hx₂, rfl, fun h : False => h.elim⟩ hz hzm (hm.trans (faucetTransfer_amount h₁ hne).1)
  constructor
  · rintro ⟨t₁, t₂, h₁, h₂⟩
    exact ⟨hfirst.mp ⟨t₁, h₁⟩, (hsecond h₁).mp ⟨t₂, h₂⟩⟩
  · rintro ⟨hthawed, hthawed'⟩
    obtain ⟨t₁, h₁⟩ := hfirst.mpr hthawed
    obtain ⟨t₂, h₂⟩ := (hsecond h₁).mpr hthawed'
    exact ⟨t₁, t₂, h₁, h₂⟩

theorem FaucetCall.succeeds_iff {mine everybodys : ℤ → ℕ × ℕ} (hs : Sound s) (ht : Typed s)
    (hu : ctx.user ≠ .default) (hmine : UserTracks ctx.user s mine (currentDayIndex now))
    (hall : GlobalTracks s everybodys (currentDayIndex now)) (h : FaucetCall c ctx s g f gl)
    (n m : ℕ) : (∃ s', claimFaucet c now ctx n m s = .ok s') ↔
      FaucetFits ctx n m s f (mine (currentDayIndex now)) (everybodys (currentDayIndex now)) := by
  have hcfg := hs.config g h.config
  have hlimits := ht.faucetConfig f h.faucet
  obtain ⟨st, hst, hcount⟩ := hmine.opens hu now
  have hreset := hall.reset h.global now
  obtain ⟨x₁, hx₁, -⟩ := hcfg.clawMint
  obtain ⟨x₂, hx₂, -⟩ := hcfg.usdcMint
  rw [← h.mints.1] at hx₁
  rw [← h.mints.2] at hx₂
  obtain ⟨y, hy, hyo, hym⟩ := h.claw
  obtain ⟨z, hz, hzo, hzm⟩ := h.usdc
  obtain ⟨v, hv, hvo, hvm⟩ := h.clawVault
  obtain ⟨w, hw, hwo, hwm⟩ := h.usdcVault
  have hvamount := amount_of_get hv
  have hwamount := amount_of_get hw
  rw [(h.vaults_eq hs).1] at hvamount
  rw [(h.vaults_eq hs).2] at hwamount
  rw [← hcount, ← hreset]
  constructor
  · rintro ⟨s', hs'⟩
    simp only [claimFaucet, bind_eq_ok, load_eq_ok, sign_eq_ok, ensure_eq_ok, tokenAccount_eq_ok,
      mintAccount_eq_ok, checkedAddU64_eq_ok, requireTokenOwner_eq_ok, requireTokenMint_eq_ok,
      exists_unit, exists_result, pure_eq_ok] at hs'
    obtain ⟨g', -, f', hf', -, -, gl', hgl', v', hv', -, -, -, w', hw', -, -, -, -, -, -, -, x₁', hx₁',
      -, x₂', hx₂', -, -, henabled, hpos, hclaim, st', hst', -, -, hwallet, -, -, hglobal, -, -, -, -,
      hinventory, t₁, h₁, t₂, h₂, -⟩ := hs'
    obtain rfl := Option.some.inj (h.faucet.symm.trans hf')
    obtain rfl := Option.some.inj (h.global.symm.trans hgl')
    obtain rfl := Except.ok.inj (hst.symm.trans hst')
    obtain rfl := Option.some.inj (hv.symm.trans hv')
    obtain rfl := Option.some.inj (hw.symm.trans hw')
    obtain rfl := Option.some.inj (hx₁.symm.trans hx₁')
    obtain rfl := Option.some.inj (hx₂.symm.trans hx₂')
    rw [← hvamount, ← hwamount] at hinventory
    obtain ⟨hclaw, husdc⟩ := (h.transfers_iff hs hx₁ hx₂ hinventory.1 hinventory.2).mp
      ⟨t₁, t₂, h₁, h₂⟩
    exact ⟨henabled, hpos, hclaim, hwallet, hglobal, hinventory, hclaw, husdc⟩
  · rintro ⟨henabled, hpos, hclaim, hwallet, hglobal, hinventory, hclaw, husdc⟩
    obtain ⟨t₁, t₂, h₁, h₂⟩ := (h.transfers_iff hs hx₁ hx₂ hinventory.1 hinventory.2).mpr
      ⟨hclaw, husdc⟩
    rw [hvamount, hwamount] at hinventory
    simp only [claimFaucet, bind_eq_ok, load_eq_ok, sign_eq_ok, ensure_eq_ok, tokenAccount_eq_ok,
      mintAccount_eq_ok, checkedAddU64_eq_ok, requireTokenOwner_eq_ok, requireTokenMint_eq_ok,
      exists_unit, exists_result, pure_eq_ok]
    refine ⟨_, g, h.config, f, h.faucet, h.vaults.1.symm, h.vaults.2.symm, gl, h.global, v, hv,
      h.vaults.1, hvm, hvo, w, hw, h.vaults.2, hwm, hwo, y, hy, z, hz, x₁, hx₁, h.mints.1, x₂, hx₂,
      h.mints.2, h.signed, henabled, hpos, hclaim, st, hst, ?_, ?_, hwallet, ?_, ?_, hglobal, hyo,
      hym, hzo, hzm, hinventory, t₁, h₁, t₂, h₂, rfl⟩
    · exact hwallet.1.trans_lt hlimits.maxClawPerWalletPerDay
    · exact hwallet.2.trans_lt hlimits.maxUsdcPerWalletPerDay
    · exact hglobal.1.trans_lt hlimits.maxClawGlobalPerDay
    · exact hglobal.2.trans_lt hlimits.maxUsdcGlobalPerDay

/-- **The faucet admits** every claim that fits into what is left of the day, if the clock of the
claims does not run backwards and the recipient is not the all-zero key, whose counter starts again
at every claim. -/
theorem faucet_succeeds_iff (as : List Action) {now : Int64} {args : FaucetClaimArgs}
    (hclock : (claimTimes (as ++ [.call c now (.claimFaucet ctx args)])).Pairwise (· ≤ ·))
    (hkey : ctx.user ≠ .default) (h : FaucetCall c ctx (reached as) g f gl) :
    (∃ s', (Action.call c now (.claimFaucet ctx args)).exec (reached as) = .ok s') ↔
      FaucetFits ctx args.clawAmount.toNat args.usdcAmount.toNat (reached as) f
        (claimedOn (fun k => k = ctx.user) as (currentDayIndex now.toInt))
        (claimedOn (fun _ => true) as (currentDayIndex now.toInt)) := by
  have hdays := days_le_last hclock rfl
  rw [claimTimes_concat] at hclock hdays
  obtain ⟨hall, hmine⟩ := run_tracks (List.pairwise_append.mp hclock).1
    fun t ht => hdays t (List.mem_append_left _ ht)
  exact h.succeeds_iff (reached_sound as) (reached_typed as) hkey (hmine _ hkey) hall _ _

theorem exists_vault {l : Ledger Pubkey} {k m : Pubkey}
    (h : l.static k = some (m, poolAuthority, false)) : Holds l k m := by
  obtain ⟨x, hx, ho, hm⟩ := exists_owned h
  exact ⟨x, hx, ho, hm⟩

/-- A recipient claims a second time on one day. -/
theorem faucet_second_claim :
    ∃ s', (Action.call everyone 3 (.claimFaucet (claimContext 10) maxClaim)).exec
      (reached (claimRun 10 1)) = .ok s' := by
  refine (@faucet_succeeds_iff everyone (claimContext 10)
    ((reached (claimRun 10 1)).faucetConfig.get (by decide +kernel))
    ((reached (claimRun 10 1)).config.get (by decide +kernel))
    ((reached (claimRun 10 1)).faucetGlobalState.get (by decide +kernel))
    (claimRun 10 1) 3 maxClaim (by decide +kernel) (by decide +kernel) ?_).mpr ?_
  · exact ⟨(Option.some_get _).symm, (Option.some_get _).symm, (Option.some_get _).symm,
      by decide +kernel, exists_vault (by decide +kernel), exists_vault (by decide +kernel), by decide +kernel,
      by decide +kernel, exists_owned (f := false) (by decide +kernel),
      exists_owned (f := false) (by decide +kernel)⟩
  · exact ⟨by decide +kernel, by decide +kernel, by decide +kernel, by decide +kernel,
      by decide +kernel, by decide +kernel, by decide +kernel, by decide +kernel⟩

end Masterpool
