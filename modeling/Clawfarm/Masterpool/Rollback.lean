import Clawfarm.Lib.Debt
import Clawfarm.Masterpool.Enforcement

/-!
# Masterpool.Rollback — what an accepted challenge leaves behind

Two runs from one state: the first records a receipt, then others of the same provider, and then
the receipt is challenged with success; the second records the others only.  The provider, its
payers and its receipts are read as books of `Debt`, on which recording is `Books.record` and
accepting a challenge is `Books.revert`.
-/

namespace Masterpool

open Token Checked Debt

variable {s s' : State} {g : GlobalConfig} {w : Pubkey}

/-! ## The books of a provider -/

/-- What the reward account `k` has pending, nothing if there is none. -/
def State.pendingClaw (s : State) (k : RewardAccountKind × Pubkey) : ℕ :=
  s.rewards.term (fun _ r => r.pendingClawTotal) k

def ReceiptSettlement.booking (x : ReceiptSettlement) : Booking Pubkey :=
  ⟨x.payerUser, x.clawToUser, x.clawToProviderTotal, x.clawProviderDebtOffset,
    x.clawToProviderLocked⟩

def State.books (s : State) (w : Pubkey) : Books Pubkey Pubkey where
  position := s.netPosition w
  pending := s.pendingClaw (.Provider, w)
  userPending := fun u => s.pendingClaw (.User, u)
  booking := fun k => (s.settlements.get k).map ReceiptSettlement.booking

/-- What a receipt of `totalUsdcPaid` gives to the payer under the config `g`. -/
def clawToUser (g : GlobalConfig) (totalUsdcPaid : ℕ) : ℕ :=
  totalUsdcPaid * g.exchangeRateClawPerUsdcE6 / RATE_SCALE * g.userClawShareBps / BPS_SCALE

/-- What it gives to the provider. -/
def clawToProvider (g : GlobalConfig) (totalUsdcPaid : ℕ) : ℕ :=
  totalUsdcPaid * g.exchangeRateClawPerUsdcE6 / RATE_SCALE - clawToUser g totalUsdcPaid

theorem providerDebtOffset_eq {P : ℤ} {n : ℕ} (h : n < u64Bound) :
    providerDebtOffset P n = offset P n := by
  unfold providerDebtOffset offset
  split_ifs with hP
  · rw [Nat.mod_eq_of_lt ((min_le_right _ _).trans_lt h)]
    omega
  · omega

def entryOf (g : GlobalConfig) (ctx : RecordMiningFromReceipt) (totalUsdcPaid : ℕ) :
    Entry Pubkey Pubkey :=
  ⟨ctx.attestationReceipt, ctx.payerUser, clawToUser g totalUsdcPaid,
    clawToProvider g totalUsdcPaid⟩

/-- What the users have pending after a write to one of their accounts and one of a provider. -/
theorem userPending_set_set (rewards : Store (RewardAccountKind × Pubkey) RewardAccount)
    (o w k : Pubkey) (u v : RewardAccount) :
    ((rewards.set (.User, o) u).set (.Provider, w) v).term (fun _ r => r.pendingClawTotal) (.User, k)
      = if k = o then u.pendingClawTotal
        else rewards.term (fun _ r => r.pendingClawTotal) (.User, k) := by
  rw [Store.term_set_of_ne (provider_ne_user _ _).symm, Store.term_set]
  by_cases hk : k = o
  · rw [if_pos hk, if_pos (congrArg _ hk)]
  · rw [if_neg hk, if_neg fun he => hk (Prod.mk.inj he).2]

/-- The settlement keeps what the books keep of its receipt. -/
theorem Records.booking {c : Caller MASTERPOOL_ID} {now : ℤ} {ctx : RecordMiningFromReceipt} {n : ℕ}
    {pay : TokenAccount Pubkey} {p : ProviderAccount} {u v : RewardAccount} {t₁ t₂ : Ledger Pubkey}
    {x : ReceiptSettlement} (h : Records c now ctx n s g pay p u v t₁ t₂ x) :
    x.booking = (entryOf g ctx n).booking p.clawNetPosition := by
  have hfits : clawToProvider g n < u64Bound := by
    have htotal := h.total
    rw [h.settlement] at htotal
    exact htotal
  rw [h.settlement]
  simp only [Entry.booking, entryOf]
  rw [← providerDebtOffset_eq hfits]
  rfl

/-- Recording a receipt is `Books.record` on the books of its provider. -/
theorem Records.books {c : Caller MASTERPOOL_ID} {now : ℤ} {ctx : RecordMiningFromReceipt} {n : ℕ}
    {pay : TokenAccount Pubkey} {p : ProviderAccount} {u v : RewardAccount} {t₁ t₂ : Ledger Pubkey}
    {x : ReceiptSettlement} (hw : Wf s) (h : Records c now ctx n s g pay p u v t₁ t₂ x) :
    (recorded now ctx s p u v t₂ x).books ctx.providerAccount =
      (s.books ctx.providerAccount).record (entryOf g ctx n) := by
  have hnet : s.netPosition ctx.providerAccount = p.clawNetPosition :=
    Store.term_some h.provider fun _ p => p.clawNetPosition
  obtain ⟨huser, hprovider⟩ := h.rewards_term (fun r => r.pendingClawTotal) hw fun _ _ => rfl
  have hbooking : x.booking = (entryOf g ctx n).booking (s.netPosition ctx.providerAccount) := by
    rw [hnet]
    exact h.booking
  refine Books.ext ?_ ?_ (funext fun k => ?_) (funext fun k => ?_)
  · simp only [State.books, State.netPosition, recorded, Store.term_set_self, Books.record]
    rw [← State.netPosition, hnet]
    exact congrArg (fun y => p.clawNetPosition + (y.toDebtor : ℤ)) hbooking
  · simp only [State.books, State.pendingClaw, recorded, Store.term_set_self, Books.record]
    rw [hprovider]
    exact congrArg (fun y => _ + y.locked) hbooking
  · simp only [State.books, State.pendingClaw, recorded, Books.record]
    have htoUser : x.clawToUser = clawToUser g n := congrArg Booking.toUser hbooking
    rw [userPending_set_set, entryOf, htoUser, huser]
    by_cases hk : k = ctx.payerUser
    · rw [if_pos hk, if_pos hk.symm, hk]
    · rw [if_neg hk, if_neg fun he => hk he.symm, Nat.add_zero]
  · simp only [State.books, recorded, Books.record, Function.update_apply, Store.get_set]
    rw [apply_ite (Option.map _), Option.map_some, hbooking]
    rfl

/-! ## Recording many receipts -/

structure RecordCall where
  caller : Caller MASTERPOOL_ID
  now : Int64
  ctx : RecordMiningFromReceipt
  totalUsdcPaid : UInt64

def RecordCall.action (r : RecordCall) : Action :=
  .call r.caller r.now (.recordMiningFromReceipt r.ctx r.totalUsdcPaid)

def RecordCall.entry (g : GlobalConfig) (r : RecordCall) : Entry Pubkey Pubkey :=
  entryOf g r.ctx r.totalUsdcPaid.toNat

/-- The receipts `rs` of the provider `w` were recorded between `s` and `s'`. -/
structure RecordedAll (g : GlobalConfig) (w : Pubkey) (rs : List RecordCall) (s s' : State) :
    Prop where
  wf : Wf s'
  config : s'.config = some g
  books : s'.books w = (s.books w).recordAll (rs.map (RecordCall.entry g))
  kept : ∀ k x, s.settlements.get k = some x → s'.settlements.get k = some x
  fresh : ∀ k ∈ (rs.map (RecordCall.entry g)).map Entry.receipt, s.settlements.get k = none
  nodup : ((rs.map (RecordCall.entry g)).map Entry.receipt).Nodup

/-- One receipt, with the settlement `x` that it gets. -/
theorem RecordCall.exec_ok {r : RecordCall} (hw : Wf s) (hg : s.config = some g)
    (h : r.action.exec s = .ok s') : RecordedAll g r.ctx.providerAccount [r] s s' ∧
      ∃ x, s'.settlements = s.settlements.set r.ctx.attestationReceipt x ∧
        x.providerWallet = r.ctx.providerAccount := by
  obtain ⟨g', pay, p, u, v, t₁, t₂, x, hrec, hs'⟩ := recordMiningFromReceipt_ok h
  obtain rfl : g = g' := Option.some.inj (hg.symm.trans hrec.config)
  have hwallet : x.providerWallet = r.ctx.providerAccount := by
    rw [hrec.settlement]
    exact hrec.wallet
  refine ⟨⟨?_, ?_, ?_, fun k y hy => ?_, ?_, List.nodup_singleton _⟩, x, ?_, hwallet⟩
  · rw [← step_of_ok h]
    exact step_wf hw _
  · rw [hs']
    exact hg
  · rw [hs']
    exact hrec.books hw
  · have hne : k ≠ r.ctx.attestationReceipt := fun he =>
      nomatch (he ▸ hy).symm.trans hrec.fresh
    rw [hs', recorded, Store.get_set_of_ne hne, hy]
  · simpa [RecordCall.entry, entryOf] using hrec.fresh
  · rw [hs']
    rfl

theorem execAll_records {rs : List RecordCall} (hw : Wf s) (hg : s.config = some g)
    (hfor : ∀ r ∈ rs, r.ctx.providerAccount = w)
    (h : execAll s (rs.map RecordCall.action) = .ok s') : RecordedAll g w rs s s' := by
  induction rs generalizing s with
  | nil =>
    obtain rfl := execAll_nil.mp h
    exact ⟨hw, hg, rfl, fun _ _ => id, fun _ hk => (nomatch hk), List.nodup_nil⟩
  | cons r rs ih =>
    obtain ⟨t, hr, hrs⟩ := execAll_cons.mp h
    obtain ⟨hone, x, hset, -⟩ := RecordCall.exec_ok hw hg hr
    obtain rfl := hfor r List.mem_cons_self
    have hall := ih hone.wf hone.config (fun q hq => hfor q (List.mem_cons_of_mem _ hq)) hrs
    refine ⟨hall.wf, hall.config, ?_, fun k y hy => hall.kept k y (hone.kept k y hy), ?_, ?_⟩
    · rw [hall.books, hone.books]
      rfl
    · intro k hk
      rcases List.mem_cons.mp hk with rfl | hk
      · exact hone.fresh _ List.mem_cons_self
      · cases hy : s.settlements.get k with
        | none => rfl
        | some y => exact nomatch (hone.kept k y hy).symm.trans (hall.fresh k hk)
    · refine List.nodup_cons.mpr ⟨fun hmem => ?_, hall.nodup⟩
      have hnone := hall.fresh _ hmem
      rw [hset] at hnone
      exact nomatch (Store.get_set_self _ _ _).symm.trans hnone

/-! ## Challenging with success -/

/-- A bond changes nothing in the books. -/
theorem Bonds.books {c : Caller MASTERPOOL_ID} {now : ℤ} {ctx : RecordChallengeBond}
    {x : ReceiptSettlement} {p : ProviderAccount} {t : Ledger Pubkey} {b : ChallengeBondRecord}
    (h : Bonds c now ctx s g x p t b) : (bonded now ctx s x p t b).books w = s.books w := by
  refine Books.ext ?_ rfl rfl rfl
  simp only [State.books, State.netPosition, bonded, Store.term_set]
  split_ifs with hw
  · rw [hw, Store.term_some h.provider]
  · rfl

/-- Accepting a challenge is `Books.revert`. -/
theorem Resolves.books {c : Caller MASTERPOOL_ID} {now : ℤ} {ctx : ResolveChallengeEconomics}
    {x : ReceiptSettlement} {b : ChallengeBondRecord} {p : ProviderAccount} {u v : RewardAccount}
    {t : Ledger Pubkey} (h : Resolves c ctx s g x b p u v) :
    (reverted now ctx s x b p u v t).books x.providerWallet =
      (s.books x.providerWallet).revert x.booking b.slashClawAmountSnapshot := by
  refine Books.ext ?_ ?_ (funext fun k => ?_) (funext fun k => ?_)
  · simp only [State.books, State.netPosition, reverted, Store.term_set_self, Books.revert]
    rw [Store.term_some h.provider]
    rfl
  · simp only [State.books, State.pendingClaw, reverted, Store.term_set_self, Books.revert]
    rw [Store.term_some h.providerReward]
    rfl
  · simp only [State.books, State.pendingClaw, reverted, Books.revert, userPending_set_set]
    by_cases hk : k = x.payerUser
    · rw [if_pos hk, hk, Store.term_some h.userReward]
      exact congrArg _ (if_pos rfl).symm
    · rw [if_neg hk, if_neg fun he => hk he.symm, Nat.sub_zero]
  · simp only [State.books, reverted, Books.revert, Store.get_set]
    split_ifs with hk
    · rw [hk, h.settlement]
      rfl
    · rfl

/-! ## Two runs -/

structure BondCall where
  caller : Caller MASTERPOOL_ID
  now : Int64
  ctx : RecordChallengeBond

def BondCall.action (b : BondCall) : Action := .call b.caller b.now (.recordChallengeBond b.ctx)

structure ResolveCall where
  caller : Caller MASTERPOOL_ID
  now : Int64
  ctx : ResolveChallengeEconomics
  resolutionCode : UInt8

def ResolveCall.action (r : ResolveCall) : Action :=
  .call r.caller r.now (.resolveChallengeEconomics r.ctx r.resolutionCode)

/-- From `s`, the first run records the receipt of `a`, then `others` of the same provider `w`, and
then a challenge of the receipt is bonded and accepted; the second run records the others only. -/
structure TwoRuns (s : State) (w : Pubkey) (a : RecordCall) (others : List RecordCall)
    (bond : BondCall) (accept : ResolveCall) (s₁ s₂ : State) : Prop where
  provider : ∀ r ∈ a :: others, r.ctx.providerAccount = w
  challenged : bond.ctx.attestationReceipt = a.ctx.attestationReceipt
  accepted : accept.ctx.attestationChallenge = bond.ctx.attestationChallenge ∧
    IsAccepting accept.resolutionCode.toNat
  first : execAll s (a.action :: (others.map RecordCall.action ++ [bond.action, accept.action])) =
    .ok s₁
  second : execAll s (others.map RecordCall.action) = .ok s₂

/-- Apart from the slash, nothing of the receipt is left in `s₁`, compared with `s₂`. -/
structure LocalRollback (w receipt challenge : Pubkey) (s₁ s₂ : State) : Prop where
  receipts : ∀ k, k ≠ receipt →
    (s₁.settlements.get k).map (fun x => (x.clawProviderDebtOffset, x.clawToProviderLocked)) =
      (s₂.settlements.get k).map fun x => (x.clawProviderDebtOffset, x.clawToProviderLocked)
  provider : s₁.pendingClaw (.Provider, w) = s₂.pendingClaw (.Provider, w)
  users : ∀ u, s₁.pendingClaw (.User, u) = s₂.pendingClaw (.User, u)
  position : ∃ b, s₁.bonds.get challenge = some b ∧
    s₁.netPosition w = s₂.netPosition w - b.slashClawAmountSnapshot

/-- What `LocalRollback` compares of a receipt is in the books. -/
theorem booked_pair (s : State) (w k : Pubkey) :
    (s.settlements.get k).map (fun x => (x.clawProviderDebtOffset, x.clawToProviderLocked)) =
      ((s.books w).booking k).map fun y => (y.debtOffset, y.locked) := by
  rw [State.books, Option.map_map]
  rfl

/-- The ends of the two runs as books. -/
theorem TwoRuns.books {a : RecordCall} {others : List RecordCall} {bond : BondCall}
    {accept : ResolveCall} {s₁ s₂ : State} (hw : Wf s) (hg : s.config = some g)
    (h : TwoRuns s w a others bond accept s₁ s₂) :
    (((a :: others).map (RecordCall.entry g)).map Entry.receipt).Nodup ∧
      s₂.books w = (s.books w).recordAll (others.map (RecordCall.entry g)) ∧
      ∃ b, s₁.bonds.get bond.ctx.attestationChallenge = some b ∧
        s₁.books w = ((s.books w).recordAll ((a :: others).map (RecordCall.entry g))).revert
          ((a.entry g).booking (s.books w).position) b.slashClawAmountSnapshot := by
  obtain ⟨t₀, ha, hrest⟩ := execAll_cons.mp h.first
  obtain ⟨t₁, hothers, hlast⟩ := execAll_append.mp hrest
  obtain ⟨t₂, hbond, hlast⟩ := execAll_cons.mp hlast
  obtain ⟨t₃, haccept, hlast⟩ := execAll_cons.mp hlast
  obtain rfl := execAll_nil.mp hlast
  have hall : RecordedAll g w (a :: others) s t₁ := by
    refine execAll_records hw hg h.provider ?_
    exact execAll_cons.mpr ⟨t₀, ha, hothers⟩
  obtain ⟨hone, x, hset, hwallet⟩ := RecordCall.exec_ok hw hg ha
  obtain rfl := h.provider a List.mem_cons_self
  have hfor : ∀ r ∈ others, r.ctx.providerAccount = a.ctx.providerAccount := fun r hr =>
    h.provider r (List.mem_cons_of_mem _ hr)
  have hx₀ : t₀.settlements.get a.ctx.attestationReceipt = some x := by
    rw [hset, Store.get_set_self]
  have hx₁ := (execAll_records hone.wf hone.config hfor hothers).kept _ _ hx₀
  -- the settlement is booked as the entry
  have hbooking : x.booking = (a.entry g).booking (s.books a.ctx.providerAccount).position := by
    have hlook := congrArg (fun b => b.booking a.ctx.attestationReceipt) hone.books
    simp only [State.books, hx₀, List.map_cons, List.map_nil, recordAll_cons, recordAll_nil,
      Books.record, RecordCall.entry, entryOf, Function.update_self, Option.map_some,
      Option.some.injEq] at hlook
    exact hlook
  obtain ⟨g', x', p, tokens, b, hb, rfl⟩ := recordChallengeBond_ok hbond
  obtain ⟨hsame, hcode⟩ := h.accepted
  obtain ⟨g'', y, b', q, u, v, _, _, _, t, hres, -, -, rfl⟩ :=
    (resolveChallengeEconomics_accepting hcode).mp haccept
  -- the accepted challenge is the bonded one, and it is about the receipt
  have hb' : b' = b := by
    have hget := hres.bond
    rw [hsame, bonded, Store.get_set_self] at hget
    exact (Option.some.inj hget).symm
  have hreceipt : accept.ctx.attestationReceipt = a.ctx.attestationReceipt := by
    rw [← hres.receipt, ← hres.record.2, hb', hb.record, ← h.challenged]
    rfl
  obtain rfl : y = x := by
    have hget := hres.settlement
    rw [hreceipt] at hget
    exact Option.some.inj (hget.symm.trans hx₁)
  refine ⟨hall.nodup, (execAll_records hw hg hfor h.second).books,
    { b' with status := .Returned, updatedAt := accept.now.toInt }, ?_, ?_⟩
  · rw [reverted, hsame]
    exact Store.get_set_self _ _ _
  · rw [← hwallet, hres.books, hb.books, hwallet, hall.books, hbooking]

/-- **Rollback**: reverting a receipt is exact and local to it exactly if the receipt changed no
debt offset: there was no debt, or the receipt or the others had no reward for the provider, or
the debt is larger than all of them. -/
theorem rollback_exact_iff (as : List Action) {a : RecordCall} {others : List RecordCall}
    {bond : BondCall} {accept : ResolveCall} {s₁ s₂ : State}
    (hg : (reached as).config = some g)
    (h : TwoRuns (reached as) w a others bond accept s₁ s₂) :
    LocalRollback w a.ctx.attestationReceipt bond.ctx.attestationChallenge s₁ s₂ ↔
      Unaffected ((reached as).netPosition w) (clawToProvider g a.totalUsdcPaid.toNat)
        (others.map fun r => clawToProvider g r.totalUsdcPaid.toNat).sum := by
  obtain ⟨hnodup, hbooks₂, b, hb, hbooks₁⟩ := h.books (reached_wf as) hg
  obtain ⟨hfresh, hothers⟩ := List.nodup_cons.mp hnodup
  have hsum : (others.map fun r => clawToProvider g r.totalUsdcPaid.toNat) =
      (others.map (RecordCall.entry g)).map Entry.toDebtor := by
    rw [List.map_map]
    rfl
  have hbeside := beside_record ((reached as).books w) (a.entry g)
  rw [List.map_cons, recordAll_cons] at hbooks₁
  rw [hsum]
  constructor
  · intro hlocal
    refine unaffected_of_offsets _ hbeside.position hothers fun k hk => ?_
    have hne : k ≠ a.ctx.attestationReceipt := fun he =>
      hfresh (show a.ctx.attestationReceipt ∈ _ from he ▸ hk)
    have hmap := congrArg (Option.map Prod.fst) (hlocal.receipts k hne)
    rw [booked_pair s₁ w, booked_pair s₂ w, hbooks₁, hbooks₂, Option.map_map, Option.map_map] at hmap
    exact hmap
  · intro hu
    have hrev := (hbeside.recordAll _ hu).revert b.slashClawAmountSnapshot
    rw [← hbooks₁, ← hbooks₂] at hrev
    refine ⟨fun k hk => ?_, hrev.pending, hrev.userPending, b, hb, hrev.position⟩
    rw [booked_pair s₁ w, booked_pair s₂ w, hrev.booking k hk]

/-! ## Two runs of an indebted provider

The provider of `Enforcement` has lost the first challenge and owes the slash of `1000`. -/

def indebted : List Action := challenged 10000000 ++
  [.call everyone 5 (.resolveChallengeEconomics (resolveContext 20 30) 1)]

def firstCall (amount : UInt64) : RecordCall := ⟨everyone, 6, recordContext 21, amount⟩

def otherCall (amount : UInt64) : RecordCall := ⟨everyone, 7, recordContext 22, amount⟩

def secondBond : BondCall := ⟨everyone, 8, challengeContext 21 31⟩

def secondAccept : ResolveCall := ⟨everyone, 9, resolveContext 21 31, 1⟩

def withFirst (amount : UInt64) : Result State := execAll (reached indebted)
  ((firstCall amount).action :: ([otherCall amount].map RecordCall.action ++
    [secondBond.action, secondAccept.action]))

def withoutFirst (amount : UInt64) : Result State :=
  execAll (reached indebted) ([otherCall amount].map RecordCall.action)

theorem twoRuns_indebted (amount : UInt64) (h₁ : (withFirst amount).toOption.isSome)
    (h₂ : (withoutFirst amount).toOption.isSome) :
    TwoRuns (reached indebted) (wallet 5) (firstCall amount) [otherCall amount] secondBond
      secondAccept ((withFirst amount).toOption.get h₁) ((withoutFirst amount).toOption.get h₂) := by
  refine ⟨fun r hr => ?_, rfl, ⟨rfl, by decide⟩, eq_ok_get h₁, eq_ok_get h₂⟩
  rcases List.mem_pair.mp hr with rfl | rfl <;> rfl

/-- Two receipts with `70` each for the provider do not pay off the debt. -/
theorem rollback_small : LocalRollback (wallet 5) (wallet 21) (wallet 31)
    ((withFirst 100).toOption.get (by decide +kernel))
    ((withoutFirst 100).toOption.get (by decide +kernel)) := by
  refine (rollback_exact_iff indebted (g := (reached indebted).config.get (by decide +kernel))
    (Option.some_get _).symm (twoRuns_indebted 100 _ _)).mpr ?_
  decide +kernel

/-- Two receipts with `700` each do: the second one keeps the smaller offset of `300`. -/
theorem rollback_not_local : ¬ ∀ (as : List Action) (w : Pubkey) (a : RecordCall)
    (others : List RecordCall) (bond : BondCall) (accept : ResolveCall) (s₁ s₂ : State),
    TwoRuns (reached as) w a others bond accept s₁ s₂ →
    LocalRollback w a.ctx.attestationReceipt bond.ctx.attestationChallenge s₁ s₂ := by
  intro h
  have hlocal := h indebted _ _ _ _ _ _ _
    (twoRuns_indebted 1000 (by decide +kernel) (by decide +kernel))
  have hpair := hlocal.receipts (wallet 22) (by decide)
  revert hpair
  decide +kernel

end Masterpool
