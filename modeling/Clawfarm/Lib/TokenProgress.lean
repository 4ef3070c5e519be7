import Clawfarm.Lib.TokenFacts

/-!
# TokenProgress — when a movement of funds succeeds

The custodian's transfers and burns need three things: the funds, and two accounts that are not
frozen.  No movement changes what these conditions are about except the balances (`static`), so a
sequence of movements can be planned from the ledger it starts in.
-/

namespace Token

open Checked

variable {K : Type} {l l' : Ledger K} {a : K} {R : K → Prop}

/-- What no movement changes of an account: its mint, its owner and whether it is frozen. -/
def Ledger.static (l : Ledger K) (k : K) : Option (K × K × Bool) :=
  (l.accounts.get k).map fun x => (x.mint, x.owner, x.frozen)

theorem static_of_get {k : K} {x : TokenAccount K} (h : l.accounts.get k = some x) :
    l.static k = some (x.mint, x.owner, x.frozen) := by
  rw [Ledger.static, h]
  rfl

theorem get_of_static {k m o : K} {f : Bool} (h : l.static k = some (m, o, f)) :
    ∃ x, l.accounts.get k = some x ∧ x.mint = m ∧ x.owner = o ∧ x.frozen = f := by
  obtain ⟨x, hx, he⟩ := Option.map_eq_some_iff.mp h
  obtain ⟨rfl, rfl, rfl⟩ := he
  exact ⟨x, hx, rfl, rfl, rfl⟩

theorem exists_owned {k m o : K} {f : Bool} (h : l.static k = some (m, o, f)) :
    ∃ x, l.accounts.get k = some x ∧ x.owner = o ∧ x.mint = m := by
  obtain ⟨x, hx, hm, ho, -⟩ := get_of_static h
  exact ⟨x, hx, ho, hm⟩

def Ledger.frozen (l : Ledger K) (k : K) : Bool := (l.accounts.get k).any fun x => x.frozen

theorem frozen_of_static {k : K} (h : l'.static k = l.static k) : l'.frozen k = l.frozen k := by
  have heq : ∀ l : Ledger K, l.frozen k = (l.static k).any fun x => x.2.2 := fun l => by
    rw [Ledger.static, Option.any_map]
    rfl
  rw [heq, heq, h]

theorem frozen_of_get {k : K} {x : TokenAccount K} (h : l.accounts.get k = some x) :
    l.frozen k = x.frozen := by
  rw [Ledger.frozen, h]
  rfl

variable [DecidableEq K]

theorem static_set {k : K} {x y : TokenAccount K} (hx : l.accounts.get k = some x)
    (hm : y.mint = x.mint) (ho : y.owner = x.owner) (hf : y.frozen = x.frozen)
    (hacc : l'.accounts = l.accounts.set k y) (k' : K) : l'.static k' = l.static k' := by
  unfold Ledger.static
  rw [hacc, Store.get_set]
  split_ifs with hk
  · rw [hk, hx, Option.map_some, Option.map_some, hm, ho, hf]
  · rfl

theorem transferChecked_static {s m d au : K} {n dec : ℕ}
    (h : transferChecked l s m d au n dec = .ok l') (k : K) : l'.static k = l.static k := by
  obtain ⟨src, dst, g, rfl⟩ := transferChecked_ok.mp h
  by_cases hsd : s = d
  · rw [if_pos hsd]
  · rw [if_neg hsd]
    obtain ⟨hm, ho, hf, -⟩ := debit_static src au n
    have hdst : (l.accounts.set s (src.debit au n)).get d = some dst :=
      (Store.get_set_of_ne (fun e => hsd e.symm) _).trans g.destination
    exact (static_set (l := { l with accounts := l.accounts.set s (src.debit au n) })
      (y := dst.credit n) hdst rfl rfl rfl rfl k).trans (static_set g.source hm ho hf rfl k)

theorem burn_static [SystemAddresses K] {m s au : K} {n : ℕ} (h : burn l m s au n = .ok l')
    (k : K) : l'.static k = l.static k := by
  obtain ⟨src, x, hs, -, -, -, -, -, -, rfl⟩ := burn_ok.mp h
  obtain ⟨hm, ho, hf, -⟩ := burnDebit_static src au n
  exact static_set hs hm ho hf rfl k

/-! ## Success -/

/-- The custodian moves what it has, between accounts that are not frozen. -/
theorem transferChecked_succeeds_iff {s m d o : K} {n dec : ℕ} {f f' : Bool} {x : Mint K}
    (hb : Balanced l) (hc : Custody a R l) (hs : l.static s = some (m, a, f))
    (hd : l.static d = some (m, o, f')) (hm : l.mints.get m = some x) (hdec : dec = x.decimals) :
    (∃ l', transferChecked l s m d a n dec = .ok l') ↔
      f = false ∧ f' = false ∧ n ≤ l.amount s := by
  obtain ⟨src, hsrc, hsm, hso, rfl⟩ := get_of_static hs
  obtain ⟨dst, hdst, hdm, -, rfl⟩ := get_of_static hd
  rw [amount_of_get hsrc]
  simp only [transferChecked_ok]
  constructor
  · rintro ⟨l', src', dst', g, -⟩
    obtain rfl := Option.some.inj (hsrc.symm.trans g.source)
    obtain rfl := Option.some.inj (hdst.symm.trans g.destination)
    exact ⟨g.thawed.1, g.thawed.2, g.funds⟩
  · rintro ⟨hf, hf', hn⟩
    exact ⟨_, src, dst, ⟨hsrc, hdst, ⟨hf, hf'⟩, hn, hsm, hdm, ⟨x, hm, hdec⟩,
      authorize_of_owner (hc.noDelegate s src hsrc hso) hso,
      fun hne => hb.fits_transfer hsrc hdst (hsm.trans hdm.symm) hne hn⟩, rfl⟩

theorem burn_succeeds_iff [SystemAddresses K] {s m : K} {n : ℕ} {f : Bool} {x : Mint K}
    (hb : Balanced l) (hc : Custody a R l) (hs : l.static s = some (m, a, f))
    (hm : l.mints.get m = some x) : (∃ l', burn l m s a n = .ok l') ↔
      f = false ∧ n ≤ l.amount s := by
  obtain ⟨src, hsrc, hsm, hso, rfl⟩ := get_of_static hs
  rw [amount_of_get hsrc]
  simp only [burn_ok]
  constructor
  · rintro ⟨l', src', x', hsrc', -, hf, hn, -⟩
    obtain rfl := Option.some.inj (hsrc.symm.trans hsrc')
    exact ⟨hf, hn⟩
  · rintro ⟨hf, hn⟩
    have hle := Store.le_sum hsrc (holding m)
    rw [hb.conserved, supply_of_get hm] at hle
    simp only [holding, hsm, if_true] at hle
    exact ⟨_, src, x, hsrc, hm, hf, hn, hsm,
      authorizeBurn_of_owner (hc.noDelegate s src hsrc hso) hso, hn.trans hle, rfl⟩

/-- A transfer needs two accounts that are not frozen, the funds, and the authority. -/
theorem transferChecked_iff {s m d au : K} {n dec : ℕ} {x y : TokenAccount K} {z : Mint K}
    (hb : Balanced l) (hx : l.accounts.get s = some x) (hxm : x.mint = m)
    (hy : l.accounts.get d = some y) (hym : y.mint = m) (hz : l.mints.get m = some z)
    (hdec : dec = z.decimals) : (∃ l', transferChecked l s m d au n dec = .ok l') ↔
      x.frozen = false ∧ y.frozen = false ∧ n ≤ x.amount ∧ x.authorize au n = .ok () := by
  simp only [transferChecked_ok]
  constructor
  · rintro ⟨l', x', y', g, -⟩
    obtain rfl := Option.some.inj (hx.symm.trans g.source)
    obtain rfl := Option.some.inj (hy.symm.trans g.destination)
    exact ⟨g.thawed.1, g.thawed.2, g.funds, g.authority⟩
  · rintro ⟨hf, hf', hn, hau⟩
    exact ⟨_, x, y, ⟨hx, hy, ⟨hf, hf'⟩, hn, hxm, hym, ⟨z, hz, hdec⟩, hau,
      fun hne => hb.fits_transfer hx hy (hxm.trans hym.symm) hne hn⟩, rfl⟩

/-! ## Transfers by a delegate -/

/-- What may still be taken from `k` by its delegate, `0` where there is no token account. -/
def Ledger.allowance (l : Ledger K) (k : K) : ℕ :=
  l.accounts.term (fun _ x => x.delegatedAmount) k

/-- The account `x` at `s`, not frozen, whose delegate `au` is not its owner. -/
structure DelegatedTo (au : K) (l : Ledger K) (s m : K) (x : TokenAccount K) : Prop where
  account : l.accounts.get s = some x
  mint : x.mint = m
  thawed : x.frozen = false
  delegate : x.delegate = some au
  notOwner : x.owner ≠ au

theorem authorize_iff {x : TokenAccount K} {au : K} {n : ℕ} (ho : x.owner ≠ au) :
    x.authorize au n = .ok () ↔ x.delegate = some au ∧ n ≤ x.delegatedAmount := by
  unfold TokenAccount.authorize
  split_ifs with hd
  · rw [require_eq_ok]
    exact ⟨fun h => ⟨hd, h⟩, fun h => h.2⟩
  · rw [require_eq_ok]
    exact ⟨fun h => absurd h ho, fun h => absurd h.1 hd⟩

/-- A transfer of what is there, between accounts that are not frozen, depends only on its
authority. -/
theorem transferChecked_authorized_iff {s m d o au : K} {n dec : ℕ} {x : TokenAccount K}
    {z : Mint K} (hb : Balanced l) (hx : l.accounts.get s = some x) (hm : x.mint = m)
    (hf : x.frozen = false) (hn : n ≤ x.amount) (hd : l.static d = some (m, o, false))
    (hz : l.mints.get m = some z) (hdec : dec = z.decimals) :
    (∃ l', transferChecked l s m d au n dec = .ok l') ↔ x.authorize au n = .ok () := by
  obtain ⟨y, hy, hym, -, hyf⟩ := get_of_static hd
  simp only [transferChecked_ok]
  constructor
  · rintro ⟨l', x', y', g, -⟩
    obtain rfl := Option.some.inj (hx.symm.trans g.source)
    exact g.authority
  · intro hau
    exact ⟨_, x, y, ⟨hx, hy, ⟨hf, hyf⟩, hn, hm, hym, ⟨z, hz, hdec⟩, hau,
      fun hne => hb.fits_transfer hx hy (hm.trans hym.symm) hne hn⟩, rfl⟩

theorem transferChecked_source {s m d au : K} {n dec : ℕ} {x : TokenAccount K}
    (h : transferChecked l s m d au n dec = .ok l') (hsd : s ≠ d)
    (hx : l.accounts.get s = some x) : l'.accounts.get s = some (x.debit au n) := by
  obtain ⟨x', y, g, rfl⟩ := transferChecked_ok.mp h
  obtain rfl := Option.some.inj (hx.symm.trans g.source)
  rw [if_neg hsd, Store.get_set_of_ne hsd, Store.get_set_self]

theorem debit_delegate {x : TokenAccount K} {au : K} {n : ℕ} (hd : x.delegate = some au) :
    (x.debit au n).delegatedAmount = x.delegatedAmount - n ∧
      ((x.debit au n).delegate = some au ↔ n < x.delegatedAmount) := by
  unfold TokenAccount.debit
  rw [if_pos hd]
  refine ⟨rfl, ?_⟩
  simp only
  split_ifs with h0
  · constructor
    · intro h
      cases h
    · intro h
      omega
  · exact ⟨fun _ => by omega, fun _ => hd⟩

/-- **Two transfers** within an allowance both succeed unless the first uses it up: it clears the
delegate, and then not even a transfer of nothing is authorised. -/
theorem transferChecked_twice_iff {s m d₁ d₂ o₁ o₂ au : K} {n₁ n₂ dec : ℕ} {x : TokenAccount K}
    {z : Mint K} (hb : Balanced l) (hx : DelegatedTo au l s m x)
    (hallow : n₁ + n₂ ≤ x.delegatedAmount) (hfunds : n₁ + n₂ ≤ x.amount) (hne : s ≠ d₁)
    (hd₁ : l.static d₁ = some (m, o₁, false)) (hd₂ : l.static d₂ = some (m, o₂, false))
    (hz : l.mints.get m = some z) (hdec : dec = z.decimals) :
    (∃ l₁ l₂, transferChecked l s m d₁ au n₁ dec = .ok l₁ ∧
      transferChecked l₁ s m d₂ au n₂ dec = .ok l₂) ↔ n₁ < x.delegatedAmount := by
  obtain ⟨hm, ho, hf, -, hamount, -⟩ := debit_static x au n₁
  obtain ⟨hleft, hcleared⟩ := debit_delegate (n := n₁) hx.delegate
  have hfirst := (transferChecked_authorized_iff hb hx.account hx.mint hx.thawed
    (Nat.le_trans (Nat.le_add_right _ _) hfunds) hd₁ hz hdec).mpr
      ((authorize_iff hx.notOwner).mpr ⟨hx.delegate, Nat.le_trans (Nat.le_add_right _ _) hallow⟩)
  have hsecond : ∀ l₁, transferChecked l s m d₁ au n₁ dec = .ok l₁ →
      ((∃ l₂, transferChecked l₁ s m d₂ au n₂ dec = .ok l₂) ↔ n₁ < x.delegatedAmount) := by
    intro l₁ h₁
    rw [transferChecked_authorized_iff (hb.transfer h₁) (transferChecked_source h₁ hne hx.account)
      (hm.trans hx.mint) (hf.trans hx.thawed) (by omega) ((transferChecked_static h₁ d₂).trans hd₂)
      ((congrArg (Store.get · m) (transferChecked_mints h₁)).trans hz) hdec,
      authorize_iff (ho.symm ▸ hx.notOwner), hcleared, hleft]
    exact ⟨fun h => h.1, fun h => ⟨h, by omega⟩⟩
  constructor
  · rintro ⟨l₁, l₂, h₁, h₂⟩
    exact (hsecond l₁ h₁).mp ⟨l₂, h₂⟩
  · intro hlt
    obtain ⟨l₁, h₁⟩ := hfirst
    obtain ⟨l₂, h₂⟩ := (hsecond l₁ h₁).mpr hlt
    exact ⟨l₁, l₂, h₁, h₂⟩

/-- **Two transfers** by a delegate out of a sufficient allowance: both succeed if no account is
frozen, the funds are there, and the first leaves something of the allowance, which does not matter
to an owner who is its own delegate. -/
theorem transferChecked_both_iff {s m d₁ d₂ au : K} {n₁ n₂ dec : ℕ} {x y₁ y₂ : TokenAccount K}
    {z : Mint K} (hb : Balanced l) (hx : l.accounts.get s = some x) (hxm : x.mint = m)
    (hd : x.delegate = some au) (hallow : n₁ + n₂ ≤ x.delegatedAmount) (hne : s ≠ d₁)
    (hy₁ : l.accounts.get d₁ = some y₁) (hm₁ : y₁.mint = m) (hy₂ : l.accounts.get d₂ = some y₂)
    (hm₂ : y₂.mint = m) (hz : l.mints.get m = some z) (hdec : dec = z.decimals) :
    (∃ l₁ l₂, transferChecked l s m d₁ au n₁ dec = .ok l₁ ∧
      transferChecked l₁ s m d₂ au n₂ dec = .ok l₂) ↔
      x.frozen = false ∧ y₁.frozen = false ∧ y₂.frozen = false ∧ n₁ + n₂ ≤ x.amount ∧
        (n₁ < x.delegatedAmount ∨ x.owner = au) := by
  obtain ⟨hm, ho, hf, -, hamount, -⟩ := debit_static x au n₁
  obtain ⟨hleft, hkept⟩ := debit_delegate (n := n₁) hd
  have hfirst : (∃ l₁, transferChecked l s m d₁ au n₁ dec = .ok l₁) ↔ _ :=
    transferChecked_iff hb hx hxm hy₁ hm₁ hz hdec
  have hau₁ : x.authorize au n₁ = .ok () := by
    rw [TokenAccount.authorize, if_pos hd, require_eq_ok]
    omega
  have hau₂ : (x.debit au n₁).authorize au n₂ = .ok () ↔ n₁ < x.delegatedAmount ∨ x.owner = au := by
    rw [TokenAccount.authorize]
    split_ifs with hdel
    · rw [require_eq_ok, hleft]
      exact ⟨fun _ => Or.inl (hkept.mp hdel), fun _ => by omega⟩
    · rw [require_eq_ok, ho]
      exact ⟨Or.inr, fun h => h.resolve_left fun hlt => hdel (hkept.mpr hlt)⟩
  have hsecond : ∀ l₁, transferChecked l s m d₁ au n₁ dec = .ok l₁ →
      ((∃ l₂, transferChecked l₁ s m d₂ au n₂ dec = .ok l₂) ↔ x.frozen = false ∧
        y₂.frozen = false ∧ n₂ ≤ x.amount - n₁ ∧ (n₁ < x.delegatedAmount ∨ x.owner = au)) := by
    intro l₁ h₁
    obtain ⟨w, hw, hwm, -, hwf⟩ := get_of_static ((transferChecked_static h₁ d₂).trans
      (static_of_get hy₂))
    rw [transferChecked_iff (hb.transfer h₁) (transferChecked_source h₁ hne hx) (hm.trans hxm) hw
      (hwm.trans hm₂) ((congrArg (Store.get · m) (transferChecked_mints h₁)).trans hz) hdec,
      hf, hwf, hamount, hau₂]
  constructor
  · rintro ⟨l₁, l₂, h₁, h₂⟩
    obtain ⟨hfx, hf₁, hn₁, -⟩ := hfirst.mp ⟨l₁, h₁⟩
    obtain ⟨-, hf₂, hn₂, hor⟩ := (hsecond l₁ h₁).mp ⟨l₂, h₂⟩
    exact ⟨hfx, hf₁, hf₂, by omega, hor⟩
  · rintro ⟨hfx, hf₁, hf₂, hn, hor⟩
    obtain ⟨l₁, h₁⟩ := hfirst.mpr ⟨hfx, hf₁, by omega, hau₁⟩
    obtain ⟨l₂, h₂⟩ := (hsecond l₁ h₁).mpr ⟨hfx, hf₂, by omega, hor⟩
    exact ⟨l₁, l₂, h₁, h₂⟩

/-- Whoever is not the owner pays with its allowance. -/
theorem transferChecked_allowance {s m d au : K} {n dec : ℕ} {x : TokenAccount K}
    (h : transferChecked l s m d au n dec = .ok l') (hne : s ≠ d)
    (hx : l.accounts.get s = some x) (ho : x.owner ≠ au) :
    l'.allowance s + n = l.allowance s := by
  have hsource := transferChecked_source h hne hx
  obtain ⟨x', y, g, -⟩ := transferChecked_ok.mp h
  obtain rfl := Option.some.inj (hx.symm.trans g.source)
  obtain ⟨hd, hle⟩ := (authorize_iff ho).mp g.authority
  rw [Ledger.allowance, Ledger.allowance, Store.term_some hsource, Store.term_some hx,
    (debit_delegate hd).1, Nat.sub_add_cancel hle]

/-- What two transfers move, out of an account and into two others. -/
theorem transferChecked_twice_moves {l₁ l₂ : Ledger K} {s m d₁ d₂ au : K} {n₁ n₂ dec : ℕ}
    {x : TokenAccount K} (hx : DelegatedTo au l s m x) (hne₁ : s ≠ d₁) (hne₂ : s ≠ d₂)
    (hne : d₁ ≠ d₂) (h₁ : transferChecked l s m d₁ au n₁ dec = .ok l₁)
    (h₂ : transferChecked l₁ s m d₂ au n₂ dec = .ok l₂) :
    l₂.amount s + (n₁ + n₂) = l.amount s ∧ l₂.allowance s + (n₁ + n₂) = l.allowance s ∧
      l₂.amount d₁ + l₂.amount d₂ = l.amount d₁ + l.amount d₂ + (n₁ + n₂) := by
  have hsource := transferChecked_source h₁ hne₁ hx.account
  have howner : (x.debit au n₁).owner ≠ au := (debit_static x au n₁).2.1.symm ▸ hx.notOwner
  have hallow₁ := transferChecked_allowance h₁ hne₁ hx.account hx.notOwner
  have hallow₂ := transferChecked_allowance h₂ hne₂ hsource howner
  have hs₁ := transferChecked_amount h₁ s
  have hs₂ := transferChecked_amount h₂ s
  have hd₁₁ := transferChecked_amount h₁ d₁
  have hd₁₂ := transferChecked_amount h₂ d₁
  have hd₂₁ := transferChecked_amount h₁ d₂
  have hd₂₂ := transferChecked_amount h₂ d₂
  rw [if_pos rfl, if_neg hne₁] at hs₁
  rw [if_pos rfl, if_neg hne₂] at hs₂
  rw [if_neg hne₁.symm, if_pos rfl] at hd₁₁
  rw [if_neg hne₁.symm, if_neg hne] at hd₁₂
  rw [if_neg hne₂.symm, if_neg hne.symm] at hd₂₁
  rw [if_neg hne₂.symm, if_pos rfl] at hd₂₂
  omega

end Token
