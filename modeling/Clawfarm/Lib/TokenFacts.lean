import Clawfarm.Lib.Token

/-!
# TokenFacts — what token operations do to balances, supplies and custody

Each operation gets one inversion lemma (`transferChecked_ok`, `burn_ok`, ...), from which its
effect on balances and supplies is read off in the form "new + out = old + in".

Custody is the part a vault program relies on.  `a` is an authority that signs only inside that
program and `R` are the addresses at which only that program creates accounts.  `Custody a R` says
that accounts of `a` have no delegate, and that accounts at `R` belong to `a` and have no other
close authority; instructions signed by anybody else keep it (`exec_safe`), never take anything
from an account of `a` (`exec_amount_le`), and leave all mints in place and the accounts of `a`
that nobody else can close (`Safe.keeps`).
-/

namespace Token

open Checked

variable {K : Type} {l l' : Ledger K}

/-! ## Balances -/

theorem amount_of_get {k : K} {x : TokenAccount K} (h : l.accounts.get k = some x) :
    l.amount k = x.amount := Store.term_some h _

theorem amount_of_none {k : K} (h : l.accounts.get k = none) : l.amount k = 0 :=
  Store.term_none h _

theorem supply_of_get {m : K} {x : Mint K} (h : l.mints.get m = some x) :
    l.supply m = x.supply := Store.term_some h _

theorem supply_congr (h : l'.mints = l.mints) (m : K) : l'.supply m = l.supply m := by
  simp only [Ledger.supply, h]

@[simp] theorem account_eq_ok {k : K} {x : TokenAccount K} :
    l.account k = .ok x ↔ l.accounts.get k = some x := by
  simp [Ledger.account]

@[simp] theorem mint_eq_ok {m : K} {x : Mint K} : l.mint m = .ok x ↔ l.mints.get m = some x := by
  simp [Ledger.mint]

variable [DecidableEq K]

theorem amount_set {k : K} {x : TokenAccount K} (h : l'.accounts = l.accounts.set k x) (k' : K) :
    l'.amount k' = if k' = k then x.amount else l.amount k' := by
  simp only [Ledger.amount, h]
  split_ifs with hk
  · rw [hk, Store.term_some (Store.get_set_self _ _ _)]
  · exact Store.term_set_of_ne hk _ _

theorem supply_set {m : K} {x : Mint K} (h : l'.mints = l.mints.set m x) (m' : K) :
    l'.supply m' = if m' = m then x.supply else l.supply m' := by
  simp only [Ledger.supply, h]
  split_ifs with hm
  · rw [hm, Store.term_some (Store.get_set_self _ _ _)]
  · exact Store.term_set_of_ne hm _ _

/-- What a debit leaves alone. -/
theorem debit_static (x : TokenAccount K) (authority : K) (n : ℕ) :
    (x.debit authority n).mint = x.mint ∧ (x.debit authority n).owner = x.owner ∧
      (x.debit authority n).frozen = x.frozen ∧
      (x.debit authority n).closeAuthority = x.closeAuthority ∧
      (x.debit authority n).amount = x.amount - n ∧
      (x.delegate = none → (x.debit authority n).delegate = none) := by
  unfold TokenAccount.debit
  split_ifs with h h'
  · exact ⟨rfl, rfl, rfl, rfl, rfl, fun _ => rfl⟩
  · exact ⟨rfl, rfl, rfl, rfl, rfl, fun h0 => h0⟩
  · exact ⟨rfl, rfl, rfl, rfl, rfl, fun h0 => h0⟩

theorem burnDebit_static [SystemAddresses K] (x : TokenAccount K) (authority : K) (n : ℕ) :
    (x.burnDebit authority n).mint = x.mint ∧ (x.burnDebit authority n).owner = x.owner ∧
      (x.burnDebit authority n).frozen = x.frozen ∧
      (x.burnDebit authority n).closeAuthority = x.closeAuthority ∧
      (x.burnDebit authority n).amount = x.amount - n ∧
      (x.delegate = none → (x.burnDebit authority n).delegate = none) := by
  unfold TokenAccount.burnDebit
  split_ifs
  · exact ⟨rfl, rfl, rfl, rfl, rfl, id⟩
  · exact debit_static x authority n

theorem authorize_of_owner {x : TokenAccount K} {authority : K} {n : ℕ}
    (hd : x.delegate = none) (ho : x.owner = authority) : x.authorize authority n = .ok () := by
  simp [TokenAccount.authorize, hd, ho, require]

theorem authorizeBurn_of_owner [SystemAddresses K] {x : TokenAccount K} {authority : K} {n : ℕ}
    (hd : x.delegate = none) (ho : x.owner = authority) : x.authorizeBurn authority n = .ok () := by
  unfold TokenAccount.authorizeBurn
  split_ifs
  · rfl
  · exact authorize_of_owner hd ho

theorem authorizeBurn_of_somebody [SystemAddresses K] {x : TokenAccount K}
    (h : ¬ Nobody x.owner) (authority : K) (n : ℕ) :
    x.authorizeBurn authority n = x.authorize authority n := if_neg h

theorem burnDebit_of_somebody [SystemAddresses K] {x : TokenAccount K} (h : ¬ Nobody x.owner)
    (authority : K) (n : ℕ) : x.burnDebit authority n = x.debit authority n := if_neg h

theorem authorize_eq_ok {x : TokenAccount K} {authority : K} {n : ℕ} {u : Unit}
    (h : x.authorize authority n = .ok u) :
    x.delegate = some authority ∨ x.owner = authority := by
  unfold TokenAccount.authorize at h
  split_ifs at h with hd
  · exact Or.inl hd
  · exact Or.inr (require_eq_ok.mp h)

/-! ## Inversion of the operations -/

/-- The guards of a transfer from `src` to `dst`. -/
structure TransferGuards (l : Ledger K) (s m d au : K) (n dec : ℕ) (src dst : TokenAccount K) :
    Prop where
  source : l.accounts.get s = some src
  destination : l.accounts.get d = some dst
  thawed : src.frozen = false ∧ dst.frozen = false
  funds : n ≤ src.amount
  mint : src.mint = m
  sameMint : dst.mint = m
  decimals : ∃ x, l.mints.get m = some x ∧ dec = x.decimals
  authority : src.authorize au n = .ok ()
  fits : s ≠ d → dst.amount + n < u64Bound

theorem transferChecked_ok {s m d au : K} {n dec : ℕ} :
    transferChecked l s m d au n dec = .ok l' ↔ ∃ src dst,
      TransferGuards l s m d au n dec src dst ∧
      l' = if s = d then l else { l with accounts :=
        (l.accounts.set s (src.debit au n)).set d (dst.credit n) } := by
  simp only [transferChecked, bind_eq_ok, account_eq_ok, mint_eq_ok, require_eq_ok, exists_unit]
  constructor
  · rintro ⟨src, hs, dst, hd, hf, hn, hm1, hm2, x, hx, hdec, hau, h⟩
    split_ifs at h with hsd
    · rw [pure_eq_ok] at h
      exact ⟨src, dst, ⟨hs, hd, hf, hn, hm2, hm1.symm.trans hm2, ⟨x, hx, hdec⟩, hau,
        fun hne => absurd hsd hne⟩, by rw [if_pos hsd, h]⟩
    · simp only [bind_eq_ok, require_eq_ok, pure_eq_ok, exists_unit] at h
      obtain ⟨hfit, h⟩ := h
      exact ⟨src, dst, ⟨hs, hd, hf, hn, hm2, hm1.symm.trans hm2, ⟨x, hx, hdec⟩, hau,
        fun _ => hfit⟩, by rw [if_neg hsd, h]⟩
  · rintro ⟨src, dst, g, rfl⟩
    obtain ⟨x, hx, hdec⟩ := g.decimals
    refine ⟨src, g.source, dst, g.destination, g.thawed, g.funds,
      g.mint.trans g.sameMint.symm, g.mint, x, hx, hdec, g.authority, ?_⟩
    split_ifs with hsd
    · rfl
    · rw [require_true (g.fits hsd), ok_bind]
      rfl

theorem burn_ok [SystemAddresses K] {m s au : K} {n : ℕ} :
    burn l m s au n = .ok l' ↔ ∃ src x, l.accounts.get s = some src ∧ l.mints.get m = some x ∧
      src.frozen = false ∧ n ≤ src.amount ∧ src.mint = m ∧ src.authorizeBurn au n = .ok () ∧
      n ≤ x.supply ∧ l' = {
        accounts := l.accounts.set s (src.burnDebit au n)
        mints := l.mints.set m { x with supply := x.supply - n } } := by
  simp only [burn, bind_eq_ok, account_eq_ok, mint_eq_ok, require_eq_ok, pure_eq_ok, exists_unit]
  constructor
  · rintro ⟨src, hs, x, hx, hf, hn, hm, hau, hsup, rfl⟩
    exact ⟨src, x, hs, hx, hf, hn, hm, hau, hsup, rfl⟩
  · rintro ⟨src, x, hs, hx, hf, hn, hm, hau, hsup, rfl⟩
    exact ⟨src, hs, x, hx, hf, hn, hm, hau, hsup, rfl⟩

theorem mintTo_ok {m d au : K} {n : ℕ} (h : mintTo l m d au n = .ok l') :
    ∃ dst x, l.accounts.get d = some dst ∧ l.mints.get m = some x ∧ dst.mint = m ∧
      x.mintAuthority = some au ∧ dst.amount + n < u64Bound ∧ x.supply + n < u64Bound ∧
      l' = { accounts := l.accounts.set d (dst.credit n)
             mints := l.mints.set m { x with supply := x.supply + n } } := by
  simp only [mintTo, bind_eq_ok, account_eq_ok, mint_eq_ok, require_eq_ok, pure_eq_ok,
    exists_unit] at h
  obtain ⟨dst, hd, -, hm, x, hx, -, hau, ⟨h1, h2⟩, rfl⟩ := h
  exact ⟨dst, x, hd, hx, hm, hau, h1, h2, rfl⟩

theorem initializeAccount_ok {k m o : K} (h : initializeAccount l k m o = .ok l') :
    l.mints.get k = none ∧ l.accounts.get k = none ∧ (∃ x, l.mints.get m = some x) ∧
      l' = { l with accounts := l.accounts.set k ⟨m, o, 0, none, 0, false, none⟩ } := by
  simp only [initializeAccount, bind_eq_ok, mint_eq_ok, require_eq_ok, pure_eq_ok, exists_unit] at h
  obtain ⟨⟨h1, h2⟩, x, hx, rfl⟩ := h
  exact ⟨h1, h2, ⟨x, hx⟩, rfl⟩

theorem setCloseAuthority_ok {k au : K} {o : Option K} (h : setCloseAuthority l k au o = .ok l') :
    ∃ x, l.accounts.get k = some x ∧ x.closer = au ∧
      l' = { l with accounts := l.accounts.set k { x with closeAuthority := o } } := by
  simp only [setCloseAuthority, bind_eq_ok, account_eq_ok, require_eq_ok, pure_eq_ok,
    exists_unit] at h
  obtain ⟨x, hx, -, hau, rfl⟩ := h
  exact ⟨x, hx, hau, rfl⟩

theorem closeAccount_ok [SystemAddresses K] {k d au : K} (h : closeAccount l k d au = .ok l') :
    ∃ x, l.accounts.get k = some x ∧ x.amount = 0 ∧ (¬ Nobody x.owner → x.closer = au) ∧
      l' = { l with accounts := l.accounts.erase k } := by
  simp only [closeAccount, bind_eq_ok, account_eq_ok, require_eq_ok, exists_unit] at h
  obtain ⟨-, x, hx, hzero, h⟩ := h
  split_ifs at h with hno
  · simp only [bind_eq_ok, require_eq_ok, pure_eq_ok, exists_unit] at h
    exact ⟨x, hx, hzero, fun hsome => absurd hno hsome, h.2.symm⟩
  · simp only [bind_eq_ok, require_eq_ok, pure_eq_ok, exists_unit] at h
    exact ⟨x, hx, hzero, fun _ => h.1, h.2.symm⟩

theorem setMintAuthority_ok {m au : K} {o : Option K} (h : setMintAuthority l m au o = .ok l') :
    ∃ x, l.mints.get m = some x ∧ x.mintAuthority = some au ∧
      l' = { l with mints := l.mints.set m { x with mintAuthority := o } } := by
  simp only [setMintAuthority, bind_eq_ok, mint_eq_ok, require_eq_ok, pure_eq_ok, exists_unit] at h
  obtain ⟨x, hx, -, hau, rfl⟩ := h
  exact ⟨x, hx, hau, rfl⟩

theorem setFreezeAuthority_ok {m au : K} {o : Option K}
    (h : setFreezeAuthority l m au o = .ok l') :
    ∃ x, l.mints.get m = some x ∧
      l' = { l with mints := l.mints.set m { x with freezeAuthority := o } } := by
  simp only [setFreezeAuthority, bind_eq_ok, mint_eq_ok, require_eq_ok, pure_eq_ok,
    exists_unit] at h
  obtain ⟨x, hx, -, -, rfl⟩ := h
  exact ⟨x, hx, rfl⟩

/-! ## Effects on balances and supplies -/

/-- **Transfer**: `n` leaves the source and arrives at the destination (nothing moves when they
are the same account). -/
theorem transferChecked_amount {s m d au : K} {n dec : ℕ}
    (h : transferChecked l s m d au n dec = .ok l') (k : K) :
    l'.amount k + (if k = s then n else 0) = l.amount k + (if k = d then n else 0) := by
  obtain ⟨src, dst, g, rfl⟩ := transferChecked_ok.mp h
  by_cases hsd : s = d
  · rw [if_pos hsd, hsd]
  rw [if_neg hsd, amount_set (l := { l with accounts := l.accounts.set s (src.debit au n) }) rfl k,
    amount_set (l := l) (x := src.debit au n) rfl k, (debit_static src au n).2.2.2.2.1]
  have hs := amount_of_get g.source
  have hd := amount_of_get g.destination
  have hn := g.funds
  by_cases hkd : k = d
  · have hks : k ≠ s := fun e => hsd (e.symm.trans hkd)
    rw [if_pos hkd, if_pos hkd, if_neg hks, hkd, hd]
    rfl
  · rw [if_neg hkd, if_neg hkd]
    split_ifs with hks
    · rw [hks, hs]
      omega
    · rfl

theorem transferChecked_le {s m d au : K} {n dec : ℕ}
    (h : transferChecked l s m d au n dec = .ok l') : n ≤ l.amount s := by
  obtain ⟨src, dst, g, -⟩ := transferChecked_ok.mp h
  rw [amount_of_get g.source]
  exact g.funds

theorem transferChecked_mints {s m d au : K} {n dec : ℕ}
    (h : transferChecked l s m d au n dec = .ok l') : l'.mints = l.mints := by
  obtain ⟨src, dst, g, rfl⟩ := transferChecked_ok.mp h
  split_ifs <;> rfl

theorem burn_amount [SystemAddresses K] {m s au : K} {n : ℕ} (h : burn l m s au n = .ok l')
    (k : K) : l'.amount k + (if k = s then n else 0) = l.amount k := by
  obtain ⟨src, x, hs, hx, -, hn, -, -, -, rfl⟩ := burn_ok.mp h
  rw [amount_set (l := l) (x := src.burnDebit au n) rfl k, (burnDebit_static src au n).2.2.2.2.1]
  split_ifs with hk
  · rw [hk, amount_of_get hs]
    omega
  · rfl

theorem burn_supply [SystemAddresses K] {m s au : K} {n : ℕ} (h : burn l m s au n = .ok l')
    (m' : K) : l'.supply m' + (if m' = m then n else 0) = l.supply m' := by
  obtain ⟨src, x, hs, hx, -, -, -, -, hn, rfl⟩ := burn_ok.mp h
  rw [supply_set (l := l) rfl m']
  split_ifs with hk
  · rw [hk, supply_of_get hx]
    exact Nat.sub_add_cancel hn
  · rfl

theorem burn_le [SystemAddresses K] {m s au : K} {n : ℕ} (h : burn l m s au n = .ok l') :
    n ≤ l.amount s := by
  obtain ⟨src, x, hs, -, -, hn, -⟩ := burn_ok.mp h
  rw [amount_of_get hs]
  exact hn

theorem mintTo_amount {m d au : K} {n : ℕ} (h : mintTo l m d au n = .ok l') (k : K) :
    l'.amount k = l.amount k + (if k = d then n else 0) := by
  obtain ⟨dst, x, hd, -, -, -, -, -, rfl⟩ := mintTo_ok h
  rw [amount_set (l := l) (x := dst.credit n) rfl k]
  split_ifs with hk
  · rw [hk, amount_of_get hd]
    rfl
  · rfl

theorem mintTo_supply {m d au : K} {n : ℕ} (h : mintTo l m d au n = .ok l') (m' : K) :
    l'.supply m' = l.supply m' + (if m' = m then n else 0) := by
  obtain ⟨dst, x, -, hx, -, -, -, -, rfl⟩ := mintTo_ok h
  rw [supply_set (l := l) rfl m']
  split_ifs with hk
  · rw [hk, supply_of_get hx]
  · rfl

/-! ## Conservation of supply -/

/-- What the account `x` holds of the mint `m`. -/
def holding (m : K) (_ : K) (x : TokenAccount K) : ℕ := if x.mint = m then x.amount else 0

/-- All balances of a mint add up to its supply, which is a `u64`. -/
structure Balanced (l : Ledger K) : Prop where
  conserved : ∀ m, l.accounts.sum (holding m) = l.supply m
  fits : ∀ m, l.supply m < u64Bound

theorem balanced_empty : Balanced (Ledger.empty : Ledger K) :=
  ⟨fun _ => rfl, fun _ => show 0 < u64Bound by decide⟩

/-- Changing one account's balance and the supply of its mint alike keeps the balance. -/
theorem Balanced.of_set (h : Balanced l) {k : K} {x y : TokenAccount K}
    (hx : l.accounts.get k = some x) (hmint : y.mint = x.mint)
    (hacc : l'.accounts = l.accounts.set k y)
    (hsup : ∀ m, l'.supply m + (if m = x.mint then x.amount else 0) =
      l.supply m + (if m = x.mint then y.amount else 0))
    (hfit : ∀ m, l'.supply m < u64Bound) : Balanced l' := by
  refine ⟨fun m => ?_, hfit⟩
  have hsum := Store.sum_set l.accounts k y (holding m)
  rw [Store.term_some hx, h.conserved m, ← hacc] at hsum
  have hs := hsup m
  simp only [holding, hmint, eq_comm (b := m)] at hsum
  omega

theorem Balanced.congr (h : Balanced l) (hacc : l'.accounts = l.accounts)
    (hsup : ∀ m, l'.supply m = l.supply m) : Balanced l' :=
  ⟨fun m => by rw [hacc, hsup, h.conserved], fun m => by rw [hsup]; exact h.fits m⟩

theorem Balanced.transfer (h : Balanced l) {s m d au : K} {n dec : ℕ}
    (ht : transferChecked l s m d au n dec = .ok l') : Balanced l' := by
  have hmints := transferChecked_mints ht
  obtain ⟨src, dst, g, rfl⟩ := transferChecked_ok.mp ht
  by_cases hsd : s = d
  · rwa [if_pos hsd]
  rw [if_neg hsd] at hmints ⊢
  refine ⟨fun m' => ?_, fun m' => by rw [supply_congr hmints]; exact h.fits m'⟩
  rw [supply_congr hmints]
  show (((l.accounts.set s (src.debit au n)).set d (dst.credit n)).sum (holding m') = l.supply m')
  have h1 := Store.sum_set l.accounts s (src.debit au n) (holding m')
  have h2 := Store.sum_set (l.accounts.set s (src.debit au n)) d (dst.credit n) (holding m')
  rw [Store.term_some g.source, h.conserved] at h1
  rw [Store.term_set_of_ne (fun e => hsd e.symm), Store.term_some g.destination] at h2
  have hn := g.funds
  have hsrc : holding m' s src = if m = m' then src.amount else 0 := by rw [holding, g.mint]
  have hsrc' : holding m' s (src.debit au n) = if m = m' then src.amount - n else 0 := by
    rw [holding, (debit_static src au n).1, (debit_static src au n).2.2.2.2.1, g.mint]
  have hdst : holding m' d dst = if m = m' then dst.amount else 0 := by rw [holding, g.sameMint]
  have hdst' : holding m' d (dst.credit n) = if m = m' then dst.amount + n else 0 := by
    rw [← g.sameMint]
    rfl
  rw [hsrc, hsrc'] at h1
  rw [hdst, hdst'] at h2
  split_ifs at h1 h2 <;> omega

theorem Balanced.amount_lt (h : Balanced l) (k : K) : l.amount k < u64Bound := by
  cases hx : l.accounts.get k with
  | none =>
    rw [amount_of_none hx]
    exact Nat.two_pow_pos 64
  | some x =>
    have hle := Store.le_sum hx (holding x.mint)
    rw [h.conserved, holding, if_pos rfl] at hle
    rw [amount_of_get hx]
    exact hle.trans_lt (h.fits _)

/-- Two accounts of one mint together hold less than `2 ^ 64`, so moving funds between them
never overflows. -/
theorem Balanced.fits_transfer (h : Balanced l) {s d : K} {src dst : TokenAccount K}
    (hs : l.accounts.get s = some src) (hd : l.accounts.get d = some dst)
    (hm : src.mint = dst.mint) (hne : s ≠ d) {n : ℕ} (hn : n ≤ src.amount) :
    dst.amount + n < u64Bound := by
  have hle := Store.add_le_sum hs hd hne (holding dst.mint)
  have hfit := h.fits dst.mint
  rw [h.conserved] at hle
  simp only [holding, hm, if_true] at hle
  omega

/-! ## Custody -/

section Custody

/-- Accounts of `a` have no delegate, and accounts at reserved addresses belong to `a` and have no
other close authority. -/
structure Custody (a : K) (R : K → Prop) (l : Ledger K) : Prop where
  noDelegate : ∀ k x, l.accounts.get k = some x → x.owner = a → x.delegate = none
  reserved : ∀ k x, R k → l.accounts.get k = some x → x.owner = a
  noCloser : ∀ k x, R k → l.accounts.get k = some x → x.closeAuthority = none

/-- Accounts of `a` that nobody else can close and mints stay, with their mint and decimals; a mint
without a mint authority stays without one and its supply never rises. -/
structure Keeps (a : K) (l l' : Ledger K) : Prop where
  held : ∀ k x, l.accounts.get k = some x → x.owner = a → x.closeAuthority = none →
    ∃ x', l'.accounts.get k = some x' ∧ x'.owner = a ∧ x'.mint = x.mint ∧ x'.closeAuthority = none
  mint : ∀ m x, l.mints.get m = some x → ∃ x', l'.mints.get m = some x' ∧
    x'.decimals = x.decimals ∧
      (x.mintAuthority = none → x'.mintAuthority = none ∧ x'.supply ≤ x.supply)

/-- What every operation on a ledger does for the custodian `a`. -/
structure Safe (a : K) (R : K → Prop) (l l' : Ledger K) : Prop where
  custody : Custody a R l → Custody a R l'
  keeps : Keeps a l l'
  balanced : Balanced l → Balanced l'

/-- A change of one account that respects the custodian. -/
structure Kept (a : K) (x x' : TokenAccount K) : Prop where
  mint : x'.mint = x.mint
  owner : x.owner = a → x'.owner = a
  delegate : x'.owner = a → x'.delegate = none ∨
    x.owner = a ∧ (x.delegate = none → x'.delegate = none)
  closer : x.owner = a → x.closeAuthority = none → x'.closeAuthority = none

variable {a : K} {R : K → Prop} {l'' : Ledger K}

omit [DecidableEq K] in
theorem Keeps.refl (l : Ledger K) : Keeps a l l :=
  ⟨fun _ x hx ho hc => ⟨x, hx, ho, rfl, hc⟩, fun _ x hx => ⟨x, hx, rfl, fun h => ⟨h, le_rfl⟩⟩⟩

omit [DecidableEq K] in
theorem Keeps.trans (h₁ : Keeps a l l') (h₂ : Keeps a l' l'') : Keeps a l l'' := by
  refine ⟨fun k x hx ho hc => ?_, fun m x hx => ?_⟩
  · obtain ⟨x', hx', ho', hm', hc'⟩ := h₁.held k x hx ho hc
    obtain ⟨x'', hx'', ho'', hm'', hc''⟩ := h₂.held k x' hx' ho' hc'
    exact ⟨x'', hx'', ho'', hm''.trans hm', hc''⟩
  · obtain ⟨x', hx', hd', hs'⟩ := h₁.mint m x hx
    obtain ⟨x'', hx'', hd'', hs''⟩ := h₂.mint m x' hx'
    refine ⟨x'', hx'', hd''.trans hd', fun h => ?_⟩
    have h1 := hs' h
    have h2 := hs'' h1.1
    exact ⟨h2.1, h2.2.trans h1.2⟩

theorem Safe.refl (l : Ledger K) : Safe a R l l := ⟨id, Keeps.refl l, id⟩

theorem Safe.trans (h₁ : Safe a R l l') (h₂ : Safe a R l' l'') : Safe a R l l'' :=
  ⟨fun h => h₂.custody (h₁.custody h), h₁.keeps.trans h₂.keeps,
    fun h => h₂.balanced (h₁.balanced h)⟩

theorem Custody.of_set {k : K} {x x' : TokenAccount K} (h : Custody a R l)
    (hx : l.accounts.get k = some x) (hk : Kept a x x')
    (hacc : l'.accounts = l.accounts.set k x') : Custody a R l' := by
  refine ⟨fun k' y hy ho => ?_, fun k' y hR hy => ?_, fun k' y hR hy => ?_⟩
  · rw [hacc] at hy
    rcases Store.get_set_cases hy with ⟨rfl, rfl⟩ | ⟨-, hy⟩
    · rcases hk.delegate ho with hd | ⟨ho', hd⟩
      · exact hd
      · exact hd (h.noDelegate k' x hx ho')
    · exact h.noDelegate k' y hy ho
  · rw [hacc] at hy
    rcases Store.get_set_cases hy with ⟨rfl, rfl⟩ | ⟨-, hy⟩
    · exact hk.owner (h.reserved k' x hR hx)
    · exact h.reserved k' y hR hy
  · rw [hacc] at hy
    rcases Store.get_set_cases hy with ⟨rfl, rfl⟩ | ⟨-, hy⟩
    · exact hk.closer (h.reserved k' x hR hx) (h.noCloser k' x hR hx)
    · exact h.noCloser k' y hR hy

omit [DecidableEq K] in
theorem Custody.congr (h : Custody a R l) (hacc : l'.accounts = l.accounts) : Custody a R l' :=
  ⟨by rw [hacc]; exact h.noDelegate, by rw [hacc]; exact h.reserved,
    by rw [hacc]; exact h.noCloser⟩

theorem held_of_set {k : K} {x x' : TokenAccount K} (hx : l.accounts.get k = some x)
    (hk : Kept a x x') (hacc : l'.accounts = l.accounts.set k x') :
    ∀ k' y, l.accounts.get k' = some y → y.owner = a → y.closeAuthority = none →
      ∃ y', l'.accounts.get k' = some y' ∧ y'.owner = a ∧ y'.mint = y.mint ∧
        y'.closeAuthority = none := by
  intro k' y hy ho hc
  rw [hacc, Store.get_set]
  split_ifs with hkk
  · rw [hkk, hx] at hy
    obtain rfl := Option.some.inj hy
    exact ⟨x', rfl, hk.owner ho, hk.mint, hk.closer ho hc⟩
  · exact ⟨y, hy, ho, rfl, hc⟩

theorem mint_of_set {m : K} {x w : Mint K} (hx : l.mints.get m = some x)
    (hdec : w.decimals = x.decimals)
    (hau : x.mintAuthority = none → w.mintAuthority = none ∧ w.supply ≤ x.supply)
    (hmints : l'.mints = l.mints.set m w) :
    ∀ m' y, l.mints.get m' = some y → ∃ y', l'.mints.get m' = some y' ∧
      y'.decimals = y.decimals ∧
        (y.mintAuthority = none → y'.mintAuthority = none ∧ y'.supply ≤ y.supply) := by
  intro m' y hy
  rw [hmints, Store.get_set]
  split_ifs with hmm
  · rw [hmm, hx] at hy
    obtain rfl := Option.some.inj hy
    exact ⟨w, rfl, hdec, hau⟩
  · exact ⟨y, hy, rfl, fun h => ⟨h, le_rfl⟩⟩

theorem kept_debit (x : TokenAccount K) (au : K) (n : ℕ) : Kept a x (x.debit au n) := by
  obtain ⟨hm, ho, -, hc, -, hd⟩ := debit_static x au n
  exact ⟨hm, fun h => ho.trans h, fun h => Or.inr ⟨ho.symm.trans h, hd⟩, fun _ h => hc.trans h⟩

theorem kept_burnDebit [SystemAddresses K] (x : TokenAccount K) (au : K) (n : ℕ) :
    Kept a x (x.burnDebit au n) := by
  unfold TokenAccount.burnDebit
  split_ifs
  · exact ⟨rfl, id, fun h => Or.inr ⟨h, id⟩, fun _ => id⟩
  · exact kept_debit x au n

omit [DecidableEq K] in
theorem kept_credit (x : TokenAccount K) (n : ℕ) : Kept a x (x.credit n) :=
  ⟨rfl, id, fun h => Or.inr ⟨h, id⟩, fun _ => id⟩

/-- A change of one account with the same balance, respecting the custodian. -/
theorem safe_of_set {k : K} {x x' : TokenAccount K} (hx : l.accounts.get k = some x)
    (hk : Kept a x x') (hamt : x'.amount = x.amount) :
    Safe a R l { l with accounts := l.accounts.set k x' } where
  custody h := h.of_set hx hk rfl
  keeps := ⟨held_of_set hx hk rfl, (Keeps.refl (a := a) l).mint⟩
  balanced h := h.of_set hx hk.mint rfl (fun m => by rw [hamt]; rfl) h.fits

/-- A change of one mint that keeps its supply and decimals. -/
theorem safe_of_mint {m : K} {x x' : Mint K} (hx : l.mints.get m = some x)
    (hsup : x'.supply = x.supply) (hdec : x'.decimals = x.decimals)
    (hau : x.mintAuthority = none → x'.mintAuthority = none) :
    Safe a R l { l with mints := l.mints.set m x' } where
  custody h := h.congr rfl
  keeps := ⟨(Keeps.refl l).held, mint_of_set hx hdec (fun h => ⟨hau h, hsup.le⟩) rfl⟩
  balanced h := h.congr rfl fun m' => by
    rw [supply_set (l := l) rfl m', hsup]
    split_ifs with hm
    · rw [hm, supply_of_get hx]
    · rfl

/-! ### The operations -/

theorem transferChecked_safe {s m d au : K} {n dec : ℕ}
    (h : transferChecked l s m d au n dec = .ok l') : Safe a R l l' := by
  refine ⟨fun hc => ?_, ?_, fun hb => hb.transfer h⟩
  · obtain ⟨src, dst, g, rfl⟩ := transferChecked_ok.mp h
    split_ifs with hsd
    · exact hc
    · have h1 : Custody a R { l with accounts := l.accounts.set s (src.debit au n) } :=
        hc.of_set g.source (kept_debit src au n) rfl
      exact h1.of_set (x := dst) ((Store.get_set_of_ne (fun e => hsd e.symm) _).trans
        g.destination) (kept_credit dst n) rfl
  · obtain ⟨src, dst, g, rfl⟩ := transferChecked_ok.mp h
    split_ifs with hsd
    · exact Keeps.refl l
    · have h1 : Keeps a l { l with accounts := l.accounts.set s (src.debit au n) } :=
        ⟨held_of_set g.source (kept_debit src au n) rfl, (Keeps.refl (a := a) l).mint⟩
      have h2 : Keeps a { l with accounts := l.accounts.set s (src.debit au n) }
          { l with accounts := (l.accounts.set s (src.debit au n)).set d (dst.credit n) } :=
        ⟨held_of_set (x := dst) ((Store.get_set_of_ne (fun e => hsd e.symm) _).trans
          g.destination) (kept_credit dst n) rfl, (Keeps.refl (a := a) l).mint⟩
      exact h1.trans h2

theorem burn_safe [SystemAddresses K] {m s au : K} {n : ℕ} (h : burn l m s au n = .ok l') :
    Safe a R l l' := by
  have hsup := burn_supply h
  obtain ⟨src, x, hs, hx, -, hn, hm, -, -, rfl⟩ := burn_ok.mp h
  refine ⟨fun hc => hc.of_set hs (kept_burnDebit src au n) rfl,
    ⟨held_of_set hs (kept_burnDebit src au n) rfl,
      mint_of_set (w := { x with supply := x.supply - n }) hx rfl
        (fun h => ⟨h, Nat.sub_le _ _⟩) rfl⟩,
    fun hb => hb.of_set hs (burnDebit_static src au n).1 rfl (fun m' => ?_) fun m' => ?_⟩
  · rw [(burnDebit_static src au n).2.2.2.2.1, hm]
    have := hsup m'
    split_ifs at this ⊢ <;> omega
  · have := hsup m'
    have := hb.fits m'
    omega

theorem mintTo_safe {m d au : K} {n : ℕ} (h : mintTo l m d au n = .ok l') : Safe a R l l' := by
  have hsup := mintTo_supply h
  obtain ⟨dst, x, hd, hx, hm, hau, -, hfit, rfl⟩ := mintTo_ok h
  refine ⟨fun hc => hc.of_set hd (kept_credit dst n) rfl,
    ⟨held_of_set hd (kept_credit dst n) rfl,
      mint_of_set (w := { x with supply := x.supply + n }) hx rfl
        (fun h => absurd (h.symm.trans hau) (by simp)) rfl⟩,
    fun hb => hb.of_set hd (y := dst.credit n) rfl rfl (fun m' => ?_) fun m' => ?_⟩
  · rw [hm, hsup m']
    simp only [TokenAccount.credit]
    split_ifs <;> omega
  · rw [hsup m']
    split_ifs with hm'
    · rw [hm', supply_of_get hx]
      exact hfit
    · exact hb.fits m'

theorem setMintAuthority_safe {m au : K} {o : Option K}
    (h : setMintAuthority l m au o = .ok l') : Safe a R l l' := by
  obtain ⟨x, hx, hau, rfl⟩ := setMintAuthority_ok h
  exact safe_of_mint hx rfl rfl fun h => absurd (h.symm.trans hau) (by simp)

theorem setFreezeAuthority_safe {m au : K} {o : Option K}
    (h : setFreezeAuthority l m au o = .ok l') : Safe a R l l' := by
  obtain ⟨x, hx, rfl⟩ := setFreezeAuthority_ok h
  exact safe_of_mint hx rfl rfl id

/-- Creating an account is safe if a reserved address is given to the custodian. -/
theorem initializeAccount_safe {k m o : K} (hR : R k → o = a)
    (h : initializeAccount l k m o = .ok l') : Safe a R l l' := by
  obtain ⟨-, hnone, -, rfl⟩ := initializeAccount_ok h
  have hsum : ∀ m', ((l.accounts.set k ⟨m, o, 0, none, 0, false, none⟩).sum (holding m')) =
      l.accounts.sum (holding m') := by
    intro m'
    have := Store.sum_set l.accounts k ⟨m, o, 0, none, 0, false, none⟩ (holding m')
    rw [Store.term_none hnone] at this
    simpa [holding] using this
  refine ⟨fun hc => ⟨fun k' y hy ho => ?_, fun k' y hRk hy => ?_, fun k' y hRk hy => ?_⟩,
    ⟨fun k' y hy ho hcl => ?_, (Keeps.refl (a := a) l).mint⟩,
    fun hb => ⟨fun m' => (hsum m').trans (hb.conserved m'), hb.fits⟩⟩
  · rcases Store.get_set_cases hy with ⟨-, rfl⟩ | ⟨-, hy⟩
    · rfl
    · exact hc.noDelegate k' y hy ho
  · rcases Store.get_set_cases hy with ⟨rfl, rfl⟩ | ⟨-, hy⟩
    · exact hR hRk
    · exact hc.reserved k' y hRk hy
  · rcases Store.get_set_cases hy with ⟨rfl, rfl⟩ | ⟨-, hy⟩
    · rfl
    · exact hc.noCloser k' y hRk hy
  · refine ⟨y, (Store.get_set_of_ne ?_ _).trans hy, ho, rfl, hcl⟩
    rintro rfl
    rw [hnone] at hy
    cases hy

/-! ### Instructions signed by others -/

variable [SystemAddresses K] {signed : K → Prop} [DecidablePred signed]

theorem exec_ok {i : Instruction K} (h : exec signed l i = .ok l') :
    (i.unsigned l = false → signed i.signer) ∧ i.apply l = .ok l' := by
  simpa only [exec, bind_eq_ok, require_eq_ok, exists_unit] using h

/-- Somebody has to sign for what belongs to somebody. -/
theorem somebody_signs {k : K} {x : TokenAccount K} (hx : l.accounts.get k = some x)
    (h : ¬ Nobody x.owner) : ((l.accounts.get k).any fun a => Nobody a.owner) = false := by
  rw [hx]
  exact decide_eq_false h

/-- **Custody**: an instruction that the custodian did not sign, and that creates nothing at a
reserved address, is safe. -/
theorem exec_safe (hno : ¬ Nobody a) (ha : ¬ signed a) (hR : ∀ k, R k → ¬ signed k)
    {i : Instruction K} (h : exec signed l i = .ok l') : Safe a R l l' := by
  obtain ⟨hs, h⟩ := exec_ok h
  have hown : ∀ {x : TokenAccount K} {au : K}, signed au → x.owner = au → ¬ x.owner = a :=
    fun hsig ho e => ha (e ▸ ho ▸ hsig)
  -- who closes an account of the custodian without a close authority
  have hclose : ∀ {x : TokenAccount K} {au : K}, signed au → x.closer = au → x.owner = a →
      x.closeAuthority ≠ none := fun {x au} hsig hcl ho hnone => by
    rw [TokenAccount.closer, hnone] at hcl
    exact hown hsig hcl ho
  cases i with
  | initializeMint m dec mau fau =>
    simp only [Instruction.apply, initializeMint, bind_eq_ok, require_eq_ok, exists_unit,
      pure_eq_ok] at h
    obtain ⟨⟨hnone, -⟩, rfl⟩ := h
    refine ⟨fun hc => hc.congr rfl, ⟨(Keeps.refl l).held, fun m' y hy => ?_⟩,
      fun hb => hb.congr rfl fun m' => ?_⟩
    · refine ⟨y, (Store.get_set_of_ne ?_ _).trans hy, rfl, fun h => ⟨h, le_rfl⟩⟩
      rintro rfl
      rw [hnone] at hy
      cases hy
    · rw [supply_set (l := l) rfl m']
      split_ifs with hm
      · rw [hm, Ledger.supply, Store.term_none hnone]
      · rfl
  | initializeAccount k m o => exact initializeAccount_safe (fun hk => absurd (hs rfl) (hR k hk)) h
  | transferChecked s m d au n dec => exact transferChecked_safe h
  | approve k au dl n =>
    simp only [Instruction.apply, approve, bind_eq_ok, require_eq_ok, exists_unit, pure_eq_ok,
      account_eq_ok] at h
    obtain ⟨x, hx, -, ho, rfl⟩ := h
    exact safe_of_set hx ⟨rfl, id, fun e => absurd e (hown (hs rfl) ho), fun _ => id⟩ rfl
  | revoke k au =>
    simp only [Instruction.apply, revoke, bind_eq_ok, require_eq_ok, exists_unit, pure_eq_ok,
      account_eq_ok] at h
    obtain ⟨x, hx, -, ho, rfl⟩ := h
    exact safe_of_set hx ⟨rfl, id, fun _ => Or.inl rfl, fun _ => id⟩ rfl
  | setAccountOwner k au o =>
    simp only [Instruction.apply, setAccountOwner, bind_eq_ok, require_eq_ok, exists_unit,
      pure_eq_ok, account_eq_ok] at h
    obtain ⟨x, hx, -, ho, rfl⟩ := h
    exact safe_of_set hx
      ⟨rfl, fun e => absurd e (hown (hs rfl) ho), fun _ => Or.inl rfl, fun _ => id⟩ rfl
  | setCloseAuthority k au o =>
    obtain ⟨x, hx, hcl, rfl⟩ := setCloseAuthority_ok h
    exact safe_of_set hx
      ⟨rfl, id, fun e => Or.inr ⟨e, id⟩, fun ho hnone => absurd hnone (hclose (hs rfl) hcl ho)⟩ rfl
  | setMintAuthority m au o => exact setMintAuthority_safe h
  | setFreezeAuthority m au o => exact setFreezeAuthority_safe h
  | mintTo m d au n => exact mintTo_safe h
  | burn m s au n => exact burn_safe h
  | setFrozen k au b =>
    simp only [Instruction.apply, setFrozen, bind_eq_ok, require_eq_ok, exists_unit, pure_eq_ok,
      account_eq_ok, mint_eq_ok] at h
    obtain ⟨x, hx, -, -, -, -, -, rfl⟩ := h
    exact safe_of_set hx ⟨rfl, id, fun e => Or.inr ⟨e, id⟩, fun _ => id⟩ rfl
  | closeAccount k d au =>
    obtain ⟨x, hx, hzero, hcl, rfl⟩ := closeAccount_ok h
    refine ⟨fun hc => ⟨fun k' y hy => ?_, fun k' y hRk hy => ?_, fun k' y hRk hy => ?_⟩,
      ⟨fun k' y hy hoy hnone => ?_, (Keeps.refl (a := a) l).mint⟩,
      fun hb => ⟨fun m' => ?_, hb.fits⟩⟩
    · exact hc.noDelegate k' y (Store.get_erase_some hy).2
    · exact hc.reserved k' y hRk (Store.get_erase_some hy).2
    · exact hc.noCloser k' y hRk (Store.get_erase_some hy).2
    · refine ⟨y, (Store.get_erase_of_ne ?_).trans hy, hoy, rfl, hnone⟩
      rintro rfl
      rw [hx] at hy
      obtain rfl := Option.some.inj hy
      have hsome : ¬ Nobody x.owner := hoy ▸ hno
      exact hclose (hs (somebody_signs hx hsome)) (hcl hsome) hoy hnone
    · have := Store.sum_erase l.accounts k (holding m')
      rw [Store.term_some hx, hb.conserved] at this
      simp only [holding, hzero, ite_self, add_zero] at this
      exact this

omit [SystemAddresses K] in
theorem amount_le_of_set {k : K} {x y : TokenAccount K} (hx : l.accounts.get k = some x)
    (hle : x.amount ≤ y.amount) (k' : K) :
    l.amount k' ≤ Ledger.amount { l with accounts := l.accounts.set k y } k' := by
  refine le_of_le_of_eq ?_ (amount_set (l := l) rfl k').symm
  split_ifs with hk
  · rw [hk, amount_of_get hx]
    exact hle
  · exact le_rfl

omit [SystemAddresses K] [DecidablePred signed] in
/-- Funds leave an account of the custodian only over the custodian's signature. -/
theorem not_custodian_source (ha : ¬ signed a) (hc : Custody a R l) {k au : K}
    {x : TokenAccount K} {n : ℕ} {u : Unit} (hs : signed au) (hx : l.accounts.get k = some x)
    (hau : x.authorize au n = .ok u) : x.owner ≠ a := by
  intro ho
  have hnone := hc.noDelegate k x hx ho
  rcases authorize_eq_ok hau with hd | ho'
  · rw [hnone] at hd
    cases hd
  · exact ha (ho ▸ ho' ▸ hs)

/-- **Custody**: such an instruction never takes anything from an account of the custodian. -/
theorem exec_amount_le (hno : ¬ Nobody a) (ha : ¬ signed a) (hc : Custody a R l)
    {i : Instruction K} (h : exec signed l i = .ok l') {k : K}
    (hk : ∀ x, l.accounts.get k = some x → x.owner = a) : l.amount k ≤ l'.amount k := by
  obtain ⟨hs, h⟩ := exec_ok h
  cases i with
  | initializeMint m dec mau fau =>
    simp only [Instruction.apply, initializeMint, bind_eq_ok, require_eq_ok, exists_unit,
      pure_eq_ok] at h
    obtain ⟨-, rfl⟩ := h
    exact le_rfl
  | initializeAccount k' m o =>
    obtain ⟨-, hnone, -, rfl⟩ := initializeAccount_ok h
    refine le_of_le_of_eq ?_ (amount_set (l := l) rfl k).symm
    split_ifs with hk'
    · rw [hk', amount_of_none hnone]
    · exact le_rfl
  | transferChecked s m d au n dec =>
    have hmove := transferChecked_amount h k
    obtain ⟨src, dst, g, -⟩ := transferChecked_ok.mp h
    have hks : k ≠ s := by
      rintro rfl
      exact not_custodian_source ha hc (hs rfl) g.source g.authority (hk src g.source)
    rw [if_neg hks] at hmove
    omega
  | approve k' au dl n =>
    simp only [Instruction.apply, approve, bind_eq_ok, require_eq_ok, exists_unit, pure_eq_ok,
      account_eq_ok] at h
    obtain ⟨x, hx, -, -, rfl⟩ := h
    refine amount_le_of_set hx ?_ k
    exact le_rfl
  | revoke k' au =>
    simp only [Instruction.apply, revoke, bind_eq_ok, require_eq_ok, exists_unit, pure_eq_ok,
      account_eq_ok] at h
    obtain ⟨x, hx, -, -, rfl⟩ := h
    refine amount_le_of_set hx ?_ k
    exact le_rfl
  | setAccountOwner k' au o =>
    simp only [Instruction.apply, setAccountOwner, bind_eq_ok, require_eq_ok, exists_unit,
      pure_eq_ok, account_eq_ok] at h
    obtain ⟨x, hx, -, -, rfl⟩ := h
    refine amount_le_of_set hx ?_ k
    exact le_rfl
  | setCloseAuthority k' au o =>
    obtain ⟨x, hx, -, rfl⟩ := setCloseAuthority_ok h
    refine amount_le_of_set hx ?_ k
    exact le_rfl
  | setMintAuthority m au o =>
    obtain ⟨x, -, -, rfl⟩ := setMintAuthority_ok h
    exact le_rfl
  | setFreezeAuthority m au o =>
    obtain ⟨x, -, rfl⟩ := setFreezeAuthority_ok h
    exact le_rfl
  | mintTo m d au n =>
    have := mintTo_amount h k
    omega
  | burn m s au n =>
    have hmove := burn_amount h k
    obtain ⟨src, x, hsrc, -, -, -, -, hau, -⟩ := burn_ok.mp h
    have hks : k ≠ s := by
      rintro rfl
      have howner := hk src hsrc
      have hsome : ¬ Nobody src.owner := howner ▸ hno
      rw [authorizeBurn_of_somebody hsome] at hau
      exact not_custodian_source ha hc (hs (somebody_signs hsrc hsome)) hsrc hau howner
    rw [if_neg hks] at hmove
    omega
  | setFrozen k' au b =>
    simp only [Instruction.apply, setFrozen, bind_eq_ok, require_eq_ok, exists_unit, pure_eq_ok,
      account_eq_ok, mint_eq_ok] at h
    obtain ⟨x, hx, -, -, -, -, -, rfl⟩ := h
    refine amount_le_of_set hx ?_ k
    exact le_rfl
  | closeAccount k' d au =>
    obtain ⟨x, hx, hzero, -, rfl⟩ := closeAccount_ok h
    by_cases hk' : k = k'
    · rw [hk', amount_of_get hx, hzero]
      exact Nat.zero_le _
    · show l.amount k ≤ (l.accounts.erase k').term _ k
      rw [Store.term, Store.get_erase_of_ne hk']
      exact le_rfl

end Custody

/-! ## Supply under instructions sent directly -/

/-- What an instruction destroys of the mint `m`. -/
def Instruction.burned (m : K) : Instruction K → ℕ
  | .burn m' _ _ n => if m = m' then n else 0
  | _ => 0

/-- **Fixed supply**: once a mint has no mint authority, only burns change its supply. -/
theorem exec_supply [SystemAddresses K] {signed : K → Prop} [DecidablePred signed]
    {i : Instruction K} {m : K} {x : Mint K} (hm : l.mints.get m = some x) (hau : x.mintAuthority = none)
    (h : exec signed l i = .ok l') : l'.supply m + i.burned m = l.supply m := by
  obtain ⟨-, h⟩ := exec_ok h
  cases i with
  | initializeMint m' dec mau fau =>
    simp only [Instruction.apply, initializeMint, bind_eq_ok, require_eq_ok, exists_unit,
      pure_eq_ok] at h
    obtain ⟨⟨hnone, -⟩, rfl⟩ := h
    have hne : m ≠ m' := by
      rintro rfl
      rw [hnone] at hm
      cases hm
    rw [supply_set (l := l) (x := ⟨0, dec, some mau, fau⟩) rfl m, if_neg hne]
    rfl
  | initializeAccount k' m' o =>
    obtain ⟨-, -, -, rfl⟩ := initializeAccount_ok h
    rfl
  | transferChecked s m' d au n dec => exact supply_congr (transferChecked_mints h) m
  | approve k' au dl n =>
    simp only [Instruction.apply, approve, bind_eq_ok, require_eq_ok, exists_unit, pure_eq_ok,
      account_eq_ok] at h
    obtain ⟨y, -, -, -, rfl⟩ := h
    rfl
  | revoke k' au =>
    simp only [Instruction.apply, revoke, bind_eq_ok, require_eq_ok, exists_unit, pure_eq_ok,
      account_eq_ok] at h
    obtain ⟨y, -, -, -, rfl⟩ := h
    rfl
  | setAccountOwner k' au o =>
    simp only [Instruction.apply, setAccountOwner, bind_eq_ok, require_eq_ok, exists_unit,
      pure_eq_ok, account_eq_ok] at h
    obtain ⟨y, -, -, -, rfl⟩ := h
    rfl
  | setCloseAuthority k' au o =>
    obtain ⟨y, -, -, rfl⟩ := setCloseAuthority_ok h
    rfl
  | setMintAuthority m' au o =>
    obtain ⟨y, hy, -, rfl⟩ := setMintAuthority_ok h
    show Ledger.supply _ m = l.supply m
    rw [supply_set (l := l) (x := { y with mintAuthority := o }) rfl m]
    split_ifs with he
    · rw [he, supply_of_get hy]
    · rfl
  | setFreezeAuthority m' au o =>
    obtain ⟨y, hy, rfl⟩ := setFreezeAuthority_ok h
    show Ledger.supply _ m = l.supply m
    rw [supply_set (l := l) (x := { y with freezeAuthority := o }) rfl m]
    split_ifs with he
    · rw [he, supply_of_get hy]
    · rfl
  | mintTo m' d au n =>
    have hsup := mintTo_supply h m
    obtain ⟨dst, y, -, hy, -, hyau, -⟩ := mintTo_ok h
    have hne : m ≠ m' := by
      rintro rfl
      rw [hm] at hy
      obtain rfl := Option.some.inj hy
      rw [hau] at hyau
      cases hyau
    rw [if_neg hne] at hsup
    exact hsup
  | burn m' s au n => exact burn_supply h m
  | setFrozen k' au b =>
    simp only [Instruction.apply, setFrozen, bind_eq_ok, require_eq_ok, exists_unit, pure_eq_ok,
      account_eq_ok, mint_eq_ok] at h
    obtain ⟨y, -, -, -, -, -, -, rfl⟩ := h
    rfl
  | closeAccount k' d au =>
    obtain ⟨y, -, -, -, rfl⟩ := closeAccount_ok h
    rfl

end Token
