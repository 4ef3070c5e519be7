import Clawfarm.Lib.Agree
import Clawfarm.Lib.Swap
import Clawfarm.Lib.TokenProgress

/-!
# TokenSwap — the order of movements of funds

A movement out of an account of the custodian changes balances and supplies and nothing else of a
ledger (`Made.shape`), and needs nothing of it but its shape and the funds (`made_of_shape`).  So two
movements swap as soon as the funds for both are there (`Made.swap`), which they are when the first
one pays to somebody else (`Movement.swaps`).
-/

namespace Token

open Checked Swap

variable {K : Type} {l l' l₁ l₂ : Ledger K} {a : K} {R : K → Prop}

/-! ## Shapes -/

def TokenAccount.shape (x : TokenAccount K) : TokenAccount K := { x with amount := 0 }

def Mint.shape (x : Mint K) : Mint K := { x with supply := 0 }

/-- The ledgers differ in balances and supplies only. -/
structure SameShape (l l' : Ledger K) : Prop where
  account : ∀ k, (l'.accounts.get k).map TokenAccount.shape =
    (l.accounts.get k).map TokenAccount.shape
  mint : ∀ m, (l'.mints.get m).map Mint.shape = (l.mints.get m).map Mint.shape

theorem SameShape.refl (l : Ledger K) : SameShape l l := ⟨fun _ => rfl, fun _ => rfl⟩

theorem SameShape.symm (h : SameShape l l') : SameShape l' l :=
  ⟨fun k => (h.account k).symm, fun m => (h.mint m).symm⟩

theorem SameShape.trans (h : SameShape l l₁) (h' : SameShape l₁ l₂) : SameShape l l₂ :=
  ⟨fun k => (h'.account k).trans (h.account k), fun m => (h'.mint m).trans (h.mint m)⟩

theorem SameShape.static (h : SameShape l l') (k : K) : l'.static k = l.static k := by
  have hshape : ∀ l : Ledger K, l.static k =
      ((l.accounts.get k).map TokenAccount.shape).map fun x => (x.mint, x.owner, x.frozen) := by
    intro l
    rw [Option.map_map]
    rfl
  rw [hshape, hshape, h.account]

theorem SameShape.get (h : SameShape l l') {k : K} {x : TokenAccount K}
    (hx : l.accounts.get k = some x) :
    ∃ x', l'.accounts.get k = some x' ∧ x'.shape = x.shape := by
  have hk := h.account k
  rw [hx, Option.map_some] at hk
  exact Option.map_eq_some_iff.mp hk

theorem SameShape.getMint (h : SameShape l l') {m : K} {x : Mint K} (hx : l.mints.get m = some x) :
    ∃ x', l'.mints.get m = some x' ∧ x'.shape = x.shape := by
  have hm := h.mint m
  rw [hx, Option.map_some] at hm
  exact Option.map_eq_some_iff.mp hm

theorem account_ext {x x' : TokenAccount K} (h : x'.shape = x.shape) (ha : x'.amount = x.amount) :
    x' = x := by
  cases x
  cases x'
  simp only [TokenAccount.shape, TokenAccount.mk.injEq] at h
  simp only at ha
  obtain ⟨rfl, rfl, -, rfl, rfl, rfl, rfl⟩ := h
  rw [ha]

theorem mint_ext {x x' : Mint K} (h : x'.shape = x.shape) (hs : x'.supply = x.supply) :
    x' = x := by
  cases x
  cases x'
  simp only [Mint.shape, Mint.mk.injEq] at h
  simp only at hs
  obtain ⟨-, rfl, rfl, rfl⟩ := h
  rw [hs]

/-- A ledger is its shape, its balances and its supplies. -/
theorem ledger_ext (h : SameShape l l') (ha : ∀ k, l'.amount k = l.amount k)
    (hs : ∀ m, l'.supply m = l.supply m) : l' = l := by
  have hacc : l'.accounts = l.accounts := by
    refine Store.ext_get fun k => ?_
    cases hx : l.accounts.get k with
    | none =>
      have hk := h.account k
      rw [hx, Option.map_none, Option.map_eq_none_iff] at hk
      exact hk
    | some x =>
      obtain ⟨x', hx', hshape⟩ := h.get hx
      have hamt := ha k
      rw [amount_of_get hx, amount_of_get hx'] at hamt
      rw [hx', account_ext hshape hamt]
  have hmints : l'.mints = l.mints := by
    refine Store.ext_get fun m => ?_
    cases hx : l.mints.get m with
    | none =>
      have hm := h.mint m
      rw [hx, Option.map_none, Option.map_eq_none_iff] at hm
      exact hm
    | some x =>
      obtain ⟨x', hx', hshape⟩ := h.getMint hx
      have hsup := hs m
      rw [supply_of_get hx, supply_of_get hx'] at hsup
      rw [hx', mint_ext hshape hsup]
  cases l
  cases l'
  simp only at hacc hmints
  rw [hacc, hmints]

/-! ### A transfer in two ledgers of one shape -/

theorem SameShape.accountRel (h : SameShape l l') (k : K) :
    Option.Rel (fun x x' => x'.shape = x.shape) (l.accounts.get k) (l'.accounts.get k) := by
  have hk := h.account k
  cases hx : l.accounts.get k with
  | none =>
    rw [hx, Option.map_none, Option.map_eq_none_iff] at hk
    rw [hk]
    exact .none
  | some x =>
    obtain ⟨x', hx', hshape⟩ := h.get hx
    rw [hx']
    exact .some hshape

theorem SameShape.mintRel (h : SameShape l l') (m : K) :
    Option.Rel (fun x x' => x'.shape = x.shape) (l.mints.get m) (l'.mints.get m) := by
  have hm := h.mint m
  cases hx : l.mints.get m with
  | none =>
    rw [hx, Option.map_none, Option.map_eq_none_iff] at hm
    rw [hm]
    exact .none
  | some x =>
    obtain ⟨x', hx', hshape⟩ := h.getMint hx
    rw [hx']
    exact .some hshape

theorem shape_frozen {x x' : TokenAccount K} (h : x'.shape = x.shape) : x'.frozen = x.frozen :=
  congrArg (fun y => y.frozen) h

theorem shape_mint {x x' : TokenAccount K} (h : x'.shape = x.shape) : x'.mint = x.mint :=
  congrArg (fun y => y.mint) h

theorem shape_owner {x x' : TokenAccount K} (h : x'.shape = x.shape) : x'.owner = x.owner :=
  congrArg (fun y => y.owner) h

/-- **One shape, one outcome**: with the same funds in its source, a transfer fails with the same
error in two balanced ledgers of one shape, or succeeds in both. -/
theorem transferChecked_agree [DecidableEq K] {s m d au : K} {n dec : ℕ} (hb : Balanced l)
    (hb' : Balanced l') (h : SameShape l l') (hfunds : l'.amount s = l.amount s) :
    Agree (fun _ _ => True) (transferChecked l s m d au n dec)
      (transferChecked l' s m d au n dec) := by
  refine (agree_orError (h.accountRel s)).bind fun src src' hsrc hsrc' hs => ?_
  have hget := orError_eq_ok.mp hsrc
  have hget' := orError_eq_ok.mp hsrc'
  rw [amount_of_get hget, amount_of_get hget'] at hfunds
  obtain rfl : src' = src := account_ext hs hfunds
  refine (agree_orError (h.accountRel d)).bind fun dst dst' hdst hdst' hd => ?_
  refine (agree_require (by rw [shape_frozen hd])).bind fun _ _ _ _ _ => ?_
  refine (agree_require Iff.rfl).bind fun _ _ hn _ _ => ?_
  refine (agree_require (by rw [shape_mint hd])).bind fun _ _ hm hm' _ => ?_
  refine (agree_require Iff.rfl).bind fun _ _ _ _ _ => ?_
  refine (agree_orError (h.mintRel m)).bind fun x x' _ _ hx => ?_
  have hdec : x'.decimals = x.decimals := congrArg (fun y => y.decimals) hx
  refine (agree_require (by rw [hdec])).bind fun _ _ _ _ _ => ?_
  refine (Agree.refl (R := fun _ _ => True) (fun _ => trivial) _).bind fun _ _ _ _ _ => ?_
  split_ifs with hsd
  · exact .ok trivial
  · -- neither balance can overflow
    have hfit := hb.fits_transfer hget (orError_eq_ok.mp hdst) (require_eq_ok.mp hm) hsd
      (require_eq_ok.mp hn)
    have hfit' := hb'.fits_transfer hget' (orError_eq_ok.mp hdst') (require_eq_ok.mp hm') hsd
      (require_eq_ok.mp hn)
    exact (agree_require (iff_of_true hfit hfit')).bind fun _ _ _ _ _ => .ok trivial

/-! ## Movements -/

/-- A payment out of an account of the custodian to an account of `owner`, or the destruction of
funds in such an account. -/
inductive Movement (K : Type)
  | pay (source mint destination owner : K) (amount decimals : ℕ)
  | destroy (source mint : K) (amount : ℕ)

def Movement.source : Movement K → K
  | .pay s _ _ _ _ _ => s
  | .destroy s _ _ => s

def Movement.amount : Movement K → ℕ
  | .pay _ _ _ _ n _ => n
  | .destroy _ _ n => n

variable [DecidableEq K]

/-- What a movement adds to the account `k`. -/
def Movement.credited (k : K) : Movement K → ℕ
  | .pay _ _ d _ n _ => if k = d then n else 0
  | .destroy _ _ _ => 0

/-- What a movement takes from the supply of the mint `m`. -/
def Movement.destroyed (m : K) : Movement K → ℕ
  | .pay _ _ _ _ _ _ => 0
  | .destroy _ m' n => if m = m' then n else 0

/-- The movement leads from `l` to `l'`. -/
def Movement.Made [SystemAddresses K] (a : K) (v : Movement K) (l l' : Ledger K) : Prop :=
  match v with
  | .pay s m d o n dec => (∃ f, l.static s = some (m, a, f)) ∧ (∃ f, l.static d = some (m, o, f)) ∧
    transferChecked l s m d a n dec = .ok l'
  | .destroy s m n => (∃ f, l.static s = some (m, a, f)) ∧ burn l m s a n = .ok l'

variable {v w : Movement K}

theorem shape_set {k : K} {x y : TokenAccount K} (hx : l.accounts.get k = some x)
    (hy : y.shape = x.shape) : SameShape l { l with accounts := l.accounts.set k y } := by
  refine ⟨fun k' => ?_, fun _ => rfl⟩
  rw [Store.get_set]
  split_ifs with hk
  · rw [hk, hx, Option.map_some, Option.map_some, hy]
  · rfl

/-- Without a delegate, a debit changes the balance only. -/
theorem debit_shape {x : TokenAccount K} (h : x.delegate = none) (au : K) (n : ℕ) :
    (x.debit au n).shape = x.shape := by
  rw [TokenAccount.debit, if_neg (by rw [h]; exact fun e => nomatch e)]
  rfl

variable [SystemAddresses K]

theorem burnDebit_shape {x : TokenAccount K} (h : x.delegate = none) (au : K) (n : ℕ) :
    (x.burnDebit au n).shape = x.shape := by
  rw [TokenAccount.burnDebit]
  split_ifs
  · rfl
  · exact debit_shape h au n

theorem Movement.Made.source_static (h : v.Made a l l') :
    ∃ m f, l.static v.source = some (m, a, f) := by
  cases v with
  | pay s m d o n dec =>
    obtain ⟨⟨f, hf⟩, -⟩ := h
    exact ⟨m, f, hf⟩
  | destroy s m n =>
    obtain ⟨⟨f, hf⟩, -⟩ := h
    exact ⟨m, f, hf⟩

theorem Movement.Made.funds (h : v.Made a l l') : v.amount ≤ l.amount v.source := by
  cases v with
  | pay s m d o n dec => exact transferChecked_le h.2.2
  | destroy s m n => exact burn_le h.2

theorem Movement.Made.safe (h : v.Made a l l') : Safe a R l l' := by
  cases v with
  | pay s m d o n dec => exact transferChecked_safe h.2.2
  | destroy s m n => exact burn_safe h.2

theorem Movement.Made.amounts (h : v.Made a l l') (k : K) :
    l'.amount k + (if k = v.source then v.amount else 0) = l.amount k + v.credited k := by
  cases v with
  | pay s m d o n dec => exact transferChecked_amount h.2.2 k
  | destroy s m n => exact burn_amount h.2 k

theorem Movement.Made.supplies (h : v.Made a l l') (m : K) :
    l'.supply m + v.destroyed m = l.supply m := by
  cases v with
  | pay s m' d o n dec => exact supply_congr (transferChecked_mints h.2.2) m
  | destroy s m' n => exact burn_supply h.2 m

theorem Movement.Made.static (h : v.Made a l l') (k : K) : l'.static k = l.static k := by
  cases v with
  | pay s m d o n dec => exact transferChecked_static h.2.2 k
  | destroy s m n => exact burn_static h.2 k

theorem chain_static {vs : List (Movement K)} (h : Chain (Movement.Made a) vs l l') (k : K) :
    l'.static k = l.static k :=
  Chain.inv (I := fun l' => l'.static k = l.static k)
    (fun _ _ _ hl hv => (hv.static k).trans hl) h rfl

/-- A transfer out of a reserved account is a movement. -/
theorem exists_made {s m d : K} {n dec : ℕ} (hc : Custody a R l) (hs : R s)
    (h : transferChecked l s m d a n dec = .ok l') :
    ∃ o, (Movement.pay s m d o n dec).Made a l l' := by
  obtain ⟨src, dst, hg, -⟩ := transferChecked_ok.mp h
  refine ⟨dst.owner, ⟨src.frozen, ?_⟩, ⟨dst.frozen, ?_⟩, h⟩
  · rw [static_of_get hg.source, hg.mint, hc.reserved s src hs hg.source]
  · rw [static_of_get hg.destination, hg.sameMint]

theorem Movement.Made.shape (hc : Custody a R l) (h : v.Made a l l') : SameShape l l' := by
  cases v with
  | pay s m d o n dec =>
    obtain ⟨⟨f, hf⟩, -, ht⟩ := h
    obtain ⟨src, dst, g, rfl⟩ := transferChecked_ok.mp ht
    obtain ⟨src', hsrc, -, hown, -⟩ := get_of_static hf
    obtain rfl := Option.some.inj (g.source.symm.trans hsrc)
    split_ifs with hsd
    · exact .refl l
    · have hdst : (l.accounts.set s (src.debit a n)).get d = some dst :=
        (Store.get_set_of_ne (fun e => hsd e.symm) _).trans g.destination
      exact (shape_set g.source (debit_shape (hc.noDelegate s src g.source hown) a n)).trans
        (shape_set (l := { l with accounts := l.accounts.set s (src.debit a n) })
          (y := dst.credit n) hdst rfl)
  | destroy s m n =>
    obtain ⟨⟨f, hf⟩, ht⟩ := h
    obtain ⟨src, x, hs, hx, -, -, -, -, -, rfl⟩ := burn_ok.mp ht
    obtain ⟨src', hsrc, -, hown, -⟩ := get_of_static hf
    obtain rfl := Option.some.inj (hs.symm.trans hsrc)
    have hacc := shape_set hs (burnDebit_shape (hc.noDelegate s src hs hown) a n)
    refine ⟨hacc.account, fun m' => ?_⟩
    rw [Store.get_set]
    split_ifs with hm
    · rw [hm, hx]
      rfl
    · rfl

/-- **Shape and funds** are all that a movement needs. -/
theorem made_of_shape (hb : Balanced l) (hc : Custody a R l) (hshape : SameShape l l₁)
    (h : v.Made a l₁ l₂) (hfunds : v.amount ≤ l.amount v.source) : ∃ l', v.Made a l l' := by
  cases v with
  | pay s m d o n dec =>
    obtain ⟨⟨f, hs⟩, ⟨f', hd⟩, ht⟩ := h
    obtain ⟨src, dst, g, -⟩ := transferChecked_ok.mp ht
    obtain ⟨x, hx, hdec⟩ := g.decimals
    obtain ⟨x', hx', hxs⟩ := hshape.symm.getMint hx
    have hdec' : dec = x'.decimals := hdec.trans (congrArg Mint.decimals hxs).symm
    have hf : f = false := by
      rw [static_of_get g.source] at hs
      exact (congrArg (fun p => p.2.2) (Option.some.inj hs)).symm.trans g.thawed.1
    have hf' : f' = false := by
      rw [static_of_get g.destination] at hd
      exact (congrArg (fun p => p.2.2) (Option.some.inj hd)).symm.trans g.thawed.2
    rw [hshape.static] at hs hd
    obtain ⟨l', hl'⟩ := (transferChecked_succeeds_iff hb hc hs hd hx' hdec').mpr ⟨hf, hf', hfunds⟩
    exact ⟨l', ⟨f, hs⟩, ⟨f', hd⟩, hl'⟩
  | destroy s m n =>
    obtain ⟨⟨f, hs⟩, ht⟩ := h
    obtain ⟨src, x, hsrc, hx, hfr, -⟩ := burn_ok.mp ht
    obtain ⟨x', hx', -⟩ := hshape.symm.getMint hx
    have hf : f = false := by
      rw [static_of_get hsrc] at hs
      exact (congrArg (fun p => p.2.2) (Option.some.inj hs)).symm.trans hfr
    rw [hshape.static] at hs
    obtain ⟨l', hl'⟩ := (burn_succeeds_iff hb hc hs hx').mpr ⟨hf, hfunds⟩
    exact ⟨l', ⟨f, hs⟩, hl'⟩

/-! ## Swapping -/

/-- Two movements swap if the funds for both are there. -/
theorem Movement.Made.swap (hb : Balanced l) (hc : Custody a R l) (h₁ : v.Made a l l₁)
    (h₂ : w.Made a l₁ l₂) (hw : w.amount ≤ l.amount w.source)
    (hv : v.amount + (if v.source = w.source then w.amount else 0) ≤ l.amount v.source) :
    ∃ l', w.Made a l l' ∧ v.Made a l' l₂ := by
  have hs₁ := h₁.shape hc
  have hs₂ := h₂.shape (h₁.safe.custody hc)
  obtain ⟨l', h₁'⟩ := made_of_shape hb hc hs₁ h₂ hw
  have hs₁' := h₁'.shape hc
  have hb' : Balanced l' := (h₁'.safe (R := R)).balanced hb
  have hc' : Custody a R l' := h₁'.safe.custody hc
  have hrest : v.amount ≤ l'.amount v.source := by
    have hamt := h₁'.amounts v.source
    split_ifs at hamt hv <;> omega
  obtain ⟨l₂', h₂'⟩ := made_of_shape hb' hc' hs₁'.symm h₁ hrest
  have hs₂' := h₂'.shape hc'
  refine ⟨l', h₁', ?_⟩
  have heq : l₂' = l₂ := by
    refine ledger_ext ((hs₁.trans hs₂).symm.trans (hs₁'.trans hs₂')) (fun k => ?_) fun m => ?_
    · have e₁ := h₁.amounts k
      have e₂ := h₂.amounts k
      have e₁' := h₁'.amounts k
      have e₂' := h₂'.amounts k
      omega
    · have e₁ := h₁.supplies m
      have e₂ := h₂.supplies m
      have e₁' := h₁'.supplies m
      have e₂' := h₂'.supplies m
      omega
  exact heq ▸ h₂'

/-- The movement does not pay to the custodian. -/
def Movement.Outward (a : K) : Movement K → Prop
  | .pay _ _ _ o _ _ => o ≠ a
  | .destroy _ _ _ => True

/-- What an outward movement pays does not go into an account of the custodian. -/
theorem Movement.Made.credited_eq_zero (h : v.Made a l l') (ho : v.Outward a) {k m : K} {f : Bool}
    (hk : l.static k = some (m, a, f)) : v.credited k = 0 := by
  cases v with
  | pay s m' d o n dec =>
    obtain ⟨-, ⟨f', hd⟩, -⟩ := h
    refine if_neg fun e => ho ?_
    rw [e, hd] at hk
    exact congrArg (fun p => p.2.1) (Option.some.inj hk)
  | destroy s m' n => rfl

/-- A ledger in order, with the custodian in charge. -/
structure InOrder (a : K) (R : K → Prop) (l : Ledger K) : Prop where
  balanced : Balanced l
  custody : Custody a R l

theorem Movement.Made.inOrder (h : v.Made a l l') (hl : InOrder a R l) : InOrder a R l' :=
  ⟨(h.safe (R := R)).balanced hl.balanced, h.safe.custody hl.custody⟩

/-- **Movements to others swap.** -/
theorem Movement.swaps (ho : v.Outward a) : Swaps (InOrder a R) (v.Made a) (w.Made a) := by
  intro l l₁ l₂ hl h₁ h₂
  obtain ⟨m, f, hsrc⟩ := h₂.source_static
  rw [(h₁.shape hl.custody).static] at hsrc
  have hzero := h₁.credited_eq_zero ho hsrc
  have hamt := h₁.amounts w.source
  have hw := h₂.funds
  have hv := h₁.funds
  refine h₁.swap hl.balanced hl.custody h₂ (by omega) ?_
  split_ifs with he
  · rw [if_pos he.symm, ← he] at hamt
    rw [← he] at hw hzero
    omega
  · omega

/-- **Lists of movements to others swap.** -/
theorem movements_swap {vs ws : List (Movement K)} (ho : ∀ v ∈ vs, v.Outward a) :
    Swaps (InOrder a R) (Chain (Movement.Made a) vs) (Chain (Movement.Made a) ws) :=
  Chain.swaps (fun _ _ _ hl h => h.inOrder hl) (fun _ _ _ hl h => h.inOrder hl)
    fun v hv _ _ => Movement.swaps (ho v hv)

end Token
