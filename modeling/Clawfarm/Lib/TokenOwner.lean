import Clawfarm.Lib.TokenFacts
import Mathlib.Algebra.Group.Pi.Basic

/-!
# TokenOwner — what the owner of a token account can lose without signing

`Drawn n x x'` says that `n` at most has been taken out of the account `x` and that it came out of
the allowance of its delegate.  `Spends w quiet f` is the relation between two ledgers that every
instruction keeps which neither `w` nor one of the `quiet` keys has signed (`exec_spends`): the
accounts of `w` that a quiet key closes stay its own, at most `f k` is drawn from the account `k`,
and nothing where the delegate is quiet.
-/

namespace Token

open Checked

variable {K : Type}

/-- What the delegate of an account may still take out of it. -/
def TokenAccount.allowance (x : TokenAccount K) : ℕ :=
  if x.delegate.isSome then x.delegatedAmount else 0

/-- `x'` is the account `x` after `n` at most has been taken out of its allowance. -/
structure Drawn (n : ℕ) (x x' : TokenAccount K) : Prop where
  owner : x'.owner = x.owner
  mint : x'.mint = x.mint
  delegate : x'.delegate = x.delegate ∨ x'.delegate = none
  closeAuthority : x'.closeAuthority = x.closeAuthority
  amount : x.amount ≤ x'.amount + n
  allowance : x'.allowance + n ≤ x.allowance

theorem Drawn.refl (x : TokenAccount K) : Drawn 0 x x :=
  ⟨rfl, rfl, Or.inl rfl, rfl, le_rfl, le_rfl⟩

theorem Drawn.trans {m n : ℕ} {x y z : TokenAccount K} (h : Drawn m x y) (h' : Drawn n y z) :
    Drawn (m + n) x z where
  owner := h'.owner.trans h.owner
  mint := h'.mint.trans h.mint
  delegate := by
    rcases h'.delegate with h' | h'
    · rw [h']
      exact h.delegate
    · exact Or.inr h'
  closeAuthority := h'.closeAuthority.trans h.closeAuthority
  amount := by
    have := h.amount
    have := h'.amount
    omega
  allowance := by
    have := h.allowance
    have := h'.allowance
    omega

theorem Drawn.closer {n : ℕ} {x x' : TokenAccount K} (h : Drawn n x x') : x'.closer = x.closer := by
  rw [TokenAccount.closer, TokenAccount.closer, h.closeAuthority, h.owner]

/-- The delegate of a drawn account is as quiet as before. -/
theorem Drawn.quiet {n : ℕ} {x x' : TokenAccount K} (h : Drawn n x x') {quiet : K → Prop}
    (hq : ∀ d, x.delegate = some d → quiet d) : ∀ d, x'.delegate = some d → quiet d := by
  intro d hd
  rcases h.delegate with he | he
  · exact hq d (he ▸ hd)
  · rw [he] at hd
    cases hd

theorem drawn_credit (x : TokenAccount K) (n : ℕ) : Drawn 0 x (x.credit n) :=
  ⟨rfl, rfl, Or.inl rfl, rfl, Nat.le_add_right _ _, le_rfl⟩

variable [DecidableEq K]

/-- Whoever is not the owner draws on the allowance. -/
theorem drawn_debit {x : TokenAccount K} {au : K} {n : ℕ} {u : Unit} (hau : au ≠ x.owner)
    (h : x.authorize au n = .ok u) (hn : n ≤ x.amount) :
    x.delegate = some au ∧ Drawn n x (x.debit au n) := by
  have hd : x.delegate = some au := (authorize_eq_ok h).resolve_right hau.symm
  rw [TokenAccount.authorize, if_pos hd, require_eq_ok] at h
  obtain ⟨hm, ho, -, hc, hamount, -⟩ := debit_static x au n
  refine ⟨hd, ho, hm, ?_, hc, by rw [hamount, Nat.sub_add_cancel hn], ?_⟩
  · rw [TokenAccount.debit, if_pos hd]
    dsimp only
    split_ifs
    · exact Or.inr rfl
    · exact Or.inl rfl
  · rw [TokenAccount.debit, if_pos hd]
    simp only [TokenAccount.allowance, hd, Option.isSome_some, if_true]
    split_ifs <;> omega

/-! ## Ledgers -/

/-- The accounts of `w` that a quiet key closes stay its own, `f k` at most is drawn from the
account `k`, and nothing where the delegate is quiet. -/
def Spends (w : K) (quiet : K → Prop) (f : K → ℕ) (l l' : Ledger K) : Prop :=
  ∀ k x, l.accounts.get k = some x → x.owner = w → quiet x.closer →
    ∃ x', l'.accounts.get k = some x' ∧ Drawn (f k) x x' ∧
      ((∀ d, x.delegate = some d → quiet d) → f k = 0)

variable {w : K} {quiet : K → Prop} {l l' l'' : Ledger K} {f g : K → ℕ}

omit [DecidableEq K] in
theorem Spends.refl (l : Ledger K) : Spends w quiet 0 l l :=
  fun _ x hx _ _ => ⟨x, hx, Drawn.refl x, fun _ => rfl⟩

omit [DecidableEq K] in
theorem Spends.trans (h : Spends w quiet f l l') (h' : Spends w quiet g l' l'') :
    Spends w quiet (f + g) l l'' := by
  intro k x hx ho hcl
  obtain ⟨y, hy, hd, hq⟩ := h k x hx ho hcl
  obtain ⟨z, hz, hd', hq'⟩ := h' k y hy (hd.owner.trans ho) (hd.closer.symm ▸ hcl)
  refine ⟨z, hz, hd.trans hd', fun hquiet => ?_⟩
  rw [Pi.add_apply, hq hquiet, hq' (hd.quiet hquiet)]

omit [DecidableEq K] in
/-- Only what is drawn from the accounts of `w` counts. -/
theorem Spends.congr (h : Spends w quiet f l l')
    (hf : ∀ k x, l.accounts.get k = some x → x.owner = w → f k = g k) :
    Spends w quiet g l l' := by
  intro k x hx ho hcl
  rw [← hf k x hx ho]
  exact h k x hx ho hcl

omit [DecidableEq K] in
theorem spends_of_accounts (h : l'.accounts = l.accounts) : Spends w quiet 0 l l' := by
  intro k x hx _ _
  rw [← h] at hx
  exact ⟨x, hx, Drawn.refl x, fun _ => rfl⟩

/-- A change of one account. -/
theorem spends_of_set {k : K} {x x' : TokenAccount K} {n : ℕ} (hx : l.accounts.get k = some x)
    (hd : x.owner = w → quiet x.closer →
      Drawn n x x' ∧ ((∀ d, x.delegate = some d → quiet d) → n = 0))
    (hacc : l'.accounts = l.accounts.set k x') :
    Spends w quiet (fun k' => if k' = k then n else 0) l l' := by
  intro k' y hy ho hcl
  dsimp only
  rw [hacc]
  by_cases hk : k' = k
  · subst hk
    obtain rfl := Option.some.inj (hx.symm.trans hy)
    rw [if_pos rfl]
    exact ⟨x', Store.get_set_self _ _ _, hd ho hcl⟩
  · rw [if_neg hk]
    exact ⟨y, (Store.get_set_of_ne hk _).trans hy, Drawn.refl y, fun _ => rfl⟩

/-- A change of one account that draws nothing from it. -/
theorem spends_of_kept {k : K} {x x' : TokenAccount K} (hx : l.accounts.get k = some x)
    (hd : x.owner = w → quiet x.closer → Drawn 0 x x')
    (hacc : l'.accounts = l.accounts.set k x') : Spends w quiet 0 l l' :=
  (spends_of_set hx (fun ho hcl => ⟨hd ho hcl, fun _ => rfl⟩) hacc).congr fun _ _ _ _ => ite_self 0

theorem spends_of_credit {k : K} {x : TokenAccount K} {n : ℕ} (hx : l.accounts.get k = some x)
    (hacc : l'.accounts = l.accounts.set k (x.credit n)) : Spends w quiet 0 l l' :=
  spends_of_kept hx (fun _ _ => drawn_credit x n) hacc

/-! ### The operations -/

/-- **Transfer** by somebody else. -/
theorem transferChecked_spends {s m d au : K} {n dec : ℕ} (hau : au ≠ w) (hq : ¬ quiet au)
    (h : transferChecked l s m d au n dec = .ok l') :
    Spends w quiet (fun k => if k = s ∧ s ≠ d then n else 0) l l' := by
  obtain ⟨src, dst, g, rfl⟩ := transferChecked_ok.mp h
  split_ifs with hsd
  · exact (Spends.refl l).congr fun k _ _ _ => (if_neg fun h => h.2 hsd).symm
  · have h₁ : Spends w quiet (fun k => if k = s then n else 0) l
        { l with accounts := l.accounts.set s (src.debit au n) } := by
      refine spends_of_set g.source (fun ho _ => ?_) rfl
      obtain ⟨hd, hdrawn⟩ := drawn_debit (fun e => hau (e.trans ho)) g.authority g.funds
      exact ⟨hdrawn, fun hquiet => absurd (hquiet au hd) hq⟩
    have h₂ : Spends w quiet 0 { l with accounts := l.accounts.set s (src.debit au n) }
        { l with accounts := (l.accounts.set s (src.debit au n)).set d (dst.credit n) } :=
      spends_of_credit ((Store.get_set_of_ne (fun e => hsd e.symm) _).trans g.destination) rfl
    refine (h₁.trans h₂).congr fun k _ _ _ => ?_
    simp [hsd]

/-- A transfer out of an account that is not `w`'s. -/
theorem transferChecked_spares {s m d au : K} {n dec : ℕ}
    (hs : ∀ x, l.accounts.get s = some x → x.owner ≠ w)
    (h : transferChecked l s m d au n dec = .ok l') : Spends w quiet 0 l l' := by
  obtain ⟨src, dst, g, rfl⟩ := transferChecked_ok.mp h
  split_ifs with hsd
  · exact Spends.refl l
  · have h₁ : Spends w quiet 0 l { l with accounts := l.accounts.set s (src.debit au n) } :=
      spends_of_kept g.source (fun ho _ => absurd ho (hs src g.source)) rfl
    have h₂ : Spends w quiet 0 { l with accounts := l.accounts.set s (src.debit au n) }
        { l with accounts := (l.accounts.set s (src.debit au n)).set d (dst.credit n) } :=
      spends_of_credit ((Store.get_set_of_ne (fun e => hsd e.symm) _).trans g.destination) rfl
    exact h₁.trans h₂

theorem burn_spends [SystemAddresses K] {m s au : K} {n : ℕ} (hw : ¬ Nobody w)
    (hau : ∀ x, l.accounts.get s = some x → x.owner = w → au ≠ w ∧ ¬ quiet au)
    (h : burn l m s au n = .ok l') : Spends w quiet (fun k => if k = s then n else 0) l l' := by
  obtain ⟨src, x, hs, -, -, hn, -, hauth, -, rfl⟩ := burn_ok.mp h
  refine spends_of_set hs (fun ho _ => ?_) rfl
  have hsome : ¬ Nobody src.owner := ho ▸ hw
  obtain ⟨hne, hq⟩ := hau src hs ho
  rw [authorizeBurn_of_somebody hsome] at hauth
  rw [burnDebit_of_somebody hsome]
  obtain ⟨hd, hdrawn⟩ := drawn_debit (fun e => hne (e.trans ho)) hauth hn
  exact ⟨hdrawn, fun hquiet => absurd (hquiet au hd) hq⟩

theorem burn_spares [SystemAddresses K] {m s au : K} {n : ℕ}
    (hs : ∀ x, l.accounts.get s = some x → x.owner ≠ w) (h : burn l m s au n = .ok l') :
    Spends w quiet 0 l l' := by
  obtain ⟨src, x, hsrc, -, -, -, -, -, -, rfl⟩ := burn_ok.mp h
  exact spends_of_kept hsrc (fun ho _ => absurd ho (hs src hsrc)) rfl

theorem mintTo_spends {m d au : K} {n : ℕ} (h : mintTo l m d au n = .ok l') :
    Spends w quiet 0 l l' := by
  obtain ⟨dst, -, hd, -, -, -, -, -, rfl⟩ := mintTo_ok h
  exact spends_of_credit hd rfl

theorem initializeAccount_spends {k m o : K} (h : initializeAccount l k m o = .ok l') :
    Spends w quiet 0 l l' := by
  obtain ⟨-, hnone, -, rfl⟩ := initializeAccount_ok h
  intro k' x hx _ _
  have hk : k' ≠ k := by
    rintro rfl
    rw [hnone] at hx
    cases hx
  exact ⟨x, (Store.get_set_of_ne hk _).trans hx, Drawn.refl x, fun _ => rfl⟩

theorem setMintAuthority_spends {m au : K} {o : Option K}
    (h : setMintAuthority l m au o = .ok l') : Spends w quiet 0 l l' := by
  obtain ⟨x, -, -, rfl⟩ := setMintAuthority_ok h
  exact spends_of_accounts rfl

theorem setFreezeAuthority_spends {m au : K} {o : Option K}
    (h : setFreezeAuthority l m au o = .ok l') : Spends w quiet 0 l l' := by
  obtain ⟨x, -, rfl⟩ := setFreezeAuthority_ok h
  exact spends_of_accounts rfl

/-! ### Instructions signed by others -/

/-- What an instruction takes out of the account `k`. -/
def Instruction.spent (k : K) : Instruction K → ℕ
  | .transferChecked s _ d _ n _ => if k = s ∧ s ≠ d then n else 0
  | .burn _ s _ n => if k = s then n else 0
  | _ => 0

variable [SystemAddresses K] {signed : K → Prop} [DecidablePred signed]

/-- **Ownership**: an instruction that neither `w` nor a quiet key has signed. -/
theorem exec_spends (hno : ¬ Nobody w) (hw : ¬ signed w) (hq : ∀ d, quiet d → ¬ signed d)
    {i : Instruction K} (h : exec signed l i = .ok l') : Spends w quiet i.spent l l' := by
  obtain ⟨hs, h⟩ := exec_ok h
  have hne : ∀ {au : K}, signed au → au ≠ w := fun hsig e => hw (e ▸ hsig)
  have hloud : ∀ {au : K}, signed au → ¬ quiet au := fun hsig hquiet => hq _ hquiet hsig
  -- a change over the signature of the owner
  have hown : ∀ {k : K} {x x' : TokenAccount K} {au : K}, signed au → x.owner = au →
      l.accounts.get k = some x →
      Spends w quiet 0 l { l with accounts := l.accounts.set k x' } := fun hsig ho hx =>
    spends_of_kept hx (fun e _ => absurd (ho.symm.trans e) (hne hsig)) rfl
  cases i with
  | initializeMint m dec mau fau =>
    simp only [Instruction.apply, initializeMint, bind_eq_ok, require_eq_ok, exists_unit,
      pure_eq_ok] at h
    obtain ⟨-, rfl⟩ := h
    exact spends_of_accounts rfl
  | initializeAccount k m o => exact initializeAccount_spends h
  | transferChecked s m d au n dec =>
    exact transferChecked_spends (hne (hs rfl)) (hloud (hs rfl)) h
  | approve k au dl n =>
    simp only [Instruction.apply, approve, bind_eq_ok, require_eq_ok, exists_unit, pure_eq_ok,
      account_eq_ok] at h
    obtain ⟨x, hx, -, ho, rfl⟩ := h
    exact hown (hs rfl) ho hx
  | revoke k au =>
    simp only [Instruction.apply, revoke, bind_eq_ok, require_eq_ok, exists_unit, pure_eq_ok,
      account_eq_ok] at h
    obtain ⟨x, hx, -, ho, rfl⟩ := h
    exact hown (hs rfl) ho hx
  | setAccountOwner k au o =>
    simp only [Instruction.apply, setAccountOwner, bind_eq_ok, require_eq_ok, exists_unit,
      pure_eq_ok, account_eq_ok] at h
    obtain ⟨x, hx, -, ho, rfl⟩ := h
    exact hown (hs rfl) ho hx
  | setCloseAuthority k au o =>
    obtain ⟨x, hx, hcl, rfl⟩ := setCloseAuthority_ok h
    exact spends_of_kept hx (fun _ hquiet => absurd (hcl ▸ hquiet) (hloud (hs rfl))) rfl
  | setMintAuthority m au o => exact setMintAuthority_spends h
  | setFreezeAuthority m au o => exact setFreezeAuthority_spends h
  | mintTo m d au n => exact mintTo_spends h
  | burn m s au n =>
    refine burn_spends hno (fun x hx ho => ?_) h
    have hsig : signed au := hs (somebody_signs hx (ho ▸ hno))
    exact ⟨hne hsig, hloud hsig⟩
  | setFrozen k au b =>
    simp only [Instruction.apply, setFrozen, bind_eq_ok, require_eq_ok, exists_unit, pure_eq_ok,
      account_eq_ok, mint_eq_ok] at h
    obtain ⟨x, hx, -, -, -, -, -, rfl⟩ := h
    refine spends_of_kept hx (fun _ _ => ?_) rfl
    exact ⟨rfl, rfl, Or.inl rfl, rfl, le_rfl, le_rfl⟩
  | closeAccount k d au =>
    obtain ⟨x, hx, -, hcl, rfl⟩ := closeAccount_ok h
    intro k' y hy ho hquiet
    have hk : k' ≠ k := by
      rintro rfl
      obtain rfl := Option.some.inj (hx.symm.trans hy)
      have hsome : ¬ Nobody x.owner := ho ▸ hno
      exact hloud (hs (somebody_signs hx hsome)) (hcl hsome ▸ hquiet)
    exact ⟨y, (Store.get_erase_of_ne hk).trans hy, Drawn.refl y, fun _ => rfl⟩

end Token
