import Clawfarm.Attestation.Submission
import Clawfarm.Protocol.Agreement
import Clawfarm.Protocol.Payments
import Clawfarm.Protocol.Replay

/-!
# Protocol.Authorization — every charge is authorised

A settlement comes into being by a submission (`submitted_of_created`), which has checked what
`Authorizes` says.  Receipts and settlements keep their parties, and nothing is submitted through a
revoked entry until it is written again.
-/

namespace Protocol

open Checked Attestation
open Masterpool (ReceiptSettlement SettlementStep)

variable {host : Host}

/-! ## Who creates settlements -/

theorem event_submitted {s : System} {a : Action} {k : Pubkey} {t : Stamp}
    (h : event host k s a = some (.submitted t)) : ∃ c now sysvar ctx args,
      a = .attestation c now (.submitReceipt sysvar ctx args) ∧
        receiptAddress args.requestNonceHash = k ∧ a.exec host s = .ok (step host s a) := by
  rcases step_cases s a with ⟨e, he, -⟩ | hok
  · cases (event_of_error he k).symm.trans h
  · cases a with
    | attestation c now i =>
      rw [event, hok] at h
      simp only [Except.toOption, Option.isSome_some, if_true, Option.bind_eq_some_iff] at h
      obtain ⟨g, -, o, ho, h⟩ := h
      split_ifs at h with hk
      cases i with
      | submitReceipt sysvar ctx args =>
        obtain rfl := Option.some.inj ho
        exact ⟨c, now, sysvar, ctx, args, rfl, hk, hok⟩
      | openChallenge ctx ty hash =>
        obtain rfl := Option.some.inj ho
        cases Option.some.inj h
      | resolveChallenge ctx code =>
        obtain ⟨rc, -, rfl⟩ := Option.map_eq_some_iff.mp ho
        cases Option.some.inj h
      | timeoutRejectChallenge ctx =>
        obtain rfl := Option.some.inj ho
        cases Option.some.inj h
      | finalizeReceipt ctx =>
        obtain rfl := Option.some.inj ho
        cases Option.some.inj h
      | closeReceipt ctx =>
        obtain rfl := Option.some.inj ho
        cases Option.some.inj h
      | closeChallenge ctx => cases ho
      | initializeConfig ctx args => cases ho
      | upsertProviderSigner ctx args => cases ho
      | setPause ctx b => cases ho
      | revokeProviderSigner ctx signer wallet => cases ho
    | masterpool c now i => cases h
    | token c i => cases h

/-- The settlement of a receipt comes into being by its submission. -/
theorem submitted_of_created {as : List Action} {a : Action} {k : Pubkey}
    (hlink : Linked (reached host (as ++ [a])))
    (hnone : (view (reached host as) k).settlement = none)
    (hsome : (view (reached host (as ++ [a])) k).settlement ≠ none) :
    ∃ c now sysvar ctx args, a = .attestation c now (.submitReceipt sysvar ctx args) ∧
      receiptAddress args.requestNonceHash = k ∧
        a.exec host (reached host as) = .ok (reached host (as ++ [a])) := by
  rw [reached_concat] at hlink hsome ⊢
  have hlink' := linked_of_step (by rw [reached_masterpool]; exact Masterpool.reached_wf _) hlink
  obtain ⟨ph, -, hsim⟩ := reached_path as hlink' k
  cases he : event host k (reached host as) a with
  | none =>
    rw [(hsim.unnoticed hlink he).2] at hsome
    exact absurd hnone hsome
  | some e =>
    obtain ⟨ph', hnext, -⟩ := hsim.event hlink he
    have hs := hsim.shows
    cases hnext with
    | submitted => exact event_submitted he
    | opened _ => exact nomatch hs.2.1.symm.trans hnone
    | rejected _ => exact nomatch hs.2.1.symm.trans hnone
    | accepted _ => exact nomatch hs.2.1.symm.trans hnone
    | unchallenged _ => exact nomatch hs.2.1.symm.trans hnone
    | settled => exact nomatch hs.2.1.symm.trans hnone
    | finalizedClosed => exact nomatch hs.2.1.symm.trans hnone
    | revertedClosed => exact nomatch hs.2.1.symm.trans hnone

/-! ## The parties of a receipt -/

/-- The same receipt later: what it was submitted with is unchanged. -/
structure ReceiptStep (r r' : Receipt) : Prop where
  receiptHash : r'.receiptHash = r.receiptHash
  signer : r'.signer = r.signer
  payerUser : r'.payerUser = r.payerUser
  providerWallet : r'.providerWallet = r.providerWallet

theorem ReceiptStep.refl (r : Receipt) : ReceiptStep r r := ⟨rfl, rfl, rfl, rfl⟩

theorem finalizeStatus_step {now : ℤ} {r r' : Receipt} (h : finalizeStatus now r = .ok r') :
    ReceiptStep r r' := by
  unfold finalizeStatus at h
  split at h
  · simp only [bind_eq_ok, exists_unit, pure_eq_ok] at h
    obtain ⟨-, rfl⟩ := h
    exact ⟨rfl, rfl, rfl, rfl⟩
  · simp only [bind_eq_ok, exists_unit, pure_eq_ok] at h
    obtain ⟨-, rfl⟩ := h
    exact .refl r
  · cases h

/-- A receipt after a step is one from before, or it has just been submitted. -/
theorem exec_receipt {c : Signers} {now : ℤ} {s s' : System} {i : Instruction}
    (h : exec host c now s i = .ok s') {k : Pubkey} {r' : Receipt} (hr' : IsReceipt s' k r') :
    (∃ r, IsReceipt s k r ∧ ReceiptStep r r') ∨ ∃ sysvar ctx args,
      i = .submitReceipt sysvar ctx args ∧ receiptAddress args.requestNonceHash = k := by
  have hsame : s'.attestation.receipts = s.attestation.receipts →
      ∃ r, IsReceipt s k r ∧ ReceiptStep r r' := fun heq =>
    ⟨r', by rw [IsReceipt, ← heq]; exact hr', .refl r'⟩
  have hset : ∀ {j r r₁}, s.attestation.receipts.get j = some r →
      (s.attestation.receipts.set j r₁).get k = some r' → ReceiptStep r r₁ →
      ∃ r, IsReceipt s k r ∧ ReceiptStep r r' := by
    intro j r r₁ hr hr₁ hstep
    rcases Store.get_set_cases hr₁ with ⟨rfl, rfl⟩ | ⟨-, hold⟩
    · exact ⟨r, hr, hstep⟩
    · exact ⟨r', hold, .refl r'⟩
  cases i with
  | initializeConfig ctx args => exact Or.inl (hsame (initializeConfig_administers h).receipts)
  | upsertProviderSigner ctx args =>
    exact Or.inl (hsame (upsertProviderSigner_administers h).receipts)
  | setPause ctx b => exact Or.inl (hsame (setPause_administers h).receipts)
  | revokeProviderSigner ctx signer wallet =>
    exact Or.inl (hsame (revokeProviderSigner_administers h).receipts)
  | submitReceipt sysvar ctx args =>
    obtain ⟨g, r, m, -, rfl⟩ := submitReceipt_ok h
    rcases Store.get_set_cases hr' with ⟨rfl, -⟩ | ⟨-, hold⟩
    · exact Or.inr ⟨sysvar, ctx, args, rfl, rfl⟩
    · exact Or.inl ⟨r', hold, .refl r'⟩
  | openChallenge ctx ty hash =>
    obtain ⟨r, x, m, hm, rfl⟩ := openChallenge_ok h
    exact Or.inl (hset hm.receipt hr' ⟨rfl, rfl, rfl, rfl⟩)
  | resolveChallenge ctx code =>
    obtain ⟨rc, r, x, cs, rs, settled, m, -, -, hm, rfl⟩ := resolveChallenge_ok h
    exact Or.inl (hset hm.receipt hr' ⟨rfl, rfl, rfl, rfl⟩)
  | timeoutRejectChallenge ctx =>
    obtain ⟨r, x, cs, rs, settled, m, -, hm, rfl⟩ := timeoutRejectChallenge_ok h
    exact Or.inl (hset hm.receipt hr' ⟨rfl, rfl, rfl, rfl⟩)
  | finalizeReceipt ctx =>
    simp only [exec, finalizeReceipt, bind_eq_ok, load_eq_ok, pure_eq_ok] at h
    obtain ⟨-, -, r, hr, -, -, r₁, hr₁, m, -, rfl⟩ := h
    have hstep := finalizeStatus_step hr₁
    exact Or.inl (hset hr hr'
      ⟨hstep.receiptHash, hstep.signer, hstep.payerUser, hstep.providerWallet⟩)
  | closeChallenge ctx =>
    obtain ⟨x, -, rfl⟩ := closeChallenge_ok h
    exact Or.inl (hsame rfl)
  | closeReceipt ctx =>
    obtain ⟨r, -, rfl⟩ := closeReceipt_ok h
    exact Or.inl ⟨r', (Store.get_erase_some hr').2, .refl r'⟩

/-- The same over a step of the system. -/
theorem step_receipt {s : System} {a : Action} {k : Pubkey} {r' : Receipt}
    (hr' : IsReceipt (step host s a) k r') : (∃ r, IsReceipt s k r ∧ ReceiptStep r r') ∨
      ∃ c now sysvar ctx args, a = .attestation c now (.submitReceipt sysvar ctx args) ∧
        receiptAddress args.requestNonceHash = k ∧ a.exec host s = .ok (step host s a) := by
  rcases step_cases s a with ⟨e, -, heq⟩ | hok
  · rw [heq] at hr'
    exact Or.inl ⟨r', hr', .refl r'⟩
  · cases a with
    | attestation c now i =>
      rcases exec_receipt hok hr' with hold | ⟨sysvar, ctx, args, rfl, hk⟩
      · exact Or.inl hold
      · exact Or.inr ⟨c, now, sysvar, ctx, args, rfl, hk, hok⟩
    | masterpool c now i =>
      obtain ⟨m, -, heq⟩ := execMasterpool_eq_ok.mp hok
      rw [heq] at hr'
      exact Or.inl ⟨r', hr', .refl r'⟩
    | token c i =>
      obtain ⟨m, -, heq⟩ := execMasterpool_eq_ok.mp hok
      rw [heq] at hr'
      exact Or.inl ⟨r', hr', .refl r'⟩

/-- A receipt names the parties of its settlement. -/
def SameParties (r : Receipt) (x : ReceiptSettlement) : Prop :=
  r.payerUser = x.payerUser ∧ r.providerWallet = x.providerWallet

/-- Every receipt has a settlement with the same parties. -/
structure Paired (s : System) : Prop where
  wf : Masterpool.Wf s.masterpool
  parties : ∀ k r, IsReceipt s k r → ∃ x, s.masterpool.settlements.get k = some x ∧ SameParties r x

theorem paired_init : Paired .init := ⟨Masterpool.wf_init, fun _ _ h => nomatch h⟩

theorem step_paired {s : System} (h : Paired s) (a : Action) : Paired (step host s a) := by
  refine ⟨step_wf h.wf a, fun k r' hr' => ?_⟩
  rcases step_receipt hr' with ⟨r, hr, hkept⟩ | ⟨c, now, sysvar, ctx, args, rfl, rfl, hok⟩
  · obtain ⟨x, hx, hpay, hprov⟩ := h.parties k r hr
    obtain ⟨x', hx', hstep⟩ := (step_grows h.wf a).settlements k x hx
    exact ⟨x', hx', (hkept.payerUser.trans hpay).trans hstep.payerUser.symm,
      (hkept.providerWallet.trans hprov).trans hstep.providerWallet.symm⟩
  · obtain ⟨signer, x, hauth⟩ := submitReceipt_authorizes hok
    obtain ⟨r₁, hr₁, -, -, hpay, hprov⟩ := hauth.receipt
    obtain rfl : r' = r₁ := Option.some.inj (hr'.symm.trans hr₁)
    exact ⟨x, hauth.created, hpay, hprov⟩

/-! ## Revoked entries -/

/-- The entry `e` is written. -/
def Action.upserts (e : Pubkey × Pubkey) : Action → Bool
  | .attestation _ _ (.upsertProviderSigner _ args) => (args.providerWallet, args.signer) = e
  | _ => false

/-- A receipt is submitted through the entry `e`. -/
def Action.submitsThrough (e : Pubkey × Pubkey) : Action → Bool
  | .attestation _ _ (.submitReceipt _ ctx _) => ctx.providerSigner = e
  | _ => false

theorem exec_revoked {c : Signers} {now : Int64} {s s' : System} {i : Instruction}
    {e : Pubkey × Pubkey} (hrev : IsRevoked s e)
    (hno : (Action.attestation c now i).upserts e = false)
    (h : exec host c now.toInt s i = .ok s') : IsRevoked s' e := by
  cases i with
  | initializeConfig ctx args =>
    obtain ⟨g, -, rfl⟩ := initializeConfig_ok h
    exact hrev
  | upsertProviderSigner ctx args =>
    obtain ⟨g', entry, -, rfl⟩ := upsertProviderSigner_ok h
    obtain ⟨entry', hentry', hst⟩ := hrev
    exact ⟨entry', (Store.get_set_of_ne (Ne.symm (of_decide_eq_false hno)) _).trans hentry', hst⟩
  | setPause ctx b =>
    obtain ⟨g, -, rfl⟩ := setPause_ok h
    exact hrev
  | revokeProviderSigner ctx signer wallet =>
    obtain ⟨g', entry, -, rfl⟩ := revokeProviderSigner_ok h
    obtain ⟨entry', hentry', hst⟩ := hrev
    by_cases he : e = (wallet, signer)
    · exact ⟨_, by rw [he, Store.get_set_self], rfl⟩
    · exact ⟨entry', (Store.get_set_of_ne he _).trans hentry', hst⟩
  | submitReceipt sysvar ctx args =>
    obtain ⟨g, r, m, -, rfl⟩ := submitReceipt_ok h
    exact hrev
  | openChallenge ctx ty hash =>
    obtain ⟨r, x, m, -, rfl⟩ := openChallenge_ok h
    exact hrev
  | resolveChallenge ctx code =>
    obtain ⟨rc, r, x, cs, rs, settled, m, -, -, -, rfl⟩ := resolveChallenge_ok h
    exact hrev
  | timeoutRejectChallenge ctx =>
    obtain ⟨r, x, cs, rs, settled, m, -, -, rfl⟩ := timeoutRejectChallenge_ok h
    exact hrev
  | finalizeReceipt ctx =>
    obtain ⟨g, r, r', m, -, rfl⟩ := finalizeReceipt_ok h
    exact hrev
  | closeChallenge ctx =>
    obtain ⟨x, -, rfl⟩ := closeChallenge_ok h
    exact hrev
  | closeReceipt ctx =>
    obtain ⟨r, -, rfl⟩ := closeReceipt_ok h
    exact hrev

theorem step_revoked {s : System} {a : Action} {e : Pubkey × Pubkey} (hrev : IsRevoked s e)
    (hno : (a.upserts e && (a.exec host s).toOption.isSome) = false) :
    IsRevoked (step host s a) e := by
  rcases step_cases s a with ⟨e, -, heq⟩ | hok
  · rw [heq]
    exact hrev
  · rw [hok, Except.toOption, Option.isSome_some, Bool.and_true] at hno
    cases a with
    | attestation c now i => exact exec_revoked hrev hno hok
    | masterpool c now i =>
      obtain ⟨m, -, heq⟩ := execMasterpool_eq_ok.mp hok
      rw [heq]
      exact hrev
    | token c i =>
      obtain ⟨m, -, heq⟩ := execMasterpool_eq_ok.mp hok
      rw [heq]
      exact hrev

theorem submitsThrough_blocked {s : System} {e : Pubkey × Pubkey} (hrev : IsRevoked s e)
    (a : Action) : (a.submitsThrough e && (a.exec host s).toOption.isSome) = false := by
  rw [Bool.and_eq_false_iff]
  rcases step_cases s a with ⟨e', he, -⟩ | hok
  · right
    rw [he]
    rfl
  · left
    unfold Action.submitsThrough
    split
    · refine decide_eq_false fun he => ?_
      subst he
      exact hrev.blocks hok
    · rfl

/-! ## Runs -/

/-- How many actions of the kind `p` succeed in the run `bs` after the run `as`. -/
def successesAfter (host : Host) (p : Action → Bool) (as bs : List Action) : ℕ :=
  Machine.count (step host) (fun s a => p a && (a.exec host s).toOption.isSome) (reached host as) bs

/-- The settlement `x` of the receipt `k` stems from an authorised submission in the run `as`. -/
inductive Stems (host : Host) (as : List Action) (k : Pubkey) (x : ReceiptSettlement) : Prop
  | submission {pre post : List Action} {c : Signers} {now : Int64} {sysvar : InstructionsSysvar}
    {ctx : SubmitReceipt} {args : SubmitReceiptArgs} {signer : Pubkey} {x₀ : ReceiptSettlement}
    (hrun : as = pre ++ .attestation c now (.submitReceipt sysvar ctx args) :: post)
    (hk : receiptAddress args.requestNonceHash = k)
    (h : Authorizes host now.toInt sysvar ctx args (reached host pre)
      (reached host (pre ++ [.attestation c now (.submitReceipt sysvar ctx args)])) signer x₀)
    (hx : SettlementStep x₀ x)

/-- Every charge of the run `as` is authorised. -/
structure Authorized (host : Host) (as : List Action) : Prop where
  stems : ∀ k x, (reached host as).masterpool.settlements.get k = some x → Stems host as k x
  parties : ∀ k r, IsReceipt (reached host as) k r →
    ∃ x, (reached host as).masterpool.settlements.get k = some x ∧ SameParties r x
  revoked : ∀ pre post c now ctx signer wallet s',
    as = pre ++ .attestation c now (.revokeProviderSigner ctx signer wallet) :: post →
    (Action.attestation c now (.revokeProviderSigner ctx signer wallet)).exec host
      (reached host pre) = .ok s' →
    successesAfter host (·.upserts (wallet, signer))
      (pre ++ [.attestation c now (.revokeProviderSigner ctx signer wallet)]) post = 0 →
    successesAfter host (·.submitsThrough (wallet, signer))
      (pre ++ [.attestation c now (.revokeProviderSigner ctx signer wallet)]) post = 0

theorem reached_paired (as : List Action) : Paired (reached host as) :=
  Machine.run_induction (P := Paired) (fun _ a h => step_paired h a) paired_init as

/-- The masterpool is linked at the end of a run only if it has been all along. -/
theorem linked_of_append {as bs : List Action} (h : Linked (reached host (as ++ bs))) :
    Linked (reached host as) := by
  induction bs using List.reverseRecOn with
  | nil => rwa [List.append_nil] at h
  | append_singleton bs b ih =>
    rw [← List.append_assoc, reached_concat] at h
    exact ih (linked_of_step (reached_paired _).wf h)

theorem stems_of_settlement {as : List Action} (hlink : Linked (reached host as)) {k : Pubkey}
    {x : ReceiptSettlement} (hx : (reached host as).masterpool.settlements.get k = some x) :
    Stems host as k x := by
  have hnone : ∀ s, ¬ Settled k s.masterpool → (view s k).settlement = none := fun s hs => by
    rw [view, Option.map_eq_none_iff, Option.eq_none_iff_forall_ne_some]
    exact fun y hy => hs ⟨y, hy⟩
  have hsettled : Settled k (Machine.run (step host) .init as).masterpool := ⟨x, hx⟩
  have hstart : ¬ Settled k (System.init).masterpool := by
    rintro ⟨_, h⟩
    cases h
  obtain ⟨pre, a, post, rfl, hnot, y, hy⟩ := Machine.exists_step
    (P := fun s : System => Settled k s.masterpool) hstart hsettled
  rw [List.append_cons] at hlink
  obtain ⟨c, now, sysvar, ctx, args, rfl, rfl, hok⟩ :=
    submitted_of_created (linked_of_append hlink) (hnone _ hnot) (by
      intro h
      cases hy.symm.trans (Option.map_eq_none_iff.mp h))
  obtain ⟨signer, x₀, hauth⟩ := submitReceipt_authorizes hok
  refine .submission rfl rfl hauth ?_
  obtain ⟨x', hx', hstep⟩ := (reached_grows _ post).settlements _ x₀ hauth.created
  rw [← List.append_cons] at hx'
  rwa [Option.some.inj (hx.symm.trans hx')]

/-- **Every charge is authorised**, in every run. -/
theorem authorized (host : Host) (as : List Action) (hlink : Linked (reached host as)) :
    Authorized host as where
  stems _ _ hx := stems_of_settlement hlink hx
  parties := (reached_paired as).parties
  revoked pre post c now ctx signer wallet s' _ hok hno := by
    refine Machine.count_eq_zero (I := fun s => IsRevoked s (wallet, signer))
      (fun s a h => submitsThrough_blocked h a) (fun s a h hq => step_revoked h hq) ?_ hno
    rw [reached_concat, step_of_ok hok]
    exact revokeProviderSigner_revokes hok

/-- The receipt of `submission` is authorised. -/
theorem authorized_submission :
    (∃ x, (reached sampleHost submission).masterpool.settlements.get receiptKey = some x) ∧
      Authorized sampleHost submission := by
  refine ⟨⟨((reached sampleHost submission).masterpool.settlements.get receiptKey).get
    (by decide +kernel), (Option.some_get _).symm⟩,
    authorized sampleHost submission (linked_of_config (g :=
      (reached sampleHost submission).masterpool.config.get (by decide +kernel))
      (Option.some_get _).symm (by decide +kernel))⟩

end Protocol
