import Clawfarm.Masterpool.Owners
import Clawfarm.Protocol.Agreement

/-!
# Protocol.Owners — the funds of those who sign nothing

A wallet that signs nothing in a part of a run loses no more from a token account than the
allowance that it gave to a delegate, and each unit of it is the charge of a receipt, or was moved
or burned by the delegate itself (`owner_funds`).
-/

namespace Protocol

open Attestation Token

/-- The keys that sign an action. -/
def Action.keys : Action → List Pubkey
  | .attestation c _ _ => c.keys
  | .masterpool c _ _ => c.keys
  | .token c _ => c.keys

/-- What a step takes out of the token account `k`. -/
def spent (host : Host) (s : System) (a : Action) (k : Pubkey) : ℕ :=
  ((calls host s a).map (Masterpool.Action.spent k)).sum

variable {host : Host} {s s' : System} {w : Pubkey} {quiet : Pubkey → Prop}

/-- The attestation program signs its calls with its config, and with the keys of the action. -/
theorem signers_of_call {a : Action} {b : Masterpool.Action} (h : a.call = some b) {k : Pubkey}
    (hk : k ∈ b.signers) : k = configAddress ∨ k ∈ a.keys := by
  cases a with
  | masterpool c now i =>
    obtain rfl := Option.some.inj h
    exact Or.inr hk
  | token c i =>
    obtain rfl := Option.some.inj h
    exact Or.inr hk
  | attestation c now i =>
    obtain ⟨j, rfl, -⟩ := call_economic h
    exact List.mem_cons.mp hk

theorem step_spends {a : Action} (hs : Masterpool.Sound s.masterpool)
    (hw : w ≠ Masterpool.poolAuthority) (hno : ¬ Nobody w) (hc : w ≠ configAddress)
    (hsig : w ∉ a.keys)
    (hq : ∀ d, quiet d → d ≠ configAddress ∧ d ∉ a.keys) :
    Spends w quiet (spent host s a) s.masterpool.tokens (step host s a).masterpool.tokens := by
  rcases step_cases s a with ⟨e, he, h⟩ | h
  · rw [h]
    refine (Spends.refl _).congr fun k _ _ _ => ?_
    rw [spent, calls, he]
    rfl
  · have hout := Action.exec_callOutcome h
    have hspent : spent host s a =
        fun k => ((a.call.toList).map (Masterpool.Action.spent k)).sum := by
      unfold spent
      rw [calls_of_ok h]
    rw [hspent]
    cases ha : a.call with
    | none =>
      rw [hout.uncalled ha]
      exact Spends.refl _
    | some b =>
      have hb := Masterpool.Action.exec_spends hs hw hno
        (fun hk => (signers_of_call ha hk).elim hc hsig)
        (fun d hd hk => (signers_of_call ha hk).elim (hq d hd).1 (hq d hd).2) (hout.called b ha)
      exact hb.congr fun _ _ _ _ => List.sum_singleton.symm

theorem step_sound (hs : Masterpool.Sound s.masterpool) (a : Action) :
    Masterpool.Sound (step host s a).masterpool := by
  rw [step_masterpool]
  exact Machine.run_induction (P := Masterpool.Sound) (fun _ b h => Masterpool.step_sound h b) hs _

/-- `d` signs none of the actions `as`: the config signs what the attestation program calls. -/
def Silent (as : List Action) (d : Pubkey) : Prop := d ≠ configAddress ∧ ∀ a ∈ as, d ∉ a.keys

/-- **Funds of owners**: the token account `x` of a wallet that signs nothing in `bs`, where no
close authority signs either, stays its own with the same mint, the same close authority and no new
delegate; what leaves it is the charge of receipts and what the delegate itself moves or burns, all
of it within the allowance before; and nothing leaves it if the delegate signs nothing either. -/
theorem owner_funds (host : Host) (as bs : List Action) {w k : Pubkey} {x : TokenAccount Pubkey}
    (hw : w ≠ Masterpool.poolAuthority ∧ ¬ Nobody w) (hsig : Silent bs w)
    (hx : (reached host as).masterpool.tokens.accounts.get k = some x) (ho : x.owner = w)
    (hclose : ∀ d, x.closeAuthority = some d → Silent bs d) :
    ∃ x', (reached host (as ++ bs)).masterpool.tokens.accounts.get k = some x' ∧
      Drawn (Machine.total (step host) (spent host) (reached host as) bs k) x x' ∧
      ((∀ d, x.delegate = some d → Silent bs d) →
        Machine.total (step host) (spent host) (reached host as) bs k = 0) := by
  have hsound : Masterpool.Sound (reached host as).masterpool := by
    rw [reached_masterpool]
    exact Masterpool.reached_sound _
  have hrun := Machine.total_relation (P := fun s => Masterpool.Sound s.masterpool)
    (Q := fun b => w ∉ b.keys ∧ ∀ d, Silent bs d → d ≠ configAddress ∧ d ∉ b.keys)
    (R := fun f s s' => Spends w (Silent bs) f s.masterpool.tokens s'.masterpool.tokens)
    (f := spent host) (fun _ a h => step_sound h a) (fun _ => Spends.refl _)
    (fun _ _ _ _ _ h h' => h.trans h')
    (fun _ a h hb => step_spends h hw.1 hw.2 hsig.1 hb.1 hb.2) hsound
    fun b hb => ⟨hsig.2 b hb, fun d hd => ⟨hd.1, hd.2 b hb⟩⟩
  have hcloser : Silent bs x.closer := by
    rw [TokenAccount.closer]
    cases hc : x.closeAuthority with
    | none => exact ho.symm ▸ hsig
    | some d => exact hclose d hc
  rw [reached, Machine.run_append]
  exact hrun k x hx ho hcloser

/-! ## A receipt of a payer that does not sign -/

open Masterpool (wallet opening moderateRate)

/-- The gateway's transactions are signed by the authority and the payment delegate. -/
def gateway : Signers where
  keys := [1, 9].map wallet
  foreign := by decide

/-- The provider's signer is registered. -/
def enrolment : List Action := (opening moderateRate).map sent ++
  [.attestation parties 1 (.initializeConfig ⟨wallet 1, some (wallet 0), wallet 0, some (wallet 1)⟩
    ⟨wallet 1, wallet 1, wallet 1, MASTERPOOL_ID, 100, 50⟩),
   .attestation parties 1 (.upsertProviderSigner ⟨wallet 1⟩ ⟨wallet 4, wallet 5, 2, 0, 0⟩)]

def gatewaySubmission : Action :=
  .attestation gateway 10 (.submitReceipt receiptTransaction ⟨wallet 1, (wallet 5, wallet 4),
    wallet 7, wallet 1, wallet 9, wallet 8, MASTERPOOL_ID, wallet 5, Masterpool.treasuryUsdcVault,
    Masterpool.providerPendingUsdcVault, wallet 3⟩ receiptArgs)

theorem owner_funds_charged : ∃ x x',
    (reached sampleHost enrolment).masterpool.tokens.accounts.get (wallet 8) = some x ∧
    (reached sampleHost (enrolment ++ [gatewaySubmission])).masterpool.tokens.accounts.get
      (wallet 8) = some x' ∧ Drawn 1000000 x x' := by
  obtain ⟨x, hx, ho, hnone⟩ : ∃ x,
      (reached sampleHost enrolment).masterpool.tokens.accounts.get (wallet 8) = some x ∧
      x.owner = wallet 7 ∧ x.closeAuthority = none :=
    ⟨_, (Option.some_get (by decide +kernel)).symm, by decide +kernel, by decide +kernel⟩
  obtain ⟨x', hx', hdrawn, -⟩ := owner_funds sampleHost enrolment [gatewaySubmission]
    ⟨by decide, by decide⟩ ⟨by decide, by decide⟩ hx ho fun d hd => by
      rw [hnone] at hd
      cases hd
  have htotal : Machine.total (step sampleHost) (spent sampleHost) (reached sampleHost enrolment)
      [gatewaySubmission] (wallet 8) = 1000000 := by decide +kernel
  rw [htotal] at hdrawn
  exact ⟨x, x', hx, hx', hdrawn⟩

end Protocol
