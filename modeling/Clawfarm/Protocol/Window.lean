import Clawfarm.Protocol.Agreement

/-!
# Protocol.Window — the challenge window

The dates of a receipt, its challenge and its settlement are recorded by different instructions.
The history of a receipt ties them together: its settlement is paid out only after the window, or
after its one challenge has been rejected, and it is reverted only by the resolver, on a challenge
opened within the window (`WindowSafe`).
-/

namespace Protocol

open Checked Attestation
open Masterpool (ReceiptSettlementStatus wallet)

variable {host : Host}

theorem history_concat (as : List Action) (a : Action) (k : Pubkey) :
    history host (as ++ [a]) k = history host as k ++ (event host k (reached host as) a).toList :=
  Machine.emitted_concat _ _ _ _

/-- The status of a settlement changes only by an event of the protocol. -/
theorem event_of_change {as : List Action} {a : Action} {k : Pubkey} {st : ReceiptSettlementStatus}
    (hlink : Linked (reached host (as ++ [a]))) (hold : ¬ IsSettled (reached host as) k st)
    (hnew : IsSettled (reached host (as ++ [a])) k st) :
    ∃ e ph ph', Next e ph ph' ∧ (view (reached host as) k).Shows ph ∧
      (view (reached host (as ++ [a])) k).Shows ph' ∧ ph.History (history host as k) ∧
      history host (as ++ [a]) k = history host as k ++ [e] := by
  rw [history_concat]
  rw [reached_concat] at hlink hnew ⊢
  have hlink' := linked_of_step (by rw [reached_masterpool]; exact Masterpool.reached_wf _) hlink
  obtain ⟨ph, hpath, hsim⟩ := reached_path as hlink' k
  cases he : event host k (reached host as) a with
  | none =>
    rw [isSettled_iff, (hsim.unnoticed hlink he).2, ← isSettled_iff] at hnew
    exact absurd hnew hold
  | some e =>
    obtain ⟨ph', hnext, hsim'⟩ := hsim.event hlink he
    exact ⟨e, ph, ph', hnext, hsim.shows, hsim'.shows, path_history hpath, rfl⟩

/-- The settlement of `k` is paid out by the last event of `es`. -/
inductive PaidOut (s : System) (k : Pubkey) : List Event → Prop
  | unchallenged {t₀ t : Stamp} {r : Receipt} (hr : IsReceipt s k r) (hd : Dated t₀ r)
    (hnow : r.challengeDeadline < t.now) : PaidOut s k [.submitted t₀, .finalized t]
  | rejected {t₀ t₁ t : Stamp} {e : Event} (h : Rejects t₁ e) :
    PaidOut s k [.submitted t₀, .opened t₁, e, .finalized t]

/-- The settlement of `k` is reverted by the last event of `es`. -/
inductive TakenBack (s : System) (k : Pubkey) : List Event → Prop
  | accepted {t₀ t₁ : Stamp} {e : Event} {r : Receipt} (hr : IsReceipt s k r) (hd : Dated t₀ r)
    (hnow : t₁.now ≤ r.challengeDeadline) (h : Accepts e) :
    TakenBack s k [.submitted t₀, .opened t₁, e]

/-- Safety of the challenge window at the step `a` after the run `as`, for the receipt `k`. -/
structure WindowSafe (host : Host) (as : List Action) (a : Action) (k : Pubkey) : Prop where
  finalized : ¬ IsSettled (reached host as) k .FinalizedSettled →
    IsSettled (reached host (as ++ [a])) k .FinalizedSettled →
    PaidOut (reached host as) k (history host (as ++ [a]) k)
  reverted : ¬ IsSettled (reached host as) k .ChallengedReverted →
    IsSettled (reached host (as ++ [a])) k .ChallengedReverted →
    TakenBack (reached host as) k (history host (as ++ [a]) k)
  exclusive : ∀ r, IsReceipt (reached host as) k r → r.status = .Submitted →
    ∀ now c c' ctx ctx' ty hash s s', ctx.receipt = k → ctx'.receipt = k →
    openChallenge c now ctx ty hash (reached host as) = .ok s →
    finalizeReceipt c' now ctx' (reached host as) ≠ .ok s'

theorem open_excludes_finalize {s : System} {k : Pubkey} {r : Receipt} (hr : IsReceipt s k r)
    (hst : r.status = .Submitted) {now : ℤ} {c c' : Signers} {ctx : OpenChallenge}
    {ctx' : FinalizeReceipt} {ty : UInt8} {hash : Bytes32} {t t' : System} (hk : ctx.receipt = k)
    (hk' : ctx'.receipt = k) (h : openChallenge c now ctx ty hash s = .ok t) :
    finalizeReceipt c' now ctx' s ≠ .ok t' := by
  intro h'
  obtain ⟨r₁, x, m, hopen, -⟩ := openChallenge_ok h
  obtain ⟨g, r₂, r', m', hfin, -⟩ := finalizeReceipt_ok h'
  obtain rfl := Option.some.inj (hr.symm.trans (hk ▸ hopen.receipt))
  obtain rfl := Option.some.inj (hr.symm.trans (hk' ▸ hfin.receipt))
  have hwindow := hopen.window
  cases hfin.finalizable with
  | unchallenged _ hnow => omega
  | rejected hst' _ => exact nomatch hst.symm.trans hst'

/-- **Challenge-window safety**, at every step of every run. -/
theorem window_safe (host : Host) (as : List Action) (a : Action) (k : Pubkey)
    (hlink : Linked (reached host (as ++ [a]))) : WindowSafe host as a k where
  finalized hold hnew := by
    obtain ⟨e, ph, ph', hnext, hs, hs', hhist, heq⟩ := event_of_change hlink hold hnew
    rw [heq]
    rw [isSettled_iff] at hold hnew
    cases hnext with
    | submitted => exact nomatch hs'.2.1.symm.trans hnew
    | opened _ => exact nomatch hs'.2.1.symm.trans hnew
    | rejected _ => exact nomatch hs'.2.1.symm.trans hnew
    | accepted _ => exact nomatch hs'.2.1.symm.trans hnew
    | unchallenged hnow =>
      obtain ⟨⟨r, hr, hd, -⟩, -⟩ := hs
      rw [show _ = [_] from hhist]
      exact .unchallenged hr hd (hd.2 ▸ hnow)
    | settled =>
      obtain ⟨t₁, e, hes, -, hrej⟩ := hhist
      rw [hes]
      exact .rejected hrej
    | finalizedClosed => exact absurd hs.2.1 hold
    | revertedClosed => exact nomatch hs'.2.1.symm.trans hnew
  reverted hold hnew := by
    obtain ⟨e, ph, ph', hnext, hs, hs', hhist, heq⟩ := event_of_change hlink hold hnew
    rw [heq]
    rw [isSettled_iff] at hold hnew
    cases hnext with
    | submitted => exact nomatch hs'.2.1.symm.trans hnew
    | opened _ => exact nomatch hs'.2.1.symm.trans hnew
    | rejected _ => exact nomatch hs'.2.1.symm.trans hnew
    | accepted hacc =>
      obtain ⟨⟨r, hr, hd, -⟩, -⟩ := hs
      obtain ⟨hes, hnow⟩ := hhist
      rw [hes]
      exact .accepted hr hd (hd.2 ▸ hnow) hacc
    | unchallenged _ => exact nomatch hs'.2.1.symm.trans hnew
    | settled => exact nomatch hs'.2.1.symm.trans hnew
    | finalizedClosed => exact nomatch hs'.2.1.symm.trans hnew
    | revertedClosed => exact absurd hs.2.1 hold
  exclusive r hr hst now c c' ctx ctx' ty hash s s' hk hk' h :=
    open_excludes_finalize hr hst hk hk' h

/-! ## Paying out the rejected challenge -/

def finalization : Action :=
  .attestation parties 161 (.finalizeReceipt ⟨wallet 1, receiptKey, MASTERPOOL_ID,
    Masterpool.providerPendingUsdcVault, wallet 6, wallet 3⟩)

/-- The receipt of `rejection` is paid out. -/
theorem window_after_rejection :
    ¬ IsSettled (reached sampleHost rejection) receiptKey .FinalizedSettled ∧
      IsSettled (reached sampleHost (rejection ++ [finalization])) receiptKey .FinalizedSettled ∧
      WindowSafe sampleHost rejection finalization receiptKey := by
  refine ⟨fun h => ?_, isSettled_iff.mpr (by decide +kernel),
    window_safe sampleHost rejection finalization receiptKey (linked_of_config (g :=
      (reached sampleHost (rejection ++ [finalization])).masterpool.config.get (by decide +kernel))
      (Option.some_get _).symm (by decide +kernel))⟩
  exact absurd (isSettled_iff.mp h) (by decide +kernel)

end Protocol
