import Clawfarm.Masterpool.Payments
import Clawfarm.Protocol.Program

/-!
# Protocol.Payments — a settlement is paid once

The life of a settlement in a run of both programs: its terms are fixed, it leaves `Recorded` at
most once, and what has left the escrow on its behalf is nothing before and its provider share
after, to the provider or back to the payer.
-/

namespace Protocol

open Attestation
open Masterpool (ReceiptSettlement SettlementStep)

variable (host : Host)

/-- The total of a measure of masterpool steps over a run. -/
def total (f : Masterpool.State → Masterpool.Action → Masterpool.State → ℕ) (as : List Action) : ℕ :=
  Machine.total Masterpool.step (fun s a => f s a (Masterpool.step s a)) .init (trace host as)

/-- The life of the settlement `x` of the receipt `k` up to the end of the run `as`. -/
structure SettlementLife (as : List Action) (k : Pubkey) (x : ReceiptSettlement) : Prop where
  once : ∀ bs, ∃ y, (reached host (as ++ bs)).masterpool.settlements.get k = some y ∧
    SettlementStep x y
  outflow : total host (Masterpool.outflow k) as =
    if x.status = .Recorded then 0 else x.usdcToProvider
  credited : ∀ w, total host (Masterpool.creditedTo k w) as =
    if x.status = .FinalizedSettled ∧ x.providerWallet = w ∨
      x.status = .ChallengedReverted ∧ x.payerUser = w then x.usdcToProvider else 0
  payouts : total host (fun s a _ => Masterpool.payouts k s a) as =
    if x.status = .FinalizedSettled then 1 else 0
  refunds : total host (fun s a _ => Masterpool.refunds k s a) as =
    if x.status = .ChallengedReverted then 1 else 0

/-- Every settlement starts as `Recorded`, lives as `SettlementLife` says, and nothing leaves the
escrow but on behalf of a settlement. -/
structure PaidOnce (as : List Action) : Prop where
  created : ∀ a k x, (reached host as).masterpool.settlements.get k = none →
    (reached host (as ++ [a])).masterpool.settlements.get k = some x → x.status = .Recorded
  life : ∀ k x, (reached host as).masterpool.settlements.get k = some x →
    SettlementLife host as k x
  attributed : ∀ a : Masterpool.Action, a.payee = none →
    Masterpool.vaultOutflow (reached host as).masterpool
      (Masterpool.step (reached host as).masterpool a) = 0

variable {host}

theorem trace_append (as bs : List Action) : trace host (as ++ bs) =
    trace host as ++ Machine.emitted (step host) (calls host) (reached host as) bs :=
  Machine.emitted_append _ _ _ _

/-- The masterpool only grows along a run. -/
theorem reached_grows (as bs : List Action) :
    Masterpool.Grows (reached host as).masterpool (reached host (as ++ bs)).masterpool := by
  rw [reached_masterpool, reached_masterpool, trace_append, Masterpool.reached_append]
  exact Masterpool.run_grows (Masterpool.reached_wf _) _

/-- The four totals of a settlement. -/
theorem total_payments (k w : Pubkey) (as : List Action) :
    (total host (Masterpool.outflow k) as, total host (Masterpool.creditedTo k w) as,
      total host (fun s a _ => Masterpool.payouts k s a) as,
      total host (fun s a _ => Masterpool.refunds k s a) as) =
        (reached host as).masterpool.paid k w := by
  rw [reached_masterpool, ← Masterpool.run_paid]
  simp only [Masterpool.payments, Machine.total_mk]
  rfl

/-- **Settlements are paid once**, whatever the two programs are called to do. -/
theorem paid_once (host : Host) (as : List Action) : PaidOnce host as where
  created a k x hnone hx := by
    rw [reached_masterpool] at hnone
    rw [reached_concat, step_masterpool, reached_masterpool] at hx
    unfold calls at hx
    split_ifs at hx with hok
    · cases ha : a.call with
      | none =>
        rw [ha] at hx
        exact nomatch hnone.symm.trans hx
      | some b =>
        rw [ha] at hx
        exact (Masterpool.step_effect (Masterpool.reached_wf _).sound b).created hnone hx
    · exact nomatch hnone.symm.trans hx
  life k x hx := by
    have htotal : ∀ w, _ = x.paid w := fun w =>
      (total_payments k w as).trans (Store.term_some hx fun _ x => x.paid w)
    simp only [ReceiptSettlement.paid_eq, Prod.mk.injEq] at htotal
    obtain ⟨hout, -, hpay, href⟩ := htotal x.providerWallet
    exact ⟨fun bs => (reached_grows as bs).settlements k x hx, hout, fun w => (htotal w).2.1, hpay,
      href⟩
  attributed a ha := by
    rw [reached_masterpool]
    exact (Masterpool.step_effect (Masterpool.reached_wf _).sound a).attributed
      (Masterpool.reached_wf _) ha

end Protocol
