import Clawfarm.Attestation.Layout
import Clawfarm.Protocol.Authorization

/-!
# Protocol.Hashes — a receipt hash identifies one receipt

Every receipt carries the hash of what was submitted for it, its nonce included
(`reached_receipt_hashed`).  So two receipts with one hash would be a collision of the hash function
on two preimages of the run, or have one nonce and thus one address.
-/

namespace Protocol

open Checked Attestation

variable {host : Host} {as : List Action} {k k' : Pubkey} {r r' : Receipt}

/-! ## What a run hashes -/

/-- What a submission that succeeds has hashed. -/
def hashedBy (host : Host) (s : System) (a : Action) : List CompactReceiptHashInputs :=
  match a with
  | .attestation _ _ (.submitReceipt _ ctx args) =>
    if (a.exec host s).toOption.isSome then [ctx.inputs args] else []
  | _ => []

/-- What the submissions of a run have hashed. -/
def hashedInputs (host : Host) (as : List Action) : List CompactReceiptHashInputs :=
  Machine.emitted (step host) (hashedBy host) .init as

/-- The hash function has no collision on these preimages. -/
def NoCollisions (host : Host) (inputs : List CompactReceiptHashInputs) : Prop :=
  ∀ i ∈ inputs, ∀ i' ∈ inputs, host.hash (i.preimage host) = host.hash (i'.preimage host) →
    i.preimage host = i'.preimage host

instance (host : Host) (inputs : List CompactReceiptHashInputs) :
    Decidable (NoCollisions host inputs) :=
  inferInstanceAs (Decidable (∀ i ∈ inputs, ∀ i' ∈ inputs, _ → _))

theorem hashedInputs_concat (as : List Action) (a : Action) :
    hashedInputs host (as ++ [a]) = hashedInputs host as ++ hashedBy host (reached host as) a :=
  Machine.emitted_concat _ _ _ _

/-! ## Every receipt carries a hash of the run -/

/-- The receipt `r` at `k` is the one of the inputs `i`. -/
def IsHashOf (host : Host) (i : CompactReceiptHashInputs) (k : Pubkey) (r : Receipt) : Prop :=
  receiptAddress i.requestNonceHash = k ∧ r.receiptHash = buildCompactReceiptHash host i

theorem step_receipt_hashed {s : System} {a : Action} (hr' : IsReceipt (step host s a) k r') :
    (∃ r, IsReceipt s k r ∧ r'.receiptHash = r.receiptHash) ∨
      ∃ i ∈ hashedBy host s a, IsHashOf host i k r' := by
  rcases step_receipt hr' with ⟨r, hr, hkept⟩ | ⟨c, now, sysvar, ctx, args, rfl, rfl, hok⟩
  · exact Or.inl ⟨r, hr, hkept.receiptHash⟩
  · refine Or.inr ⟨ctx.inputs args, ?_, rfl, ?_⟩
    · rw [hashedBy, hok]
      exact List.mem_singleton.mpr rfl
    · obtain ⟨signer, x, hauth⟩ := submitReceipt_authorizes hok
      obtain ⟨r₁, hr₁, hhash, -⟩ := hauth.receipt
      obtain rfl : r' = r₁ := Option.some.inj (hr'.symm.trans hr₁)
      exact hhash.trans (submitReceipt_hash hok)

theorem reached_receipt_hashed (hr : IsReceipt (reached host as) k r) :
    ∃ i ∈ hashedInputs host as, IsHashOf host i k r := by
  induction as using List.reverseRecOn generalizing r with
  | nil => cases hr
  | append_singleton as a ih =>
    rw [reached_concat] at hr
    rw [hashedInputs_concat]
    rcases step_receipt_hashed hr with ⟨r₀, hr₀, hhash⟩ | ⟨i, hi, hnew⟩
    · obtain ⟨i, hi, hk, hold⟩ := ih hr₀
      exact ⟨i, List.mem_append_left _ hi, hk, hhash.trans hold⟩
    · exact ⟨i, List.mem_append_right _ hi, hnew⟩

/-- **Uniqueness**: without a collision, receipts with one hash are one receipt. -/
theorem receipt_unique (hcollisions : NoCollisions host (hashedInputs host as))
    (hr : IsReceipt (reached host as) k r) (hr' : IsReceipt (reached host as) k' r')
    (h : r.receiptHash = r'.receiptHash) : k = k' ∧ r = r' := by
  obtain ⟨i, hi, rfl, hhash⟩ := reached_receipt_hashed hr
  obtain ⟨i', hi', rfl, hhash'⟩ := reached_receipt_hashed hr'
  have hsame := preimage_inj (hcollisions i hi i' hi' (hhash.symm.trans (h.trans hhash')))
  have hk : receiptAddress i.requestNonceHash = receiptAddress i'.requestNonceHash :=
    congrArg receiptAddress hsame.requestNonceHash
  exact ⟨hk, Option.some.inj (hr.symm.trans ((congrArg _ hk).trans hr'))⟩

end Protocol
