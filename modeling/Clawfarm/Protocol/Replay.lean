import Clawfarm.Protocol.Progress

/-!
# Protocol.Replay — nothing happens twice

Closed receipts and challenges leave addresses at which the attestation program could create them
again.  The masterpool never closes a settlement or a bond record, so each submission, opening and
resolution needs a mark that is not set yet, and sets it for good (`successes_le_one`).
-/

namespace Protocol

open Checked Attestation

/-! ## What is counted -/

/-- The submission of a receipt with this nonce. -/
def Action.submits (requestNonceHash : Bytes32) : Action → Bool
  | .attestation _ _ (.submitReceipt _ _ args) => args.requestNonceHash = requestNonceHash
  | _ => false

/-- A challenge of the receipt `k` is opened. -/
def Action.opens (k : Pubkey) : Action → Bool
  | .attestation _ _ (.openChallenge ctx _ _) => ctx.receipt = k
  | _ => false

/-- A challenge of the receipt `k` is resolved, by the resolver or after its timeout. -/
def Action.resolves (k : Pubkey) : Action → Bool
  | .attestation _ _ (.resolveChallenge ctx _) => ctx.accounts.receipt = k
  | .attestation _ _ (.timeoutRejectChallenge ctx) => ctx.accounts.receipt = k
  | _ => false

/-- The payer of the receipt `k` is charged. -/
def charges (k : Pubkey) : Masterpool.Action → Bool
  | .call _ _ (.recordMiningFromReceipt ctx _) => ctx.attestationReceipt = k
  | _ => false

/-- How many actions of the kind `p` succeed in a run. -/
def successes (host : Host) (p : Action → Bool) (as : List Action) : ℕ :=
  Machine.count (step host) (fun s a => p a && (a.exec host s).toOption.isSome) .init as

/-- How often the payer of the receipt `k` is charged in a run, by whatever call. -/
def charged (host : Host) (k : Pubkey) (as : List Action) : ℕ :=
  Machine.count Masterpool.step (fun s a => charges k a && (a.exec s).toOption.isSome) .init
    (trace host as)

/-- Nothing about a receipt happens twice in the run `as`. -/
structure NoReplay (host : Host) (as : List Action) : Prop where
  submitted : ∀ n, successes host (·.submits n) as ≤ 1
  charged : ∀ n, charged host (receiptAddress n) as ≤ 1
  opened : ∀ k, successes host (·.opens k) as ≤ 1
  resolved : ∀ k, successes host (·.resolves k) as ≤ 1

/-! ## Challenges are where their receipt says -/

variable {host : Host}

def ChallengesKeyed (s : System) : Prop :=
  ∀ j x, s.attestation.challenges.get j = some x → j = challengeAddress x.receipt

theorem exec_challengesKeyed {c : Signers} {now : ℤ} {s s' : System} {i : Instruction}
    (hk : ChallengesKeyed s) (h : exec host c now s i = .ok s') : ChallengesKeyed s' := by
  have hsame : s'.attestation.challenges = s.attestation.challenges → ChallengesKeyed s' := by
    intro heq j x hx
    rw [heq] at hx
    exact hk j x hx
  cases i with
  | initializeConfig ctx args => exact hsame (initializeConfig_administers h).challenges
  | upsertProviderSigner ctx args => exact hsame (upsertProviderSigner_administers h).challenges
  | setPause ctx b => exact hsame (setPause_administers h).challenges
  | revokeProviderSigner ctx k w => exact hsame (revokeProviderSigner_administers h).challenges
  | submitReceipt sysvar ctx args =>
    obtain ⟨g, r, m, -, rfl⟩ := submitReceipt_ok h
    exact hsame rfl
  | finalizeReceipt ctx =>
    obtain ⟨g, r, r', m, -, rfl⟩ := finalizeReceipt_ok h
    exact hsame rfl
  | closeReceipt ctx =>
    obtain ⟨r, -, rfl⟩ := closeReceipt_ok h
    exact hsame rfl
  | openChallenge ctx ty hash =>
    obtain ⟨r, x, m, hm, rfl⟩ := openChallenge_ok h
    exact Store.forall_set hk (fun _ _ => id) (by rw [hm.about.1])
  | resolveChallenge ctx code =>
    obtain ⟨rc, r, x, cs, rs, settled, m, -, -, hm, rfl⟩ := resolveChallenge_ok h
    exact Store.forall_set hk (fun _ _ => id) (hk _ x hm.challenge)
  | timeoutRejectChallenge ctx =>
    obtain ⟨r, x, cs, rs, settled, m, -, hm, rfl⟩ := timeoutRejectChallenge_ok h
    exact Store.forall_set hk (fun _ _ => id) (hk _ x hm.challenge)
  | closeChallenge ctx =>
    obtain ⟨x, -, rfl⟩ := closeChallenge_ok h
    exact fun j y hy => hk j y (Store.get_erase_some hy).2

/-- What the counts rest on. -/
structure Orderly (s : System) : Prop where
  wf : Masterpool.Wf s.masterpool
  keyed : ChallengesKeyed s

theorem orderly_init : Orderly .init := ⟨Masterpool.wf_init, fun _ _ h => nomatch h⟩

theorem step_orderly {s : System} (h : Orderly s) (a : Action) : Orderly (step host s a) := by
  refine ⟨step_wf h.wf a, ?_⟩
  rcases step_cases s a with ⟨e, -, heq⟩ | hok
  · rw [heq]
    exact h.keyed
  · cases a with
    | attestation c now i => exact exec_challengesKeyed h.keyed hok
    | masterpool c now i =>
      obtain ⟨m, -, heq⟩ := execMasterpool_eq_ok.mp hok
      rw [heq]
      exact h.keyed
    | token c i =>
      obtain ⟨m, -, heq⟩ := execMasterpool_eq_ok.mp hok
      rw [heq]
      exact h.keyed

/-! ## The marks -/

/-- The settlement of the receipt `k` exists. -/
def Settled (k : Pubkey) (m : Masterpool.State) : Prop := ∃ x, m.settlements.get k = some x

/-- The bond record of the receipt `k` exists. -/
def Bonded (k : Pubkey) (m : Masterpool.State) : Prop :=
  ∃ b, m.bonds.get (challengeAddress k) = some b

/-- The bond of the receipt `k` is not locked any more. -/
def Unlocked (k : Pubkey) (m : Masterpool.State) : Prop :=
  ∃ b, m.bonds.get (challengeAddress k) = some b ∧ b.status ≠ .Locked

section Marks

variable {m m' : Masterpool.State} {k : Pubkey}

theorem Settled.grows (h : Settled k m) (hg : Masterpool.Grows m m') : Settled k m' := by
  obtain ⟨x, hx⟩ := h
  obtain ⟨x', hx', -⟩ := hg.settlements k x hx
  exact ⟨x', hx'⟩

theorem Bonded.grows (h : Bonded k m) (hg : Masterpool.Grows m m') : Bonded k m' := by
  obtain ⟨b, hb⟩ := h
  obtain ⟨b', hb', -⟩ := hg.bonds _ b hb
  exact ⟨b', hb'⟩

theorem Unlocked.grows (h : Unlocked k m) (hg : Masterpool.Grows m m') : Unlocked k m' := by
  obtain ⟨b, hb, hst⟩ := h
  obtain ⟨b', hb', hstep⟩ := hg.bonds _ b hb
  refine ⟨b', hb', fun hlocked => ?_⟩
  rcases hstep.status with e | e
  · exact hst (e ▸ hlocked)
  · exact hst e

/-- Charging a receipt creates its settlement. -/
theorem recorded_marks {c : Caller MASTERPOOL_ID} {now : ℤ}
    {ctx : Masterpool.RecordMiningFromReceipt} {n : UInt64}
    (h : Masterpool.exec c now m (.recordMiningFromReceipt ctx n) = .ok m') :
    ¬ Settled ctx.attestationReceipt m ∧ Settled ctx.attestationReceipt m' := by
  obtain ⟨hnone, -, x, -, hset⟩ := recorded_economics h
  refine ⟨fun ⟨y, hy⟩ => (nomatch hnone.symm.trans hy), x, ?_⟩
  rw [hset]
  exact Store.get_set_self _ _ _

theorem submits_marks {c : Signers} {now : ℤ} {s s' : System} {sysvar : InstructionsSysvar}
    {ctx : SubmitReceipt} {args : SubmitReceiptArgs}
    (h : submitReceipt host c now sysvar ctx args s = .ok s') :
    ¬ Settled (receiptAddress args.requestNonceHash) s.masterpool ∧
      Settled (receiptAddress args.requestNonceHash) s'.masterpool := by
  obtain ⟨g, r, m, hm, rfl⟩ := submitReceipt_ok h
  exact recorded_marks hm.economics

theorem opens_marks {c : Signers} {now : ℤ} {s s' : System} {ctx : OpenChallenge} {ty : UInt8}
    {hash : Bytes32} (h : openChallenge c now ctx ty hash s = .ok s') :
    ¬ Bonded ctx.receipt s.masterpool ∧ Bonded ctx.receipt s'.masterpool := by
  obtain ⟨r, x, m, hm, rfl⟩ := openChallenge_ok h
  obtain ⟨-, hnone, g, b, -, -, -, -, -, hset⟩ := bonded_economics hm.economics
  refine ⟨fun ⟨b', hb'⟩ => (nomatch hnone.symm.trans hb'), b, ?_⟩
  rw [hset]
  exact Store.get_set_self _ _ _

theorem resolves_marks {c : Signers} {now : ℤ} {s : System} {accounts : ChallengeAccounts}
    {code : ResolutionCode} {r : Receipt} {x : Challenge} {cs : ChallengeStatus}
    {rs : ReceiptStatus} {settled : Bool} (hk : ChallengesKeyed s)
    (h : Resolves c now accounts code s r x cs rs settled m) :
    ¬ Unlocked accounts.receipt s.masterpool ∧ Unlocked accounts.receipt m := by
  obtain ⟨y, b, y', -, -, hb, hlocked, -, -, hset⟩ := resolved_economics h.outcome h.economics
  have haddr : accounts.challenge = challengeAddress accounts.receipt := by
    rw [hk _ x h.challenge, h.about]
  refine ⟨fun ⟨b', hb', hst⟩ => ?_, { b with status := bondStatus code, updatedAt := now }, ?_, ?_⟩
  · rw [← haddr] at hb'
    obtain rfl := Option.some.inj (hb.symm.trans hb')
    exact hst hlocked
  · rw [hset, ← haddr]
    exact Store.get_set_self _ _ _
  · show bondStatus code ≠ .Locked
    unfold bondStatus
    split_ifs <;> exact fun e => nomatch e

end Marks

/-! ## Counting -/

/-- **At most once**, for an action that sets a mark of the masterpool. -/
theorem successes_le_one {p : Action → Bool} {D : Masterpool.State → Prop}
    (hgrows : ∀ m m', D m → Masterpool.Grows m m' → D m')
    (honce : ∀ s s' a, Orderly s → p a = true → a.exec host s = .ok s' →
      ¬ D s.masterpool ∧ D s'.masterpool) (as : List Action) : successes host p as ≤ 1 := by
  refine Machine.count_le_one (I := Orderly) (D := fun s => D s.masterpool)
    (fun s a h => step_orderly h a) (fun s a h hd => ?_) (fun s a h hp => ?_) orderly_init as
  · exact hgrows _ _ hd (step_grows h.wf a)
  · rw [Bool.and_eq_true] at hp
    rcases step_cases s a with ⟨e, he, -⟩ | hok
    · rw [he] at hp
      exact absurd hp.2 Bool.false_ne_true
    · exact honce s _ a h hp.1 hok

theorem charged_le_one (k : Pubkey) (as : List Action) : charged host k as ≤ 1 := by
  refine Machine.count_le_one (I := Masterpool.Wf) (D := Settled k)
    (fun s a h => Masterpool.step_wf h a)
    (fun s a h hd => hd.grows (Masterpool.step_effect h.sound a).grows) (fun s a h hp => ?_)
    Masterpool.wf_init _
  rw [Bool.and_eq_true] at hp
  obtain ⟨hcharge, hsome⟩ := hp
  rcases Masterpool.step_cases s a with ⟨e, he, -⟩ | hok
  · rw [he] at hsome
    exact absurd hsome Bool.false_ne_true
  · unfold charges at hcharge
    split at hcharge
    · obtain rfl := of_decide_eq_true hcharge
      exact recorded_marks hok
    · cases hcharge

/-- **No replay**: whatever is closed in between, a nonce is submitted and charged at most once,
and a receipt is challenged and resolved at most once. -/
theorem no_replay (host : Host) (as : List Action) : NoReplay host as where
  submitted n := by
    refine successes_le_one (D := Settled (receiptAddress n)) (fun _ _ => Settled.grows)
      (fun s s' a _ hp h => ?_) as
    unfold Action.submits at hp
    split at hp
    · obtain rfl := of_decide_eq_true hp
      exact submits_marks h
    · cases hp
  charged n := charged_le_one _ as
  opened k := by
    refine successes_le_one (D := Bonded k) (fun _ _ => Bonded.grows) (fun s s' a _ hp h => ?_) as
    unfold Action.opens at hp
    split at hp
    · obtain rfl := of_decide_eq_true hp
      exact opens_marks h
    · cases hp
  resolved k := by
    refine successes_le_one (D := Unlocked k) (fun _ _ => Unlocked.grows)
      (fun s s' a hs hp h => ?_) as
    unfold Action.resolves at hp
    split at hp
    · obtain rfl := of_decide_eq_true hp
      obtain ⟨rc, r, x, cs, rs, settled, m, -, -, hm, rfl⟩ := resolveChallenge_ok h
      exact resolves_marks hs.keyed hm
    · obtain rfl := of_decide_eq_true hp
      obtain ⟨r, x, cs, rs, settled, m, -, hm, rfl⟩ := timeoutRejectChallenge_ok h
      exact resolves_marks hs.keyed hm
    · cases hp

end Protocol
