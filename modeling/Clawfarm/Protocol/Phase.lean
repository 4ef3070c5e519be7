import Clawfarm.Protocol.Program

/-!
# Protocol.Phase — the life of one receipt

`Phase` and `Next` are the abstract protocol: the phases of a receipt, and the events that lead from
one to another, with the clock and the signatures that they need.  The two programs know a receipt
by four accounts, which a `View` shows; `Transition` says what an event does to them.
`View.Shows` relates the accounts to a phase, and `Transition.simulated` is the simulation: what
happens to the accounts is a step of the protocol.
-/

namespace Protocol

open Attestation
open Masterpool (ReceiptSettlementStatus ChallengeBondRecord ChallengeBondStatus)

/-! ## The abstract protocol -/

/-- The circumstances of an event: the clock, the keys that sign, and the config at that time. -/
structure Stamp where
  now : ℤ
  keys : List Pubkey
  config : Config

/-- The end of the challenge window of a receipt submitted at `t`. -/
def Stamp.deadline (t : Stamp) : ℤ := saturatingAdd t.now t.config.challengeWindowSeconds

inductive Event
  | submitted (t : Stamp)
  | opened (t : Stamp)
  | resolved (t : Stamp) (code : ResolutionCode)
  | timedOut (t : Stamp)
  | finalized (t : Stamp)
  | closed (t : Stamp)

inductive Phase
  | absent
  | submitted (t₀ : Stamp)
  | challenged (t₀ t₁ : Stamp)
  | rejected (t₀ : Stamp)
  | finalized (t₀ : Stamp)
  | reverted (t₀ : Stamp)
  | closed (st : ReceiptSettlementStatus)

/-- How a challenge opened at `t₁` is rejected: by the resolver at any time, or by the authority
after the resolution timeout. -/
inductive Rejects (t₁ : Stamp) : Event → Prop
  | resolved {t : Stamp} (h : t.config.challengeResolver ∈ t.keys) :
    Rejects t₁ (.resolved t .Rejected)
  | timedOut {t : Stamp} (h : t.config.authority ∈ t.keys)
    (hnow : t₁.now + t.config.challengeResolutionTimeoutSeconds < t.now) : Rejects t₁ (.timedOut t)

/-- How a challenge is accepted: by the resolver only. -/
inductive Accepts : Event → Prop
  | resolved {t : Stamp} {code : ResolutionCode} (h : t.config.challengeResolver ∈ t.keys)
    (hcode : code = .Accepted ∨ code = .ReceiptInvalidated ∨ code = .SignerRevoked) :
    Accepts (.resolved t code)

inductive Next : Event → Phase → Phase → Prop
  | submitted {t : Stamp} : Next (.submitted t) .absent (.submitted t)
  | opened {t t₀ : Stamp} (h : t.now ≤ t₀.deadline) :
    Next (.opened t) (.submitted t₀) (.challenged t₀ t)
  | rejected {e : Event} {t₀ t₁ : Stamp} (h : Rejects t₁ e) :
    Next e (.challenged t₀ t₁) (.rejected t₀)
  | accepted {e : Event} {t₀ t₁ : Stamp} (h : Accepts e) : Next e (.challenged t₀ t₁) (.reverted t₀)
  | unchallenged {t t₀ : Stamp} (h : t₀.deadline < t.now) :
    Next (.finalized t) (.submitted t₀) (.finalized t₀)
  | settled {t t₀ : Stamp} : Next (.finalized t) (.rejected t₀) (.finalized t₀)
  | finalizedClosed {t t₀ : Stamp} : Next (.closed t) (.finalized t₀) (.closed .FinalizedSettled)
  | revertedClosed {t t₀ : Stamp} : Next (.closed t) (.reverted t₀) (.closed .ChallengedReverted)

/-- A challenge is opened in time and then dealt with as `P` says. -/
def Challenged (t₀ : Stamp) (P : Stamp → Event → Prop) (es : List Event) : Prop :=
  ∃ t₁ e, es = [.submitted t₀, .opened t₁, e] ∧ t₁.now ≤ t₀.deadline ∧ P t₁ e

/-- The events that lead to a phase. -/
def Phase.History : Phase → List Event → Prop
  | .absent, es => es = []
  | .submitted t₀, es => es = [.submitted t₀]
  | .challenged t₀ t₁, es => es = [.submitted t₀, .opened t₁] ∧ t₁.now ≤ t₀.deadline
  | .rejected t₀, es => Challenged t₀ Rejects es
  | .finalized t₀, es => ∃ t es', es = es' ++ [.finalized t] ∧
    (es' = [.submitted t₀] ∧ t₀.deadline < t.now ∨ Challenged t₀ Rejects es')
  | .reverted t₀, es => Challenged t₀ (fun _ => Accepts) es
  | .closed _, es => ∃ t es', es = es' ++ [.closed t]

/-- **Histories**: each phase is reached in one way, or in two. -/
theorem path_history {es : List Event} {ph : Phase} (h : Machine.Path Next .absent es ph) :
    ph.History es := by
  induction h with
  | nil => rfl
  | concat _ hb ih =>
    cases hb with
    | submitted => rw [show _ = [] from ih]; rfl
    | opened hnow => exact ⟨by rw [show _ = [_] from ih]; rfl, hnow⟩
    | rejected hrej => exact ⟨_, _, by rw [ih.1]; rfl, ih.2, hrej⟩
    | accepted hacc => exact ⟨_, _, by rw [ih.1]; rfl, ih.2, hacc⟩
    | unchallenged hnow => exact ⟨_, _, rfl, Or.inl ⟨ih, hnow⟩⟩
    | settled => exact ⟨_, _, rfl, Or.inr ih⟩
    | finalizedClosed => exact ⟨_, _, rfl⟩
    | revertedClosed => exact ⟨_, _, rfl⟩

/-! ## The accounts of a receipt -/

structure View where
  receipt : Option Receipt
  challenge : Option Challenge
  settlement : Option ReceiptSettlementStatus
  bond : Option ChallengeBondRecord

/-- The challenge and the bond record name the same challenger and amount. -/
def Matches (x : Challenge) (b : ChallengeBondRecord) : Prop :=
  b.challenger = x.challenger ∧ b.bondAmount = x.bondAmount

/-- The receipt carries the dates of a submission at `t₀`. -/
def Dated (t₀ : Stamp) (r : Receipt) : Prop :=
  r.submittedAt = t₀.now ∧ r.challengeDeadline = t₀.deadline

def View.Holds (v : View) (t₀ : Stamp) (status : ReceiptStatus) (settled : Bool) : Prop :=
  ∃ r, v.receipt = some r ∧ Dated t₀ r ∧ r.status = status ∧ r.economicsSettled = settled

def View.Unchallenged (v : View) : Prop := v.challenge = none ∧ v.bond = none

/-- There is a bond with the status `bs`, and the challenge, unless it has been closed, has the
status `cs` and belongs to the bond. -/
def View.Judged (v : View) (cs : ChallengeStatus) (bs : ChallengeBondStatus) : Prop :=
  ∃ b, v.bond = some b ∧ b.status = bs ∧ ∀ x, v.challenge = some x → x.status = cs ∧ Matches x b

/-- What a phase means for the accounts. -/
def View.Shows (v : View) : Phase → Prop
  | .absent => v.receipt = none ∧ v.settlement = none ∧ v.Unchallenged
  | .submitted t₀ => v.Holds t₀ .Submitted false ∧ v.settlement = some .Recorded ∧ v.Unchallenged
  | .challenged t₀ t₁ => v.Holds t₀ .Challenged false ∧ v.settlement = some .Recorded ∧
    (∃ x, v.challenge = some x ∧ x.openedAt = t₁.now) ∧ v.Judged .Open .Locked
  | .rejected t₀ => v.Holds t₀ .Finalized false ∧ v.settlement = some .Recorded ∧
    v.Judged .Rejected .Burned
  | .finalized t₀ => v.Holds t₀ .Finalized true ∧ v.settlement = some .FinalizedSettled ∧
    (v.Unchallenged ∨ v.Judged .Rejected .Burned)
  | .reverted t₀ => (v.Holds t₀ .Rejected true ∨ v.Holds t₀ .Slashed true) ∧
    v.settlement = some .ChallengedReverted ∧ v.Judged .Accepted .Returned
  | .closed st => v.receipt = none ∧ v.settlement = some st ∧
    (st = .FinalizedSettled ∧ (v.Unchallenged ∨ v.Judged .Rejected .Burned) ∨
      st = .ChallengedReverted ∧ v.Judged .Accepted .Returned)

variable {v v' : View} {ph : Phase} {t t₀ t₁ : Stamp} {r : Receipt} {x : Challenge}
  {b : ChallengeBondRecord} {e : Event}

theorem View.Judged.challenge {cs : ChallengeStatus} {bs : ChallengeBondStatus}
    (h : v.Judged cs bs) (hx : v.challenge = some x) : x.status = cs := by
  obtain ⟨b, -, -, hall⟩ := h
  exact (hall x hx).1

theorem View.Judged.bond_status {cs : ChallengeStatus} {bs : ChallengeBondStatus}
    (h : v.Judged cs bs) (hb : v.bond = some b) : b.status = bs := by
  obtain ⟨b', hb', hst, -⟩ := h
  rwa [Option.some.inj (hb.symm.trans hb')]

theorem View.Judged.matches {cs : ChallengeStatus} {bs : ChallengeBondStatus}
    (h : v.Judged cs bs) (hx : v.challenge = some x) : ∃ b, v.bond = some b ∧ Matches x b := by
  obtain ⟨b, hb, -, hall⟩ := h
  exact ⟨b, hb, (hall x hx).2⟩

/-- What is known of a challenge in any phase. -/
theorem View.Shows.judged (h : v.Shows ph) : v.Unchallenged ∨
    (v.Judged .Open .Locked ∧ ∃ t₀ t₁, ph = .challenged t₀ t₁) ∨ v.Judged .Rejected .Burned ∨
      v.Judged .Accepted .Returned := by
  cases ph with
  | absent => exact Or.inl h.2.2
  | submitted t₀ => exact Or.inl h.2.2
  | challenged t₀ t₁ => exact Or.inr (Or.inl ⟨h.2.2.2, t₀, t₁, rfl⟩)
  | rejected t₀ => exact Or.inr (Or.inr (Or.inl h.2.2))
  | finalized t₀ => exact h.2.2.imp_right fun h => Or.inr (Or.inl h)
  | reverted t₀ => exact Or.inr (Or.inr (Or.inr h.2.2))
  | closed st =>
    rcases h.2.2 with ⟨-, h⟩ | ⟨-, h⟩
    · exact h.imp_right fun h => Or.inr (Or.inl h)
    · exact Or.inr (Or.inr (Or.inr h))

/-- Only a challenged receipt has an open challenge. -/
theorem View.Shows.of_open (h : v.Shows ph) (hx : v.challenge = some x) (hst : x.status = .Open) :
    ∃ t₀ t₁, ph = .challenged t₀ t₁ := by
  rcases h.judged with hj | ⟨-, hph⟩ | hj | hj
  · exact nomatch hj.1.symm.trans hx
  · exact hph
  · exact nomatch hst.symm.trans (hj.challenge hx)
  · exact nomatch hst.symm.trans (hj.challenge hx)

/-- Only a challenged receipt has a locked bond. -/
theorem View.Shows.of_locked (h : v.Shows ph) (hb : v.bond = some b) (hst : b.status = .Locked) :
    ∃ t₀ t₁, ph = .challenged t₀ t₁ := by
  rcases h.judged with hj | ⟨-, hph⟩ | hj | hj
  · exact nomatch hj.2.symm.trans hb
  · exact hph
  · exact nomatch hst.symm.trans (hj.bond_status hb)
  · exact nomatch hst.symm.trans (hj.bond_status hb)

/-- A challenge belongs to its bond. -/
theorem View.Shows.matches (h : v.Shows ph) (hx : v.challenge = some x) :
    ∃ b, v.bond = some b ∧ Matches x b := by
  rcases h.judged with hj | ⟨hj, -⟩ | hj | hj
  · exact nomatch hj.1.symm.trans hx
  · exact hj.matches hx
  · exact hj.matches hx
  · exact hj.matches hx

/-- The phase that the status of a receipt tells. -/
theorem View.Shows.of_receipt (h : v.Shows ph) (hr : v.receipt = some r) : ∃ t₀, Dated t₀ r ∧
    match r.status with
    | .Submitted => ph = .submitted t₀ ∧ r.economicsSettled = false
    | .Challenged => ∃ t₁, ph = .challenged t₀ t₁ ∧ r.economicsSettled = false
    | .Finalized => ph = if r.economicsSettled = true then .finalized t₀ else .rejected t₀
    | .Rejected => ph = .reverted t₀ ∧ r.economicsSettled = true
    | .Slashed => ph = .reverted t₀ ∧ r.economicsSettled = true := by
  have hholds : ∀ {t₀ st settled}, v.Holds t₀ st settled →
      Dated t₀ r ∧ r.status = st ∧ r.economicsSettled = settled := by
    rintro t₀ st settled ⟨r', hr', hfacts⟩
    rwa [Option.some.inj (hr.symm.trans hr')]
  cases ph with
  | absent => exact nomatch h.1.symm.trans hr
  | closed st => exact nomatch h.1.symm.trans hr
  | submitted t₀ =>
    obtain ⟨hd, hst, hset⟩ := hholds h.1
    exact ⟨t₀, hd, by rw [hst]; exact ⟨rfl, hset⟩⟩
  | challenged t₀ t₁ =>
    obtain ⟨hd, hst, hset⟩ := hholds h.1
    exact ⟨t₀, hd, by rw [hst]; exact ⟨t₁, rfl, hset⟩⟩
  | rejected t₀ =>
    obtain ⟨hd, hst, hset⟩ := hholds h.1
    exact ⟨t₀, hd, by rw [hst, hset]; rfl⟩
  | finalized t₀ =>
    obtain ⟨hd, hst, hset⟩ := hholds h.1
    exact ⟨t₀, hd, by rw [hst, hset]; rfl⟩
  | reverted t₀ =>
    rcases h.1 with h | h
    · obtain ⟨hd, hst, hset⟩ := hholds h
      exact ⟨t₀, hd, by rw [hst]; exact ⟨rfl, hset⟩⟩
    · obtain ⟨hd, hst, hset⟩ := hholds h
      exact ⟨t₀, hd, by rw [hst]; exact ⟨rfl, hset⟩⟩

/-! ## Transitions -/

/-- The status of a bond record and of a settlement after a resolution. -/
def bondStatus (code : ResolutionCode) : ChallengeBondStatus :=
  if code = .Rejected then .Burned else .Returned

def settlementStatus (code : ResolutionCode) : ReceiptSettlementStatus :=
  if code = .Rejected then .Recorded else .ChallengedReverted

/-- What a resolution finds. -/
structure View.Resolvable (v : View) (r : Receipt) (x : Challenge) (b : ChallengeBondRecord) :
    Prop where
  receipt : v.receipt = some r
  challenge : v.challenge = some x
  opened : x.status = .Open
  recorded : v.settlement = some .Recorded
  bond : v.bond = some b
  locked : b.status = .Locked

/-- What a resolution leaves behind. -/
def View.resolved (now : ℤ) (code : ResolutionCode) (cs : ChallengeStatus) (rs : ReceiptStatus)
    (settled : Bool) (r : Receipt) (x : Challenge) (b : ChallengeBondRecord) : View where
  receipt := some { r with status := rs, finalizedAt := now, economicsSettled := settled }
  challenge := some { x with resolutionCode := code, resolvedAt := now, status := cs }
  settlement := some (settlementStatus code)
  bond := some { b with status := bondStatus code, updatedAt := now }

/-- What an event does to the accounts of a receipt, and under what conditions it happens. -/
inductive Transition : Event → View → View → Prop
  | submitted {t : Stamp} {r : Receipt} {v : View} (hr : v.receipt = none)
    (hs : v.settlement = none) (h : Fresh t.now t.config r) :
    Transition (.submitted t) v { v with receipt := some r, settlement := some .Recorded }
  | opened {t : Stamp} {r : Receipt} {x : Challenge} {b : ChallengeBondRecord} {v : View}
    (hr : v.receipt = some r) (hst : r.status = .Submitted) (hnow : t.now ≤ r.challengeDeadline)
    (hx : x.status = .Open ∧ x.openedAt = t.now) (hb : b.status = .Locked) (h : Matches x b) :
    Transition (.opened t) v
      { v with receipt := some { r with status := .Challenged }, challenge := some x, bond := some b }
  | resolved {t : Stamp} {code : ResolutionCode} {cs : ChallengeStatus} {rs : ReceiptStatus}
    {settled : Bool} {r : Receipt} {x : Challenge} {b : ChallengeBondRecord} {v : View}
    (h : v.Resolvable r x b) (hout : code.outcome = some (cs, rs, settled))
    (hsig : t.config.challengeResolver ∈ t.keys) :
    Transition (.resolved t code) v (.resolved t.now code cs rs settled r x b)
  | timedOut {t : Stamp} {r : Receipt} {x : Challenge} {b : ChallengeBondRecord} {v : View}
    (h : v.Resolvable r x b) (hsig : t.config.authority ∈ t.keys)
    (hnow : x.openedAt + t.config.challengeResolutionTimeoutSeconds < t.now) :
    Transition (.timedOut t) v (.resolved t.now .Rejected .Rejected .Finalized false r x b)
  | finalized {t : Stamp} {r r' : Receipt} {v : View} (hr : v.receipt = some r)
    (h : Finalizable t.now r) (hr' : r'.status = .Finalized ∧ r'.economicsSettled = true)
    (htimes : r'.submittedAt = r.submittedAt ∧ r'.challengeDeadline = r.challengeDeadline) :
    Transition (.finalized t) v
      { v with receipt := some r', settlement := some .FinalizedSettled }
  | closed {t : Stamp} {r : Receipt} {v : View} (hr : v.receipt = some r)
    (h : r.status.IsTerminal) (hset : r.economicsSettled = true) :
    Transition (.closed t) v { v with receipt := none }

/-- A challenge that is open can be judged. -/
theorem View.Shows.of_resolvable (h : v.Shows ph) (hv : v.Resolvable r x b) :
    ∃ t₀ t₁, ph = .challenged t₀ t₁ ∧ Dated t₀ r ∧ x.openedAt = t₁.now ∧ Matches x b := by
  obtain ⟨t₀, t₁, rfl⟩ := h.of_open hv.challenge hv.opened
  obtain ⟨⟨r', hr', hd, -⟩, -, ⟨x', hx', hat⟩, -⟩ := id h
  obtain ⟨b', hb', hmatch⟩ := h.matches hv.challenge
  rw [Option.some.inj (hv.receipt.symm.trans hr'), Option.some.inj (hv.bond.symm.trans hb')]
  rw [Option.some.inj (hv.challenge.symm.trans hx')] at hmatch ⊢
  exact ⟨t₀, t₁, rfl, hd, hat, hmatch⟩

/-- After a resolution, challenge and bond have been judged. -/
theorem judged_resolved (now : ℤ) (code : ResolutionCode) (cs : ChallengeStatus)
    (rs : ReceiptStatus) (settled : Bool) (r : Receipt) (h : Matches x b) :
    (View.resolved now code cs rs settled r x b).Judged cs (bondStatus code) := by
  refine ⟨_, rfl, rfl, fun y hy => ?_⟩
  obtain rfl := Option.some.inj hy
  exact ⟨rfl, h⟩

theorem shows_rejected (now : ℤ) (hd : Dated t₀ r) (hm : Matches x b) :
    (View.resolved now .Rejected .Rejected .Finalized false r x b).Shows (.rejected t₀) :=
  ⟨⟨_, rfl, hd, rfl, rfl⟩, rfl, judged_resolved _ _ _ _ _ _ hm⟩

/-- **Simulation**: what happens to the accounts of a receipt is a step of the protocol. -/
theorem Transition.simulated (h : Transition e v v') (hv : v.Shows ph) :
    ∃ ph', Next e ph ph' ∧ v'.Shows ph' := by
  cases h with
  | @submitted t r v hr hs h =>
    have hph : ph = .absent := by
      cases ph with
      | absent => rfl
      | submitted t₀ => exact nomatch hs.symm.trans hv.2.1
      | challenged t₀ t₁ => exact nomatch hs.symm.trans hv.2.1
      | rejected t₀ => exact nomatch hs.symm.trans hv.2.1
      | finalized t₀ => exact nomatch hs.symm.trans hv.2.1
      | reverted t₀ => exact nomatch hs.symm.trans hv.2.1
      | closed st => exact nomatch hs.symm.trans hv.2.1
    subst hph
    exact ⟨.submitted t, .submitted, ⟨r, rfl, ⟨h.submittedAt, h.deadline⟩, h.status, h.unsettled⟩,
      rfl, hv.2.2⟩
  | @opened t r x b v hr hst hnow hx hb hm =>
    obtain ⟨t₀, hd, hph⟩ := hv.of_receipt hr
    rw [hst] at hph
    obtain ⟨rfl, hset⟩ := hph
    refine ⟨.challenged t₀ t, .opened (hd.2 ▸ hnow), ⟨_, rfl, hd, rfl, hset⟩, hv.2.1,
      ⟨x, rfl, hx.2⟩, b, rfl, hb, fun y hy => ?_⟩
    obtain rfl := Option.some.inj hy
    exact ⟨hx.1, hm⟩
  | @resolved t code cs rs settled r x b v h hout hsig =>
    obtain ⟨t₀, t₁, rfl, hd, -, hm⟩ := hv.of_resolvable h
    have hj := judged_resolved t.now code cs rs settled r hm
    cases code with
    | None => cases hout
    | Rejected =>
      cases hout
      exact ⟨.rejected t₀, .rejected (.resolved hsig), shows_rejected _ hd hm⟩
    | Accepted =>
      cases hout
      exact ⟨.reverted t₀, .accepted (.resolved hsig (by simp)),
        Or.inl ⟨_, rfl, hd, rfl, rfl⟩, rfl, hj⟩
    | ReceiptInvalidated =>
      cases hout
      exact ⟨.reverted t₀, .accepted (.resolved hsig (by simp)),
        Or.inl ⟨_, rfl, hd, rfl, rfl⟩, rfl, hj⟩
    | SignerRevoked =>
      cases hout
      exact ⟨.reverted t₀, .accepted (.resolved hsig (by simp)),
        Or.inr ⟨_, rfl, hd, rfl, rfl⟩, rfl, hj⟩
  | @timedOut t r x b v h hsig hnow =>
    obtain ⟨t₀, t₁, rfl, hd, hat, hm⟩ := hv.of_resolvable h
    exact ⟨.rejected t₀, .rejected (.timedOut hsig (hat ▸ hnow)), shows_rejected _ hd hm⟩
  | @finalized t r r' v hr h hr' htimes =>
    obtain ⟨t₀, hd, hph⟩ := hv.of_receipt hr
    have hholds : Dated t₀ r' := ⟨htimes.1.trans hd.1, htimes.2.trans hd.2⟩
    cases h with
    | unchallenged hst hnow =>
      rw [hst] at hph
      obtain ⟨rfl, -⟩ := hph
      exact ⟨.finalized t₀, .unchallenged (hd.2 ▸ hnow), ⟨r', rfl, hholds, hr'⟩, rfl,
        Or.inl hv.2.2⟩
    | rejected hst hset =>
      rw [hst, hset] at hph
      subst hph
      exact ⟨.finalized t₀, .settled, ⟨r', rfl, hholds, hr'⟩, rfl, Or.inr hv.2.2⟩
  | @closed t r v hr h hset =>
    obtain ⟨t₀, -, hph⟩ := hv.of_receipt hr
    rcases h with hst | hst | hst
    · rw [hst, hset] at hph
      subst hph
      exact ⟨.closed _, .finalizedClosed, rfl, hv.2.1, Or.inl ⟨rfl, hv.2.2⟩⟩
    · rw [hst] at hph
      obtain ⟨rfl, -⟩ := hph
      exact ⟨.closed _, .revertedClosed, rfl, hv.2.1, Or.inr ⟨rfl, hv.2.2⟩⟩
    · rw [hst] at hph
      obtain ⟨rfl, -⟩ := hph
      exact ⟨.closed _, .revertedClosed, rfl, hv.2.1, Or.inr ⟨rfl, hv.2.2⟩⟩

/-- A challenge that is no longer open can be closed without anybody noticing. -/
theorem View.Judged.closed {cs : ChallengeStatus} {bs : ChallengeBondStatus}
    (h : v.Judged cs bs) : View.Judged { v with challenge := none } cs bs := by
  obtain ⟨b, hb, hst, -⟩ := h
  exact ⟨b, hb, hst, fun _ h => nomatch h⟩

theorem View.Shows.challengeClosed (h : v.Shows ph) (hx : v.challenge = some x)
    (hst : x.status ≠ .Open) : View.Shows { v with challenge := none } ph := by
  have hun : ¬ v.Unchallenged := fun h => nomatch h.1.symm.trans hx
  cases ph with
  | absent => exact absurd h.2.2 hun
  | submitted t₀ => exact absurd h.2.2 hun
  | challenged t₀ t₁ => exact absurd (h.2.2.2.challenge hx) hst
  | rejected t₀ => exact ⟨h.1, h.2.1, h.2.2.closed⟩
  | finalized t₀ => exact ⟨h.1, h.2.1, Or.inr (h.2.2.resolve_left hun).closed⟩
  | reverted t₀ => exact ⟨h.1, h.2.1, h.2.2.closed⟩
  | closed st =>
    exact ⟨h.1, h.2.1, h.2.2.imp (fun h => ⟨h.1, Or.inr (h.2.resolve_left hun).closed⟩)
      fun h => ⟨h.1, h.2.closed⟩⟩

end Protocol
