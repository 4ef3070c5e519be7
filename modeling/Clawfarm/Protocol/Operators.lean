import Clawfarm.Attestation.Submission
import Clawfarm.Masterpool.Operators
import Clawfarm.Protocol.Owners

/-!
# Protocol.Operators — what needs the signature of which operator

Four keys operate the two programs: the admin, the authority, the pause authority and the challenge
resolver.  Whatever everybody else signs, as long as one of them signs nothing, what is in its hand
stays as it is (`operators_required`).
-/

namespace Protocol

open Checked Attestation
open Masterpool (AdminKept Undecided ReceiptSettlementStatus)

/-! ## The operators -/

structure Operators where
  admin : Pubkey
  authority : Pubkey
  pauseAuthority : Pubkey
  challengeResolver : Pubkey

/-- The configs name the operators, and the masterpool serves the attestation program. -/
structure Operated (s : System) (o : Operators) : Prop where
  masterpool : ∃ g, s.masterpool.config = some g ∧ g.adminAuthority = o.admin ∧
    g.attestationProgram = ATTESTATION_ID
  attestation : ∃ g, s.attestation.config = some g ∧ g.authority = o.authority ∧
    g.pauseAuthority = o.pauseAuthority ∧ g.challengeResolver = o.challengeResolver

inductive Role
  | authority
  | pauseAuthority
  | challengeResolver
  deriving DecidableEq

def Operators.key (o : Operators) : Role → Pubkey
  | .authority => o.authority
  | .pauseAuthority => o.pauseAuthority
  | .challengeResolver => o.challengeResolver

/-- Who has to sign an instruction of the attestation program.  Anybody may open a challenge. -/
def Instruction.role : Instruction → Option Role
  | .initializeConfig .. => none
  | .upsertProviderSigner .. => some .authority
  | .setPause .. => some .pauseAuthority
  | .revokeProviderSigner .. => some .authority
  | .submitReceipt .. => some .authority
  | .openChallenge .. => none
  | .resolveChallenge .. => some .challengeResolver
  | .timeoutRejectChallenge _ => some .authority
  | .finalizeReceipt _ => some .authority
  | .closeChallenge _ => some .authority
  | .closeReceipt _ => some .authority

def Action.role : Action → Option Role
  | .attestation _ _ i => i.role
  | _ => none

variable {host : Host} {c : Signers} {s s' : System} {o : Operators} {a : Action}

/-- **Signatures**: an instruction succeeds only with the signature of its operator. -/
theorem exec_signed {now : ℤ} {i : Instruction} {r : Role} (ho : Operated s o)
    (hi : i.role = some r) (h : exec host c now s i = .ok s') : o.key r ∈ c.keys := by
  obtain ⟨g, hg, hauthority, hpause, hresolver⟩ := ho.attestation
  have hsigned : ∀ {k : Pubkey} {g' : Config}, loadAsAuthority c k s = .ok g' →
      o.key .authority ∈ c.keys := by
    intro k g' hload
    obtain ⟨hsig, hg', hk⟩ := loadAsAuthority_eq_ok.mp hload
    obtain rfl := Option.some.inj (hg.symm.trans hg')
    rw [Operators.key, ← hauthority, hk]
    exact hsig
  cases i with
  | initializeConfig ctx args => cases hi
  | openChallenge ctx ty hash => cases hi
  | setPause ctx b =>
    obtain rfl := Option.some.inj hi
    obtain ⟨g', hset, -⟩ := setPause_ok h
    obtain rfl := Option.some.inj (hg.symm.trans hset.config)
    rw [Operators.key, ← hpause, hset.signed.2]
    exact hset.signed.1
  | resolveChallenge ctx code =>
    obtain rfl := Option.some.inj hi
    obtain ⟨rc, r, x, cs, rs, settled, m, -, hby, -⟩ := resolveChallenge_ok h
    obtain ⟨g', hg', hk⟩ := hby.resolver
    obtain rfl := Option.some.inj (hg.symm.trans hg')
    rw [Operators.key, ← hresolver, hk]
    exact hby.signed
  | _ =>
    obtain rfl := Option.some.inj hi
    obtain ⟨g', hload, -⟩ := bind_eq_ok.mp h
    exact hsigned hload

theorem Action.exec_signed {r : Role} (ho : Operated s o) (hr : a.role = some r)
    (h : a.exec host s = .ok s') : o.key r ∈ a.keys := by
  cases a with
  | attestation c now i => exact Protocol.exec_signed ho hr h
  | masterpool c now i => cases hr
  | token c i => cases hr

/-! ## The accounts of the attestation program -/

/-- The receipt is as it was, or has just been challenged. -/
def Opened (r r' : Receipt) : Prop :=
  r' = r ∨ r.status = .Submitted ∧ r' = { r with status := .Challenged }

theorem Opened.refl (r : Receipt) : Opened r r := Or.inl rfl

theorem Opened.trans {r r' r'' : Receipt} (h : Opened r r') (h' : Opened r' r'') :
    Opened r r'' := by
  rcases h with rfl | ⟨hst, rfl⟩
  · exact h'
  · rcases h' with rfl | ⟨hst', -⟩
    · exact Or.inr ⟨hst, rfl⟩
    · cases hst'

/-- What an action with the operator `role` does to the accounts of the attestation program. -/
structure Turns (role : Option Role) (s s' : State) : Prop where
  config : role ≠ some .pauseAuthority → s'.config = s.config
  providerSigners : role ≠ some .authority → s'.providerSigners = s.providerSigners
  submitted : role ≠ some .authority → Store.NoneNew (fun _ => True) s.receipts s'.receipts
  closed : role ≠ some .authority → Store.Grows (fun _ _ => True) s.receipts s'.receipts ∧
    Store.Grows (fun _ _ => True) s.challenges s'.challenges
  accepted : role ≠ some .challengeResolver →
    Store.NoneNew (fun x => x.status = .Accepted) s.challenges s'.challenges
  opened : role ≠ some .authority → role ≠ some .challengeResolver →
    Store.Grows Opened s.receipts s'.receipts ∧ Store.Grows Eq s.challenges s'.challenges

theorem Turns.refl (role : Option Role) (s : State) : Turns role s s where
  config _ := rfl
  providerSigners _ := rfl
  submitted _ := .refl _
  closed _ := ⟨.refl (fun _ => trivial) _, .refl (fun _ => trivial) _⟩
  accepted _ := .refl _
  opened _ _ := ⟨.refl Opened.refl _, .refl Eq.refl _⟩

/-- An instruction of the authority that accepts no challenge. -/
theorem turns_authority {t t' : State} (hconfig : t'.config = t.config)
    (haccepted : Store.NoneNew (fun x => x.status = .Accepted) t.challenges t'.challenges) :
    Turns (some .authority) t t' where
  config _ := hconfig
  providerSigners h := absurd rfl h
  submitted h := absurd rfl h
  closed h := absurd rfl h
  accepted _ := haccepted
  opened h := absurd rfl h

/-- **Turns**: one case per instruction. -/
theorem exec_turns {now : ℤ} {i : Instruction} (ho : Operated s o)
    (h : exec host c now s i = .ok s') : Turns i.role s.attestation s'.attestation := by
  cases i with
  | initializeConfig ctx args =>
    obtain ⟨g, hg, -⟩ := ho.attestation
    obtain ⟨g', hinit, -⟩ := initializeConfig_ok h
    cases hg.symm.trans hinit.fresh
  | upsertProviderSigner ctx args =>
    obtain ⟨g', entry, -, rfl⟩ := upsertProviderSigner_ok h
    exact turns_authority rfl (.refl _)
  | setPause ctx b =>
    obtain ⟨g, -, rfl⟩ := setPause_ok h
    exact { Turns.refl _ _ with config := fun hp => absurd rfl hp }
  | revokeProviderSigner ctx signer wallet =>
    obtain ⟨g', entry, -, rfl⟩ := revokeProviderSigner_ok h
    exact turns_authority rfl (.refl _)
  | submitReceipt sysvar ctx args =>
    obtain ⟨g, r, m, -, rfl⟩ := submitReceipt_ok h
    exact turns_authority rfl (.refl _)
  | openChallenge ctx ty hash =>
    obtain ⟨r, x, m, hm, rfl⟩ := openChallenge_ok h
    exact
      { config := fun _ => rfl
        providerSigners := fun _ => rfl
        submitted := fun _ => Store.noneNew_set fun _ => ⟨r, hm.receipt, trivial⟩
        closed := fun _ => ⟨Store.grows_update (fun _ => trivial) hm.receipt trivial,
          Store.grows_insert (fun _ => trivial) hm.fresh x⟩
        accepted := fun _ => Store.noneNew_set fun hx => by cases hm.opened.symm.trans hx
        opened := fun _ _ =>
          ⟨Store.grows_update Opened.refl hm.receipt (Or.inr ⟨hm.submitted, rfl⟩),
            Store.grows_insert Eq.refl hm.fresh x⟩ }
  | resolveChallenge ctx code =>
    obtain ⟨rc, r, x, cs, rs, settled, m, -, -, hm, rfl⟩ := resolveChallenge_ok h
    exact
      { config := fun _ => rfl
        providerSigners := fun _ => rfl
        submitted := fun _ => Store.noneNew_set fun _ => ⟨r, hm.receipt, trivial⟩
        closed := fun _ => ⟨Store.grows_update (fun _ => trivial) hm.receipt trivial,
          Store.grows_update (fun _ => trivial) hm.challenge trivial⟩
        accepted := fun hr => absurd rfl hr
        opened := fun _ hr => absurd rfl hr }
  | timeoutRejectChallenge ctx =>
    obtain ⟨r, x, cs, rs, settled, m, -, hm, rfl⟩ := timeoutRejectChallenge_ok h
    refine turns_authority rfl (Store.noneNew_set fun hx => ?_)
    have hcs := hm.outcome
    simp only [ResolutionCode.outcome, Option.some.injEq, Prod.mk.injEq] at hcs
    cases hcs.1.trans hx
  | finalizeReceipt ctx =>
    obtain ⟨g, r, r', m, -, rfl⟩ := finalizeReceipt_ok h
    exact turns_authority rfl (.refl _)
  | closeChallenge ctx =>
    obtain ⟨x, -, rfl⟩ := closeChallenge_ok h
    exact turns_authority rfl fun k x' hx' hst => ⟨x', (Store.get_erase_some hx').2, hst⟩
  | closeReceipt ctx =>
    obtain ⟨r, -, rfl⟩ := closeReceipt_ok h
    exact turns_authority rfl (.refl _)

theorem Action.exec_turns (ho : Operated s o) (h : a.exec host s = .ok s') :
    Turns a.role s.attestation s'.attestation := by
  cases a with
  | attestation c now i => exact Protocol.exec_turns ho h
  | masterpool c now i =>
    obtain ⟨m, -, rfl⟩ := execMasterpool_eq_ok.mp h
    exact .refl _ _
  | token c i =>
    obtain ⟨m, -, rfl⟩ := execMasterpool_eq_ok.mp h
    exact .refl _ _

/-! ## The calls of the masterpool program -/

/-- What an action with the operator `role` does to receipts in the masterpool. -/
structure Decides (role : Option Role) (m m' : Masterpool.State) : Prop where
  charged : role ≠ some .authority →
    Store.NoneNew (fun _ => True) m.settlements m'.settlements
  paid : role ≠ some .authority →
    Store.NoneNew (fun x => x.status = .FinalizedSettled) m.settlements m'.settlements
  reverted : role ≠ some .challengeResolver →
    Store.NoneNew (fun x => x.status = .ChallengedReverted) m.settlements m'.settlements
  undecided : role ≠ some .authority → role ≠ some .challengeResolver → Undecided m m'

theorem Decides.refl (role : Option Role) (m : Masterpool.State) : Decides role m m :=
  ⟨fun _ => .refl _, fun _ => .refl _, fun _ => .refl _, fun _ _ => .refl _⟩

theorem call_operator {now : Int64} {i : Instruction} {b : Masterpool.Action}
    (hb : (Action.attestation c now i).call = some b) :
    ∃ j, b = .call c.withConfig now j ∧ j.operator = some .attestation := by
  cases i with
  | submitReceipt sysvar ctx args => exact ⟨_, (Option.some.inj hb).symm, rfl⟩
  | openChallenge ctx ty hash => exact ⟨_, (Option.some.inj hb).symm, rfl⟩
  | resolveChallenge ctx code =>
    obtain ⟨rc, -, rfl⟩ := Option.map_eq_some_iff.mp hb
    exact ⟨_, rfl, rfl⟩
  | timeoutRejectChallenge ctx => exact ⟨_, (Option.some.inj hb).symm, rfl⟩
  | finalizeReceipt ctx => exact ⟨_, (Option.some.inj hb).symm, rfl⟩
  | _ => cases hb

/-- The operator of an instruction whose call gives a receipt the status `st`. -/
theorem role_of_judgement {now : Int64} {i : Instruction} {b : Masterpool.Action}
    {st : ReceiptSettlementStatus} (hb : (Action.attestation c now i).call = some b)
    (hj : b.judgement = some st) :
    i.role = some (if st = .ChallengedReverted then .challengeResolver else .authority) := by
  cases i with
  | submitReceipt sysvar ctx args =>
    obtain rfl := Option.some.inj hb
    obtain rfl := Option.some.inj hj
    rfl
  | finalizeReceipt ctx =>
    obtain rfl := Option.some.inj hb
    obtain rfl := Option.some.inj hj
    rfl
  | openChallenge ctx ty hash =>
    obtain rfl := Option.some.inj hb
    cases hj
  | timeoutRejectChallenge ctx =>
    obtain rfl := Option.some.inj hb
    cases hj
  | resolveChallenge ctx code =>
    obtain ⟨rc, -, rfl⟩ := Option.map_eq_some_iff.mp hb
    cases rc <;> cases hj <;> rfl
  | _ => cases hb

/-- Only instructions of the authority and the resolver decide anything. -/
theorem role_of_decides {now : Int64} {i : Instruction} {b : Masterpool.Action}
    (hb : (Action.attestation c now i).call = some b) (hd : b.Decides) :
    i.role = some .authority ∨ i.role = some .challengeResolver := by
  cases i with
  | submitReceipt sysvar ctx args => exact Or.inl rfl
  | finalizeReceipt ctx => exact Or.inl rfl
  | timeoutRejectChallenge ctx => exact Or.inl rfl
  | resolveChallenge ctx code => exact Or.inr rfl
  | openChallenge ctx ty hash =>
    obtain rfl := Option.some.inj hb
    rcases hd with h | h <;> exact absurd rfl h
  | _ => cases hb

/-- Nobody but the attestation program makes the calls that decide. -/
theorem not_decides_of_direct {now : Int64} {i : Masterpool.Instruction} {m : Masterpool.State}
    (ho : Operated s o) (h : Masterpool.exec c.direct now.toInt s.masterpool i = .ok m) :
    ¬ (Masterpool.Action.call c.direct now i).Decides := by
  obtain ⟨g, hg, -, hlink⟩ := ho.masterpool
  refine Masterpool.not_decides_of_operator fun hi => configAddress_not_mem_keys c ?_
  have hsig := Masterpool.exec_signed hg hi h
  rwa [Masterpool.Operator.key, hlink] at hsig

theorem Action.exec_decides (hw : Masterpool.Wf s.masterpool) (ho : Operated s o)
    (h : a.exec host s = .ok s') : Decides a.role s.masterpool s'.masterpool := by
  have hout := Action.exec_callOutcome h
  cases hcall : a.call with
  | none =>
    rw [hout.uncalled hcall]
    exact .refl _ _
  | some b =>
    have hb := hout.called b hcall
    have hrole : (∀ st, b.judgement = some st → a.role = some (if st = .ChallengedReverted then
        .challengeResolver else .authority)) ∧
        (b.Decides → a.role = some .authority ∨ a.role = some .challengeResolver) := by
      cases a with
      | attestation c now i => exact ⟨fun st => role_of_judgement hcall, role_of_decides hcall⟩
      | masterpool c now i =>
        obtain rfl := Option.some.inj hcall
        have hno := not_decides_of_direct ho hb
        exact ⟨fun st hj => absurd (Or.inl (by rw [hj]; exact Option.some_ne_none st)) hno,
          fun hd => absurd hd hno⟩
      | token c i =>
        obtain rfl := Option.some.inj hcall
        refine ⟨fun st hj => ?_, fun hd => ?_⟩
        · cases hj
        · rcases hd with hd | hd <;> exact absurd rfl hd
    rw [← Masterpool.step_of_ok hb]
    have heffect := Masterpool.step_effect hw.sound b
    exact
      { charged := fun hr => heffect.unrecorded fun hj => hr (hrole.1 _ hj)
        paid := fun hr => heffect.unjudged (by decide) fun hj => hr (hrole.1 _ hj)
        reverted := fun hr => heffect.unjudged (by decide) fun hj => hr (hrole.1 _ hj)
        undecided := fun ha hr => Masterpool.step_undecided hw fun hd => (hrole.2 hd).elim ha hr }

/-- Only the admin changes a config of the masterpool, or releases a reward. -/
theorem Action.exec_adminKept (ho : Operated s o) (hsig : o.admin ∉ a.keys)
    (h : a.exec host s = .ok s') : AdminKept s.masterpool s'.masterpool := by
  have hout := Action.exec_callOutcome h
  obtain ⟨g, hg, hadmin, -⟩ := ho.masterpool
  cases hcall : a.call with
  | none =>
    rw [hout.uncalled hcall]
    exact .refl _
  | some b =>
    have hb := hout.called b hcall
    cases a with
    | attestation c now i =>
      obtain ⟨j, rfl, hj⟩ := call_operator hcall
      exact Masterpool.exec_adminKept hg (fun hi => by cases hi.symm.trans hj) hb
    | masterpool c now i =>
      obtain rfl := Option.some.inj hcall
      refine Masterpool.exec_adminKept hg (fun hi => hsig ?_) hb
      rw [← hadmin]
      exact Masterpool.exec_signed hg hi hb
    | token c i =>
      obtain rfl := Option.some.inj hcall
      simp only [Masterpool.Action.exec, bind_eq_ok, cpi_eq_ok, pure_eq_ok] at hb
      obtain ⟨t, -, heq⟩ := hb
      rw [← heq]
      exact ⟨rfl, rfl, fun _ x hx => ⟨x, hx, rfl⟩⟩

/-! ## Steps and runs -/

/-- What is in the hand of the authority: no signer is registered or revoked, no receipt or
challenge is closed, and no receipt is submitted, charged or paid out. -/
structure AuthorityKept (s s' : System) : Prop where
  providerSigners : s'.attestation.providerSigners = s.attestation.providerSigners
  receipts : Store.Grows (fun _ _ => True) s.attestation.receipts s'.attestation.receipts
  challenges : Store.Grows (fun _ _ => True) s.attestation.challenges s'.attestation.challenges
  submitted : Store.NoneNew (fun _ => True) s.attestation.receipts s'.attestation.receipts
  charged : Store.NoneNew (fun _ => True) s.masterpool.settlements s'.masterpool.settlements
  paid : Store.NoneNew (fun x => x.status = .FinalizedSettled) s.masterpool.settlements
    s'.masterpool.settlements

/-- What is in the hand of the challenge resolver: no challenge is accepted, and no receipt is
reverted. -/
structure ResolverKept (s s' : System) : Prop where
  accepted : Store.NoneNew (fun x => x.status = .Accepted) s.attestation.challenges
    s'.attestation.challenges
  reverted : Store.NoneNew (fun x => x.status = .ChallengedReverted) s.masterpool.settlements
    s'.masterpool.settlements

/-- What needs one of the two: receipts go no further than to be challenged, challenges stay as
they are, and nothing is decided in the masterpool. -/
structure Pending (s s' : System) : Prop where
  receipts : Store.Grows Opened s.attestation.receipts s'.attestation.receipts
  challenges : Store.Grows Eq s.attestation.challenges s'.attestation.challenges
  masterpool : Undecided s.masterpool s'.masterpool

/-- What stays as it is between two states if the keys in `silent` sign nothing in between. -/
structure Guarded (o : Operators) (silent : Pubkey → Prop) (s s' : System) : Prop where
  operated : Operated s' o
  admin : silent o.admin → AdminKept s.masterpool s'.masterpool
  pauseAuthority : silent o.pauseAuthority → s'.attestation.config = s.attestation.config
  authority : silent o.authority → AuthorityKept s s'
  challengeResolver : silent o.challengeResolver → ResolverKept s s'
  resolution : silent o.authority → silent o.challengeResolver → Pending s s'

theorem setPause_operated {ctx : SetPause} {b : Bool} (ho : Operated s o)
    (h : setPause c ctx b s = .ok s') : Operated s' o := by
  obtain ⟨g, hg, hkeys⟩ := ho.attestation
  obtain ⟨g', hset, rfl⟩ := setPause_ok h
  obtain rfl := Option.some.inj (hg.symm.trans hset.config)
  exact ⟨ho.masterpool, _, rfl, hkeys⟩

/-- The operators are appointed once. -/
theorem step_operated (hw : Masterpool.Wf s.masterpool) (ho : Operated s o) (a : Action) :
    Operated (step host s a) o := by
  rcases @step_cases host s a with ⟨e, -, hs⟩ | hok
  · rw [hs]
    exact ho
  · have hturns := Action.exec_turns ho hok
    by_cases hr : a.role = some .pauseAuthority
    · cases a with
      | attestation c now i => cases i <;> first | exact setPause_operated ho hok | cases hr
      | masterpool c now i => cases hr
      | token c i => cases hr
    · obtain ⟨g, hg, hadmin, hlink⟩ := ho.masterpool
      obtain ⟨g', hg', hid⟩ := step_identity hw a hg
      refine ⟨⟨g', hg', hid.adminAuthority.trans hadmin, hid.attestationProgram.trans hlink⟩, ?_⟩
      rw [hturns.config hr]
      exact ho.attestation

theorem Guarded.refl (ho : Operated s o) (silent : Pubkey → Prop) : Guarded o silent s s where
  operated := ho
  admin _ := .refl _
  pauseAuthority _ := rfl
  authority _ := ⟨rfl, .refl (fun _ => trivial) _, .refl (fun _ => trivial) _, .refl _, .refl _,
    .refl _⟩
  challengeResolver _ := ⟨.refl _, .refl _⟩
  resolution _ _ := ⟨.refl Opened.refl _, .refl Eq.refl _, .refl _⟩

theorem AuthorityKept.trans {t u : System} (h : AuthorityKept s t) (h' : AuthorityKept t u) :
    AuthorityKept s u where
  providerSigners := h'.providerSigners.trans h.providerSigners
  receipts := h.receipts.trans (fun _ _ _ _ _ => trivial) h'.receipts
  challenges := h.challenges.trans (fun _ _ _ _ _ => trivial) h'.challenges
  submitted := h.submitted.trans h'.submitted
  charged := h.charged.trans h'.charged
  paid := h.paid.trans h'.paid

theorem Pending.trans {t u : System} (h : Pending s t) (h' : Pending t u) : Pending s u where
  receipts := h.receipts.trans (fun _ _ _ h h' => h.trans h') h'.receipts
  challenges := h.challenges.trans (fun _ _ _ h h' => h.trans h') h'.challenges
  masterpool := h.masterpool.trans h'.masterpool

theorem Guarded.trans {t u : System} {P Q : Pubkey → Prop} (h : Guarded o P s t)
    (h' : Guarded o Q t u) : Guarded o (fun k => P k ∧ Q k) s u where
  operated := h'.operated
  admin hk := (h.admin hk.1).trans (h'.admin hk.2)
  pauseAuthority hk := (h'.pauseAuthority hk.2).trans (h.pauseAuthority hk.1)
  authority hk := (h.authority hk.1).trans (h'.authority hk.2)
  challengeResolver hk :=
    ⟨(h.challengeResolver hk.1).accepted.trans (h'.challengeResolver hk.2).accepted,
      (h.challengeResolver hk.1).reverted.trans (h'.challengeResolver hk.2).reverted⟩
  resolution hk hk' := (h.resolution hk.1 hk'.1).trans (h'.resolution hk.2 hk'.2)

theorem Guarded.mono {P Q : Pubkey → Prop} (h : Guarded o P s s') (hPQ : ∀ k, Q k → P k) :
    Guarded o Q s s' where
  operated := h.operated
  admin hk := h.admin (hPQ _ hk)
  pauseAuthority hk := h.pauseAuthority (hPQ _ hk)
  authority hk := h.authority (hPQ _ hk)
  challengeResolver hk := h.challengeResolver (hPQ _ hk)
  resolution hk hk' := h.resolution (hPQ _ hk) (hPQ _ hk')

theorem step_guarded (hw : Masterpool.Wf s.masterpool) (ho : Operated s o) (a : Action) :
    Guarded o (· ∉ a.keys) s (step host s a) := by
  have hoperated : Operated (step host s a) o := step_operated hw ho a
  rcases @step_cases host s a with ⟨e, -, hs⟩ | hok
  · rw [hs]
    exact .refl ho _
  · have hturns := Action.exec_turns ho hok
    have hdecides := Action.exec_decides hw ho hok
    have hrole : ∀ {r : Role}, o.key r ∉ a.keys → a.role ≠ some r := fun hsig hr =>
      hsig (Action.exec_signed ho hr hok)
    exact
      { operated := hoperated
        admin := fun hk => Action.exec_adminKept ho hk hok
        pauseAuthority := fun hk => hturns.config (hrole hk)
        authority := fun hk =>
          { providerSigners := hturns.providerSigners (hrole hk)
            receipts := (hturns.closed (hrole hk)).1
            challenges := (hturns.closed (hrole hk)).2
            submitted := hturns.submitted (hrole hk)
            charged := hdecides.charged (hrole hk)
            paid := hdecides.paid (hrole hk) }
        challengeResolver := fun hk =>
          { accepted := hturns.accepted (hrole hk)
            reverted := hdecides.reverted (hrole hk) }
        resolution := fun hk hk' =>
          { receipts := (hturns.opened (hrole hk) (hrole hk')).1
            challenges := (hturns.opened (hrole hk) (hrole hk')).2
            masterpool := hdecides.undecided (hrole hk) (hrole hk') } }

theorem run_guarded (hw : Masterpool.Wf s.masterpool) (ho : Operated s o) (bs : List Action) :
    Guarded o (fun k => ∀ b ∈ bs, k ∉ b.keys) s (Machine.run (step host) s bs) := by
  induction bs generalizing s with
  | nil => exact .refl ho _
  | cons b bs ih =>
    have hstep : Guarded o (· ∉ b.keys) s (step host s b) := step_guarded hw ho b
    rw [Machine.run_cons]
    exact (hstep.trans (ih (step_wf hw b) hstep.operated)).mono fun k hk =>
      ⟨hk b List.mem_cons_self, fun b' hb' => hk b' (List.mem_cons_of_mem _ hb')⟩

/-- **Operators**: in every continuation `bs` of a run the four operators stay the same.  If the
admin signs nothing in it, the configs of the masterpool stay and nothing is released of a reward.
If the pause authority signs nothing, the config of the attestation program stays.  Without the
authority no receipt is submitted, charged, paid out or closed, and no signer is registered or
revoked; without the challenge resolver no receipt is reverted.  And without both, receipts are at
most challenged, and nothing leaves the vaults with the shares and bonds in dispute. -/
theorem operators_required (host : Host) (as bs : List Action) {o : Operators}
    (ho : Operated (reached host as) o) : Guarded o (fun k => ∀ b ∈ bs, k ∉ b.keys)
      (reached host as) (reached host (as ++ bs)) := by
  have hw : Masterpool.Wf (reached host as).masterpool := by
    rw [reached_masterpool]
    exact Masterpool.reached_wf _
  have hrun : Guarded o _ _ (Machine.run (step host) (reached host as) bs) := run_guarded hw ho bs
  rwa [reached, reached, Machine.run_append]

open Masterpool (wallet)

/-- The transaction of a challenger. -/
def challenger : Signers where
  keys := [wallet 10]
  foreign := by decide

def challengerRun : List Action :=
  [.attestation challenger 110 (.openChallenge ⟨wallet 10, receiptKey, wallet 11, MASTERPOOL_ID,
    Masterpool.challengeBondVault, wallet 2⟩ 0 (nonce 23))]

/-- The wallet `1` has all four offices, and the challenger does not sign for it. -/
theorem operators_open_challenge :
    AdminKept (reached sampleHost (submission ++ faucetClaim.map sent)).masterpool
      (reached sampleHost (submission ++ faucetClaim.map sent ++ challengerRun)).masterpool ∧
    Pending (reached sampleHost (submission ++ faucetClaim.map sent))
      (reached sampleHost (submission ++ faucetClaim.map sent ++ challengerRun)) := by
  have hguarded := operators_required sampleHost (submission ++ faucetClaim.map sent) challengerRun
    (o := ⟨wallet 1, wallet 1, wallet 1, wallet 1⟩)
    ⟨⟨(reached sampleHost (submission ++ faucetClaim.map sent)).masterpool.config.get
        (by decide +kernel), (Option.some_get _).symm, by decide +kernel, by decide +kernel⟩,
      (reached sampleHost (submission ++ faucetClaim.map sent)).attestation.config.get
        (by decide +kernel), (Option.some_get _).symm, by decide +kernel, by decide +kernel,
      by decide +kernel⟩
  have hsilent : ∀ b ∈ challengerRun, wallet 1 ∉ b.keys := by decide
  exact ⟨hguarded.admin hsilent, hguarded.resolution hsilent hsilent⟩

end Protocol
