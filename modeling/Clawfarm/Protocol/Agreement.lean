import Clawfarm.Attestation.Ed25519
import Clawfarm.Masterpool.Enforcement
import Clawfarm.Protocol.Progress

/-!
# Protocol.Agreement — the two programs agree on every receipt

The attestation program knows a receipt and its challenge, the masterpool program its settlement
and its bond record.  In every state that the two programs reach, what one of them says determines
what the other one says (`Agreement`).
-/

namespace Protocol

open Checked Attestation
open Masterpool (ReceiptSettlement ReceiptSettlementStatus ChallengeBondRecord)

/-! ## Receipts, challenges, settlements and bond records -/

def IsReceipt (s : System) (k : Pubkey) (r : Receipt) : Prop := s.attestation.receipts.get k = some r

/-- `x` is a challenge of the receipt `k`. -/
def IsChallenge (s : System) (k : Pubkey) (x : Challenge) : Prop :=
  ∃ j, s.attestation.challenges.get j = some x ∧ x.receipt = k

/-- `b` is a bond record for the receipt `k`. -/
def IsBond (s : System) (k : Pubkey) (b : ChallengeBondRecord) : Prop :=
  ∃ j, s.masterpool.bonds.get j = some b ∧ b.attestationReceipt = k

/-- The receipt `k` has a settlement with the status `st`. -/
def IsSettled (s : System) (k : Pubkey) (st : ReceiptSettlementStatus) : Prop :=
  ∃ y, s.masterpool.settlements.get k = some y ∧ y.status = st

/-- The two programs agree on the receipt `k`. -/
structure Agreement (s : System) (k : Pubkey) : Prop where
  submitted : ∀ r, IsReceipt s k r → r.status = .Submitted →
    IsSettled s k .Recorded ∧ (∀ x, ¬ IsChallenge s k x) ∧ ∀ b, ¬ IsBond s k b
  challenged : (∃ r, IsReceipt s k r ∧ r.status = .Challenged) ↔
    ∃ x, IsChallenge s k x ∧ x.status = .Open
  locked : (∃ x, IsChallenge s k x ∧ x.status = .Open) ↔ ∃ b, IsBond s k b ∧ b.status = .Locked
  recorded : ∀ r, IsReceipt s k r → r.status = .Challenged → IsSettled s k .Recorded
  rejected : ∀ r, IsReceipt s k r → r.status = .Finalized → r.economicsSettled = false →
    IsSettled s k .Recorded ∧ ∃ b, IsBond s k b ∧ b.status = .Burned
  finalized : ∀ r, IsReceipt s k r → r.status = .Finalized → r.economicsSettled = true →
    IsSettled s k .FinalizedSettled
  reverted : ∀ r, IsReceipt s k r → r.status = .Rejected ∨ r.status = .Slashed →
    r.economicsSettled = true ∧ IsSettled s k .ChallengedReverted ∧
      ∃ b, IsBond s k b ∧ b.status = .Returned
  closed : (∀ r, ¬ IsReceipt s k r) → ¬ IsSettled s k .Recorded
  bonded : ∀ x, IsChallenge s k x → ∃ b, IsBond s k b ∧
    b.challenger = x.challenger ∧ b.bondAmount = x.bondAmount
  single : (∀ x x', IsChallenge s k x → IsChallenge s k x' → x = x') ∧
    ∀ b b', IsBond s k b → IsBond s k b' → b = b'

/-! ## What a view shows of them -/

variable {s : System} {k : Pubkey}

theorem isChallenge_iff (hk : Keyed s) {x : Challenge} :
    IsChallenge s k x ↔ (view s k).challenge = some x := by
  constructor
  · rintro ⟨j, hx, rfl⟩
    rwa [hk.challenge j x hx] at hx
  · intro hx
    exact ⟨_, hx, (challengeAddress_inj (hk.challenge _ x hx)).symm⟩

theorem isBond_iff (hk : Keyed s) {b : ChallengeBondRecord} :
    IsBond s k b ↔ (view s k).bond = some b := by
  constructor
  · rintro ⟨j, hb, rfl⟩
    rwa [hk.bond j b hb] at hb
  · intro hb
    exact ⟨_, hb, (challengeAddress_inj (hk.bond _ b hb)).symm⟩

theorem isSettled_iff {st : ReceiptSettlementStatus} :
    IsSettled s k st ↔ (view s k).settlement = some st := by
  simp only [IsSettled, view, Option.map_eq_some_iff]

/-- The accounts of a receipt agree in every phase. -/
theorem View.Shows.agrees {ph : Phase} (hk : Keyed s) (h : (view s k).Shows ph) :
    Agreement s k where
  submitted r hr hst := by
    obtain ⟨t₀, -, hph⟩ := h.of_receipt hr
    rw [hst] at hph
    obtain ⟨rfl, -⟩ := hph
    refine ⟨isSettled_iff.mpr h.2.1, fun x hx => ?_, fun b hb => ?_⟩
    · exact nomatch h.2.2.1.symm.trans ((isChallenge_iff hk).mp hx)
    · exact nomatch h.2.2.2.symm.trans ((isBond_iff hk).mp hb)
  challenged := by
    constructor
    · rintro ⟨r, hr, hst⟩
      obtain ⟨t₀, -, hph⟩ := h.of_receipt hr
      rw [hst] at hph
      obtain ⟨t₁, rfl, -⟩ := hph
      obtain ⟨-, -, ⟨x, hx, -⟩, hj⟩ := h
      exact ⟨x, (isChallenge_iff hk).mpr hx, hj.challenge hx⟩
    · rintro ⟨x, hx, hst⟩
      obtain ⟨t₀, t₁, rfl⟩ := h.of_open ((isChallenge_iff hk).mp hx) hst
      obtain ⟨⟨r, hr, -, hst, -⟩, -⟩ := h
      exact ⟨r, hr, hst⟩
  locked := by
    constructor
    · rintro ⟨x, hx, hst⟩
      obtain ⟨t₀, t₁, rfl⟩ := h.of_open ((isChallenge_iff hk).mp hx) hst
      obtain ⟨-, -, -, b, hb, hlocked, -⟩ := h
      exact ⟨b, (isBond_iff hk).mpr hb, hlocked⟩
    · rintro ⟨b, hb, hst⟩
      obtain ⟨t₀, t₁, rfl⟩ := h.of_locked ((isBond_iff hk).mp hb) hst
      obtain ⟨-, -, ⟨x, hx, -⟩, hj⟩ := h
      exact ⟨x, (isChallenge_iff hk).mpr hx, hj.challenge hx⟩
  recorded r hr hst := by
    obtain ⟨t₀, -, hph⟩ := h.of_receipt hr
    rw [hst] at hph
    obtain ⟨t₁, rfl, -⟩ := hph
    exact isSettled_iff.mpr h.2.1
  rejected r hr hst hset := by
    obtain ⟨t₀, -, hph⟩ := h.of_receipt hr
    rw [hst, hset] at hph
    subst hph
    obtain ⟨-, hrec, b, hb, hburned, -⟩ := h
    exact ⟨isSettled_iff.mpr hrec, b, (isBond_iff hk).mpr hb, hburned⟩
  finalized r hr hst hset := by
    obtain ⟨t₀, -, hph⟩ := h.of_receipt hr
    rw [hst, hset] at hph
    subst hph
    exact isSettled_iff.mpr h.2.1
  reverted r hr hst := by
    obtain ⟨t₀, -, hph⟩ := h.of_receipt hr
    have hrev : ph = .reverted t₀ ∧ r.economicsSettled = true := by
      rcases hst with hst | hst
      · rwa [hst] at hph
      · rwa [hst] at hph
    obtain ⟨rfl, hset⟩ := hrev
    obtain ⟨-, hrev, b, hb, hreturned, -⟩ := h
    exact ⟨hset, isSettled_iff.mpr hrev, b, (isBond_iff hk).mpr hb, hreturned⟩
  closed hnone hset := by
    have hno : ∀ {t st settled}, ¬ (view s k).Holds t st settled := fun ⟨r, hr, _⟩ => hnone r hr
    rw [isSettled_iff] at hset
    cases ph with
    | absent => exact nomatch h.2.1.symm.trans hset
    | submitted t₀ => exact hno h.1
    | challenged t₀ t₁ => exact hno h.1
    | rejected t₀ => exact hno h.1
    | finalized t₀ => exact hno h.1
    | reverted t₀ => exact h.1.elim hno hno
    | closed st =>
      obtain rfl := Option.some.inj (h.2.1.symm.trans hset)
      rcases h.2.2 with ⟨hfin, -⟩ | ⟨hrev, -⟩
      · cases hfin
      · cases hrev
  bonded x hx := by
    obtain ⟨b, hb, hmatch⟩ := h.matches ((isChallenge_iff hk).mp hx)
    exact ⟨b, (isBond_iff hk).mpr hb, hmatch⟩
  single := by
    refine ⟨fun x x' hx hx' => ?_, fun b b' hb hb' => ?_⟩
    · rw [isChallenge_iff hk] at hx hx'
      exact Option.some.inj (hx.symm.trans hx')
    · rw [isBond_iff hk] at hb hb'
      exact Option.some.inj (hb.symm.trans hb')

/-- **Agreement**: in every state that the two programs reach, they agree on every receipt. -/
theorem agreement (host : Host) (as : List Action) (h : Linked (reached host as)) (k : Pubkey) :
    Agreement (reached host as) k := by
  obtain ⟨ph, -, hsim⟩ := reached_path as h k
  exact hsim.shows.agrees hsim.keyed

/-! ## A run with a rejected challenge

The pool of `Masterpool.Enforcement`, with the attestation program in front of it: the admin `1` is
also the authority and the resolver, `4` attests for the provider `5`, the payer is `7` with the
delegate `9`, and `10` challenges the receipt with CLAW from the faucet. -/

open Masterpool (wallet opening moderateRate)

def parties : Signers where
  keys := [1, 2, 3, 4, 5, 6, 7, 8, 9, 10, 11, 12].map wallet
  foreign := by decide

/-- A masterpool action, sent by the parties themselves. -/
def sent : Masterpool.Action → Action
  | .call _ now i => .masterpool parties now i
  | .token _ i => .token parties i

def nonce (n : UInt8) : Bytes32 := ⟨List.replicate 32 n, List.length_replicate⟩

/-- The SHA-256 digest of the receipt below. -/
def receiptDigest : Bytes32 :=
  ⟨[136, 144, 247, 250, 62, 228, 218, 64, 117, 31, 215, 154, 96, 156, 190, 131, 214, 70, 61, 43, 230,
    164, 68, 63, 63, 231, 122, 218, 209, 254, 0, 109], rfl⟩

/-- SHA-256 on the receipt below, where all addresses are ordinary keys. -/
def sampleHost : Host := ⟨fun _ => receiptDigest, fun _ => nonce 0⟩

def receiptArgs : SubmitReceiptArgs := ⟨nonce 21, nonce 22, 700, 300, 1000000, receiptDigest⟩

def receiptTransaction : InstructionsSysvar where
  currentIndex := some 1
  instructions :=
    [⟨ED25519_PROGRAM_ID, [], ed25519IxData (nonce 4).bytes (List.replicate 64 0)
      receiptDigest.bytes⟩, ⟨ATTESTATION_ID, [], []⟩]

def receiptKey : Pubkey := receiptAddress (nonce 21)

def challengeAccounts : ChallengeAccounts :=
  ⟨receiptKey, challengeAddress receiptKey, MASTERPOOL_ID, Masterpool.challengeBondVault,
    Masterpool.rewardVault, Masterpool.providerPendingUsdcVault, wallet 11, wallet 8, wallet 2,
    wallet 3⟩

/-- The receipt is submitted at the time `10`, with a window of `100` seconds. -/
def submission : List Action := (opening moderateRate).map sent ++
  [.attestation parties 1 (.initializeConfig ⟨wallet 1, some (wallet 0), wallet 0, some (wallet 1)⟩
    ⟨wallet 1, wallet 1, wallet 1, MASTERPOOL_ID, 100, 50⟩),
   .attestation parties 1 (.upsertProviderSigner ⟨wallet 1⟩ ⟨wallet 4, wallet 5, 2, 0, 0⟩),
   .attestation parties 10 (.submitReceipt receiptTransaction ⟨wallet 1, (wallet 5, wallet 4),
    wallet 7, wallet 7, wallet 9, wallet 8, MASTERPOOL_ID, wallet 5, Masterpool.treasuryUsdcVault,
    Masterpool.providerPendingUsdcVault, wallet 3⟩ receiptArgs)]

/-- The challenger gets its CLAW from the faucet. -/
def faucetClaim : List Masterpool.Action :=
  [.token Masterpool.everyone (.initializeAccount (wallet 11) (wallet 2) (wallet 10)),
   .token Masterpool.everyone (.initializeAccount (wallet 12) (wallet 3) (wallet 10)),
   .call Masterpool.everyone 2 (.initializeFaucet ⟨wallet 2, wallet 3, wallet 1, wallet 1⟩),
   .call Masterpool.everyone 2 (.fundFaucetClaw
    ⟨Masterpool.rewardVault, Masterpool.faucetClawVault, wallet 2, wallet 1⟩ 10000000),
   .call Masterpool.everyone 2 (.setFaucetEnabled ⟨wallet 1⟩ true),
   .call Masterpool.everyone 3 (.claimFaucet ⟨Masterpool.faucetClawVault,
    Masterpool.faucetUsdcVault, wallet 11, wallet 12, wallet 2, wallet 3, wallet 10, wallet 10⟩
    ⟨1000, 0⟩)]

/-- The receipt is challenged at the time `110`, and the challenge times out at `161`. -/
def rejection : List Action := submission ++ faucetClaim.map sent ++
  [.attestation parties 110 (.openChallenge ⟨wallet 10, receiptKey, wallet 11, MASTERPOOL_ID,
    Masterpool.challengeBondVault, wallet 2⟩ 0 (nonce 23)),
   .attestation parties 161 (.timeoutRejectChallenge ⟨wallet 1, challengeAccounts⟩)]

theorem linked_of_config {g : Masterpool.GlobalConfig} (h : s.masterpool.config = some g)
    (hg : g.attestationProgram = ATTESTATION_ID) : Linked s := fun g' hg' => by
  rwa [← Option.some.inj (h.symm.trans hg')]

/-- The rejected receipt awaits its finalization. -/
theorem agreement_after_rejection : (∃ r, IsReceipt (reached sampleHost rejection) receiptKey r ∧
    r.status = .Finalized ∧ r.economicsSettled = false) ∧
      Agreement (reached sampleHost rejection) receiptKey := by
  refine ⟨⟨((reached sampleHost rejection).attestation.receipts.get receiptKey).get
    (by decide +kernel), (Option.some_get _).symm, by decide +kernel, by decide +kernel⟩,
    agreement sampleHost rejection (linked_of_config (g :=
      (reached sampleHost rejection).masterpool.config.get (by decide +kernel))
      (Option.some_get _).symm (by decide +kernel)) receiptKey⟩

end Protocol
