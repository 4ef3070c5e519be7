import Clawfarm.Attestation.Receipt

/-!
# Attestation.Challenge — opening, resolving and closing challenges

The handlers of `instructions/challenge.rs` with their account validation.
-/

namespace Attestation

open Checked

/-! ## Opening -/

structure OpenChallenge where
  challenger : Pubkey
  receipt : Pubkey
  challengerClawToken : Pubkey
  masterpoolProgram : Pubkey
  masterpoolChallengeBondVault : Pubkey
  clawMint : Pubkey

/-- The call of `record_challenge_bond`. -/
def OpenChallenge.economics (ctx : OpenChallenge) : Masterpool.Instruction :=
  .recordChallengeBond
    { attestationConfig := configInfo
      challenger := ctx.challenger
      challengerClawToken := ctx.challengerClawToken
      attestationReceipt := ctx.receipt
      attestationChallenge := challengeAddress ctx.receipt
      challengeBondVault := ctx.masterpoolChallengeBondVault
      clawMint := ctx.clawMint }

def openChallenge (c : Signers) (now : ℤ) (ctx : OpenChallenge) (challengeType : UInt8)
    (evidenceHash : Bytes32) (s : System) : Result System := do
  c.sign ctx.challenger
  let config ← load s.attestation.config
  let receipt ← load (s.attestation.receipts.get ctx.receipt)
  vacant (s.attestation.challenges.get (challengeAddress ctx.receipt))
  let _ ← load (s.masterpool.tokens.accounts.get ctx.challengerClawToken)
  let masterpoolConfig ← load s.masterpool.config
  requireMasterpool config ctx.masterpoolProgram
  let _ ← load (s.masterpool.tokens.accounts.get ctx.masterpoolChallengeBondVault)
  let _ ← load (s.masterpool.tokens.mints.get ctx.clawMint)
  -- the handler
  let challengeType ← ChallengeType.tryFrom challengeType
  ensure (receipt.status = .Submitted) .ReceiptNotChallengeable
  ensure (now ≤ receipt.challengeDeadline) .ChallengeWindowClosed
  let masterpool ← invoke c now ctx.economics s.masterpool
  return {
    masterpool := masterpool
    attestation := { s.attestation with
      receipts := s.attestation.receipts.set ctx.receipt { receipt with status := .Challenged }
      challenges := s.attestation.challenges.set (challengeAddress ctx.receipt)
        { receipt := ctx.receipt
          challenger := ctx.challenger
          challengeType := challengeType
          evidenceHash := evidenceHash
          bondAmount := masterpoolConfig.challengeBondClawAmount
          openedAt := now
          resolvedAt := 0
          status := .Open
          resolutionCode := .None } } }

/-! ## Resolving -/

/-- The accounts of `ResolveChallenge` and `TimeoutRejectChallenge` that both pass on. -/
structure ChallengeAccounts where
  receipt : Pubkey
  challenge : Pubkey
  masterpoolProgram : Pubkey
  masterpoolChallengeBondVault : Pubkey
  masterpoolRewardVault : Pubkey
  masterpoolProviderPendingUsdcVault : Pubkey
  challengerClawToken : Pubkey
  payerUsdcToken : Pubkey
  clawMint : Pubkey
  usdcMint : Pubkey

/-- The call of `resolve_challenge_economics`. -/
def ChallengeAccounts.economics (accounts : ChallengeAccounts) (resolutionCode : ResolutionCode) :
    Masterpool.Instruction :=
  .resolveChallengeEconomics
    { attestationConfig := configInfo
      attestationReceipt := accounts.receipt
      attestationChallenge := accounts.challenge
      challengeBondVault := accounts.masterpoolChallengeBondVault
      rewardVault := accounts.masterpoolRewardVault
      providerPendingUsdcVault := accounts.masterpoolProviderPendingUsdcVault
      challengerClawToken := accounts.challengerClawToken
      payerUsdcToken := accounts.payerUsdcToken
      clawMint := accounts.clawMint
      usdcMint := accounts.usdcMint }
    resolutionCode.toU8

structure ResolveChallenge where
  challengeResolver : Pubkey
  accounts : ChallengeAccounts

/-- The statuses of challenge and receipt after a resolution, and whether the economics of the
receipt are settled by it (`match resolution_code`). -/
def ResolutionCode.outcome : ResolutionCode →
    Option (ChallengeStatus × ReceiptStatus × Bool)
  | .Accepted | .ReceiptInvalidated => some (.Accepted, .Rejected, true)
  | .SignerRevoked => some (.Accepted, .Slashed, true)
  | .Rejected => some (.Rejected, .Finalized, false)
  | .None => none

/-- The part of a resolution after the checks of the caller: the challenge has to be open, and the
economics follow the code. -/
def resolve (c : Signers) (now : ℤ) (accounts : ChallengeAccounts) (receipt : Receipt)
    (challenge : Challenge) (resolutionCode : ResolutionCode) (s : System) : Result System := do
  ensure (challenge.status = .Open) .ChallengeNotResolvable
  let (challengeStatus, receiptStatus, settled) ←
    orFail resolutionCode.outcome .ChallengeResolutionInvalid
  let masterpool ← invoke c now (accounts.economics resolutionCode) s.masterpool
  return {
    masterpool := masterpool
    attestation := { s.attestation with
      receipts := s.attestation.receipts.set accounts.receipt
        { receipt with
          status := receiptStatus
          finalizedAt := now
          economicsSettled := settled }
      challenges := s.attestation.challenges.set accounts.challenge
        { challenge with
          resolutionCode := resolutionCode
          resolvedAt := now
          status := challengeStatus } } }

def resolveChallenge (c : Signers) (now : ℤ) (ctx : ResolveChallenge) (resolutionCode : UInt8)
    (s : System) : Result System := do
  c.sign ctx.challengeResolver
  let config ← load s.attestation.config
  constraint (config.challengeResolver = ctx.challengeResolver) .ConstraintHasOne
  let receipt ← load (s.attestation.receipts.get ctx.accounts.receipt)
  let challenge ← load (s.attestation.challenges.get ctx.accounts.challenge)
  ensure (challenge.receipt = ctx.accounts.receipt) .ReceiptNonceMismatch
  requireMasterpool config ctx.accounts.masterpoolProgram
  -- the handler
  let resolutionCode ← ResolutionCode.tryFrom resolutionCode
  ensure (resolutionCode ≠ .None) .ChallengeResolutionInvalid
  resolve c now ctx.accounts receipt challenge resolutionCode s

structure TimeoutRejectChallenge where
  authority : Pubkey
  accounts : ChallengeAccounts

/-- `checked_add` of `i64` -/
def checkedAddI64 (left right : ℤ) : Result ℤ :=
  checkedInt i64Min i64Max (left + right) (.custom (.code .MathOverflow))

def timeoutRejectChallenge (c : Signers) (now : ℤ) (ctx : TimeoutRejectChallenge) (s : System) :
    Result System := do
  let config ← loadAsAuthority c ctx.authority s
  let receipt ← load (s.attestation.receipts.get ctx.accounts.receipt)
  let challenge ← load (s.attestation.challenges.get ctx.accounts.challenge)
  ensure (challenge.receipt = ctx.accounts.receipt) .ReceiptNonceMismatch
  requireMasterpool config ctx.accounts.masterpoolProgram
  -- the handler
  let timeoutDeadline ←
    checkedAddI64 challenge.openedAt config.challengeResolutionTimeoutSeconds
  ensure (timeoutDeadline < now) .ChallengeResolutionTimeoutOpen
  resolve c now ctx.accounts receipt challenge .Rejected s

/-! ## Closing -/

structure CloseChallenge where
  authority : Pubkey
  challenge : Pubkey

def closeChallenge (c : Signers) (ctx : CloseChallenge) (s : System) : Result System := do
  let _ ← loadAsAuthority c ctx.authority s
  let challenge ← load (s.attestation.challenges.get ctx.challenge)
  ensure (challenge.status = .Accepted ∨ challenge.status = .Rejected) .ChallengeNotClosable
  return { s with attestation := { s.attestation with
    challenges := s.attestation.challenges.erase ctx.challenge } }

/-! ## What the handlers do -/

/-- What an opening has passed: `r` is the receipt, `q` the config of the masterpool and `m` the
masterpool after the call. -/
structure Challenges (c : Signers) (now : ℤ) (ctx : OpenChallenge) (challengeType : UInt8)
    (s : System) (g : Config) (r : Receipt) (q : Masterpool.GlobalConfig) (ty : ChallengeType)
    (m : Masterpool.State) : Prop where
  signed : ctx.challenger ∈ c.keys
  config : s.attestation.config = some g
  receipt : s.attestation.receipts.get ctx.receipt = some r
  fresh : s.attestation.challenges.get (challengeAddress ctx.receipt) = none
  token : ∃ y, s.masterpool.tokens.accounts.get ctx.challengerClawToken = some y
  pool : s.masterpool.config = some q
  program : g.masterpoolProgram = ctx.masterpoolProgram ∧ ctx.masterpoolProgram = MASTERPOOL_ID
  vault : ∃ y, s.masterpool.tokens.accounts.get ctx.masterpoolChallengeBondVault = some y
  mint : ∃ n, s.masterpool.tokens.mints.get ctx.clawMint = some n
  type : ChallengeType.tryFrom challengeType = .ok ty
  submitted : r.status = .Submitted
  window : now ≤ r.challengeDeadline
  economics : Masterpool.exec c.withConfig now s.masterpool ctx.economics = .ok m

/-- The challenge that an opening creates. -/
def opened (now : ℤ) (ctx : OpenChallenge) (evidenceHash : Bytes32) (q : Masterpool.GlobalConfig)
    (ty : ChallengeType) : Challenge :=
  ⟨ctx.receipt, ctx.challenger, ty, evidenceHash, q.challengeBondClawAmount, now, 0, .Open, .None⟩

theorem openChallenge_iff {c : Signers} {now : ℤ} {ctx : OpenChallenge} {challengeType : UInt8}
    {evidenceHash : Bytes32} {s s' : System} :
    openChallenge c now ctx challengeType evidenceHash s = .ok s' ↔
      ∃ g r q ty m, Challenges c now ctx challengeType s g r q ty m ∧
        s' = ⟨m, { s.attestation with
          receipts := s.attestation.receipts.set ctx.receipt { r with status := .Challenged }
          challenges := s.attestation.challenges.set (challengeAddress ctx.receipt)
            (opened now ctx evidenceHash q ty) }⟩ := by
  simp only [openChallenge, bind_eq_ok, load_eq_ok, vacant_eq_ok, sign_eq_ok, ensure_eq_ok,
    requireMasterpool_eq_ok, invoke_eq_ok, exists_unit, pure_eq_ok]
  constructor
  · rintro ⟨hsig, g, hg, r, hr, hfresh, y, hy, q, hq, hprogram, z, hz, n, hn, ty, hty, hsub, hwin,
      m, hm, rfl⟩
    exact ⟨g, r, q, ty, m, ⟨hsig, hg, hr, hfresh, ⟨y, hy⟩, hq, hprogram, ⟨z, hz⟩, ⟨n, hn⟩, hty,
      hsub, hwin, hm⟩, rfl⟩
  · rintro ⟨g, r, q, ty, m, h, rfl⟩
    obtain ⟨y, hy⟩ := h.token
    obtain ⟨z, hz⟩ := h.vault
    obtain ⟨n, hn⟩ := h.mint
    exact ⟨h.signed, g, h.config, r, h.receipt, h.fresh, y, hy, q, h.pool, h.program, z, hz, n, hn,
      ty, h.type, h.submitted, h.window, m, h.economics, rfl⟩

/-- What a successful opening means: `x` is the new challenge, `m` the masterpool after the call. -/
structure Opens (c : Signers) (now : ℤ) (ctx : OpenChallenge) (s : System) (r : Receipt)
    (x : Challenge) (m : Masterpool.State) : Prop where
  config : ∃ g, s.attestation.config = some g
  receipt : s.attestation.receipts.get ctx.receipt = some r
  fresh : s.attestation.challenges.get (challengeAddress ctx.receipt) = none
  submitted : r.status = .Submitted
  window : now ≤ r.challengeDeadline
  about : x.receipt = ctx.receipt ∧ x.challenger = ctx.challenger ∧ x.openedAt = now
  bond : ∃ g, s.masterpool.config = some g ∧ x.bondAmount = g.challengeBondClawAmount
  opened : x.status = .Open
  economics : Masterpool.exec c.withConfig now s.masterpool ctx.economics = .ok m

theorem openChallenge_ok {c : Signers} {now : ℤ} {ctx : OpenChallenge} {challengeType : UInt8}
    {evidenceHash : Bytes32} {s s' : System}
    (h : openChallenge c now ctx challengeType evidenceHash s = .ok s') :
    ∃ r x m, Opens c now ctx s r x m ∧
      s' = ⟨m, { s.attestation with
        receipts := s.attestation.receipts.set ctx.receipt { r with status := .Challenged }
        challenges := s.attestation.challenges.set (challengeAddress ctx.receipt) x }⟩ := by
  obtain ⟨g, r, q, ty, m, hpass, rfl⟩ := openChallenge_iff.mp h
  exact ⟨r, _, m, ⟨⟨g, hpass.config⟩, hpass.receipt, hpass.fresh, hpass.submitted, hpass.window,
    ⟨rfl, rfl, rfl⟩, ⟨q, hpass.pool, rfl⟩, rfl, hpass.economics⟩, rfl⟩

/-- What a successful resolution means: `r` is the receipt, `x` the challenge. -/
structure Resolves (c : Signers) (now : ℤ) (accounts : ChallengeAccounts) (code : ResolutionCode)
    (s : System) (r : Receipt) (x : Challenge) (cs : ChallengeStatus) (rs : ReceiptStatus)
    (settled : Bool) (m : Masterpool.State) : Prop where
  receipt : s.attestation.receipts.get accounts.receipt = some r
  challenge : s.attestation.challenges.get accounts.challenge = some x
  about : x.receipt = accounts.receipt
  opened : x.status = .Open
  outcome : code.outcome = some (cs, rs, settled)
  economics : Masterpool.exec c.withConfig now s.masterpool (accounts.economics code) = .ok m

/-- The state after a resolution. -/
def resolved (now : ℤ) (accounts : ChallengeAccounts) (code : ResolutionCode) (s : System)
    (r : Receipt) (x : Challenge) (cs : ChallengeStatus) (rs : ReceiptStatus) (settled : Bool)
    (m : Masterpool.State) : System :=
  ⟨m, { s.attestation with
    receipts := s.attestation.receipts.set accounts.receipt
      { r with status := rs, finalizedAt := now, economicsSettled := settled }
    challenges := s.attestation.challenges.set accounts.challenge
      { x with resolutionCode := code, resolvedAt := now, status := cs } }⟩

theorem resolve_ok {c : Signers} {now : ℤ} {accounts : ChallengeAccounts} {r : Receipt}
    {x : Challenge} {code : ResolutionCode} {s s' : System}
    (hr : s.attestation.receipts.get accounts.receipt = some r)
    (hx : s.attestation.challenges.get accounts.challenge = some x)
    (habout : x.receipt = accounts.receipt)
    (h : resolve c now accounts r x code s = .ok s') :
    ∃ cs rs settled m, Resolves c now accounts code s r x cs rs settled m ∧
      s' = resolved now accounts code s r x cs rs settled m := by
  simp only [resolve, bind_eq_ok, ensure_eq_ok, orFail_eq_ok, invoke_eq_ok, exists_unit,
    pure_eq_ok] at h
  obtain ⟨hopen, ⟨cs, rs, settled⟩, hout, m, hm, rfl⟩ := h
  exact ⟨cs, rs, settled, m, ⟨hr, hx, habout, hopen, hout, hm⟩, rfl⟩

/-- The challenge resolver signs a resolution. -/
structure ByResolver (c : Signers) (ctx : ResolveChallenge) (s : System) : Prop where
  signed : ctx.challengeResolver ∈ c.keys
  resolver : ∃ g, s.attestation.config = some g ∧ g.challengeResolver = ctx.challengeResolver

theorem resolveChallenge_ok {c : Signers} {now : ℤ} {ctx : ResolveChallenge} {code : UInt8}
    {s s' : System} (h : resolveChallenge c now ctx code s = .ok s') :
    ∃ rc r x cs rs settled m, ResolutionCode.tryFrom code = .ok rc ∧ ByResolver c ctx s ∧
      Resolves c now ctx.accounts rc s r x cs rs settled m ∧
      s' = resolved now ctx.accounts rc s r x cs rs settled m := by
  simp only [resolveChallenge, bind_eq_ok, load_eq_ok, constraint_eq_ok, sign_eq_ok, ensure_eq_ok,
    requireMasterpool_eq_ok, exists_unit] at h
  obtain ⟨hsig, g, hg, hres, r, hr, x, hx, habout, -, rc, hrc, -, h⟩ := h
  obtain ⟨cs, rs, settled, m, hm, rfl⟩ := resolve_ok hr hx habout h
  exact ⟨rc, r, x, cs, rs, settled, m, hrc, ⟨hsig, g, hg, hres⟩, hm, rfl⟩

/-- The authority rejects a challenge that has been open for too long. -/
structure ByTimeout (c : Signers) (now : ℤ) (ctx : TimeoutRejectChallenge) (s : System)
    (x : Challenge) : Prop where
  signed : ctx.authority ∈ c.keys
  authority : ∃ g, s.attestation.config = some g ∧ g.authority = ctx.authority ∧
    x.openedAt + g.challengeResolutionTimeoutSeconds < now

theorem timeoutRejectChallenge_ok {c : Signers} {now : ℤ} {ctx : TimeoutRejectChallenge}
    {s s' : System} (h : timeoutRejectChallenge c now ctx s = .ok s') :
    ∃ r x cs rs settled m, ByTimeout c now ctx s x ∧
      Resolves c now ctx.accounts .Rejected s r x cs rs settled m ∧
      s' = resolved now ctx.accounts .Rejected s r x cs rs settled m := by
  simp only [timeoutRejectChallenge, bind_eq_ok, loadAsAuthority_eq_ok, load_eq_ok, ensure_eq_ok,
    requireMasterpool_eq_ok, checkedAddI64, checkedInt_eq_ok, exists_unit, exists_result] at h
  obtain ⟨g, ⟨hsig, hg, hauth⟩, r, hr, x, hx, habout, -, -, htime, h⟩ := h
  obtain ⟨cs, rs, settled, m, hm, rfl⟩ := resolve_ok hr hx habout h
  exact ⟨r, x, cs, rs, settled, m, ⟨hsig, g, hg, hauth, htime⟩, hm, rfl⟩

/-- What a successful closing means. -/
structure ClosesChallenge (s : System) (k : Pubkey) (x : Challenge) : Prop where
  config : ∃ g, s.attestation.config = some g
  challenge : s.attestation.challenges.get k = some x
  resolved : x.status ≠ .Open

theorem closeChallenge_ok {c : Signers} {ctx : CloseChallenge} {s s' : System}
    (h : closeChallenge c ctx s = .ok s') : ∃ x, ClosesChallenge s ctx.challenge x ∧
      s' = { s with attestation := { s.attestation with
        challenges := s.attestation.challenges.erase ctx.challenge } } := by
  simp only [closeChallenge, bind_eq_ok, loadAsAuthority_eq_ok, load_eq_ok, ensure_eq_ok,
    exists_unit, pure_eq_ok] at h
  obtain ⟨g, ⟨-, hg, -⟩, x, hx, hst, rfl⟩ := h
  refine ⟨x, ⟨⟨g, hg⟩, hx, fun ho => ?_⟩, rfl⟩
  rw [ho] at hst
  rcases hst with h | h <;> cases h

end Attestation
