import Clawfarm.Attestation.Utils

/-!
# Attestation.Admin — configuration and provider signers

The handlers of `instructions/admin.rs` with their account validation.
-/

namespace Attestation

open Checked

def validateInitializeConfigAuthorities (authority pauseAuthority challengeResolver : Pubkey) :
    Result Unit := do
  ensure (authority ≠ .default) .InvalidAuthority
  ensure (pauseAuthority ≠ .default) .InvalidPauseAuthority
  ensure (challengeResolver ≠ .default) .InvalidChallengeResolver

def validateProviderSignerKeys (signer providerWallet : Pubkey) : Result Unit := do
  ensure (signer ≠ .default) .InvalidSigner
  ensure (providerWallet ≠ .default) .InvalidProviderWallet

structure InitializeConfig where
  initializer : Pubkey
  programdataAddress : Option Pubkey
  selfProgramData : Pubkey
  upgradeAuthorityAddress : Option Pubkey

structure InitializeConfigArgs where
  authority : Pubkey
  pauseAuthority : Pubkey
  challengeResolver : Pubkey
  masterpoolProgram : Pubkey
  challengeWindowSeconds : Int64
  challengeResolutionTimeoutSeconds : Int64

def initializeConfig (c : Signers) (ctx : InitializeConfig) (args : InitializeConfigArgs)
    (s : System) : Result System := do
  c.sign ctx.initializer
  vacant s.attestation.config
  ensure (ctx.programdataAddress = some ctx.selfProgramData) .InvalidProgramData
  ensure (ctx.upgradeAuthorityAddress = some ctx.initializer) .UnauthorizedInitializer
  -- the handler
  ensure (0 < args.challengeWindowSeconds.toInt) .InvalidWindow
  ensure (0 < args.challengeResolutionTimeoutSeconds.toInt) .InvalidWindow
  ensure (args.masterpoolProgram ≠ .default) .InvalidMasterpoolProgram
  validateInitializeConfigAuthorities args.authority args.pauseAuthority args.challengeResolver
  return { s with attestation := { s.attestation with
    config := some
      { authority := args.authority
        pauseAuthority := args.pauseAuthority
        challengeResolver := args.challengeResolver
        masterpoolProgram := args.masterpoolProgram
        challengeWindowSeconds := args.challengeWindowSeconds.toInt
        challengeResolutionTimeoutSeconds := args.challengeResolutionTimeoutSeconds.toInt
        isPaused := false } } }

/-- The config of a call by its authority (`has_one = authority`). -/
def loadAsAuthority (c : Signers) (authority : Pubkey) (s : System) : Result Config := do
  c.sign authority
  let config ← load s.attestation.config
  constraint (config.authority = authority) .ConstraintHasOne
  return config

/-- The check that the config names the masterpool program (`has_one = masterpool_program`). -/
def requireMasterpool (config : Config) (masterpoolProgram : Pubkey) : Result Unit := do
  constraint (config.masterpoolProgram = masterpoolProgram) .ConstraintHasOne
  constraint (masterpoolProgram = MASTERPOOL_ID) .InvalidProgramId

structure UpsertProviderSigner where
  authority : Pubkey

structure UpsertProviderSignerArgs where
  signer : Pubkey
  providerWallet : Pubkey
  attesterTypeMask : UInt8
  validFrom : Int64
  validUntil : Int64

def upsertProviderSigner (c : Signers) (ctx : UpsertProviderSigner)
    (args : UpsertProviderSignerArgs) (s : System) : Result System := do
  let _ ← loadAsAuthority c ctx.authority s
  validateProviderSignerKeys args.signer args.providerWallet
  ensure (args.attesterTypeMask ≠ 0) .InvalidAttesterTypeMask
  ensure (args.validUntil = 0 ∨ args.validFrom.toInt ≤ args.validUntil.toInt)
    .InvalidValidityWindow
  return { s with attestation := { s.attestation with
    providerSigners := s.attestation.providerSigners.set (args.providerWallet, args.signer)
      { signer := args.signer
        providerWallet := args.providerWallet
        attesterTypeMask := args.attesterTypeMask
        status := .Active
        validFrom := args.validFrom.toInt
        validUntil := args.validUntil.toInt } } }

structure SetPause where
  pauseAuthority : Pubkey

def setPause (c : Signers) (ctx : SetPause) (isPaused : Bool) (s : System) : Result System := do
  c.sign ctx.pauseAuthority
  let config ← load s.attestation.config
  constraint (config.pauseAuthority = ctx.pauseAuthority) .ConstraintHasOne
  return { s with attestation := { s.attestation with
    config := some { config with isPaused := isPaused } } }

structure RevokeProviderSigner where
  authority : Pubkey

def revokeProviderSigner (c : Signers) (ctx : RevokeProviderSigner)
    (signer providerWallet : Pubkey) (s : System) : Result System := do
  let _ ← loadAsAuthority c ctx.authority s
  let providerSigner ← load (s.attestation.providerSigners.get (providerWallet, signer))
  return { s with attestation := { s.attestation with
    providerSigners := s.attestation.providerSigners.set (providerWallet, signer)
      { providerSigner with status := .Revoked } } }

/-! ## What the handlers do -/

@[simp] theorem loadAsAuthority_eq_ok {c : Signers} {authority : Pubkey} {s : System}
    {config : Config} : loadAsAuthority c authority s = .ok config ↔
      authority ∈ c.keys ∧ s.attestation.config = some config ∧ config.authority = authority := by
  simp only [loadAsAuthority, bind_eq_ok, sign_eq_ok, load_eq_ok, constraint_eq_ok, exists_unit,
    pure_eq_ok]
  constructor
  · rintro ⟨hs, g, hg, ha, rfl⟩
    exact ⟨hs, hg, ha⟩
  · rintro ⟨hs, hg, ha⟩
    exact ⟨hs, config, hg, ha, rfl⟩

@[simp] theorem requireMasterpool_eq_ok {config : Config} {program : Pubkey} {u : Unit} :
    requireMasterpool config program = .ok u ↔
      config.masterpoolProgram = program ∧ program = MASTERPOOL_ID := by
  simp only [requireMasterpool, bind_eq_ok, constraint_eq_ok, exists_unit]

/-- What a successful initialization means: `g` is the new config. -/
structure Initializes (c : Signers) (ctx : InitializeConfig) (args : InitializeConfigArgs)
    (s : System) (g : Config) : Prop where
  signed : ctx.initializer ∈ c.keys
  fresh : s.attestation.config = none
  programData : ctx.programdataAddress = some ctx.selfProgramData
  upgradeAuthority : ctx.upgradeAuthorityAddress = some ctx.initializer
  windows : 0 < args.challengeWindowSeconds.toInt ∧
    0 < args.challengeResolutionTimeoutSeconds.toInt
  bound : g = ⟨args.authority, args.pauseAuthority, args.challengeResolver,
    args.masterpoolProgram, args.challengeWindowSeconds.toInt,
    args.challengeResolutionTimeoutSeconds.toInt, false⟩

theorem initializeConfig_ok {c : Signers} {ctx : InitializeConfig} {args : InitializeConfigArgs}
    {s s' : System} (h : initializeConfig c ctx args s = .ok s') :
    ∃ g, Initializes c ctx args s g ∧
      s' = { s with attestation := { s.attestation with config := some g } } := by
  simp only [initializeConfig, bind_eq_ok, sign_eq_ok, vacant_eq_ok, ensure_eq_ok, exists_unit,
    pure_eq_ok] at h
  obtain ⟨hsig, hnone, hdata, hupgrade, hwindow, htimeout, -, -, rfl⟩ := h
  exact ⟨_, ⟨hsig, hnone, hdata, hupgrade, ⟨hwindow, htimeout⟩, rfl⟩, rfl⟩

/-- What a successful upsert means: `p` is the new entry. -/
structure Upserts (c : Signers) (ctx : UpsertProviderSigner) (args : UpsertProviderSignerArgs)
    (s : System) (g : Config) (p : ProviderSigner) : Prop where
  config : s.attestation.config = some g
  signed : ctx.authority ∈ c.keys ∧ g.authority = ctx.authority
  signer : args.signer ≠ .default
  mask : args.attesterTypeMask ≠ 0
  entry : p = ⟨args.signer, args.providerWallet, args.attesterTypeMask, .Active,
    args.validFrom.toInt, args.validUntil.toInt⟩

theorem upsertProviderSigner_ok {c : Signers} {ctx : UpsertProviderSigner}
    {args : UpsertProviderSignerArgs} {s s' : System}
    (h : upsertProviderSigner c ctx args s = .ok s') : ∃ g p, Upserts c ctx args s g p ∧
      s' = { s with attestation := { s.attestation with
        providerSigners := s.attestation.providerSigners.set
          (args.providerWallet, args.signer) p } } := by
  simp only [upsertProviderSigner, validateProviderSignerKeys, bind_eq_ok, loadAsAuthority_eq_ok,
    ensure_eq_ok, exists_unit, pure_eq_ok] at h
  obtain ⟨g, ⟨hsig, hg, hauth⟩, ⟨hsigner, -⟩, hmask, -, rfl⟩ := h
  exact ⟨g, _, ⟨hg, ⟨hsig, hauth⟩, hsigner, hmask, rfl⟩, rfl⟩

/-- What a successful `set_pause` means: `g` is the config before it. -/
structure SetsPause (c : Signers) (ctx : SetPause) (s : System) (g : Config) : Prop where
  config : s.attestation.config = some g
  signed : ctx.pauseAuthority ∈ c.keys ∧ g.pauseAuthority = ctx.pauseAuthority

theorem setPause_ok {c : Signers} {ctx : SetPause} {isPaused : Bool} {s s' : System}
    (h : setPause c ctx isPaused s = .ok s') : ∃ g, SetsPause c ctx s g ∧
      s' = { s with attestation := { s.attestation with
        config := some { g with isPaused := isPaused } } } := by
  simp only [setPause, bind_eq_ok, sign_eq_ok, load_eq_ok, constraint_eq_ok, exists_unit,
    pure_eq_ok] at h
  obtain ⟨hsig, g, hg, hauth, rfl⟩ := h
  exact ⟨g, ⟨hg, hsig, hauth⟩, rfl⟩

/-- What a successful revocation means: `p` is the entry before it. -/
structure Revokes (c : Signers) (ctx : RevokeProviderSigner) (signer wallet : Pubkey) (s : System)
    (g : Config) (p : ProviderSigner) : Prop where
  config : s.attestation.config = some g
  signed : ctx.authority ∈ c.keys ∧ g.authority = ctx.authority
  entry : s.attestation.providerSigners.get (wallet, signer) = some p

theorem revokeProviderSigner_ok {c : Signers} {ctx : RevokeProviderSigner} {signer wallet : Pubkey}
    {s s' : System} (h : revokeProviderSigner c ctx signer wallet s = .ok s') :
    ∃ g p, Revokes c ctx signer wallet s g p ∧
      s' = { s with attestation := { s.attestation with
        providerSigners := s.attestation.providerSigners.set (wallet, signer)
          { p with status := .Revoked } } } := by
  simp only [revokeProviderSigner, bind_eq_ok, loadAsAuthority_eq_ok, load_eq_ok, pure_eq_ok] at h
  obtain ⟨g, ⟨hsig, hg, hauth⟩, p, hp, rfl⟩ := h
  exact ⟨g, p, ⟨hg, ⟨hsig, hauth⟩, hp⟩, rfl⟩

/-- The windows of a config, which nothing changes. -/
def Config.windows (config : Config) : ℤ × ℤ :=
  (config.challengeWindowSeconds, config.challengeResolutionTimeoutSeconds)

/-- The outcome of an administrative instruction. -/
structure Administers (s s' : System) : Prop where
  masterpool : s'.masterpool = s.masterpool
  receipts : s'.attestation.receipts = s.attestation.receipts
  challenges : s'.attestation.challenges = s.attestation.challenges
  config : ∀ g, s.attestation.config = some g → ∃ g', s'.attestation.config = some g' ∧
    g'.authority = g.authority ∧ g'.challengeResolver = g.challengeResolver ∧
    g'.masterpoolProgram = g.masterpoolProgram ∧ g'.windows = g.windows

theorem initializeConfig_administers {c : Signers} {ctx : InitializeConfig}
    {args : InitializeConfigArgs} {s s' : System} (h : initializeConfig c ctx args s = .ok s') :
    Administers s s' := by
  obtain ⟨g', hinit, rfl⟩ := initializeConfig_ok h
  refine ⟨rfl, rfl, rfl, fun g hg => ?_⟩
  cases hg.symm.trans hinit.fresh

theorem upsertProviderSigner_administers {c : Signers} {ctx : UpsertProviderSigner}
    {args : UpsertProviderSignerArgs} {s s' : System}
    (h : upsertProviderSigner c ctx args s = .ok s') : Administers s s' := by
  obtain ⟨g, p, -, rfl⟩ := upsertProviderSigner_ok h
  exact ⟨rfl, rfl, rfl, fun g hg => ⟨g, hg, rfl, rfl, rfl, rfl⟩⟩

theorem setPause_administers {c : Signers} {ctx : SetPause} {isPaused : Bool} {s s' : System}
    (h : setPause c ctx isPaused s = .ok s') : Administers s s' := by
  obtain ⟨g', hset, rfl⟩ := setPause_ok h
  refine ⟨rfl, rfl, rfl, fun g hg => ?_⟩
  obtain rfl := Option.some.inj (hset.config.symm.trans hg)
  exact ⟨_, rfl, rfl, rfl, rfl, rfl⟩

theorem revokeProviderSigner_administers {c : Signers} {ctx : RevokeProviderSigner}
    {signer wallet : Pubkey} {s s' : System}
    (h : revokeProviderSigner c ctx signer wallet s = .ok s') : Administers s s' := by
  obtain ⟨g, p, -, rfl⟩ := revokeProviderSigner_ok h
  exact ⟨rfl, rfl, rfl, fun g hg => ⟨g, hg, rfl, rfl, rfl, rfl⟩⟩

end Attestation
