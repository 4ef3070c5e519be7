import Clawfarm.Lib.TokenFacts

/-!
# Runtime — addresses, signatures and errors of the on-chain programs

Addresses are symbolic: a `Pubkey` is an ordinary key with its 32 bytes, or an address derived
from a program and seeds, and two derived addresses are equal only if their seeds are.  A 32-byte
string used as a seed is written as the key with these bytes.  Nobody but a program itself signs
for an address derived from it, so the keys that sign a call of a program from outside are a
`Caller`, which carries that fact.
-/

open Checked Token

structure Bytes32 where
  bytes : List UInt8
  length_eq : bytes.length = 32
  deriving DecidableEq

/-- The seed prefixes of the two programs (`CONFIG_SEED` is the same string in both). -/
inductive Seed
  | CONFIG_SEED
  | POOL_AUTHORITY_SEED
  | REWARD_VAULT_SEED
  | CHALLENGE_BOND_VAULT_SEED
  | TREASURY_USDC_VAULT_SEED
  | PROVIDER_STAKE_USDC_VAULT_SEED
  | PROVIDER_PENDING_USDC_VAULT_SEED
  | FAUCET_CLAW_VAULT_SEED
  | FAUCET_USDC_VAULT_SEED
  | RECEIPT_SEED
  | CHALLENGE_SEED
  deriving DecidableEq, Repr

inductive Pubkey
  | key (bytes : Bytes32)
  | pda (program : Pubkey) (seed : Seed)
  | pdaOf (program : Pubkey) (seed : Seed) (arg : Pubkey)
  deriving DecidableEq

namespace Pubkey

/-- `Pubkey::default()`, the all-zero key. -/
def default : Pubkey := .key ⟨List.replicate 32 0, rfl⟩

/-- 1nc1nerator11111111111111111111111111111111 -/
def incinerator : Pubkey :=
  .key ⟨[0, 51, 144, 114, 141, 52, 17, 96, 121, 189, 201, 17, 191, 255, 0, 219, 212, 77, 46, 205,
    204, 247, 156, 166, 225, 0, 56, 225, 0, 0, 0, 0], rfl⟩

/-- The address of the system program is the all-zero key. -/
instance : SystemAddresses Pubkey := ⟨default, incinerator⟩

/-- The address is derived from `program`. -/
def IsDerived (program : Pubkey) : Pubkey → Prop
  | .key _ => False
  | .pda p _ => p = program
  | .pdaOf p _ _ => p = program

instance (program : Pubkey) : DecidablePred (IsDerived program)
  | .key _ => inferInstanceAs (Decidable False)
  | .pda p _ => inferInstanceAs (Decidable (p = program))
  | .pdaOf p _ _ => inferInstanceAs (Decidable (p = program))

end Pubkey

/-- AP5gMEh6yHjvZBjh7Xg5fgs4EnBiCbVUoDyXxMi1omux -/
def MASTERPOOL_ID : Pubkey :=
  .key ⟨[139, 97, 64, 3, 132, 70, 217, 93, 197, 98, 88, 142, 241, 167, 148, 172, 151, 153, 133,
    156, 50, 163, 175, 55, 230, 247, 116, 22, 20, 42, 20, 127], rfl⟩

/-- 52WWsrQQcpAJn4cjSxMe4XGBvgGzPXa9gjAqUSfryAx2 -/
def ATTESTATION_ID : Pubkey :=
  .key ⟨[59, 209, 179, 140, 135, 163, 5, 217, 214, 255, 236, 5, 222, 68, 148, 84, 45, 88, 20, 252,
    169, 233, 150, 233, 103, 72, 37, 207, 178, 20, 35, 11], rfl⟩

theorem masterpool_ne_attestation : MASTERPOOL_ID ≠ ATTESTATION_ID := by decide

/-! ## Callers -/

/-- The keys that sign a call of `program` from outside. -/
structure Caller (program : Pubkey) where
  signers : List Pubkey
  foreign : ∀ k ∈ signers, ¬ Pubkey.IsDerived program k

/-- An account as its key and the program that owns it. -/
structure AccountInfo where
  key : Pubkey
  owner : Pubkey
  deriving DecidableEq

/-! ## Errors -/

/-- Errors of the account validation that Anchor generates. -/
inductive AnchorError
  | AccountNotInitialized
  | AccountAlreadyInUse
  | AccountNotSigner
  | ConstraintSeeds
  | ConstraintHasOne
  | InvalidProgramId
  deriving DecidableEq, Repr

/-- An error of a program with error codes `E`, of the token program, or of Anchor. -/
inductive ProgramError (E : Type)
  | custom (code : E)
  | token (e : TokenError)
  | anchor (e : AnchorError)
  deriving DecidableEq

variable {E α : Type}

abbrev Result (E α : Type) := Except (ProgramError E) α

/-- `require!` with an error code of the program. -/
def ensure (p : Prop) [Decidable p] (code : E) : Result E Unit := require p (.custom code)

/-- An account constraint that fails with an error of Anchor's own. -/
def constraint (p : Prop) [Decidable p] (e : AnchorError) : Result E Unit :=
  require p (.anchor e)

/-- An account that has to exist. -/
def load (o : Option α) : Result E α := orError o (.anchor .AccountNotInitialized)

/-- An account that `init` creates. -/
def vacant (o : Option α) : Result E Unit := constraint (o.isNone = true) .AccountAlreadyInUse

def Caller.sign {program : Pubkey} (c : Caller program) (k : Pubkey) : Result E Unit :=
  constraint (k ∈ c.signers) .AccountNotSigner

/-- A call of the token program. -/
def cpi (x : Except TokenError α) : Result E α := x.mapError .token

@[simp] theorem ensure_eq_ok {p : Prop} [Decidable p] {code : E} {u : Unit} :
    ensure p code = .ok u ↔ p := require_eq_ok

@[simp] theorem constraint_eq_ok {p : Prop} [Decidable p] {e : AnchorError} {u : Unit} :
    (constraint p e : Result E Unit) = .ok u ↔ p := require_eq_ok

@[simp] theorem load_eq_ok {o : Option α} {a : α} : (load o : Result E α) = .ok a ↔ o = some a :=
  orError_eq_ok

@[simp] theorem vacant_eq_ok {o : Option α} {u : Unit} :
    (vacant o : Result E Unit) = .ok u ↔ o = none := by
  simp [vacant]

@[simp] theorem sign_eq_ok {program k : Pubkey} {c : Caller program} {u : Unit} :
    (c.sign k : Result E Unit) = .ok u ↔ k ∈ c.signers := constraint_eq_ok

@[simp] theorem cpi_eq_ok {x : Except TokenError α} {a : α} :
    (cpi x : Result E α) = .ok a ↔ x = .ok a := mapError_eq_ok

/-! ### Which errors a step can give -/

theorem ensure_ne_custom {p : Prop} [Decidable p] {code e : E} (h : p ∨ code ≠ e) :
    ensure p code ≠ .error (.custom e) := by
  intro he
  obtain ⟨hp, hc⟩ := require_eq_error.mp he
  exact h.elim hp fun hne => hne (ProgramError.custom.inj hc)

theorem constraint_ne_custom {p : Prop} [Decidable p] {a : AnchorError} {e : E} :
    (constraint p a : Result E Unit) ≠ .error (.custom e) := fun h =>
  nomatch (require_eq_error.mp h).2

theorem load_ne_custom {o : Option α} {e : E} : (load o : Result E α) ≠ .error (.custom e) := by
  cases o <;> exact fun h => nomatch h

/-! ## Integers -/

def i64Min : ℤ := -2 ^ 63

def i64Max : ℤ := 2 ^ 63 - 1

def i128Min : ℤ := -2 ^ 127

def i128Max : ℤ := 2 ^ 127 - 1
