import Clawfarm.Lib.Checked
import Clawfarm.Lib.Store
import Mathlib.Data.Nat.Notation

/-!
# Token — the SPL token program

The documented behaviour of the token program for mints and token accounts over an arbitrary type
`K` of addresses: transfers by an owner or a delegate, delegation, authorities, minting, burning,
freezing and closing.  Each operation names the `authority` that signs for it; whether that
signature was given is the caller's part (`exec` takes the set of keys that signed).  Two addresses
are nobody's, and anyone may burn or close what belongs to them.  Multisig authorities and wrapped
native accounts are not modelled.
-/

namespace Token

open Checked

/-- Amounts are `u64`. -/
def u64Bound : ℕ := 2 ^ 64

inductive TokenError
  | UninitializedAccount
  | AlreadyInUse
  | InsufficientFunds
  | MintMismatch
  | MintDecimalsMismatch
  | OwnerMismatch
  | FixedSupply
  | MintCannotFreeze
  | AccountFrozen
  | InvalidState
  | InvalidAccountData
  | NonNativeHasBalance
  | MissingRequiredSignature
  | Overflow
  deriving DecidableEq, Repr

structure Mint (K : Type) where
  supply : ℕ
  decimals : ℕ
  mintAuthority : Option K
  freezeAuthority : Option K
  deriving DecidableEq

structure TokenAccount (K : Type) where
  mint : K
  owner : K
  amount : ℕ
  delegate : Option K
  delegatedAmount : ℕ
  frozen : Bool
  closeAuthority : Option K
  deriving DecidableEq

structure Ledger (K : Type) where
  mints : Store K (Mint K)
  accounts : Store K (TokenAccount K)

/-- The system program and the incinerator, for which nobody signs. -/
class SystemAddresses (K : Type) where
  systemProgram : K
  incinerator : K

variable {K : Type} [DecidableEq K]

/-- What belongs to `k` belongs to nobody. -/
def Nobody [SystemAddresses K] (k : K) : Prop :=
  k = SystemAddresses.systemProgram ∨ k = SystemAddresses.incinerator

instance [SystemAddresses K] : DecidablePred (Nobody (K := K)) :=
  fun k => inferInstanceAs (Decidable (k = _ ∨ k = _))

def Ledger.empty : Ledger K := ⟨Store.empty, Store.empty⟩

/-- The balance at `k`, `0` where there is no token account. -/
def Ledger.amount (l : Ledger K) (k : K) : ℕ := l.accounts.term (fun _ a => a.amount) k

/-- The supply of the mint `m`, `0` where there is no mint. -/
def Ledger.supply (l : Ledger K) (m : K) : ℕ := l.mints.term (fun _ x => x.supply) m

def Ledger.account (l : Ledger K) (k : K) : Except TokenError (TokenAccount K) :=
  orError (l.accounts.get k) .UninitializedAccount

def Ledger.mint (l : Ledger K) (m : K) : Except TokenError (Mint K) :=
  orError (l.mints.get m) .UninitializedAccount

/-- The right of `authority` to take `amount` out of `a`, as delegate or as owner. -/
def TokenAccount.authorize (a : TokenAccount K) (authority : K) (amount : ℕ) :
    Except TokenError Unit :=
  if a.delegate = some authority then require (amount ≤ a.delegatedAmount) .InsufficientFunds
  else require (a.owner = authority) .OwnerMismatch

/-- `a` after `authority` has taken `amount` out of it: a delegate uses up its allowance, and is
cleared when nothing is left of it. -/
def TokenAccount.debit (a : TokenAccount K) (authority : K) (amount : ℕ) : TokenAccount K :=
  if a.delegate = some authority then
    { a with
      amount := a.amount - amount
      delegatedAmount := a.delegatedAmount - amount
      delegate := if a.delegatedAmount - amount = 0 then none else a.delegate }
  else { a with amount := a.amount - amount }

/-- The right of `authority` to burn `amount` of `a`. -/
def TokenAccount.authorizeBurn [SystemAddresses K] (a : TokenAccount K) (authority : K)
    (amount : ℕ) : Except TokenError Unit :=
  if Nobody a.owner then return () else a.authorize authority amount

/-- `a` after `authority` has burned `amount` of it. -/
def TokenAccount.burnDebit [SystemAddresses K] (a : TokenAccount K) (authority : K) (amount : ℕ) :
    TokenAccount K :=
  if Nobody a.owner then { a with amount := a.amount - amount } else a.debit authority amount

/-- Who closes the account. -/
def TokenAccount.closer (a : TokenAccount K) : K := a.closeAuthority.getD a.owner

def TokenAccount.credit (a : TokenAccount K) (amount : ℕ) : TokenAccount K :=
  { a with amount := a.amount + amount }

/-! ## Operations -/

def initializeMint (l : Ledger K) (m : K) (decimals : ℕ) (mintAuthority : K)
    (freezeAuthority : Option K) : Except TokenError (Ledger K) := do
  require (l.mints.get m = none ∧ l.accounts.get m = none) .AlreadyInUse
  return { l with mints := l.mints.set m ⟨0, decimals, some mintAuthority, freezeAuthority⟩ }

def initializeAccount (l : Ledger K) (k mint owner : K) : Except TokenError (Ledger K) := do
  require (l.mints.get k = none ∧ l.accounts.get k = none) .AlreadyInUse
  let _ ← l.mint mint
  return { l with accounts := l.accounts.set k ⟨mint, owner, 0, none, 0, false, none⟩ }

def transferChecked (l : Ledger K) (source mint destination authority : K)
    (amount decimals : ℕ) : Except TokenError (Ledger K) := do
  let src ← l.account source
  let dst ← l.account destination
  require (src.frozen = false ∧ dst.frozen = false) .AccountFrozen
  require (amount ≤ src.amount) .InsufficientFunds
  require (src.mint = dst.mint) .MintMismatch
  require (src.mint = mint) .MintMismatch
  let m ← l.mint mint
  require (decimals = m.decimals) .MintDecimalsMismatch
  src.authorize authority amount
  -- a transfer of an account to itself is validated and then leaves everything as it is
  if source = destination then return l
  else do
    require (dst.amount + amount < u64Bound) .Overflow
    return { l with accounts :=
      (l.accounts.set source (src.debit authority amount)).set destination (dst.credit amount) }

def approve (l : Ledger K) (k authority delegate : K) (amount : ℕ) :
    Except TokenError (Ledger K) := do
  let a ← l.account k
  require (a.frozen = false) .AccountFrozen
  require (a.owner = authority) .OwnerMismatch
  return { l with accounts :=
    l.accounts.set k { a with delegate := some delegate, delegatedAmount := amount } }

def revoke (l : Ledger K) (k authority : K) : Except TokenError (Ledger K) := do
  let a ← l.account k
  require (a.frozen = false) .AccountFrozen
  require (a.owner = authority) .OwnerMismatch
  return { l with accounts := l.accounts.set k { a with delegate := none, delegatedAmount := 0 } }

/-- A new owner starts without the old owner's delegate, but with its close authority. -/
def setAccountOwner (l : Ledger K) (k authority newOwner : K) : Except TokenError (Ledger K) := do
  let a ← l.account k
  require (a.frozen = false) .AccountFrozen
  require (a.owner = authority) .OwnerMismatch
  return { l with accounts :=
    l.accounts.set k { a with owner := newOwner, delegate := none, delegatedAmount := 0 } }

def setCloseAuthority (l : Ledger K) (k authority : K) (newAuthority : Option K) :
    Except TokenError (Ledger K) := do
  let a ← l.account k
  require (a.frozen = false) .AccountFrozen
  require (a.closer = authority) .OwnerMismatch
  return { l with accounts := l.accounts.set k { a with closeAuthority := newAuthority } }

def setMintAuthority (l : Ledger K) (m authority : K) (newAuthority : Option K) :
    Except TokenError (Ledger K) := do
  let x ← l.mint m
  require (x.mintAuthority ≠ none) .FixedSupply
  require (x.mintAuthority = some authority) .OwnerMismatch
  return { l with mints := l.mints.set m { x with mintAuthority := newAuthority } }

def setFreezeAuthority (l : Ledger K) (m authority : K) (newAuthority : Option K) :
    Except TokenError (Ledger K) := do
  let x ← l.mint m
  require (x.freezeAuthority ≠ none) .MintCannotFreeze
  require (x.freezeAuthority = some authority) .OwnerMismatch
  return { l with mints := l.mints.set m { x with freezeAuthority := newAuthority } }

def mintTo (l : Ledger K) (m destination authority : K) (amount : ℕ) :
    Except TokenError (Ledger K) := do
  let dst ← l.account destination
  require (dst.frozen = false) .AccountFrozen
  require (dst.mint = m) .MintMismatch
  let x ← l.mint m
  require (x.mintAuthority ≠ none) .FixedSupply
  require (x.mintAuthority = some authority) .OwnerMismatch
  require (dst.amount + amount < u64Bound ∧ x.supply + amount < u64Bound) .Overflow
  return {
    accounts := l.accounts.set destination (dst.credit amount)
    mints := l.mints.set m { x with supply := x.supply + amount } }

def burn [SystemAddresses K] (l : Ledger K) (m source authority : K) (amount : ℕ) :
    Except TokenError (Ledger K) := do
  let src ← l.account source
  let x ← l.mint m
  require (src.frozen = false) .AccountFrozen
  require (amount ≤ src.amount) .InsufficientFunds
  require (src.mint = m) .MintMismatch
  src.authorizeBurn authority amount
  require (amount ≤ x.supply) .Overflow
  return {
    accounts := l.accounts.set source (src.burnDebit authority amount)
    mints := l.mints.set m { x with supply := x.supply - amount } }

/-- Freeze (`freeze = true`) or thaw an account. -/
def setFrozen (l : Ledger K) (k authority : K) (freeze : Bool) :
    Except TokenError (Ledger K) := do
  let a ← l.account k
  require (a.frozen ≠ freeze) .InvalidState
  let x ← l.mint a.mint
  require (x.freezeAuthority ≠ none) .MintCannotFreeze
  require (x.freezeAuthority = some authority) .OwnerMismatch
  return { l with accounts := l.accounts.set k { a with frozen := freeze } }

/-- The lamports of a closed account go to `destination`, the incinerator if the account is
nobody's. -/
def closeAccount [SystemAddresses K] (l : Ledger K) (k destination authority : K) :
    Except TokenError (Ledger K) := do
  require (k ≠ destination) .InvalidAccountData
  let a ← l.account k
  require (a.amount = 0) .NonNativeHasBalance
  if Nobody a.owner then require (destination = SystemAddresses.incinerator) .InvalidAccountData
  else require (a.closer = authority) .OwnerMismatch
  return { l with accounts := l.accounts.erase k }

/-! ## Instructions sent directly to the token program -/

inductive Instruction (K : Type)
  | initializeMint (m : K) (decimals : ℕ) (mintAuthority : K) (freezeAuthority : Option K)
  | initializeAccount (k mint owner : K)
  | transferChecked (source mint destination authority : K) (amount decimals : ℕ)
  | approve (k authority delegate : K) (amount : ℕ)
  | revoke (k authority : K)
  | setAccountOwner (k authority newOwner : K)
  | setCloseAuthority (k authority : K) (newAuthority : Option K)
  | setMintAuthority (m authority : K) (newAuthority : Option K)
  | setFreezeAuthority (m authority : K) (newAuthority : Option K)
  | mintTo (m destination authority : K) (amount : ℕ)
  | burn (m source authority : K) (amount : ℕ)
  | setFrozen (k authority : K) (freeze : Bool)
  | closeAccount (k destination authority : K)

/-- The key whose signature an instruction needs, unless it needs none: the authority it names, or
the address it creates an account at. -/
def Instruction.signer : Instruction K → K
  | .initializeMint m _ _ _ => m
  | .initializeAccount k _ _ => k
  | .transferChecked _ _ _ authority _ _ => authority
  | .approve _ authority _ _ => authority
  | .revoke _ authority => authority
  | .setAccountOwner _ authority _ => authority
  | .setCloseAuthority _ authority _ => authority
  | .setMintAuthority _ authority _ => authority
  | .setFreezeAuthority _ authority _ => authority
  | .mintTo _ _ authority _ => authority
  | .burn _ _ authority _ => authority
  | .setFrozen _ authority _ => authority
  | .closeAccount _ _ authority => authority

/-- Anyone may burn and close what belongs to nobody. -/
def Instruction.unsigned [SystemAddresses K] (l : Ledger K) : Instruction K → Bool
  | .burn _ k _ _ => (l.accounts.get k).any fun a => Nobody a.owner
  | .closeAccount k _ _ => (l.accounts.get k).any fun a => Nobody a.owner
  | _ => false

def Instruction.apply [SystemAddresses K] (l : Ledger K) :
    Instruction K → Except TokenError (Ledger K)
  | .initializeMint m decimals mintAuthority freezeAuthority =>
    Token.initializeMint l m decimals mintAuthority freezeAuthority
  | .initializeAccount k mint owner => Token.initializeAccount l k mint owner
  | .transferChecked source mint destination authority amount decimals =>
    Token.transferChecked l source mint destination authority amount decimals
  | .approve k authority delegate amount => Token.approve l k authority delegate amount
  | .revoke k authority => Token.revoke l k authority
  | .setAccountOwner k authority newOwner => Token.setAccountOwner l k authority newOwner
  | .setCloseAuthority k authority newAuthority =>
    Token.setCloseAuthority l k authority newAuthority
  | .setMintAuthority m authority newAuthority =>
    Token.setMintAuthority l m authority newAuthority
  | .setFreezeAuthority m authority newAuthority =>
    Token.setFreezeAuthority l m authority newAuthority
  | .mintTo m destination authority amount => Token.mintTo l m destination authority amount
  | .burn m source authority amount => Token.burn l m source authority amount
  | .setFrozen k authority freeze => Token.setFrozen l k authority freeze
  | .closeAccount k destination authority => Token.closeAccount l k destination authority

/-- An instruction sent by a transaction signed by the keys satisfying `signed`. -/
def exec [SystemAddresses K] (signed : K → Prop) [DecidablePred signed] (l : Ledger K)
    (i : Instruction K) : Except TokenError (Ledger K) := do
  require (i.unsigned l = false → signed i.signer) .MissingRequiredSignature
  i.apply l

end Token
