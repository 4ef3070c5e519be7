import Clawfarm.Gateway.CompactReceipt
import Clawfarm.Lib.Radix
import Clawfarm.Protocol.Hashes

/-!
# Gateway.Lookup — finding a receipt by its hash

`findReceiptByHash` asks a node for the accounts of the attestation program that start with the
discriminator of receipts and have the hash in the bytes from `8` on.  In every state that the
programs reach, the answer is the receipt with that hash, if there is one, and nothing else.
-/

namespace Gateway

open Checked Bytes
open Attestation (Account Host ReceiptsMarked StoredAs accountDiscriminator)
open Protocol (IsReceipt NoCollisions hashedInputs reached receipt_unique)

/-! ## The node -/

/-- The package `bs58`: what has been encoded can be decoded. -/
structure Bs58 where
  encode : List UInt8 → JsString
  decode : JsString → Option (List UInt8)
  decode_encode : ∀ b, decode (encode b) = some b

/-- `memcmp` -/
structure MemcmpFilter where
  offset : ℕ
  bytes : JsString

structure ProgramAccount where
  pubkey : Pubkey
  data : List UInt8

/-- What the script uses of a connection. -/
structure Connection where
  getProgramAccounts : Pubkey → List MemcmpFilter → Except Thrown (List ProgramAccount)

def MemcmpFilter.Matches (bs58 : Bs58) (filter : MemcmpFilter) (data : List UInt8) : Prop :=
  match bs58.decode filter.bytes with
  | some b => Slice data filter.offset b.length b
  | none => False

instance (bs58 : Bs58) (filter : MemcmpFilter) (data : List UInt8) :
    Decidable (filter.Matches bs58 data) := by
  unfold MemcmpFilter.Matches
  split <;> infer_instance

/-- A request that a node accepts: at most four filters, of at most `128` bytes each. -/
structure Acceptable (bs58 : Bs58) (filters : List MemcmpFilter) : Prop where
  few : filters.length ≤ 4
  short : ∀ f ∈ filters, ∃ b, bs58.decode f.bytes = some b ∧ b.length ≤ 128

/-- A node answers with the accounts of the program that match all filters, each of them once and
in any order. -/
def Connection.Serves (connection : Connection) (bs58 : Bs58) (program : Pubkey)
    (accounts : Pubkey → Option (List UInt8)) : Prop :=
  ∀ filters, Acceptable bs58 filters → ∃ found,
    connection.getProgramAccounts program filters = .ok found ∧
    (found.map ProgramAccount.pubkey).Nodup ∧
    ∀ k d, ⟨k, d⟩ ∈ found ↔ accounts k = some d ∧ ∀ f ∈ filters, f.Matches bs58 d

/-! ## The lookup -/

def RECEIPT_ACCOUNT_DISCRIMINATOR_OFFSET : ℕ := 0

def RECEIPT_HASH_MEMCMP_OFFSET : ℕ := 8

def RECEIPT_ACCOUNT_DISCRIMINATOR (host : Host) : List UInt8 :=
  (sha256 host (utf8 (js "account:Receipt"))).take 8

def RECEIPT_ACCOUNT_DISCRIMINATOR_BYTES (host : Host) (bs58 : Bs58) : JsString :=
  bs58.encode (RECEIPT_ACCOUNT_DISCRIMINATOR host)

def buildReceiptHashMemcmpFilter (bs58 : Bs58) (receiptHash : List UInt8) :
    Except Thrown MemcmpFilter := do
  let bytes ← normalizeHash receiptHash "receiptHash"
  return ⟨RECEIPT_HASH_MEMCMP_OFFSET, bs58.encode bytes⟩

def findReceiptByHash (host : Host) (bs58 : Bs58) (connection : Connection)
    (attestationProgramId : Pubkey) (receiptHash : List UInt8) :
    Except Thrown (Option Pubkey) := do
  let hash ← normalizeHash receiptHash "receiptHash"
  let filter ← buildReceiptHashMemcmpFilter bs58 hash
  let found ← connection.getProgramAccounts attestationProgramId
    [⟨RECEIPT_ACCOUNT_DISCRIMINATOR_OFFSET, RECEIPT_ACCOUNT_DISCRIMINATOR_BYTES host bs58⟩, filter]
  require (found.length ≤ 1) (.error ("receipt hash lookup returned " ++ toString found.length ++
    " matching receipt accounts"))
  return found.head?.map ProgramAccount.pubkey

/-! ## What it finds -/

variable {host : Host} {bs58 : Bs58} {connection : Connection}

theorem matches_encode (o : ℕ) (b d : List UInt8) :
    (MemcmpFilter.mk o (bs58.encode b)).Matches bs58 d ↔ Slice d o b.length b := by
  rw [MemcmpFilter.Matches]
  simp only [bs58.decode_encode]

/-- The gateway and the on-chain program mark receipts in the same way. -/
theorem receipt_discriminator (host : Host) :
    RECEIPT_ACCOUNT_DISCRIMINATOR host = accountDiscriminator host "Receipt" := by
  have hname : utf8 (js "account:Receipt") =
      ("account:" ++ "Receipt").toList.map fun c => c.toNat.toUInt8 := by decide
  rw [RECEIPT_ACCOUNT_DISCRIMINATOR, accountDiscriminator, sha256, hname]

/-- Accounts that are all the same one are at most one. -/
theorem length_le_one {found : List ProgramAccount}
    (hnodup : (found.map ProgramAccount.pubkey).Nodup)
    (hsame : ∀ a ∈ found, ∀ b ∈ found, a.pubkey = b.pubkey) : found.length ≤ 1 := by
  rcases found with _ | ⟨a, _ | ⟨b, found⟩⟩
  · exact Nat.zero_le 1
  · exact le_rfl
  · have hab := hsame a List.mem_cons_self b (List.mem_cons_of_mem _ List.mem_cons_self)
    rw [List.map_cons, List.map_cons, hab] at hnodup
    exact absurd List.mem_cons_self (List.nodup_cons.mp hnodup).1

/-- The first of at most one account. -/
theorem head?_pubkey_iff {found : List ProgramAccount} (hone : found.length ≤ 1) (k : Pubkey) :
    found.head?.map ProgramAccount.pubkey = some k ↔ ∃ d, ⟨k, d⟩ ∈ found := by
  rcases found with _ | ⟨a, _ | ⟨b, found⟩⟩
  · simp
  · simp only [List.head?_cons, Option.map_some, Option.some.injEq, List.mem_singleton]
    constructor
    · rintro rfl
      exact ⟨a.data, rfl⟩
    · rintro ⟨d, rfl⟩
      rfl
  · simp at hone

/-- Without two receipts of one hash, the lookup finds the receipt with the hash. -/
theorem findReceiptByHash_eq_ok {s : Attestation.State} {program : Pubkey}
    {accounts : Pubkey → Option (List UInt8)} (hmarked : ReceiptsMarked host)
    (hstored : StoredAs host s accounts) (hserves : connection.Serves bs58 program accounts)
    {hash : List UInt8} (hlength : hash.length = 32)
    (hunique : ∀ k k' r r', s.receipts.get k = some r → s.receipts.get k' = some r' →
      r.receiptHash.bytes = hash → r'.receiptHash.bytes = hash → k = k') :
    ∃ found, findReceiptByHash host bs58 connection program hash = .ok found ∧
      ∀ k, found = some k ↔ ∃ r, s.receipts.get k = some r ∧ r.receiptHash.bytes = hash := by
  have hdisc := Attestation.accountDiscriminator_length host "Receipt"
  obtain ⟨found, hfound, hnodup, hmem⟩ := hserves
    [⟨RECEIPT_ACCOUNT_DISCRIMINATOR_OFFSET, RECEIPT_ACCOUNT_DISCRIMINATOR_BYTES host bs58⟩,
      ⟨RECEIPT_HASH_MEMCMP_OFFSET, bs58.encode hash⟩] ⟨by simp, fun f hf => by
      rcases List.mem_pair.mp hf with rfl | rfl
      · exact ⟨_, bs58.decode_encode _, by rw [receipt_discriminator, hdisc]; decide⟩
      · exact ⟨_, bs58.decode_encode _, by rw [hlength]; decide⟩⟩
  -- the accounts found are the receipts with the hash
  have hreceipt : ∀ k, (∃ d, ⟨k, d⟩ ∈ found) ↔
      ∃ r, s.receipts.get k = some r ∧ r.receiptHash.bytes = hash := by
    intro k
    simp only [hmem, List.forall_mem_cons, List.not_mem_nil, false_imp_iff, implies_true, and_true,
      RECEIPT_ACCOUNT_DISCRIMINATOR_BYTES, matches_encode, receipt_discriminator, hdisc, hlength]
    refine (hstored.receipt_iff hmarked ⟨hash, hlength⟩).trans ?_
    constructor
    · rintro ⟨r, hr, he⟩
      exact ⟨r, hr, congrArg Bytes32.bytes he⟩
    · rintro ⟨r, hr, he⟩
      exact ⟨r, hr, Attestation.bytes32_ext he⟩
  have hone : found.length ≤ 1 := by
    refine length_le_one hnodup fun a ha b hb => ?_
    obtain ⟨r, hr, he⟩ := (hreceipt a.pubkey).mp ⟨a.data, ha⟩
    obtain ⟨r', hr', he'⟩ := (hreceipt b.pubkey).mp ⟨b.data, hb⟩
    exact hunique _ _ r r' hr hr' he he'
  refine ⟨found.head?.map ProgramAccount.pubkey, ?_,
    fun k => (head?_pubkey_iff hone k).trans (hreceipt k)⟩
  simp only [findReceiptByHash, buildReceiptHashMemcmpFilter, bind_eq_ok, normalizeHash_eq_ok,
    require_eq_ok, exists_unit, pure_eq_ok]
  exact ⟨hash, ⟨hlength, rfl⟩, _, ⟨hash, ⟨hlength, rfl⟩, rfl⟩, found, hfound, hone, rfl⟩

theorem findReceiptByHash_malformed {program : Pubkey} {hash : List UInt8}
    (h : hash.length ≠ 32) : findReceiptByHash host bs58 connection program hash =
      .error (.error "receiptHash must be exactly 32 bytes") := by
  rw [findReceiptByHash, normalizeHash, require, if_neg h]
  rfl

/-! ## A node

A node that holds some accounts and compares the decoded bytes. -/

/-- The digits of Base58. -/
def base58Alphabet : List UInt16 :=
  js "123456789ABCDEFGHJKLMNPQRSTUVWXYZabcdefghijkmnopqrstuvwxyz"

theorem idxOf?_base58Alphabet : ∀ d < 58,
    base58Alphabet.idxOf? (base58Alphabet.getD d 0) = some d := by
  decide +kernel

theorem mapM_base58Alphabet {ds : List ℕ} (hds : ∀ d ∈ ds, d < 58) :
    (ds.map fun d => base58Alphabet.getD d 0).mapM base58Alphabet.idxOf? = some ds := by
  induction ds with
  | nil => rfl
  | cons d ds ih =>
    obtain ⟨hd, hds⟩ := List.forall_mem_cons.mp hds
    rw [List.map_cons, List.mapM_cons, idxOf?_base58Alphabet d hd, ih hds]
    rfl

/-- Base58 writes a byte string as a number in base 58, with a `1` for each leading zero byte. -/
def base58 : Bs58 where
  encode b := (Radix.recode 256 58 (b.map UInt8.toNat)).map fun d => base58Alphabet.getD d 0
  decode s := (s.mapM base58Alphabet.idxOf?).map fun ds =>
    (Radix.recode 58 256 ds).map UInt8.ofNat
  decode_encode b := by
    have hbytes : ∀ n ∈ b.map UInt8.toNat, n < 256 := by
      intro n hn
      obtain ⟨x, -, rfl⟩ := List.mem_map.mp hn
      exact x.toNat_lt
    rw [mapM_base58Alphabet (Radix.recode_lt (by decide)), Option.map_some,
      Radix.recode_recode (by decide) hbytes, List.map_map]
    refine congrArg some ((List.map_congr_left fun x _ => ?_).trans (List.map_id b))
    exact UInt8.ofNat_toNat

/-- The answer of a node with the accounts of `program`, at the addresses `keys`. -/
def node (bs58 : Bs58) (program : Pubkey) (keys : List Pubkey)
    (accounts : Pubkey → Option (List UInt8)) : Connection where
  getProgramAccounts p filters := .ok (if p = program then
    keys.filterMap fun k => (accounts k).bind fun d =>
      if ∀ f ∈ filters, f.Matches bs58 d then some ⟨k, d⟩ else none
    else [])

theorem node_serves {program : Pubkey} {keys : List Pubkey}
    {accounts : Pubkey → Option (List UInt8)} (hnodup : keys.Nodup)
    (hkeys : ∀ k d, accounts k = some d → k ∈ keys) :
    (node bs58 program keys accounts).Serves bs58 program accounts := by
  intro filters _
  have hentry : ∀ k a, ((accounts k).bind fun d =>
      if ∀ f ∈ filters, f.Matches bs58 d then some (ProgramAccount.mk k d) else none) = some a ↔
        a.pubkey = k ∧ accounts k = some a.data ∧ ∀ f ∈ filters, f.Matches bs58 a.data := by
    intro k a
    rw [Option.bind_eq_some_iff]
    constructor
    · rintro ⟨d, hd, h⟩
      split_ifs at h with hall
      obtain rfl := Option.some.inj h
      exact ⟨rfl, hd, hall⟩
    · rintro ⟨rfl, hd, hall⟩
      exact ⟨a.data, hd, if_pos hall⟩
  refine ⟨_, congrArg Except.ok (if_pos rfl), ?_, fun k d => ?_⟩
  · rw [List.map_filterMap]
    refine hnodup.filterMap fun k k' b hb hb' => ?_
    obtain ⟨a, ha, rfl⟩ := Option.map_eq_some_iff.mp hb
    obtain ⟨a', ha', he⟩ := Option.map_eq_some_iff.mp hb'
    exact ((hentry k a).mp ha).1.symm.trans (he.symm.trans ((hentry k' a').mp ha').1)
  · rw [List.mem_filterMap]
    constructor
    · rintro ⟨k', -, h⟩
      obtain ⟨rfl, hd, hall⟩ := (hentry k' ⟨k, d⟩).mp h
      exact ⟨hd, hall⟩
    · rintro ⟨hd, hall⟩
      exact ⟨k, hkeys k d hd, (hentry k ⟨k, d⟩).mpr ⟨rfl, hd, hall⟩⟩

/-- The receipts, the challenges and the config of a state, as they are stored.  The address of the
entry of a signer is left open. -/
def storedAccounts (host : Host) (s : Attestation.State) (k : Pubkey) : Option (List UInt8) :=
  ((s.receipts.get k).map Account.receipt <|> (s.challenges.get k).map Account.challenge <|>
    if k = Attestation.configAddress then s.config.map Account.config else none).map
      fun a => a.data host

theorem storedAccounts_storedAs (host : Host) (s : Attestation.State) :
    StoredAs host s (storedAccounts host s) where
  receipt k r hr := by
    rw [storedAccounts, hr]
    rfl
  only k d hd := by
    obtain ⟨a, ha, rfl⟩ := Option.map_eq_some_iff.mp hd
    refine Or.inl ⟨a, ?_, rfl⟩
    cases hr : s.receipts.get k with
    | some r =>
      rw [hr] at ha
      obtain rfl := Option.some.inj ha
      exact .receipt hr
    | none =>
      cases hx : s.challenges.get k with
      | some x =>
        rw [hr, hx] at ha
        obtain rfl := Option.some.inj ha
        exact .challenge hx
      | none =>
        rw [hr, hx] at ha
        change (if k = Attestation.configAddress then s.config.map Account.config else none) =
          some a at ha
        split_ifs at ha with hk
        obtain ⟨g, hg, rfl⟩ := Option.map_eq_some_iff.mp ha
        exact .config hk hg

/-- A node with the accounts of a state answers a request when it knows the addresses of all
receipts and challenges. -/
theorem node_storedAccounts_serves {s : Attestation.State} {program : Pubkey} {keys : List Pubkey}
    (hnodup : keys.Nodup) (hreceipts : ∀ k ∈ s.receipts.dom, k ∈ keys)
    (hchallenges : ∀ k ∈ s.challenges.dom, k ∈ keys) (hconfig : Attestation.configAddress ∈ keys) :
    (node bs58 program keys (storedAccounts host s)).Serves bs58 program
      (storedAccounts host s) := by
  refine node_serves hnodup fun k d h => ?_
  by_contra hk
  have hr := Store.get_eq_none_of_not_mem fun hmem => hk (hreceipts k hmem)
  have hx := Store.get_eq_none_of_not_mem fun hmem => hk (hchallenges k hmem)
  have hc : k ≠ Attestation.configAddress := by
    rintro rfl
    exact hk hconfig
  rw [storedAccounts, hr, hx, if_neg hc] at h
  cases h

/-- **One receipt for a hash**: a preimage determines its inputs, and in every state that the
programs reach without a collision of the hash function on what was submitted, no two receipts have
one hash.  So the lookup of a hash of 32 bytes returns the address of the receipt with that hash if
there is one and nothing otherwise, and never finds several. -/
theorem receipt_by_hash (host : Host) :
    (∀ inputs inputs' : Attestation.CompactReceiptHashInputs,
      inputs.preimage host = inputs'.preimage host → inputs.Same host inputs' ∧
        (Set.InjOn host.bytes {k | k ∈ inputs.keys ∨ k ∈ inputs'.keys} → inputs = inputs')) ∧
    ∀ as, NoCollisions host (hashedInputs host as) →
      (∀ k k' r r', IsReceipt (reached host as) k r → IsReceipt (reached host as) k' r' →
        r.receiptHash = r'.receiptHash → k = k' ∧ r = r') ∧
      ∀ bs58 connection accounts, ReceiptsMarked host →
        StoredAs host (reached host as).attestation accounts →
        connection.Serves bs58 ATTESTATION_ID accounts → ∀ hash : List UInt8,
          (hash.length = 32 → ∃ found,
            findReceiptByHash host bs58 connection ATTESTATION_ID hash = .ok found ∧
            ∀ k, found = some k ↔ ∃ r, IsReceipt (reached host as) k r ∧
              r.receiptHash.bytes = hash) ∧
          (hash.length ≠ 32 → findReceiptByHash host bs58 connection ATTESTATION_ID hash =
            .error (.error "receiptHash must be exactly 32 bytes")) := by
  refine ⟨fun inputs inputs' h => ?_, fun as hcollisions =>
    ⟨fun k k' r r' hr hr' h => receipt_unique hcollisions hr hr' h,
      fun bs58 connection accounts hmarked hstored hserves hash =>
        ⟨fun hlength => ?_, findReceiptByHash_malformed⟩⟩⟩
  · have hsame := Attestation.preimage_inj h
    exact ⟨hsame, hsame.eq⟩
  · refine findReceiptByHash_eq_ok hmarked hstored hserves hlength fun k k' r r' hr hr' he he' => ?_
    exact (receipt_unique hcollisions hr hr' (Attestation.bytes32_ext (he.trans he'.symm))).1

/-! ## A run with two receipts

The receipt of `Protocol.Agreement`, and the same one submitted again with another nonce. -/

open Protocol (parties nonce receiptDigest receiptKey sampleHost submission)
open Masterpool (wallet)

/-- The SHA-256 digest of the second receipt. -/
def secondDigest : Bytes32 :=
  ⟨[112, 46, 126, 226, 170, 110, 30, 216, 152, 244, 98, 27, 3, 86, 249, 202, 101, 29, 17, 150, 244,
    123, 99, 45, 33, 111, 137, 101, 78, 58, 247, 93], rfl⟩

def secondKey : Pubkey := Attestation.receiptAddress (nonce 24)

def hashInputs (n : UInt8) : Attestation.CompactReceiptHashInputs :=
  ⟨nonce n, nonce 22, wallet 5, wallet 7, wallet 3, 700, 300, 1000000⟩

/-- The SHA-256 digests of what is hashed here. -/
def digests : List (List UInt8 × Bytes32) :=
  [(utf8 (js "account:Config"),
    ⟨[155, 12, 170, 224, 30, 250, 204, 130, 109, 242, 70, 91, 96, 39, 242, 206, 59, 124, 56, 118,
      143, 93, 39, 207, 127, 206, 115, 39, 236, 170, 245, 132], rfl⟩),
   (utf8 (js "account:ProviderSigner"),
    ⟨[204, 69, 75, 55, 57, 78, 232, 84, 134, 26, 81, 119, 80, 30, 110, 23, 84, 129, 61, 44, 206,
      216, 118, 31, 243, 126, 54, 246, 4, 103, 104, 245], rfl⟩),
   (utf8 (js "account:Receipt"),
    ⟨[39, 154, 73, 106, 80, 102, 145, 153, 58, 118, 249, 144, 148, 153, 16, 51, 231, 50, 56, 146,
      26, 155, 196, 186, 40, 108, 255, 42, 1, 45, 248, 1], rfl⟩),
   (utf8 (js "account:Challenge"),
    ⟨[119, 250, 161, 121, 119, 81, 22, 208, 196, 196, 79, 150, 194, 219, 171, 107, 112, 125, 161,
      235, 163, 126, 195, 71, 228, 232, 144, 215, 231, 157, 93, 15], rfl⟩),
   ((hashInputs 21).preimage sampleHost, receiptDigest),
   ((hashInputs 24).preimage sampleHost, secondDigest)]

/-- SHA-256 on what is hashed here, where all addresses that are hashed are ordinary keys. -/
def digestHost : Host where
  hash data := (digests.find? fun p => p.1 = data).elim (nonce 0) (·.2)
  derived _ := nonce 0

def secondTransaction : Attestation.InstructionsSysvar where
  currentIndex := some 1
  instructions :=
    [⟨Attestation.ED25519_PROGRAM_ID, [], Attestation.ed25519IxData (nonce 4).bytes
      (List.replicate 64 0) secondDigest.bytes⟩, ⟨ATTESTATION_ID, [], []⟩]

def twoSubmissions : List Protocol.Action := submission ++
  [.attestation parties 11 (.submitReceipt secondTransaction ⟨wallet 1, (wallet 5, wallet 4),
    wallet 7, wallet 7, wallet 9, wallet 8, MASTERPOOL_ID, wallet 5, Masterpool.treasuryUsdcVault,
    Masterpool.providerPendingUsdcVault, wallet 3⟩
    ⟨nonce 24, nonce 22, 700, 300, 1000000, secondDigest⟩)]

def twoAccounts : Pubkey → Option (List UInt8) :=
  storedAccounts digestHost (reached digestHost twoSubmissions).attestation

def twoNode : Connection :=
  node base58 ATTESTATION_ID [receiptKey, secondKey, Attestation.configAddress] twoAccounts

theorem twoNode_serves : twoNode.Serves base58 ATTESTATION_ID twoAccounts :=
  node_storedAccounts_serves (by decide) (by decide +kernel) (by decide +kernel) (by decide)

/-- Each of the two receipts is found by its hash. -/
theorem receipt_by_hash_of_two :
    findReceiptByHash digestHost base58 twoNode ATTESTATION_ID receiptDigest.bytes =
      .ok (some receiptKey) ∧
    findReceiptByHash digestHost base58 twoNode ATTESTATION_ID secondDigest.bytes =
      .ok (some secondKey) := by
  have hfind := ((receipt_by_hash digestHost).2 twoSubmissions (by decide +kernel)).2 base58 twoNode
    twoAccounts ⟨by decide, by decide, by decide, by decide⟩ (storedAccounts_storedAs _ _)
    twoNode_serves
  have hstored : ((reached digestHost twoSubmissions).attestation.receipts.get receiptKey).map
        Attestation.Receipt.receiptHash = some receiptDigest ∧
      ((reached digestHost twoSubmissions).attestation.receipts.get secondKey).map
        Attestation.Receipt.receiptHash = some secondDigest := by decide +kernel
  obtain ⟨r, hr, he⟩ := Option.map_eq_some_iff.mp hstored.1
  obtain ⟨r', hr', he'⟩ := Option.map_eq_some_iff.mp hstored.2
  obtain ⟨found, hfound, hfirst⟩ := (hfind receiptDigest.bytes).1 receiptDigest.length_eq
  obtain ⟨found', hfound', hsecond⟩ := (hfind secondDigest.bytes).1 secondDigest.length_eq
  rw [hfound, hfound', (hfirst _).mpr ⟨r, hr, congrArg _ he⟩,
    (hsecond _).mpr ⟨r', hr', congrArg _ he'⟩]
  exact ⟨rfl, rfl⟩

end Gateway
