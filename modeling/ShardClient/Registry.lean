/-
The pool of test accounts: a sponsor, users and known contracts, by shard and by address.

A registry is made once from the signers of its accounts and then only read.  Besides the
accounts in order it holds three tables: the users of each shard, the contracts of each shard,
and the accounts by address.  When two accounts share an address, the later one is found under
it; the sponsor comes first.  Contracts are not accounts and are never found by address.
-/
import ShardClient.AddressMap
import ShardClient.RunError

namespace ShardClient

/-- An account that can sign.  The signer usually owns the address, but nothing here makes it. -/
structure Account where
  address : Address
  signer : Signer

/-- The account of a signer. -/
def Account.ofSigner (signer : Signer) : Account := ⟨signer.address, signer⟩

/-- The account as it appears in listings. -/
def Account.listing (a : Account) : String := "Account(" ++ a.address.listing ++ ")"

/-- Values sorted into shards, in order of arrival. -/
structure ShardTable (α : Type) where
  buckets : List (ShardId × List α) := []

namespace ShardTable

variable {α : Type}

/-- The values of a shard, none if the shard is unknown. -/
def get (t : ShardTable α) (shard : ShardId) : List α := (t.buckets.lookup shard).getD []

/-- The buckets after a value has been put into that of a shard. -/
def pushIn (shard : ShardId) (v : α) : List (ShardId × List α) → List (ShardId × List α)
  | [] => [(shard, [v])]
  | (s, vs) :: rest =>
    if s = shard then (s, vs ++ [v]) :: rest else (s, vs) :: pushIn shard v rest

/-- The table after a value has been put into the bucket of a shard. -/
def push (t : ShardTable α) (shard : ShardId) (v : α) : ShardTable α :=
  ⟨pushIn shard v t.buckets⟩

/-- Sorts values by the shard of an address that each of them has. -/
def ofList (sharding : Sharding) (address : α → Address) (vs : List α) : ShardTable α :=
  vs.foldl (fun t v => t.push (sharding.home (address v)) v) {}

end ShardTable

/-- The accounts by address; of two that share one, the later. -/
def accountTable (accounts : List Account) : AddressMap Account :=
  accounts.foldl (fun m account => m.insert account.address account) {}

theorem find?_foldl_insert (accounts : List Account) (m : AddressMap Account) (a : Address) :
    (accounts.foldl (fun m account => m.insert account.address account) m).find? a
      = (accounts.reverse.find? fun account => account.address = a).or (m.find? a) := by
  induction accounts generalizing m with
  | nil => rfl
  | cons first rest ih =>
    rw [List.foldl_cons, ih, List.reverse_cons, List.find?_append, Option.or_assoc,
      AddressMap.find?_insert]
    by_cases h : first.address = a
    · simp [h]
    · simp [h, Ne.symm h]

/-- Under an address the last account is found that has it. -/
theorem find?_accountTable_eq (accounts : List Account) (a : Address) :
    (accountTable accounts).find? a
      = accounts.reverse.find? fun account => account.address = a := by
  rw [accountTable, find?_foldl_insert, AddressMap.find?_empty, Option.or_none]

/-- Whatever is found under an address is one of the accounts, and has that address. -/
theorem find?_accountTable {accounts : List Account} {a : Address} {account : Account}
    (h : (accountTable accounts).find? a = some account) :
    account ∈ accounts ∧ account.address = a := by
  rw [find?_accountTable_eq] at h
  exact ⟨List.mem_reverse.1 (List.mem_of_find?_eq_some h), by simpa using List.find?_some h⟩

/-- The pool of test accounts.  Its tables are those of its accounts and contracts, and each
account is that of its signer. -/
structure Registry where
  sponsor : Account
  /-- The users in the order in which their keys were derived. -/
  users : List Account
  usersByShard : ShardTable Account
  accountsByAddress : AddressMap Account
  contracts : List Address
  contractsByShard : ShardTable Address
  sharding : Sharding
  signers : ∀ account ∈ sponsor :: users, account = Account.ofSigner account.signer
  usersByShard_eq : usersByShard = ShardTable.ofList sharding (·.address) users := by rfl
  accountsByAddress_eq : accountsByAddress = accountTable (sponsor :: users) := by rfl
  contractsByShard_eq : contractsByShard = ShardTable.ofList sharding id contracts := by rfl

namespace Registry

/-- The registry of the given signers and contracts. -/
def ofSigners (sponsor : Signer) (users : List Signer) (contracts : List Address)
    (sharding : Sharding) : Registry :=
  let sponsor := Account.ofSigner sponsor
  let users := users.map Account.ofSigner
  { sponsor := sponsor
    users := users
    usersByShard := ShardTable.ofList sharding (·.address) users
    accountsByAddress := accountTable (sponsor :: users)
    contracts := contracts
    contractsByShard := ShardTable.ofList sharding id contracts
    sharding := sharding
    signers := by
      intro account h
      rcases List.mem_cons.1 h with rfl | h
      · rfl
      · obtain ⟨signer, -, rfl⟩ := List.mem_map.1 h
        rfl }

/-- The addresses of the known contracts of a configuration. -/
def readContracts : List String → Except ConfigurationError (List Address)
  | [] => .ok []
  | text :: texts =>
    match Address.ofText text with
    | .error cause => .error (.knownContract text cause)
    | .ok address => (readContracts texts).map (address :: ·)

/-- The registry that a configuration describes: the sponsor by its key, users by their number
in the order of derivation, contracts by their text. -/
def ofConfiguration (scheme : SignatureScheme) (c : Configuration) :
    Except ConfigurationError Registry := do
  let sponsor ← (SecretKey.ofText c.sponsorSecretKey).mapError ConfigurationError.sponsorKey
  let mnemonic ← (Mnemonic.ofText c.usersMnemonic).mapError ConfigurationError.usersMnemonic
  let keys := mnemonic.userKeys ((List.range c.numUsers.toNat).map UInt32.ofNat)
  let contracts ← readContracts c.knownContracts
  .ok (ofSigners (Signer.ofKey scheme sponsor) (keys.map (Signer.ofKey scheme)) contracts
    (Sharding.ofCount c.numShards))

/-- What is logged when a registry has been made. -/
def summary (r : Registry) : String :=
  "registry: sponsor " ++ r.sponsor.address.text ++ ", " ++ Decimal.text r.users.length ++
    " users, " ++ Decimal.text r.contracts.length ++ " known contracts"

/-- The users of a shard, in order. -/
def usersIn (r : Registry) (shard : ShardId) : List Account := r.usersByShard.get shard

/-- A user, by shard and place. -/
def user (r : Registry) (shard : ShardId) (index : Nat) : Except NoEntry Account :=
  match (r.usersIn shard)[index]? with
  | some account => .ok account
  | none => .error (.user shard index)

/-- The users of a shard from one place up to another, which is left out. -/
def userRange (r : Registry) (shard : ShardId) (start stop : Nat) :
    Except NoEntry (List Account) :=
  let users := r.usersIn shard
  if start ≤ stop ∧ stop ≤ users.length then .ok ((users.take stop).drop start)
  else .error (.users shard start stop users.length)

/-- A known contract, by shard and place. -/
def contract (r : Registry) (shard : ShardId) (index : Nat) : Except NoEntry Address :=
  match (r.contractsByShard.get shard)[index]? with
  | some address => .ok address
  | none => .error (.contract shard index)

/-- The account with the given address. -/
def account (r : Registry) (address : Address) : Except NoEntry Account :=
  match r.accountsByAddress.find? address with
  | some account => .ok account
  | none => .error (.account address)

/-- An account that is found has the address under which it is found, and can sign for it. -/
theorem account_owns {r : Registry} {a : Address} {account : Account}
    (h : r.account a = .ok account) : account.address = a ∧ account.signer.address = a := by
  unfold Registry.account at h
  split at h
  · next found hf =>
    obtain rfl : found = account := by simpa using h
    rw [r.accountsByAddress_eq] at hf
    obtain ⟨hmem, ha⟩ := find?_accountTable hf
    refine ⟨ha, ?_⟩
    rw [← ha, r.signers _ hmem]
    rfl
  · simp at h

end Registry

end ShardClient
