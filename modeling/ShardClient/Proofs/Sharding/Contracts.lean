/-
Where contracts are at home.

The address of a contract begins with the zeros that mark contracts, and so do all addresses on
the metachain; but behind the zeros stands the marker of the virtual machine, where an address on
the metachain has one more zero.  So no contract lives on the metachain, whatever digest its
address is made from.  Its last byte is that of its deployer, and so is its shard.  Contracts can
create contracts in turn; since none of them lives on the metachain, they all stay where the first
deployer is, however long the line of descent.
-/
import ShardClient.Proofs.Sharding.LastByte

namespace ShardClient

namespace Sharding

variable (deployer : Address) (digest : FixedBytes 32)

theorem isContract_contractOfDigest : (contractOfDigest deployer digest).isContract = true := rfl

/-- The byte behind the zeros is the marker of the virtual machine. -/
theorem getElem?_contractOfDigest : (contractOfDigest deployer digest).bytes[8]? = some 5 := rfl

/-- No contract is on the metachain. -/
theorem onMetachain_contractOfDigest : ¬onMetachain (contractOfDigest deployer digest) = true := by
  rw [onMetachain_iff]
  have hmarker := getElem?_contractOfDigest deployer digest
  rintro (hzero | ⟨rest, hrest⟩)
  · rw [hzero] at hmarker
    exact absurd hmarker (by decide)
  · have hbyte : (Address.metachainStart ++ rest)[8]? = some 0 := rfl
    rw [hrest, hmarker] at hbyte
    exact absurd hbyte (by decide)

/-- A contract has the last byte of its deployer. -/
theorem lastByte_contractOfDigest :
    (contractOfDigest deployer digest).lastByte = deployer.lastByte := by
  have hne : deployer.bytes.drop 30 ≠ [] := by
    rw [Ne, List.drop_eq_nil_iff, deployer.length_eq]
    omega
  have hlast : ∀ l : Bytes,
      (l ++ deployer.bytes.drop 30).getLastD 0 = deployer.bytes.getLastD 0 := by
    intro l
    rw [List.getLastD_eq_getLast?, List.getLastD_eq_getLast?, List.getLast?_append_of_ne_nil _ hne,
      List.getLast?_drop, if_neg (by rw [deployer.length_eq]; omega)]
  exact hlast _

/-- **A contract is at home where its deployer is**, unless that is on the metachain. -/
theorem home_contractOfDigest (s : Sharding) (h : ¬onMetachain deployer = true) :
    s.home (contractOfDigest deployer digest) = s.home deployer := by
  unfold home
  rw [if_neg (onMetachain_contractOfDigest deployer digest), if_neg h, lastByte_contractOfDigest]

/-! ### Contracts that create contracts -/

/-- The address of the contract that `deployer` creates with the transaction of the given nonce, if
digests are made by `hash`. -/
def contractBy (hash : Bytes → FixedBytes 32) (deployer : Address) (nonce : UInt64) : Address :=
  contractOfDigest deployer (hash (deployer.bytes ++ Bytes.ofNatLE 8 nonce.toNat))

/-- The contracts of the network are made by one such hash. -/
theorem contractAddress_eq : contractAddress = contractBy keccak256 := rfl

/-- What descends from an address: the address itself, and every contract that something which
descends from it creates. -/
inductive Descends (hash : Bytes → FixedBytes 32) (first : Address) : Address → Prop
  | self : Descends hash first first
  | created {a : Address} (h : Descends hash first a) (nonce : UInt64) :
    Descends hash first (contractBy hash a nonce)

variable {s : Sharding} {hash : Bytes → FixedBytes 32} {first a : Address}

theorem home_contractBy_ne_metachain (nonce : UInt64) :
    s.home (contractBy hash a nonce) ≠ metachain := fun h =>
  onMetachain_contractOfDigest a _ (home_eq_metachain_iff.1 h)

/-- One creation keeps the shard, just where there is a shard to be kept. -/
theorem home_contractBy_iff (nonce : UInt64) :
    s.home (contractBy hash a nonce) = s.home a ↔ s.home a ≠ metachain := by
  constructor
  · intro h hmeta
    exact home_contractBy_ne_metachain nonce (h.trans hmeta)
  · intro h
    exact home_contractOfDigest a _ s fun hmeta => h (home_eq_metachain_iff.2 hmeta)

/-- Any number of creations keeps it. -/
theorem Descends.home_eq (h : Descends hash first a) (hfirst : s.home first ≠ metachain) :
    s.home a = s.home first := by
  induction h with
  | self => rfl
  | @created a _ nonce ih =>
    have hmother : s.home a ≠ metachain := ih ▸ hfirst
    exact ((home_contractBy_iff nonce).2 hmother).trans ih

/-- **Contracts stay in the shard of their deployer**, in any number of shards and whatever digests
the hash returns.  What is created has the address of a contract and is never on the metachain, so
it shares the home of its deployer just if the deployer is not on the metachain; and from there on
all that descends from it, through any nonces, is in the same shard. -/
theorem contracts_stay_home (s : Sharding) (hash : Bytes → FixedBytes 32) :
    (∀ deployer nonce,
      let contract := contractBy hash deployer nonce
      contract.isContract = true ∧ s.home contract ≠ metachain ∧
        (s.home contract = s.home deployer ↔ s.home deployer ≠ metachain)) ∧
    (∀ first a, s.home first ≠ metachain → Descends hash first a → s.home a = s.home first) ∧
    contractAddress = contractBy keccak256 := by
  refine ⟨fun deployer nonce => ?_, fun first a hfirst h => h.home_eq hfirst, contractAddress_eq⟩
  exact ⟨isContract_contractOfDigest deployer _, home_contractBy_ne_metachain nonce,
    home_contractBy_iff nonce⟩

end Sharding

end ShardClient
