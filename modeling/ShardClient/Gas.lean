/-
Amounts, and gas.

An amount of a currency is a number of 128 bits.  Gas is a number of 64 bits whose sums and
products stop at the greatest value instead of wrapping.
-/

namespace ShardClient

/-- The first number that is too great for an amount. -/
abbrev amountBound : Nat := 0x100000000000000000000000000000000

/-- An amount of some currency. -/
abbrev Amount := BitVec 128

/-- A quantity of gas. -/
abbrev Gas := UInt64

namespace Gas

/-- The number as a quantity of gas, or the greatest quantity if there is none. -/
def ofNatSat (n : Nat) : Gas := if n < UInt64.size then UInt64.ofNat n else 0xffffffffffffffff

/-- The sum, stopping at the greatest value. -/
def plus (a b : Gas) : Gas := ofNatSat (a.toNat + b.toNat)

/-- The product, stopping at the greatest value. -/
def times (a b : Gas) : Gas := ofNatSat (a.toNat * b.toNat)

theorem toNat_ofNatSat (n : Nat) : (ofNatSat n).toNat = min n (UInt64.size - 1) := by
  unfold ofNatSat
  split
  · next h => rw [UInt64.toNat_ofNat_of_lt' h]; omega
  · next h => show UInt64.size - 1 = _; omega

@[simp] theorem toNat_plus (a b : Gas) :
    (plus a b).toNat = min (a.toNat + b.toNat) (UInt64.size - 1) :=
  toNat_ofNatSat _

@[simp] theorem toNat_times (a b : Gas) :
    (times a b).toNat = min (a.toNat * b.toNat) (UInt64.size - 1) :=
  toNat_ofNatSat _

end Gas

/-- What a network charges for transactions. -/
structure FeeSchedule where
  /-- The identifier of the chain, which every transaction names. -/
  chainId : String
  minGas : Gas := 50000
  gasPerByte : Gas := 1500
  gasPrice : UInt64 := 1000000000
  /-- For a transfer of one fungible token, in two parts. -/
  tokenTransferGas : Gas := 200000
  tokenTransferExtraGas : Gas := 100000
  /-- For each entry of a multi-token transfer, and for the transfer as a whole. -/
  bundleGas : Gas := 200000
  bundleExtraGas : Gas := 800000
  issuanceGas : Gas := 60000000
  /-- The native amount paid for issuing a token. -/
  issuanceCost : Amount := 50000000000000000
  deriving DecidableEq

/-- The gas that it takes just to carry `length` bytes of payload. -/
def FeeSchedule.gasToCarry (fees : FeeSchedule) (length : Nat) : Gas :=
  fees.minGas.plus (fees.gasPerByte.times (Gas.ofNatSat length))

end ShardClient
