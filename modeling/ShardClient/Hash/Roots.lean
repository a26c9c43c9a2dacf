/-
Constants that hide nothing: the fractional parts of square and cube roots of primes.

The SHA-2 hashes start from such numbers.  Here they are computed, not listed.
-/

namespace ShardClient

namespace Roots

/-- Raises `root` bit by bit, from bit `bits - 1` down, as long as its `k`-th power stays
within `n`. -/
def refine (k n : Nat) : (bits root : Nat) → Nat
  | 0, root => root
  | bits + 1, root =>
    let next := root + (1 <<< bits)
    refine k n bits (if Nat.pow next k ≤ n then next else root)

/-- The first `bits` bits behind the point of the `k`-th root of `n`, for `n` below `2 ^ (8 * k)`:
the root of `n * 2 ^ (k * bits)`, without the bits in front of the point. -/
def fraction (k bits n : Nat) : Nat :=
  refine k (n <<< (k * bits)) (bits + 8) 0 % (1 <<< bits)

/-- Whether `n` is a prime. -/
def isPrime (n : Nat) : Bool :=
  2 ≤ n && (List.range n).all fun d => d < 2 || n % d != 0

/-- The first eighty primes. -/
def primes : List Nat := (List.range 410).filter isPrime

end Roots

end ShardClient
