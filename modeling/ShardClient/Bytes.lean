/-
Byte strings, and the fixed width integers read from and written to them.
-/
import ShardClient.Radix

namespace ShardClient

/-- A byte string. -/
abbrev Bytes := List UInt8

namespace Bytes

/-- The number a byte string stands for, most significant byte first. -/
def toNatBE (bs : Bytes) : Nat :=
  bs.foldl (fun n b => n * 256 + b.toNat) 0

/-- The number a byte string stands for, least significant byte first. -/
def toNatLE (bs : Bytes) : Nat :=
  bs.foldr (fun b n => n * 256 + b.toNat) 0

/-- The `width` lowest bytes of `n`, least significant first. -/
def ofNatLE (width n : Nat) : Bytes :=
  (Radix.lowDigits 256 width n).map UInt8.ofNat

/-- The `width` lowest bytes of `n`, most significant first. -/
def ofNatBE (width n : Nat) : Bytes :=
  (ofNatLE width n).reverse

@[simp] theorem length_ofNatLE (width n : Nat) : (ofNatLE width n).length = width := by
  simp [ofNatLE]

@[simp] theorem length_ofNatBE (width n : Nat) : (ofNatBE width n).length = width := by
  simp [ofNatBE]

/-- The shortest byte string that stands for `n`, most significant byte first: zero has none. -/
def minimalBE (n : Nat) : Bytes :=
  (Radix.digits 256 n).map UInt8.ofNat

/-- Blocks of `size + 1` elements, in order; the last one may be shorter. -/
def blocks {α : Type} (size : Nat) (l : List α) : List (List α) :=
  if _h : l = [] then [] else l.take (size + 1) :: blocks size (l.drop (size + 1))
termination_by l.length
decreasing_by
  have := List.length_pos_iff.2 _h
  simp only [List.length_drop]
  omega

end Bytes

/-- A byte string of a given length. -/
structure FixedBytes (n : Nat) where
  bytes : Bytes
  length_eq : bytes.length = n
  deriving DecidableEq

end ShardClient
