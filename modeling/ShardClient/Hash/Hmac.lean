/-
Keyed hashing with SHA-512, and the stretching of a passphrase into a key.

A key is stirred into two states once, for the inner and for the outer hash; each message
then starts from these, so that stretching, which hashes thousands of messages under one key,
does not repeat the work.
-/
import ShardClient.Hash.Sha2

namespace ShardClient

namespace Hmac

/-- The length of a block of the hash in bytes. -/
def blockBytes : Nat := 128

/-- A key, stirred into the states from which the inner and the outer hash start. -/
structure Key where
  inner : Sha2.State UInt64
  outer : Sha2.State UInt64

/-- Prepares a key: one longer than a block is hashed first. -/
def Key.ofBytes (key : Bytes) : Key :=
  let short := if key.length > blockBytes then (sha512 key).bytes else key
  let block := short ++ List.replicate (blockBytes - short.length) 0
  let start (mask : UInt8) := Sha2.absorb Sha2.sha512 Sha2.sha512.initial (block.map (· ^^^ mask))
  ⟨start 0x36, start 0x5c⟩

/-- The keyed hash of a message. -/
def Key.hash (key : Key) (message : Bytes) : FixedBytes 64 :=
  let inner := Sha2.finish Sha2.sha512 key.inner blockBytes message
  let outer := Sha2.finish Sha2.sha512 key.outer blockBytes (inner.bytes Sha2.sha512)
  ⟨outer.bytes Sha2.sha512, Sha2.State.length_bytes _ _⟩

/-- Hashes again and again, and combines all results. -/
def iterate (key : Key) : (rounds : Nat) → (last combined : Bytes) → Bytes
  | 0, _, combined => combined
  | rounds + 1, last, combined =>
    let next := (key.hash last).bytes
    iterate key rounds next (List.zipWith (· ^^^ ·) combined next)

/-- Stretches a passphrase to 64 bytes, in `rounds + 1` rounds. -/
def stretch (passphrase salt : Bytes) (rounds : Nat) : Bytes :=
  let key := Key.ofBytes passphrase
  let first := (key.hash (salt ++ [0, 0, 0, 1])).bytes
  iterate key rounds first first

end Hmac

end ShardClient
