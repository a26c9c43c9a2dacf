/-
SHA-2: SHA-256 over 32 bit words and SHA-512 over 64 bit words.

Both are one construction.  A message is padded to whole blocks of sixteen words; each block
is stretched to one word a round, and the rounds stir it into eight words of state.  What
tells the variants apart is a record: the word, its four mixing functions and its constants.
-/
import ShardClient.Bytes
import ShardClient.Hash.Roots

namespace ShardClient

namespace Sha2

/-- The eight words of state. -/
structure State (W : Type) where
  a : W
  b : W
  c : W
  d : W
  e : W
  f : W
  g : W
  h : W

/-- What tells the variants apart. -/
structure Variant (W : Type) where
  /-- The length of a word in bytes. -/
  wordBytes : Nat
  ofNat : Nat → W
  toNat : W → Nat
  /-- Mixes words of the schedule. -/
  sigma0 : W → W
  sigma1 : W → W
  /-- Mixes words of the state. -/
  sum0 : W → W
  sum1 : W → W
  /-- The state before the first block. -/
  initial : State W
  /-- One constant for each round. -/
  constants : List W

section

variable {W : Type} [Add W] [XorOp W] [AndOp W] [Complement W] [Inhabited W]

/-- The sixteen words behind the window `ws`, one at a time: the window holds the last sixteen
words, oldest first.  Yields the oldest word of each of `n` windows. -/
@[specialize] def stretch (v : Variant W) : (n : Nat) → (ws : Array W) → (start : Nat) → Array W
  | 0, ws, _ => ws
  | n + 1, ws, start =>
    let w := v.sigma1 (ws.getD (start + 14) default) + ws.getD (start + 9) default +
      v.sigma0 (ws.getD (start + 1) default) + ws.getD start default
    stretch v n (ws.push w) (start + 1)

/-- One round, with the word `w` of the schedule and the round's constant `k`. -/
@[specialize] def round (v : Variant W) (s : State W) (w k : W) : State W :=
  let choice := (s.e &&& s.f) ^^^ (~~~s.e &&& s.g)
  let majority := (s.a &&& s.b) ^^^ (s.a &&& s.c) ^^^ (s.b &&& s.c)
  let t := s.h + v.sum1 s.e + choice + k + w
  ⟨t + (v.sum0 s.a + majority), s.a, s.b, s.c, s.d + t, s.e, s.f, s.g⟩

/-- Stirs one block of sixteen words into the state. -/
@[specialize] def compress (v : Variant W) (s : State W) (block : List W) : State W :=
  let schedule := stretch v (v.constants.length - 16) block.toArray 0
  let t := (schedule.toList.zip v.constants).foldl (fun t wk => round v t wk.1 wk.2) s
  ⟨s.a + t.a, s.b + t.b, s.c + t.c, s.d + t.d, s.e + t.e, s.f + t.f, s.g + t.g, s.h + t.h⟩

/-- The words of a byte string, most significant byte first. -/
def words (v : Variant W) (bs : Bytes) : List W :=
  (Bytes.blocks (v.wordBytes - 1) bs).map fun word => v.ofNat (Bytes.toNatBE word)

/-- The bytes that complete a message of `length` bytes: a one bit, zeros, and the number of its
bits in two words. -/
def padding (v : Variant W) (length : Nat) : Bytes :=
  let block := 16 * v.wordBytes
  let used := (length + 1 + 2 * v.wordBytes) % block
  [0x80] ++ List.replicate ((block - used) % block) 0 ++ Bytes.ofNatBE (2 * v.wordBytes) (8 * length)

/-- Stirs whole blocks into a state. -/
@[specialize] def absorb (v : Variant W) (s : State W) (bs : Bytes) : State W :=
  (Bytes.blocks 15 (words v bs)).foldl (compress v) s

/-- The bytes of the state. -/
def State.bytes (v : Variant W) (s : State W) : Bytes :=
  [s.a, s.b, s.c, s.d, s.e, s.f, s.g, s.h].flatMap fun w => Bytes.ofNatBE v.wordBytes (v.toNat w)

omit [Add W] [XorOp W] [AndOp W] [Complement W] [Inhabited W] in
theorem State.length_bytes (v : Variant W) (s : State W) : (s.bytes v).length = 8 * v.wordBytes := by
  simp [State.bytes]; omega

/-- The hash of the message that began with `before` bytes already stirred into `s`, and goes on
with `bs`. -/
@[specialize] def finish (v : Variant W) (s : State W) (before : Nat) (bs : Bytes) : State W :=
  absorb v s (bs ++ padding v (before + bs.length))

end

/-- Eight words of state from a list. -/
def State.ofList {W : Type} (zero : W) (ws : List W) : State W :=
  ⟨ws.getD 0 zero, ws.getD 1 zero, ws.getD 2 zero, ws.getD 3 zero, ws.getD 4 zero, ws.getD 5 zero,
    ws.getD 6 zero, ws.getD 7 zero⟩

/-- Rotates a 32 bit word to the right. -/
@[inline] def rotate32 (w : UInt32) (n : UInt32) : UInt32 := (w >>> n) ||| (w <<< (32 - n))

/-- Rotates a 64 bit word to the right. -/
@[inline] def rotate64 (w : UInt64) (n : UInt64) : UInt64 := (w >>> n) ||| (w <<< (64 - n))

/-- SHA-256: 64 rounds over 32 bit words. -/
def sha256 : Variant UInt32 where
  wordBytes := 4
  ofNat := UInt32.ofNat
  toNat := UInt32.toNat
  sigma0 w := rotate32 w 7 ^^^ rotate32 w 18 ^^^ (w >>> 3)
  sigma1 w := rotate32 w 17 ^^^ rotate32 w 19 ^^^ (w >>> 10)
  sum0 w := rotate32 w 2 ^^^ rotate32 w 13 ^^^ rotate32 w 22
  sum1 w := rotate32 w 6 ^^^ rotate32 w 11 ^^^ rotate32 w 25
  initial := State.ofList 0 ((Roots.primes.take 8).map fun p => UInt32.ofNat (Roots.fraction 2 32 p))
  constants := (Roots.primes.take 64).map fun p => UInt32.ofNat (Roots.fraction 3 32 p)

/-- SHA-512: 80 rounds over 64 bit words. -/
def sha512 : Variant UInt64 where
  wordBytes := 8
  ofNat := UInt64.ofNat
  toNat := UInt64.toNat
  sigma0 w := rotate64 w 1 ^^^ rotate64 w 8 ^^^ (w >>> 7)
  sigma1 w := rotate64 w 19 ^^^ rotate64 w 61 ^^^ (w >>> 6)
  sum0 w := rotate64 w 28 ^^^ rotate64 w 34 ^^^ rotate64 w 39
  sum1 w := rotate64 w 14 ^^^ rotate64 w 18 ^^^ rotate64 w 41
  initial := State.ofList 0 ((Roots.primes.take 8).map fun p => UInt64.ofNat (Roots.fraction 2 64 p))
  constants := Roots.primes.map fun p => UInt64.ofNat (Roots.fraction 3 64 p)

end Sha2

/-- The SHA-256 hash of a byte string. -/
def sha256 (bs : Bytes) : FixedBytes 32 :=
  ⟨(Sha2.finish Sha2.sha256 Sha2.sha256.initial 0 bs).bytes Sha2.sha256, Sha2.State.length_bytes _ _⟩

/-- The SHA-512 hash of a byte string. -/
def sha512 (bs : Bytes) : FixedBytes 64 :=
  ⟨(Sha2.finish Sha2.sha512 Sha2.sha512.initial 0 bs).bytes Sha2.sha512, Sha2.State.length_bytes _ _⟩

end ShardClient
