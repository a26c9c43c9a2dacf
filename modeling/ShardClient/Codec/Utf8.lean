/-
UTF-8.

Writing is core's encoding of each character.  Reading takes one step at a time: a step
yields a character, or skips the longest run of bytes that begins a character but does not
finish one.  A strict reader stops at such a run; a lenient one puts the replacement
character in its place.
-/
import ShardClient.Bytes

namespace ShardClient

namespace Utf8

/-- The bytes of a text. -/
def encode (s : String) : Bytes := s.toList.flatMap String.utf8EncodeChar

theorem encode_append (s t : String) : encode (s ++ t) = encode s ++ encode t := by
  simp [encode]

/-- The lowest six bits of a continuation byte, `none` if it is another kind of byte. -/
def continuation? (b : UInt8) : Option Nat :=
  if 0x80 ≤ b.toNat ∧ b.toNat ≤ 0xbf then some (b.toNat - 0x80) else none

/-- One step of reading: the character, if there is one, and the number of bytes used. -/
structure Step where
  char? : Option Char
  size : Nat

/-- The character with the given code point, read from `size` bytes. -/
def Step.found (n size : Nat) : Step := ⟨some (Char.ofNat n), size⟩

/-- A run of `size` bytes that is no character. -/
def Step.bad (size : Nat) : Step := ⟨none, size⟩

/-- Behind a first byte that promises two bytes. -/
def step2 (lead : Nat) (rest : Bytes) : Step :=
  match rest.head?.bind continuation? with
  | some x => .found ((lead - 0xc0) * 0x40 + x) 2
  | none => .bad 1

/-- Behind a first byte that promises three.  The second byte is restricted so that no
character has two spellings and no surrogate is spelt. -/
def step3 (lead : Nat) (rest : Bytes) : Step :=
  match rest with
  | b :: rest =>
    let n := b.toNat
    let low := if lead = 0xe0 then 0xa0 else 0x80
    let high := if lead = 0xed then 0x9f else 0xbf
    if low ≤ n ∧ n ≤ high then
      match rest.head?.bind continuation? with
      | some y => .found ((lead - 0xe0) * 0x1000 + (n - 0x80) * 0x40 + y) 3
      | none => .bad 2
    else .bad 1
  | [] => .bad 1

/-- Behind a first byte that promises four.  The second byte is restricted so that no
character has two spellings and none lies beyond the last code point. -/
def step4 (lead : Nat) (rest : Bytes) : Step :=
  match rest with
  | b :: rest =>
    let n := b.toNat
    let low := if lead = 0xf0 then 0x90 else 0x80
    let high := if lead = 0xf4 then 0x8f else 0xbf
    if low ≤ n ∧ n ≤ high then
      match rest.head?.bind continuation? with
      | none => .bad 2
      | some y =>
        match rest.tail.head?.bind continuation? with
        | none => .bad 3
        | some z => .found ((lead - 0xf0) * 0x40000 + (n - 0x80) * 0x1000 + y * 0x40 + z) 4
    else .bad 1
  | [] => .bad 1

/-- One step from the byte `b`, with `rest` behind it. -/
def step (b : UInt8) (rest : Bytes) : Step :=
  let n := b.toNat
  if n < 0x80 then .found n 1
  else if 0xc2 ≤ n ∧ n ≤ 0xdf then step2 n rest
  else if 0xe0 ≤ n ∧ n ≤ 0xef then step3 n rest
  else if 0xf0 ≤ n ∧ n ≤ 0xf4 then step4 n rest
  else .bad 1

/-- All steps through a byte string: characters, and `none` for each run that is none.
`skip` counts the bytes that the last step has already used. -/
def stepsFrom : (skip : Nat) → Bytes → List (Option Char)
  | _, [] => []
  | skip + 1, _ :: rest => stepsFrom skip rest
  | 0, b :: rest =>
    let s := step b rest
    s.char? :: stepsFrom (s.size - 1) rest

/-- The text that the bytes spell, `none` if they spell none. -/
def decode? (bs : Bytes) : Option String :=
  ((stepsFrom 0 bs).mapM id).map String.ofList

/-- The text that the bytes spell, with a replacement character for each run that spells
none. -/
def decodeLossy (bs : Bytes) : String :=
  String.ofList ((stepsFrom 0 bs).map (·.getD '\ufffd'))

end Utf8

end ShardClient
