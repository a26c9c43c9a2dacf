/-
Mnemonic phrases.

A phrase of 12 to 24 words spells a number, eleven bits a word: first the entropy, then a
checksum of it, one bit for every three words.  Reading a phrase finds its faults in this
order: a word that is not in the list, a number of words that no phrase has, a wrong checksum.
-/
import ShardClient.Codec.Utf8
import ShardClient.Hash.Hmac
import ShardClient.Mnemonic.Decomposition
import ShardClient.Mnemonic.WordList
import ShardClient.Text.Blank
import ShardClient.Text.Decimal

namespace ShardClient

/-- Why a text is no mnemonic phrase. -/
inductive MnemonicError where
  /-- The word at this place is not in the list. -/
  | unknownWord (index : Nat)
  /-- No phrase has this many words. -/
  | wordCount (count : Nat)
  | checksum
  deriving DecidableEq, Repr

/-- The wording of a refusal. -/
def MnemonicError.message : MnemonicError → String
  | .unknownWord index =>
    "invalid mnemonic: invalid word in phrase with index " ++ Decimal.text index
  | .wordCount count =>
    "invalid mnemonic: invalid number of words in phrase: " ++ Decimal.text count
  | .checksum => "invalid mnemonic: invalid checksum"

/-- A mnemonic phrase: its words, joined by single spaces, and the entropy they spell. -/
structure Mnemonic where
  phrase : String
  entropy : Bytes
  deriving DecidableEq

namespace Mnemonic

/-- The phrase in the form in which it is looked up: words decomposed and joined by single
spaces. -/
def normalize (phrase : List Char) : List Char :=
  [' '].intercalate ((Blank.words phrase).map (·.flatMap decompose))

/-- The places of the words in the list; `index` counts the words read. -/
def placesFrom (index : Nat) : List String → Except MnemonicError (List Nat)
  | [] => .ok []
  | word :: rest =>
    match words.idxOf? word with
    | none => .error (.unknownWord index)
    | some place => do
      let places ← placesFrom (index + 1) rest
      .ok (place :: places)

/-- The numbers of words that a phrase can have. -/
def wordCounts : List Nat := [12, 15, 18, 21, 24]

/-- The entropy that a phrase spells, given the places of its words. -/
def entropyOfPlaces (places : List Nat) : Except MnemonicError Bytes :=
  let count := places.length
  if !wordCounts.contains count then .error (.wordCount count)
  else
    let checkBits := count / 3
    let n := Radix.ofDigits 2048 places
    let entropy := Bytes.ofNatBE (count / 3 * 4) (n >>> checkBits)
    let expected := ((sha256 entropy).bytes.headD 0).toNat >>> (8 - checkBits)
    if n % (1 <<< checkBits) = expected then .ok entropy else .error .checksum

/-- Reads a phrase. -/
def ofText (phrase : String) : Except MnemonicError Mnemonic := do
  let normalized := String.ofList (normalize phrase.toList)
  let places ← placesFrom 0 (normalized.splitOn " ")
  let entropy ← entropyOfPlaces places
  .ok ⟨normalized, entropy⟩

/-- The seed of the keys that belong to the phrase. -/
def seed (m : Mnemonic) : Bytes :=
  Hmac.stretch (Utf8.encode m.phrase) (Utf8.encode "mnemonic") 2047

end Mnemonic

end ShardClient
