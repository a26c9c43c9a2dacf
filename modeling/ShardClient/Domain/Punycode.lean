/-
Punycode: labels in all scripts written with the letters a to z, digits and hyphens.

The ASCII characters of a label come first, then a hyphen, then the others, each as a number:
how far the place where it is to be inserted lies behind the place of the one before, when
all code points and all places are counted through.  A number is written with digits of
changing range, the lowest first; a digit below the threshold of its position ends it.  The
thresholds follow the size of the numbers written so far.
-/
import ShardClient.Text.Decimal

namespace ShardClient

namespace Punycode

/-- The digit with the given value: the letters, then the decimal digits. -/
def digitChar (d : Nat) : Char :=
  if d < 26 then Char.ofNat (97 + d) else Char.ofNat (22 + d)

/-- The value of a digit. -/
def digitValue? (c : Char) : Option Nat :=
  if 'a' ≤ c ∧ c ≤ 'z' then some (c.toNat - 97)
  else if '0' ≤ c ∧ c ≤ '9' then some (c.toNat - 22)
  else none

/-- The threshold of a position, which is a multiple of 36. -/
def threshold (bias position : Nat) : Nat := max 1 (min 26 (position - bias))

theorem threshold_pos (bias position : Nat) : 1 ≤ threshold bias position := by
  unfold threshold; omega

/-- Divides by 35 until the value is small, counting 36 for each time. -/
def shrink (count delta : Nat) : Nat × Nat :=
  if 455 < delta then shrink (count + 36) (delta / 35) else (count, delta)
termination_by delta
decreasing_by omega

/-- The bias behind a number, given how many characters the label has by then. -/
def nextBias (delta characters : Nat) (first : Bool) : Nat :=
  let halved := if first then delta / 700 else delta / 2
  let small := shrink 0 (halved + halved / characters)
  small.1 + 36 * small.2 / (small.2 + 38)

/-! ### Writing -/

/-- The digits of a number. -/
def digits (bias position n : Nat) : List Char :=
  let t := threshold bias position
  if n < t then [digitChar n]
  else digitChar (t + (n - t) % (36 - t)) :: digits bias (position + 36) ((n - t) / (36 - t))
termination_by n
decreasing_by
  have := threshold_pos bias position
  have := Nat.div_le_self (n - threshold bias position) (36 - threshold bias position)
  omega

/-- What is known while a label is written: the digits so far, the distance from the last
inserted character, the bias, and the number of characters inserted. -/
structure Writer where
  out : List Char
  delta : Nat
  bias : Nat
  inserted : Nat

/-- Goes past one character of the label while those with the code point `n` are written. -/
def Writer.pass (basic n : Nat) (w : Writer) (c : Char) : Writer :=
  if c.toNat < n then { w with delta := w.delta + 1 }
  else if c.toNat = n then
    ⟨w.out ++ digits w.bias 36 w.delta, 0, nextBias w.delta (w.inserted + 1) (w.inserted == basic),
      w.inserted + 1⟩
  else w

/-- Writes the characters with the given code points, which ascend; `next` is the first code
point that has not been gone past. -/
def writeFrom (label : List Char) (basic next : Nat) (w : Writer) : List Nat → List Char
  | [] => w.out
  | n :: rest =>
    let arrived := { w with delta := w.delta + (n - next) * (w.inserted + 1) }
    let passed := label.foldl (Writer.pass basic n) arrived
    writeFrom label basic (n + 1) { passed with delta := passed.delta + 1 } rest

/-- A label in ASCII. -/
def encode (label : List Char) : List Char :=
  let basic := label.filter (·.toNat < 0x80)
  let others := (label.filter (0x80 ≤ ·.toNat)).map Char.toNat
  let ascending := others.mergeSort.eraseDups
  basic ++ (if basic.isEmpty then [] else ['-']) ++
    writeFrom label basic.length 0x80 ⟨[], 0, 72, basic.length⟩ ascending

/-! ### Reading -/

/-- What is known while a label is read: the characters so far, where the next one is counted
from, the bias, and the number that is being read with its next position and weight. -/
structure Reader where
  out : List Char
  codePoint : Nat
  place : Nat
  bias : Nat
  position : Nat
  weight : Nat
  delta : Nat

/-- The reader before the first number. -/
def Reader.start (basic : List Char) : Reader := ⟨basic, 0x80, 0, 72, 36, 1, 0⟩

/-- Inserts the character that the number stands for, `none` if it is none. -/
def Reader.insert? (r : Reader) (first : Bool) : Option Reader :=
  let count := r.out.length + 1
  let counted := r.place + r.delta
  let codePoint := r.codePoint + counted / count
  let place := counted % count
  if codePoint.isValidChar then
    some ⟨r.out.insertIdx place (Char.ofNat codePoint), codePoint, place + 1,
      nextBias r.delta count first, 36, 1, 0⟩
  else none

/-- Reads digits; `first` tells that no number has been read yet.  The text must not end inside a
number. -/
def readFrom (first : Bool) (r : Reader) : List Char → Option (List Char)
  | [] => if r.position = 36 then some r.out else none
  | c :: cs =>
    match digitValue? c with
    | none => none
    | some d =>
      let t := threshold r.bias r.position
      let r := { r with delta := r.delta + d * r.weight }
      if d < t then
        match r.insert? first with
        | none => none
        | some r => readFrom false r cs
      else readFrom first { r with weight := r.weight * (36 - t), position := r.position + 36 } cs

/-- The label that is written in ASCII, `none` if there is none.  What stands before the last
hyphen are its ASCII characters; a hyphen with nothing before it is no digit. -/
def decode? (cs : List Char) : Option (List Char) :=
  let digits := (cs.reverse.takeWhile (· != '-')).reverse
  let basic := cs.take (cs.length - digits.length - 1)
  if digits.length = cs.length then readFrom true (.start []) cs
  else if basic.isEmpty then none
  else readFrom true (.start basic) digits

end Punycode

end ShardClient
