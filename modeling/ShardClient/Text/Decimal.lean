/-
Decimal numerals.

Numbers are written with the fewest digits.  Reading is more liberal than writing: a plus
sign and leading zeros are accepted, so that `007` and `+7` both read as seven.  What reading
refuses it tells apart: no digits at all, a character that is no digit, a number beyond the
range asked for.
-/
import ShardClient.Radix

namespace ShardClient

namespace Decimal

/-- The character of a digit. -/
def digitChar (d : Nat) : Char := Char.ofNat (48 + d)

/-- A number in decimal. -/
def chars (n : Nat) : List Char :=
  if n = 0 then ['0'] else (Radix.digits 10 n).map digitChar

/-- A number in decimal, as a text. -/
def text (n : Nat) : String := String.ofList (chars n)

/-- Why a text is no numeral. -/
inductive ReadError where
  | empty
  | badDigit
  | tooLarge
  deriving DecidableEq, Repr

/-- The wording of a refusal. -/
def ReadError.message : ReadError → String
  | .empty => "cannot parse integer from empty string"
  | .badDigit => "invalid digit found in string"
  | .tooLarge => "number too large to fit in target type"

/-- The value of a digit character. -/
def digitValue? (c : Char) : Option Nat :=
  if '0' ≤ c ∧ c ≤ '9' then some (c.toNat - 48) else none

/-- Reads digits behind the value `n`; the first offending character decides which error it is:
one that is no digit, or one that takes the number to `limit` or beyond. -/
def readFrom (limit : Nat) (n : Nat) : List Char → Except ReadError Nat
  | [] => .ok n
  | c :: cs =>
    match digitValue? c with
    | none => .error .badDigit
    | some d =>
      let m := n * 10 + d
      if m < limit then readFrom limit m cs else .error .tooLarge

/-- Reads a numeral for a number below `limit`. -/
def read (limit : Nat) : List Char → Except ReadError Nat
  | [] => .error .empty
  | ['+'] => .error .badDigit
  | '+' :: cs => readFrom limit 0 cs
  | cs => readFrom limit 0 cs

/-- Reads a text as a number below `limit`. -/
def ofText (limit : Nat) (s : String) : Except ReadError Nat := read limit s.toList

end Decimal

end ShardClient
