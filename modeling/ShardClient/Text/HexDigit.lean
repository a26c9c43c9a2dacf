/-
The digits of hexadecimal numerals.
-/
import ShardClient.Radix

namespace ShardClient

namespace HexDigit

/-- The digit with the given value, in lower case. -/
def lower (d : Nat) : Char := if d < 10 then Char.ofNat (48 + d) else Char.ofNat (87 + d)

/-- The digit with the given value, in upper case. -/
def upper (d : Nat) : Char := if d < 10 then Char.ofNat (48 + d) else Char.ofNat (55 + d)

/-- The value of a digit of either case. -/
def value? (c : Char) : Option Nat :=
  let n := c.toNat
  if 48 ≤ n ∧ n ≤ 57 then some (n - 48)
  else if 97 ≤ n ∧ n ≤ 102 then some (n - 87)
  else if 65 ≤ n ∧ n ≤ 70 then some (n - 55)
  else none

/-- The shortest numeral for a number, in lower case. -/
def numeral (n : Nat) : List Char :=
  if n = 0 then ['0'] else (Radix.digits 16 n).map lower

/-- The number that a numeral stands for.  Characters that are no digits do not count. -/
def number (cs : List Char) : Nat := Radix.ofDigits 16 (cs.filterMap value?)

end HexDigit

end ShardClient
