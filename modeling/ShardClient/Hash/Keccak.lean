/-
Keccak-256: the sponge over 25 lanes of 64 bits, with the padding that precedes the
standardised one.
-/
import ShardClient.Bytes

namespace ShardClient

namespace Keccak

/-- The lanes, row by row: lane `(x, y)` stands at index `x + 5 * y`. -/
abbrev State := Array UInt64

/-- The lane in column `x` and row `y`, both taken modulo five. -/
def lane (s : State) (x y : Nat) : UInt64 := s.getD (x % 5 + 5 * (y % 5)) 0

/-- The state whose lanes are given by column and row. -/
def build (f : Nat → Nat → UInt64) : State :=
  (List.range 25).toArray.map fun i => f (i % 5) (i / 5)

/-- Rotates a lane to the left. -/
def rotate (w : UInt64) (n : Nat) : UInt64 :=
  if n % 64 = 0 then w else (w <<< UInt64.ofNat (n % 64)) ||| (w >>> UInt64.ofNat (64 - n % 64))

/-- Adds to each bit the parities of two columns beside it. -/
def theta (s : State) : State :=
  let column x := lane s x 0 ^^^ lane s x 1 ^^^ lane s x 2 ^^^ lane s x 3 ^^^ lane s x 4
  let columns := (List.range 5).toArray.map column
  let parity x := columns.getD (x % 5) 0
  build fun x y => lane s x y ^^^ (parity (x + 4) ^^^ rotate (parity (x + 1)) 1)

/-- The walk over the lanes other than the first: where each step stands, and by how much its lane
is rotated. -/
def walk : (steps t x y : Nat) → List (Nat × Nat × Nat)
  | 0, _, _, _ => []
  | steps + 1, t, x, y =>
    (x, y, (t + 1) * (t + 2) / 2) :: walk steps (t + 1) y ((2 * x + 3 * y) % 5)

/-- By how much the lane in column `x` and row `y` is rotated. -/
def offset (x y : Nat) : Nat :=
  match (walk 24 0 1 0).find? (fun p => p.1 == x && p.2.1 == y) with
  | some p => p.2.2
  | none => 0

/-- The offsets of all lanes, row by row. -/
def offsets : Array Nat := (List.range 25).toArray.map fun i => offset (i % 5) (i / 5)

/-- Rotates each lane and moves it to its new place. -/
def rhoPi (s : State) : State :=
  build fun x y =>
    let column := x + 3 * y
    rotate (lane s column x) (offsets.getD (column % 5 + 5 * x) 0)

/-- Combines each lane with the two behind it in its row. -/
def chi (s : State) : State :=
  build fun x y => lane s x y ^^^ (~~~lane s (x + 1) y &&& lane s (x + 2) y)

/-- One step of the shift register that yields the round constants. -/
def shift (r : Nat) : Nat :=
  let r := r * 2
  if r ≥ 256 then (r - 256) ^^^ 0x71 else r

/-- The states of the shift register. -/
def registers : (n r : Nat) → List Nat
  | 0, _ => []
  | n + 1, r => r :: registers n (shift r)

/-- The constant of round `i`: bit `2 ^ j - 1` is the lowest bit of state `7 * i + j` of the shift
register. -/
def constant (states : Array Nat) (i : Nat) : UInt64 :=
  UInt64.ofNat ((List.range 7).foldl (fun w j =>
    if states.getD (7 * i + j) 0 % 2 = 1 then w + 1 <<< ((1 <<< j) - 1) else w) 0)

/-- The constants of the 24 rounds. -/
def constants : List UInt64 :=
  let states := (registers 168 1).toArray
  (List.range 24).map (constant states)

/-- One round. -/
def round (s : State) (k : UInt64) : State :=
  let s := chi (rhoPi (theta s))
  s.modify 0 (· ^^^ k)

/-- The permutation. -/
def permute (s : State) : State := constants.foldl round s

/-- The number of bytes that one block stirs into the state. -/
def rate : Nat := 136

/-- The bytes that complete a message of the given length to whole blocks. -/
def padding (length : Nat) : Bytes :=
  match rate - 1 - length % rate with
  | 0 => [0x81]
  | n + 1 => [0x01] ++ List.replicate n 0 ++ [0x80]

/-- Stirs one block into the state. -/
def absorb (s : State) (block : Bytes) : State :=
  let lanes := ((Bytes.blocks 7 block).map fun l => UInt64.ofNat (Bytes.toNatLE l)).toArray
  permute (build fun x y => lane s x y ^^^ lanes.getD (x + 5 * y) 0)

end Keccak

/-- The Keccak-256 hash of a byte string. -/
def keccak256 (bs : Bytes) : FixedBytes 32 :=
  let s := (Bytes.blocks (Keccak.rate - 1) (bs ++ Keccak.padding bs.length)).foldl Keccak.absorb
    (Array.replicate 25 0)
  ⟨(List.range 4).flatMap fun i => Bytes.ofNatLE 8 (s.getD i 0).toNat, by simp [List.range_succ]⟩

end ShardClient
