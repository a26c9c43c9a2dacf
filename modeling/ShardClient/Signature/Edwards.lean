/-
The twisted Edwards curve `-x² + y² = 1 + d x² y²` over the integers modulo `2^255 - 19`.

Points are kept in extended coordinates, where addition needs no division.  The addition law
is complete: it holds for all pairs of points, equal ones and the neutral one included, so
doubling and adding are one function.
-/

namespace ShardClient

namespace Edwards

/-- What the highest of 256 bits stands for. -/
def highBit : Nat := 1 <<< 255

/-- The size of the field. -/
def p : Nat := highBit - 19

/-- The order of the base point. -/
def order : Nat := (1 <<< 252) + 27742317777372353535851937790883648493

/-- `x ^ e`, by repeated squaring; `bits` bounds the length of `e`. -/
def powFrom (acc x : Nat) : (bits e : Nat) → Nat
  | 0, _ => acc
  | bits + 1, e =>
    powFrom (if e % 2 = 1 then acc * x % p else acc) (x * x % p) bits (e / 2)

/-- `x ^ e` in the field, for `e` below the size of the field. -/
def pow (x e : Nat) : Nat := powFrom 1 (x % p) 255 e

/-- The inverse of `x`, zero for zero. -/
def inverse (x : Nat) : Nat := pow x (p - 2)

/-- The difference of two elements. -/
def sub (x y : Nat) : Nat := (x + (p - y % p)) % p

/-- The coefficient of the curve. -/
def d : Nat := sub 0 121665 * inverse 121666 % p

/-- A square root of minus one. -/
def rootOfMinusOne : Nat := pow 2 ((p - 1) / 4)

/-- The even square root of `u / v`, if there is one. -/
def sqrtRatio? (u v : Nat) : Option Nat :=
  let v3 := v * v % p * v % p
  let v7 := v3 * v3 % p * v % p
  let r := u * v3 % p * pow (u * v7 % p) ((p - 5) / 8) % p
  let check := v * (r * r % p) % p
  let u := u % p
  let root :=
    if check = u then some r
    else if check = sub 0 u then some (r * rootOfMinusOne % p)
    else none
  root.map fun r => if r % 2 = 1 then p - r else r

/-- A point: the affine coordinates are `x / z` and `y / z`, and `t` is `x * y / z`. -/
structure Point where
  x : Nat
  y : Nat
  z : Nat
  t : Nat

namespace Point

/-- The neutral point. -/
def zero : Point := ⟨0, 1, 1, 0⟩

/-- The sum of two points. -/
def add (p₁ p₂ : Point) : Point :=
  let a := sub p₁.y p₁.x * sub p₂.y p₂.x % p
  let b := (p₁.y + p₁.x) * (p₂.y + p₂.x) % p
  let c := p₁.t * 2 % p * d % p * p₂.t % p
  let e := p₁.z * 2 * p₂.z % p
  let h := sub b a
  let f := sub e c
  let g := (e + c) % p
  let k := (b + a) % p
  ⟨h * f % p, g * k % p, f * g % p, h * k % p⟩

/-- The opposite point. -/
def neg (q : Point) : Point := ⟨sub 0 q.x, q.y, q.z, sub 0 q.t⟩

/-- Adds `n` times the point `q` to `acc`; `bits` bounds the length of `n`. -/
def addMultiple (acc q : Point) : (bits n : Nat) → Point
  | 0, _ => acc
  | bits + 1, n =>
    if n = 0 then acc
    else addMultiple (if n % 2 = 1 then acc.add q else acc) (q.add q) bits (n / 2)

/-- `n` times a point, for `n` of at most 256 binary digits. -/
def multiple (n : Nat) (q : Point) : Point := addMultiple zero q 256 n

/-- The code of a point: the coordinate `y`, and the parity of `x` in the highest bit. -/
def encode (q : Point) : Nat :=
  let i := inverse q.z
  let x := q.x * i % p
  let y := q.y * i % p
  y + x % 2 * highBit

/-- The point with the given code, if the curve has one.  A coordinate beyond the field is
reduced, and a parity that zero cannot have is ignored. -/
def decode? (code : Nat) : Option Point := do
  let y := code % highBit % p
  let yy := y * y % p
  let root ← sqrtRatio? (sub yy 1) ((yy * d + 1) % p)
  let x := if code / highBit % 2 = 1 then sub 0 root else root
  some ⟨x, y, 1, x * y % p⟩

end Point

/-- The base point: `y` is four fifths. -/
def base : Point :=
  (Point.decode? (4 * inverse 5 % p)).getD Point.zero

end Edwards

end ShardClient
