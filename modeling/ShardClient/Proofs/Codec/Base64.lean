/-
Base64 loses nothing.

Reading takes groups of four characters and treats the last group apart, since only it may be
padded; writing takes groups of three bytes.  So the recursion is that of writing, and a full
group at the end is a case of its own.
-/
import ShardClient.Codec.Base64

namespace ShardClient

namespace Base64

theorem digitValue?_digitChar {d : Nat} (h : d < 64) : digitValue? (digitChar d) = some d := by
  have hall : ∀ d : Fin 64, digitValue? (digitChar d.val) = some d.val := by decide
  exact hall ⟨d, h⟩

theorem digitChar_ne_pad {d : Nat} (h : d < 64) : digitChar d ≠ '=' := by
  have hall : ∀ d : Fin 64, digitChar d.val ≠ '=' := by decide
  exact hall ⟨d, h⟩

/-- The digits of three bytes. -/
structure Group (a b c : UInt8) (w x y z : Nat) : Prop where
  w_lt : w < 64
  x_lt : x < 64
  y_lt : y < 64
  z_lt : z < 64
  value : ((w * 64 + x) * 64 + y) * 64 + z = (a.toNat * 256 + b.toNat) * 256 + c.toNat

theorem group_digits (a b c : UInt8) :
    let n := (a.toNat * 256 + b.toNat) * 256 + c.toNat
    Group a b c (n / 262144) (n / 4096 % 64) (n / 64 % 64) (n % 64) := by
  have ha := a.toNat_lt
  have hb := b.toNat_lt
  have hc := c.toNat_lt
  constructor <;> omega

theorem ofNat_eq {b : UInt8} {n : Nat} (h : n = b.toNat) : UInt8.ofNat n = b := by
  rw [h, UInt8.ofNat_toNat]

theorem decodeLast?_group {a b c : UInt8} {w x y z : Nat} (g : Group a b c w x y z) :
    decodeLast? (digitChar w) (digitChar x) (digitChar y) (digitChar z) = some [a, b, c] := by
  obtain ⟨hw, hx, hy, hz, hv⟩ := g
  have ha := a.toNat_lt
  have hb := b.toNat_lt
  have hc := c.toNat_lt
  have h1 : UInt8.ofNat ((w * 1024 + x * 16 + y / 4) / 256) = a := ofNat_eq (by omega)
  have h2 : UInt8.ofNat ((w * 1024 + x * 16 + y / 4) % 256) = b := ofNat_eq (by omega)
  have h3 : UInt8.ofNat (y % 4 * 64 + z) = c := ofNat_eq (by omega)
  simp only [decodeLast?, digitValue?_digitChar hw, digitValue?_digitChar hx,
    digitValue?_digitChar hy, digitValue?_digitChar hz, Option.bind_eq_bind, Option.bind_some,
    if_neg (digitChar_ne_pad hy), if_neg (digitChar_ne_pad hz), h1, h2, h3]

theorem decodeChars?_group {a b c : UInt8} {w x y z : Nat} (g : Group a b c w x y z)
    {rest : List Char} (hrest : rest ≠ []) :
    decodeChars? (digitChar w :: digitChar x :: digitChar y :: digitChar z :: rest)
      = (decodeChars? rest).map fun bytes => a :: b :: c :: bytes := by
  obtain ⟨hw, hx, hy, hz, hv⟩ := g
  have ha := a.toNat_lt
  have hb := b.toNat_lt
  have hc := c.toNat_lt
  have h1 : UInt8.ofNat ((((w * 64 + x) * 64 + y) * 64 + z) / 65536) = a := ofNat_eq (by omega)
  have h2 : UInt8.ofNat ((((w * 64 + x) * 64 + y) * 64 + z) / 256 % 256) = b :=
    ofNat_eq (by omega)
  have h3 : UInt8.ofNat ((((w * 64 + x) * 64 + y) * 64 + z) % 256) = c := ofNat_eq (by omega)
  obtain ⟨e, es, rfl⟩ := List.exists_cons_of_ne_nil hrest
  rw [decodeChars?]
  · simp only [digitValue?_digitChar hw, digitValue?_digitChar hx, digitValue?_digitChar hy,
      digitValue?_digitChar hz, Option.bind_eq_bind, Option.bind_some, h1, h2, h3]
    cases decodeChars? (e :: es) <;> rfl
  · simp

theorem chars_ne_nil {bs : Bytes} (h : bs ≠ []) : chars bs ≠ [] := by
  match bs, h with
  | [_], _ => simp [chars]
  | [_, _], _ => simp [chars]
  | _ :: _ :: _ :: _, _ => simp [chars]

/-- **Reading the text of a byte string gives it back.** -/
theorem decodeChars?_chars : ∀ bs : Bytes, decodeChars? (chars bs) = some bs
  | [] => rfl
  | [a] => by
    have ha := a.toNat_lt
    have h1 : UInt8.ofNat (a.toNat * 16 / 64 * 4 + a.toNat * 16 % 64 / 16) = a :=
      ofNat_eq (by omega)
    simp only [chars, decodeChars?, decodeLast?,
      digitValue?_digitChar (show a.toNat * 16 / 64 < 64 by omega),
      digitValue?_digitChar (show a.toNat * 16 % 64 < 64 by omega), Option.bind_eq_bind,
      Option.bind_some, if_true,
      if_pos (show True ∧ a.toNat * 16 % 64 % 16 = 0 from ⟨trivial, by omega⟩), h1]
  | [a, b] => by
    have ha := a.toNat_lt
    have hb := b.toNat_lt
    generalize hn : (a.toNat * 256 + b.toNat) * 4 = n
    have h1 : UInt8.ofNat ((n / 4096 * 1024 + n / 64 % 64 * 16 + n % 64 / 4) / 256) = a :=
      ofNat_eq (by omega)
    have h2 : UInt8.ofNat ((n / 4096 * 1024 + n / 64 % 64 * 16 + n % 64 / 4) % 256) = b :=
      ofNat_eq (by omega)
    simp only [chars, decodeChars?, decodeLast?, hn,
      digitValue?_digitChar (show n / 4096 < 64 by omega),
      digitValue?_digitChar (show n / 64 % 64 < 64 by omega),
      digitValue?_digitChar (show n % 64 < 64 by omega), Option.bind_eq_bind,
      Option.bind_some, if_neg (digitChar_ne_pad (show n % 64 < 64 by omega)), if_true,
      if_pos (show n % 64 % 4 = 0 by omega), h1, h2]
  | a :: b :: c :: rest => by
    have g := group_digits a b c
    rw [chars]
    cases rest with
    | nil =>
      rw [chars, decodeChars?]
      exact decodeLast?_group g
    | cons d rest =>
      rw [decodeChars?_group g (chars_ne_nil (by simp)), decodeChars?_chars (d :: rest)]
      rfl

theorem decode?_encode (bs : Bytes) : decode? (encode bs) = some bs := by
  rw [decode?, encode, String.toList_ofList]
  exact decodeChars?_chars bs

end Base64

end ShardClient
