/-
What is sent is what was signed.

The signature is the last member of the form that is sent, and the only one that the form that is
signed lacks.  The two texts are therefore the same up to the last brace, and behind it stands a
piece of fixed length.  So the signed text and the signature can be cut out of the text that is
sent, without a look at what is inside, and an envelope of version one, whose payload spells that
text, hands both to whoever receives it.
-/
import ShardClient.Proofs.Transaction.Carried

namespace ShardClient

namespace Json

/-! ### The last member of an object -/

theorem printMoreMembers_concat (members : List (Bytes × Json)) (key : Bytes) (value : Json) :
    printMoreMembers (members ++ [(key, value)])
      = printMoreMembers members ++ ([0x2c] ++ quote key ++ [0x3a] ++ print value) := by
  induction members with
  | nil => simp [printMoreMembers]
  | cons m members ih =>
    obtain ⟨k, v⟩ := m
    rw [List.cons_append, printMoreMembers, printMoreMembers, ih]
    simp only [List.append_assoc]

/-- A last member is printed behind all others, after a comma. -/
theorem printMembers_concat {members : List (Bytes × Json)} (h : members ≠ []) (key : Bytes)
    (value : Json) : printMembers (members ++ [(key, value)])
      = printMembers members ++ ([0x2c] ++ quote key ++ [0x3a] ++ print value) := by
  obtain ⟨m, rest, rfl⟩ := List.exists_cons_of_ne_nil h
  obtain ⟨k, v⟩ := m
  rw [List.cons_append, printMembers, printMembers, printMoreMembers_concat]
  simp only [List.append_assoc]

/-- No digit is escaped. -/
theorem spell_hex (bs : Bytes) : spell (Hex.encode bs) = Utf8.encode (Hex.encode bs) := by
  have hall : ∀ d : Fin 16, escape (Hex.digitByte d.val) = [Hex.digitByte d.val] := by decide
  have hplain : ∀ b ∈ Utf8.encode (Hex.encode bs), escape b = [b] := by
    intro b hb
    obtain ⟨d, rfl⟩ := Hex.exists_digit_of_mem hb
    exact hall d
  unfold spell
  generalize Utf8.encode (Hex.encode bs) = text at hplain
  induction text with
  | nil => rfl
  | cons b text ih =>
    rw [List.flatMap_cons, hplain b List.mem_cons_self,
      ih fun c hc => hplain c (List.mem_cons_of_mem _ hc)]
    rfl

end Json

/-! ### The two texts -/

/-- What stands before the digits of the signature in a text that is sent. -/
def Signature.lead : Bytes := Utf8.encode ",\"signature\":\""

/-- What stands behind them. -/
def Signature.close : Bytes := Utf8.encode "\"\x7d"

/-- The number of the digits. -/
def Signature.digits : Nat := 128

theorem Signature.length_hex (s : Signature) : (Utf8.encode s.hex).length = digits := by
  rw [hex, Hex.length_encode_bytes, s.length_eq]
  rfl

/-- The text that is signed ends with a brace; in the text that is sent the signature stands in
its place, and the brace behind that. -/
theorem Signed.sealed (t : Signed) : ∃ fields,
    t.unsigned.signingBytes = fields ++ [0x7d] ∧
      t.wire = fields ++ (Signature.lead ++ Utf8.encode t.signature.hex ++ Signature.close) := by
  obtain ⟨nonce, body, inner, signature⟩ := t
  let members := (body.members nonce (jsonList inner)).map fun m => (Json.spell m.1, m.2)
  have hne : members ≠ [] := by simp [members, Body.members]
  have hkey : Json.spell "signature" = Utf8.encode "signature" := by decide
  have hlead : Signature.lead = [0x2c] ++ Json.quote (Utf8.encode "signature") ++ [0x3a, 0x22] := by
    decide
  have hclose : Signature.close = [0x22, 0x7d] := by decide
  have hlast : Json.print (.ofText signature.hex) = Json.quote (Utf8.encode signature.hex) := by
    rw [Json.ofText, Json.print, Signature.hex, Json.spell_hex]
  refine ⟨[0x7b] ++ Json.printMembers members, rfl, ?_⟩
  show Json.print (json ⟨nonce, body, inner, signature⟩) = _
  rw [json, Json.ofMembers, List.map_append, Json.print]
  show [0x7b] ++ Json.printMembers (members ++ [(Json.spell "signature", .ofText signature.hex)])
    ++ [0x7d] = _
  rw [Json.printMembers_concat hne, hkey, hlast, hlead, hclose]
  simp only [Json.quote, List.append_assoc, List.cons_append, List.nil_append]

/-! ### Taking the texts apart -/

/-- A signed text, with the signature. -/
structure Testimony where
  text : Bytes
  signature : Signature
  deriving DecidableEq

namespace Testimony

/-- The signature with the given bytes. -/
def signature? (bytes : Bytes) : Option Signature :=
  if h : bytes.length = 64 then some ⟨⟨bytes, h⟩⟩ else none

theorem signature?_bytes (s : Signature) : signature? s.bytes = some s := dif_pos s.length_eq

/-- Cuts the signature out of a text that is sent, by the lengths of what is around it. -/
def ofWire? (wire : Bytes) : Option Testimony := do
  let place := wire.length - (Signature.lead.length + Signature.digits + Signature.close.length)
  let digits := ((wire.drop place).drop Signature.lead.length).take Signature.digits
  let bytes ← (Hex.decode digits).toOption
  let signature ← signature? bytes
  some ⟨wire.take place ++ [0x7d], signature⟩

/-- Takes them out of the payload of an envelope of version one. -/
def ofPayload? (data : Bytes) : Option Testimony :=
  match Payload.parts data with
  | [head, argument] =>
    if head = Utf8.encode "relayedTx" then (Hex.decode argument).toOption.bind ofWire? else none
  | _ => none

/-- What was signed is found in the text that is sent. -/
theorem ofWire?_wire (t : Signed) :
    ofWire? t.wire = some ⟨t.unsigned.signingBytes, t.signature⟩ := by
  obtain ⟨fields, hsigned, hsent⟩ := t.sealed
  have hplace : t.wire.length
      - (Signature.lead.length + Signature.digits + Signature.close.length) = fields.length := by
    rw [hsent, ← t.signature.length_hex]
    simp only [List.length_append]
    omega
  have hdigits : ((t.wire.drop fields.length).drop Signature.lead.length).take Signature.digits
      = Utf8.encode t.signature.hex := by
    rw [hsent, List.drop_left, List.append_assoc, List.drop_left, ← t.signature.length_hex,
      List.take_left]
  unfold ofWire?
  simp only [hplace, hdigits, Signature.hex, Hex.decode_encode, Except.toOption,
    Option.bind_eq_bind, Option.bind_some, signature?_bytes]
  rw [hsigned, hsent, List.take_left]

theorem ofPayload?_relayedV1 (t : Signed) :
    ofPayload? (Payload.join "relayedTx" [Hex.encode t.wire])
      = some ⟨t.unsigned.signingBytes, t.signature⟩ := by
  rw [ofPayload?, Payload.parts_whole]
  show (if Utf8.encode "relayedTx" = Utf8.encode "relayedTx" then _ else none) = _
  rw [if_pos rfl, Hex.decode_encode, Except.toOption, Option.bind_some, ofWire?_wire]

end Testimony

/-- **What is sent is what was signed.**  The text that is sent is the text that was signed with the
signature put in before the last brace, spelt in 128 digits.  An envelope of version one goes
from the relayer to the sender inside, moves nothing, and spells that text in its payload; the
signed text and the signature are found again in the payload alone. -/
theorem sent_as_signed :
    (∀ t : Signed, ∃ fields,
      t.unsigned.signingBytes = fields ++ Utf8.encode "\x7d" ∧
      t.wire = fields ++ Utf8.encode (",\"signature\":\"" ++ t.signature.hex ++ "\"\x7d") ∧
      (Utf8.encode t.signature.hex).length = 128 ∧
      Hex.decode (Utf8.encode t.signature.hex) = .ok t.signature.bytes) ∧
    ∀ (fees : FeeSchedule) (t : Signed) (relayer : Address),
      (Draft.relayedV1 fees t relayer).sender = relayer ∧
      (Draft.relayedV1 fees t relayer).receiver = t.sender ∧
      (Draft.relayedV1 fees t relayer).value = 0 ∧
      (∃ digits, (Draft.relayedV1 fees t relayer).data = Utf8.encode ("relayedTx@" ++ digits) ∧
        Hex.decode (Utf8.encode digits) = .ok t.wire) ∧
      Testimony.ofPayload? (Draft.relayedV1 fees t relayer).data
        = some ⟨t.unsigned.signingBytes, t.signature⟩ := by
  refine ⟨fun t => ?_, fun fees t relayer => ⟨rfl, rfl, rfl, ?_, ?_⟩⟩
  · obtain ⟨fields, hsigned, hsent⟩ := t.sealed
    have hbrace : Utf8.encode "\x7d" = [0x7d] := by decide
    refine ⟨fields, ?_, ?_, t.signature.length_hex, Hex.decode_encode _⟩
    · rw [hsigned, hbrace]
    · rw [hsent, Utf8.encode_append, Utf8.encode_append]
      rfl
  · refine ⟨Hex.encode t.wire, ?_, Hex.decode_encode _⟩
    rfl
  · exact Testimony.ofPayload?_relayedV1 t

end ShardClient
