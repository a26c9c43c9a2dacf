/-
An address has one text, and only that text is read as it.

The text of an address spells its 32 bytes, a text that spells 32 bytes is read, and what is read
is spelt by the text and so written as that text again.  The JSON form is the text between quotes:
base58 has no character that a string would have to escape, but nothing here depends on that,
since any text survives being spelt and read.
-/
import ShardClient.Proofs.Codec.Base58
import ShardClient.Proofs.Json.RoundTrip

namespace ShardClient

/-- A text is read out of the compact form of its JSON string. -/
theorem Json.text?_parse?_print (s : String) :
    ((Json.parse? (Json.ofText s).print).bind Json.text?) = some s := by
  have hspelt : Json.WellSpelt (Json.ofText s) := .string (Json.spelling_spell s)
  rw [Json.parse?_print hspelt, Option.bind_some, Json.text?_ofText]

namespace Address

/-- A text is read as some address just when it spells 32 bytes. -/
theorem exists_ofText_iff {s : String} :
    (∃ a, ofText s = .ok a) ↔ ∃ bs : Bytes, bs.length = 32 ∧ Base58.Spells s bs := by
  constructor
  · rintro ⟨a, h⟩
    exact ⟨a.bytes, a.length_eq, ofText_eq_ok_iff.1 h⟩
  · rintro ⟨bs, hlength, h⟩
    exact ⟨⟨⟨bs, hlength⟩⟩, ofText_eq_ok_iff.2 h⟩

/-- What is read as an address is the text of the address. -/
theorem text_of_ofText {s : String} {a : Address} (h : ofText s = .ok a) : a.text = s :=
  (ofText_eq_ok_iff.1 h).encode_eq

/-- **Addresses and their texts correspond.**  Every address is read back from its text and from
its JSON form.  A text is read just when its characters are of the alphabet and it spells 32
bytes, the address is then written as the same text, and so no two texts are read as one
address. -/
theorem text_bijective :
    (∀ a : Address, ofText a.text = .ok a) ∧
    (∀ a : Address,
      ((Json.parse? (Json.ofText a.text).print).bind Json.text?).map ofText = some (.ok a)) ∧
    (∀ s : String, (∃ a, ofText s = .ok a) ↔
      (∀ c ∈ s.toList, c ∈ Base58.alphabet) ∧
        ∃ bs : Bytes, bs.length = 32 ∧ Base58.Spells s bs) ∧
    (∀ (s : String) (a : Address), ofText s = .ok a → a.text = s) ∧
    ∀ (s t : String) (a : Address), ofText s = .ok a → ofText t = .ok a → s = t := by
  refine ⟨ofText_text, fun a => ?_, fun s => ?_, fun s a => text_of_ofText, fun s t a hs ht => ?_⟩
  · rw [Json.text?_parse?_print, Option.map_some, ofText_text]
  · rw [exists_ofText_iff]
    constructor
    · rintro ⟨bs, hlength, h⟩
      exact ⟨h.digits, bs, hlength, h⟩
    · exact fun h => h.2
  · rw [← text_of_ofText hs, text_of_ofText ht]

end Address

end ShardClient
