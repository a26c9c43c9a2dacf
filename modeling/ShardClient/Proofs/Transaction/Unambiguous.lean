/-
The signed text determines the transaction.

A transaction is found again in its text in two steps.  The text is read back as the JSON value
it was printed from, since every numeral and string that is written is well spelt; and one
level of the value is read back as the fields of the transaction.  The transactions inside come
out of the latter as values, so the argument is repeated for them: it is an induction over the
nesting, and holds for any depth.
-/
import ShardClient.Proofs.Transaction.Reading

namespace ShardClient

/-! ### What is written is well spelt -/

namespace Json

theorem wellSpelt_ofText (s : String) : WellSpelt (ofText s) := .string (spelling_spell s)

theorem wellSpelt_ofNat (n : Nat) : WellSpelt (ofNat n) := by
  refine .number (isNumeral_ofNat n) ?_
  intro b hb
  rw [Decimal.encode_text] at hb
  have hdigit : isDigit b = true := isDigit_of_mem (Decimal.digits_lt n) b hb
  simp [isNumeralByte, hdigit]

theorem wellSpelt_ofMembers {members : List (String × Json)} (h : ∀ m ∈ members, WellSpelt m.2) :
    WellSpelt (ofMembers members) := by
  refine .object ?_ ?_
  · intro m hm
    obtain ⟨n, -, rfl⟩ := List.mem_map.1 hm
    exact spelling_spell n.1
  · intro m hm
    obtain ⟨n, hn, rfl⟩ := List.mem_map.1 hm
    exact h n hn

end Json

namespace WireForm

theorem wellSpelt_memberIf {present : Bool} {name : String} {value : Json}
    (h : value.WellSpelt) : ∀ m ∈ memberIf present name value, m.2.WellSpelt := by
  intro m hm
  unfold memberIf at hm
  split at hm
  · obtain rfl := List.mem_singleton.1 hm
    exact h
  · simp at hm

theorem wellSpelt_elim {α : Type} (o : Option α) (name : String) {value : α → Json}
    (h : ∀ a, (value a).WellSpelt) :
    ∀ m ∈ o.elim [] fun a => [(name, value a)], m.2.WellSpelt := by
  intro m hm
  cases o with
  | none => simp at hm
  | some a =>
    obtain rfl := List.mem_singleton.1 hm
    exact h a

theorem wellSpelt_members {w : WireForm} (h : ∀ v ∈ w.inner, v.WellSpelt) :
    ∀ m ∈ w.members, m.2.WellSpelt := by
  have numbers := Json.wellSpelt_ofNat
  have texts := Json.wellSpelt_ofText
  simp only [members, Body.members, List.forall_mem_append, List.forall_mem_cons]
  refine ⟨⟨⟨⟨⟨⟨?_, ?_⟩, ?_⟩, ?_⟩, ?_⟩, ?_⟩, ?_⟩
  · exact ⟨numbers _, texts _, texts _, texts _, numbers _, numbers _, by simp⟩
  · exact wellSpelt_memberIf (texts _)
  · exact ⟨texts _, numbers _, by simp⟩
  · exact wellSpelt_memberIf (numbers _)
  · exact wellSpelt_elim _ _ fun a => texts _
  · exact wellSpelt_memberIf (.array h)
  · exact wellSpelt_elim _ _ fun s => texts _

end WireForm

/-! ### Transactions -/

/-- What a signed transaction says of itself. -/
def Signed.form (t : Signed) : WireForm := ⟨t.nonce, t.body, jsonList t.inner, some t.signature⟩

/-- What a numbered transaction says of itself. -/
def Numbered.form (t : Numbered) : WireForm :=
  ⟨t.nonce, t.draft.toBody, Signed.jsonList t.draft.inner, none⟩

theorem Signed.json_eq (t : Signed) : t.json = .ofMembers t.form.members := by
  obtain ⟨nonce, body, inner, signature⟩ := t
  rw [Signed.json]
  rfl

theorem Numbered.json_eq (t : Numbered) : t.json = .ofMembers t.form.members := by
  rw [Numbered.json, WireForm.members]
  exact congrArg Json.ofMembers (List.append_nil _).symm

namespace Signed

mutual

theorem wellSpelt_json : (t : Signed) → t.json.WellSpelt
  | ⟨nonce, body, inner, signature⟩ => by
    rw [json_eq]
    exact Json.wellSpelt_ofMembers (WireForm.wellSpelt_members (wellSpelt_jsonList inner))

theorem wellSpelt_jsonList : (ts : List Signed) → ∀ v ∈ jsonList ts, v.WellSpelt
  | [] => by simp [jsonList]
  | t :: ts => by
    rw [jsonList, List.forall_mem_cons]
    exact ⟨wellSpelt_json t, wellSpelt_jsonList ts⟩

end

/-- The text that is sent is read back as what the transaction says of itself. -/
theorem form_of_wire (t : Signed) : (Json.parse? t.wire).bind WireForm.ofJson? = some t.form := by
  rw [wire, Json.parse?_print t.wellSpelt_json, Option.bind_some, json_eq,
    WireForm.ofJson?_members]

mutual

theorem json_inj : (t u : Signed) → t.json = u.json → t = u
  | ⟨nonce, body, inner, signature⟩, u => by
    intro h
    have hform := congrArg WireForm.ofJson? h
    rw [json_eq, json_eq, WireForm.ofJson?_members, WireForm.ofJson?_members,
      Option.some.injEq] at hform
    obtain ⟨hnonce, hbody, hinner, hsignature⟩ := WireForm.mk.inj hform
    have hlist : inner = u.inner := jsonList_inj inner u.inner hinner
    obtain ⟨nonce', body', inner', signature'⟩ := u
    cases hnonce
    cases hbody
    cases hsignature
    cases hlist
    rfl

theorem jsonList_inj : (ts us : List Signed) → jsonList ts = jsonList us → ts = us
  | [], [] => fun _ => rfl
  | [], u :: us => by simp [jsonList]
  | t :: ts, [] => by simp [jsonList]
  | t :: ts, u :: us => by
    intro h
    rw [jsonList, jsonList, List.cons.injEq] at h
    rw [json_inj t u h.1, jsonList_inj ts us h.2]

end

theorem eq_of_form {t u : Signed} (h : t.form = u.form) : t = u := by
  refine json_inj t u ?_
  rw [json_eq, json_eq, h]

end Signed

namespace Numbered

theorem wellSpelt_json (t : Numbered) : t.json.WellSpelt := by
  rw [json_eq]
  exact Json.wellSpelt_ofMembers
    (WireForm.wellSpelt_members (Signed.wellSpelt_jsonList t.draft.inner))

/-- The text that is signed is read back as what the transaction says of itself. -/
theorem form_of_signingBytes (t : Numbered) :
    (Json.parse? t.signingBytes).bind WireForm.ofJson? = some t.form := by
  rw [signingBytes, Json.parse?_print t.wellSpelt_json, Option.bind_some, json_eq,
    WireForm.ofJson?_members]

theorem eq_of_form {t u : Numbered} (h : t.form = u.form) : t = u := by
  obtain ⟨hnonce, hbody, hinner, -⟩ := WireForm.mk.inj h
  have hlist := Signed.jsonList_inj _ _ hinner
  obtain ⟨nonce, body, inner⟩ := t
  obtain ⟨nonce', body', inner'⟩ := u
  cases hnonce
  cases hbody
  cases hlist
  rfl

theorem eq_of_signingBytes {t u : Numbered} (h : t.signingBytes = u.signingBytes) : t = u := by
  have hform : some t.form = some u.form := by
    rw [← t.form_of_signingBytes, ← u.form_of_signingBytes, h]
  exact eq_of_form (Option.some.inj hform)

end Numbered

/-- **Texts are unambiguous.**  The text that is signed determines the nonce and every field of
the draft, with the transactions inside it and their signatures; the text that is sent
determines the signature besides. -/
theorem texts_unambiguous :
    (∀ t u : Numbered, t.signingBytes = u.signingBytes ↔ t.nonce = u.nonce ∧ t.draft = u.draft) ∧
      ∀ t u : Signed, t.wire = u.wire ↔ t.unsigned = u.unsigned ∧ t.signature = u.signature := by
  refine ⟨fun t u => ⟨fun h => ?_, ?_⟩, fun t u => ⟨fun h => ?_, ?_⟩⟩
  · have hform : some t.form = some u.form := by
      rw [← t.form_of_signingBytes, ← u.form_of_signingBytes, h]
    obtain rfl := Numbered.eq_of_form (Option.some.inj hform)
    exact ⟨rfl, rfl⟩
  · obtain ⟨nonce, draft⟩ := t
    rintro ⟨rfl, rfl⟩
    rfl
  · have hform : some t.form = some u.form := by rw [← t.form_of_wire, ← u.form_of_wire, h]
    obtain rfl := Signed.eq_of_form (Option.some.inj hform)
    exact ⟨rfl, rfl⟩
  · obtain ⟨nonce, body, inner, signature⟩ := t
    obtain ⟨nonce', body', inner', signature'⟩ := u
    rintro ⟨hunsigned, hsignature⟩
    cases hunsigned
    cases hsignature
    rfl

end ShardClient
