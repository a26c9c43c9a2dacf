/-
The places of a batch, as a reply names them.

A reply to a batch is a map from texts to hashes.  A text is meant as the place of a transaction,
but several texts can name one place, and others name none.  The hashes are put in their places
in the order of the texts, so the last text that names a place decides about it, and a text that
names none leaves everything as it is.
-/
import ShardClient.Gateway.Reply
import ShardClient.Proofs.Codec.ByteOrder
import ShardClient.Proofs.Codec.Decimal
import ShardClient.Proofs.Json.Map

namespace ShardClient

namespace Reply

/-! ### Names -/

/-- A key names a place if it spells the number of it, which has to fit a machine word. -/
def Names (key : String) (place : Nat) : Prop := Decimal.Spells key place ∧ place < UInt64.size

theorem place?_eq_some {count place : Nat} {key : String} :
    place? count key = some place ↔ Names key place ∧ place < count := by
  unfold place? Names
  rw [← Decimal.ofText_eq_ok]
  cases Decimal.ofText UInt64.size key with
  | error e => simp
  | ok found =>
    simp only [Except.ok.injEq]
    by_cases hfound : found < count
    · rw [if_pos hfound, Option.some.injEq]
      exact ⟨fun h => ⟨h, h ▸ hfound⟩, And.left⟩
    · rw [if_neg hfound]
      constructor
      · intro h
        simp at h
      · rintro ⟨rfl, hlt⟩
        exact absurd hlt hfound

/-- Some key of the entries names the place. -/
def Named (entries : List (String × String)) (place : Nat) : Prop :=
  ∃ key hash, Names key place ∧ Json.under entries key = some hash

/-- The hash is under the greatest key that names the place, in the order of bytes. -/
def Chosen (entries : List (String × String)) (place : Nat) (hash : String) : Prop :=
  ∃ key, Names key place ∧ Json.under entries key = some hash ∧
    ∀ other found, Names other place → Json.under entries other = some found →
      Utf8.encode other ≤ Utf8.encode key

theorem Chosen.named {entries : List (String × String)} {place : Nat} {hash : String}
    (h : Chosen entries place hash) : Named entries place := by
  obtain ⟨key, hnames, hunder, -⟩ := h
  exact ⟨key, hash, hnames, hunder⟩

/-! ### Slots -/

/-- A place that is named is found. -/
theorem Named.found {count place : Nat} (hplace : place < count)
    {entries : List (String × String)} (h : Named entries place) :
    ∃ e, ((Json.sorted entries).reverse.find? fun h => place? count h.1 = some place) = some e := by
  obtain ⟨key, hash, hnames, hunder⟩ := h
  rw [← Option.isSome_iff_exists, List.find?_isSome]
  refine ⟨(key, hash), List.mem_reverse.2 (Json.mem_sorted.2 hunder), decide_eq_true ?_⟩
  exact place?_eq_some.2 ⟨hnames, hplace⟩

/-- Three spellings of one place: the last of them in the order of bytes counts. -/
example : spread 3 (Json.sorted [("2", "a"), ("002", "b"), ("+2", "c"), ("x", "d")])
    = [none, none, some "a"] := by decide

end Reply

end ShardClient
