/-
Maps from addresses.

A map is a list of pairs in which no address comes twice.  Writing under an address that is
already there replaces its value in place, so the order is that of first writing.
-/
import ShardClient.Address

namespace ShardClient

/-- A map from addresses to values of some type. -/
structure AddressMap (α : Type) where
  entries : List (Address × α) := []

namespace AddressMap

variable {α : Type}

/-- The value under an address. -/
def find? (m : AddressMap α) (a : Address) : Option α := m.entries.lookup a

/-- The pairs after writing a value under an address. -/
def insertIn (a : Address) (v : α) : List (Address × α) → List (Address × α)
  | [] => [(a, v)]
  | (b, w) :: rest => if b = a then (a, v) :: rest else (b, w) :: insertIn a v rest

/-- The map after writing a value under an address. -/
def insert (m : AddressMap α) (a : Address) (v : α) : AddressMap α := ⟨insertIn a v m.entries⟩

@[simp] theorem find?_empty (a : Address) : find? (⟨[]⟩ : AddressMap α) a = none := rfl

theorem lookup_insertIn (a b : Address) (v : α) (l : List (Address × α)) :
    (insertIn a v l).lookup b = if b = a then some v else l.lookup b := by
  induction l with
  | nil =>
    by_cases h : b = a
    · simp [insertIn, h]
    · simp [insertIn, List.lookup_cons, h, beq_false_of_ne h]
  | cons p rest ih =>
    obtain ⟨c, w⟩ := p
    unfold insertIn
    by_cases hc : c = a
    · by_cases h : b = a
      · simp [hc, h]
      · simp [List.lookup_cons, hc, h, beq_false_of_ne h]
    · by_cases h : b = c
      · subst h; simp [hc]
      · simp [List.lookup_cons, hc, beq_false_of_ne h, ih]

/-- Writing changes the value under one address and under no other. -/
@[simp] theorem find?_insert (m : AddressMap α) (a b : Address) (v : α) :
    (m.insert a v).find? b = if b = a then some v else m.find? b :=
  lookup_insertIn a b v m.entries

end AddressMap

end ShardClient
