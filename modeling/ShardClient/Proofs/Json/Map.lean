/-
Maps, as they are read from JSON.

A map is read entry by entry, and each is put in its place by its key.  So what comes out is in
the order of the keys, with one value for each: the last one given.  In particular the order in
which different keys were given is lost.
-/
import Mathlib.Data.List.Induction
import Mathlib.Data.List.Nodup
import Mathlib.Data.String.Basic
import ShardClient.Json.Field

namespace ShardClient

namespace Json

variable {α : Type}

/-- The entries of a map as they are given. -/
def entries? (read : Json → Option α) (v : Json) : Option (List (String × α)) := do
  let members ← v.members?
  members.mapM fun m => (read m.2).map fun value => (m.1, value)

/-- Entries in the order of their keys; of several with one key the last. -/
def sorted (entries : List (String × α)) : List (String × α) :=
  entries.foldl (fun map e => map?.insert map e.1 e.2) []

/-- The value under a key: the last one given. -/
def under (entries : List (String × α)) (key : String) : Option α := entries.reverse.lookup key

theorem map?_eq (read : Json → Option α) (v : Json) :
    map? read v = (entries? read v).map sorted := by
  unfold map? entries?
  cases v.members? with
  | none => rfl
  | some members =>
    simp only [Option.bind_eq_bind, Option.bind_some]
    cases members.mapM fun m => (read m.2).map fun value => (m.1, value) <;> rfl

/-! ### One entry -/

theorem lookup_entry (key : String) (value : α) (rest : List (String × α)) (k : String) :
    ((key, value) :: rest).lookup k = if k = key then some value else rest.lookup k := by
  by_cases h : k = key
  · simp [h]
  · simp [List.lookup_cons, h, beq_false_of_ne h]

theorem lookup_insert (map : List (String × α)) (key : String) (value : α) (k : String) :
    (map?.insert map key value).lookup k = if k = key then some value else map.lookup k := by
  induction map with
  | nil => exact lookup_entry key value [] k
  | cons e map ih =>
    obtain ⟨first, old⟩ := e
    unfold map?.insert
    by_cases hsame : first = key
    · subst hsame
      rw [if_pos rfl, lookup_entry, lookup_entry]
      by_cases hk : k = first
      · rw [if_pos hk, if_pos hk]
      · rw [if_neg hk, if_neg hk, if_neg hk]
    rw [if_neg hsame]
    by_cases hbefore : key < first
    · rw [if_pos hbefore, lookup_entry]
    rw [if_neg hbefore, lookup_entry, lookup_entry, ih]
    by_cases hk : k = key
    · have hfirst : k ≠ first := fun h => hsame (h.symm.trans hk)
      rw [if_neg hfirst, if_pos hk, if_pos hk]
    · rw [if_neg hk, if_neg hk]

/-- The keys of a map: they are increasing, so none comes twice. -/
def Increasing (map : List (String × α)) : Prop := map.Pairwise fun a b => a.1 < b.1

theorem mem_insert {map : List (String × α)} {key : String} {value : α} {e : String × α}
    (h : e ∈ map?.insert map key value) : e.1 = key ∨ e ∈ map := by
  induction map with
  | nil => exact .inl (by rw [List.mem_singleton.1 h])
  | cons first map ih =>
    unfold map?.insert at h
    split at h
    · rcases List.mem_cons.1 h with rfl | h
      · exact .inl rfl
      · exact .inr (List.mem_cons_of_mem _ h)
    · split at h
      · rcases List.mem_cons.1 h with rfl | h
        · exact .inl rfl
        · exact .inr h
      · rcases List.mem_cons.1 h with rfl | h
        · exact .inr List.mem_cons_self
        · exact (ih h).imp id (List.mem_cons_of_mem _)

theorem Increasing.insert {map : List (String × α)} (h : Increasing map) (key : String)
    (value : α) : Increasing (map?.insert map key value) := by
  induction map with
  | nil => exact List.pairwise_singleton _ _
  | cons first map ih =>
    obtain ⟨hfirst, hmap⟩ := List.pairwise_cons.1 h
    unfold map?.insert
    by_cases hsame : first.1 = key
    · rw [if_pos hsame]
      refine List.pairwise_cons.2 ⟨?_, hmap⟩
      rw [← hsame]
      exact hfirst
    rw [if_neg hsame]
    by_cases hbefore : key < first.1
    · rw [if_pos hbefore]
      refine List.pairwise_cons.2 ⟨?_, h⟩
      rw [List.forall_mem_cons]
      exact ⟨hbefore, fun e he => lt_trans hbefore (hfirst e he)⟩
    · rw [if_neg hbefore]
      refine List.pairwise_cons.2 ⟨?_, ih hmap⟩
      intro e he
      rcases mem_insert he with hkey | he
      · rw [hkey]
        exact lt_of_le_of_ne (not_lt.1 hbefore) hsame
      · exact hfirst e he

/-! ### All entries -/

theorem sorted_concat (entries : List (String × α)) (e : String × α) :
    sorted (entries ++ [e]) = map?.insert (sorted entries) e.1 e.2 :=
  List.foldl_concat ..

theorem increasing_sorted (entries : List (String × α)) : Increasing (sorted entries) := by
  induction entries using List.reverseRecOn with
  | nil => exact .nil
  | append_singleton entries e ih =>
    rw [sorted_concat]
    exact ih.insert e.1 e.2

theorem lookup_sorted (entries : List (String × α)) (key : String) :
    (sorted entries).lookup key = under entries key := by
  induction entries using List.reverseRecOn with
  | nil => rfl
  | append_singleton entries e ih =>
    have hunder : under (entries ++ [e]) key = (e :: entries.reverse).lookup key := by
      rw [under, List.reverse_concat]
    rw [sorted_concat, lookup_insert, ih, hunder, lookup_entry]
    rfl

/-- Where no key comes twice, an entry is found by its key. -/
theorem lookup_eq_some {map : List (String × α)} (h : (map.map Prod.fst).Nodup) {key : String}
    {value : α} : map.lookup key = some value ↔ (key, value) ∈ map := by
  induction map with
  | nil => simp
  | cons first map ih =>
    obtain ⟨first, old⟩ := first
    obtain ⟨hfirst, hmap⟩ := List.nodup_cons.1 h
    rw [lookup_entry, List.mem_cons]
    by_cases hkey : key = first
    · subst hkey
      have hnot : (key, value) ∉ map := fun he => hfirst (List.mem_map.2 ⟨_, he, rfl⟩)
      simp [hnot, eq_comm]
    · simp [hkey, ih hmap]

theorem Increasing.nodup_keys {map : List (String × α)} (h : Increasing map) :
    (map.map Prod.fst).Nodup :=
  List.pairwise_map.2 (h.imp ne_of_lt)

/-- **What is in a map** is, under each key, the last value given. -/
theorem mem_sorted {entries : List (String × α)} {key : String} {value : α} :
    (key, value) ∈ sorted entries ↔ under entries key = some value := by
  rw [← lookup_eq_some (increasing_sorted entries).nodup_keys, lookup_sorted]

end Json

end ShardClient
