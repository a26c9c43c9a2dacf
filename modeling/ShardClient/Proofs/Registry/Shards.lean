/-
The registry, told by its accounts and contracts alone.

The tables of a registry are filled one value at a time and by loops of their own.  What they hold
in the end needs no table to be said: the users of a shard are those among all users who are at
home there, in the same order, and so are its contracts; and an address belongs to an account
just if it is that of the sponsor or of a user.
-/
import Mathlib.Data.List.Perm.Basic
import ShardClient.Proofs.Sharding.Home
import ShardClient.Registry

namespace ShardClient

/-! ### Shard tables -/

namespace ShardTable

variable {α : Type}

theorem lookup_pushIn (shard s : ShardId) (v : α) (l : List (ShardId × List α)) :
    ((pushIn shard v l).lookup s).getD []
      = (l.lookup s).getD [] ++ if s = shard then [v] else [] := by
  induction l with
  | nil =>
    by_cases h : s = shard
    · simp [pushIn, h]
    · simp [pushIn, List.lookup_cons, h, beq_false_of_ne h]
  | cons p rest ih =>
    obtain ⟨t, vs⟩ := p
    unfold pushIn
    by_cases ht : t = shard
    · rw [if_pos ht]
      by_cases h : s = t
      · simp [h, ht]
      · have hs : s ≠ shard := fun hs => h (hs.trans ht.symm)
        simp [List.lookup_cons, hs, beq_false_of_ne h]
    · rw [if_neg ht]
      by_cases h : s = t
      · simp [h, ht]
      · simpa [List.lookup_cons, beq_false_of_ne h] using ih

/-- Putting a value into the bucket of a shard adds it at the end of that bucket only. -/
theorem get_push (t : ShardTable α) (shard s : ShardId) (v : α) :
    (t.push shard v).get s = t.get s ++ if s = shard then [v] else [] :=
  lookup_pushIn shard s v t.buckets

theorem get_foldl_push (home : α → ShardId) (s : ShardId) (vs : List α) (t : ShardTable α) :
    (vs.foldl (fun t v => t.push (home v) v) t).get s
      = t.get s ++ vs.filter fun v => home v = s := by
  induction vs generalizing t with
  | nil => simp
  | cons v vs ih =>
    rw [List.foldl_cons, ih, get_push, List.append_assoc]
    by_cases h : home v = s
    · simp [h]
    · simp [h, Ne.symm h]

/-- **The values of a shard** are those among all values whose address is at home there. -/
theorem get_ofList (sharding : Sharding) (address : α → Address) (vs : List α) (s : ShardId) :
    (ofList sharding address vs).get s = vs.filter fun v => sharding.home (address v) = s :=
  get_foldl_push (fun v => sharding.home (address v)) s vs {}

end ShardTable

/-- Values sorted by a key are all there, each as often as before, if no key is forgotten. -/
theorem perm_flatMap_filter {κ α : Type} [DecidableEq κ] (key : α → κ) {keys : List κ}
    (hkeys : keys.Nodup) (vs : List α) (h : ∀ v ∈ vs, key v ∈ keys) :
    (keys.flatMap fun k => vs.filter fun v => key v = k).Perm vs := by
  induction vs with
  | nil => simp
  | cons v vs ih =>
    rw [List.forall_mem_cons] at h
    have hrest := ih h.2
    -- Of all buckets only that of the first value grows.
    obtain ⟨before, after, rfl⟩ := List.append_of_mem h.1
    rw [List.nodup_append, List.nodup_cons] at hkeys
    obtain ⟨-, ⟨hafter, -⟩, hbefore⟩ := hkeys
    have hsame : ∀ ks : List κ, key v ∉ ks →
        (ks.flatMap fun k => (v :: vs).filter fun v => key v = k)
          = ks.flatMap fun k => vs.filter fun v => key v = k := by
      intro ks hks
      refine List.flatMap_congr fun k hk => List.filter_cons_of_neg ?_
      simp only [decide_eq_true_eq]
      rintro rfl
      exact hks hk
    have hself : ((v :: vs).filter fun w => key w = key v)
        = v :: vs.filter fun w => key w = key v := List.filter_cons_of_pos (by simp)
    rw [List.flatMap_append, List.flatMap_cons] at hrest ⊢
    rw [hsame before fun hmem => hbefore _ hmem _ List.mem_cons_self rfl, hsame after hafter, hself]
    exact List.perm_middle.trans (hrest.cons v)

/-! ### Accounts by address -/

/-- Where nothing is found, no account has the address. -/
theorem find?_accountTable_eq_none {accounts : List Account} {a : Address}
    (h : (accountTable accounts).find? a = none) : ∀ account ∈ accounts, account.address ≠ a := by
  rw [find?_accountTable_eq, List.find?_eq_none] at h
  intro account hmem
  simpa using h account (List.mem_reverse.2 hmem)

namespace Registry

/-! ### Lookups -/

theorem usersIn_eq (r : Registry) (shard : ShardId) :
    r.usersIn shard = r.users.filter fun user => r.sharding.home user.address = shard := by
  unfold usersIn
  rw [r.usersByShard_eq, ShardTable.get_ofList]

/-- The known contracts of a shard, in order. -/
def contractsIn (r : Registry) (shard : ShardId) : List Address := r.contractsByShard.get shard

theorem contractsIn_eq (r : Registry) (shard : ShardId) :
    r.contractsIn shard = r.contracts.filter fun contract => r.sharding.home contract = shard := by
  unfold contractsIn
  rw [r.contractsByShard_eq, ShardTable.get_ofList]
  rfl

/-- The shards hold all users. -/
theorem perm_usersIn (r : Registry) : (r.sharding.ids.flatMap r.usersIn).Perm r.users := by
  have hbuckets : r.usersIn = fun shard =>
      r.users.filter fun user => r.sharding.home user.address = shard := funext r.usersIn_eq
  rw [hbuckets]
  exact perm_flatMap_filter (fun user : Account => r.sharding.home user.address)
    r.sharding.nodup_ids r.users fun user _ => r.sharding.home_mem_ids user.address

theorem user_eq (r : Registry) (shard : ShardId) (index : Nat) :
    r.user shard index = if h : index < (r.usersIn shard).length then .ok (r.usersIn shard)[index]
      else .error (.user shard index) := by
  unfold user
  by_cases h : index < (r.usersIn shard).length
  · rw [dif_pos h, List.getElem?_eq_getElem h]
  · rw [dif_neg h, List.getElem?_eq_none (Nat.le_of_not_lt h)]

theorem contract_eq (r : Registry) (shard : ShardId) (index : Nat) :
    r.contract shard index = if h : index < (r.contractsIn shard).length
      then .ok (r.contractsIn shard)[index] else .error (.contract shard index) := by
  unfold contract
  have hbucket : r.contractsByShard.get shard = r.contractsIn shard := rfl
  by_cases h : index < (r.contractsIn shard).length
  · rw [dif_pos h, hbucket, List.getElem?_eq_getElem h]
  · rw [dif_neg h, hbucket, List.getElem?_eq_none (Nat.le_of_not_lt h)]

/-- A range of places that lie in the shard is answered with what stands there. -/
theorem userRange_eq_ok {r : Registry} {shard : ShardId} {start stop : Nat}
    (h : start ≤ stop ∧ stop ≤ (r.usersIn shard).length) :
    ∃ us, r.userRange shard start stop = .ok us ∧ us.length = stop - start ∧
      ∀ k < stop - start, us[k]? = (r.usersIn shard)[start + k]? := by
  refine ⟨((r.usersIn shard).take stop).drop start, if_pos h, ?_, fun k hk => ?_⟩
  · rw [List.length_drop, List.length_take, Nat.min_eq_left h.2]
  · rw [List.getElem?_drop, List.getElem?_take_of_lt (by omega)]

theorem userRange_eq_error {r : Registry} {shard : ShardId} {start stop : Nat}
    (h : ¬(start ≤ stop ∧ stop ≤ (r.usersIn shard).length)) :
    r.userRange shard start stop = .error (.users shard start stop (r.usersIn shard).length) :=
  if_neg h

/-- An account is found just under the addresses of the sponsor and the users. -/
theorem account_cases (r : Registry) (a : Address) :
    match r.account a with
    | .ok account => account ∈ r.sponsor :: r.users ∧ account.address = a
    | .error e => e = .account a ∧ ∀ account ∈ r.sponsor :: r.users, account.address ≠ a := by
  unfold account
  rw [r.accountsByAddress_eq]
  cases h : (accountTable (r.sponsor :: r.users)).find? a with
  | some account => exact find?_accountTable h
  | none => exact ⟨rfl, find?_accountTable_eq_none h⟩

/-! ### The whole registry -/

/-- **A registry answers as its signers and contracts say**, for any of them, in any order and
however often they are repeated.  The users of a shard are those at home there, in the order of
derivation; the metachain is a shard here.  All shards together hold each user just as often as it
was given.  A user or a contract is found at each place that its shard has, and a range of users
if it lies in the shard and is not turned around; anything else is an error.  An account is found
under an address just if the sponsor or a user has it, whatever contracts are known, and its
signer, which has the address, is one of those that were given. -/
theorem answers_as_given (sponsor : Signer) (users : List Signer) (contracts : List Address)
    (sharding : Sharding) :
    let r := ofSigners sponsor users contracts sharding
    let usersAt := fun shard =>
      (users.map Account.ofSigner).filter fun user => sharding.home user.address = shard
    let contractsAt := fun shard => contracts.filter fun contract => sharding.home contract = shard
    (∀ shard, r.usersIn shard = usersAt shard) ∧
    (sharding.ids.Nodup ∧
      (sharding.ids.flatMap r.usersIn).Perm (users.map Account.ofSigner)) ∧
    (∀ shard index, r.user shard index = if h : index < (usersAt shard).length
      then .ok (usersAt shard)[index] else .error (.user shard index)) ∧
    (∀ shard start stop, if start ≤ stop ∧ stop ≤ (usersAt shard).length
      then ∃ us, r.userRange shard start stop = .ok us ∧ us.length = stop - start ∧
        ∀ k < stop - start, us[k]? = (usersAt shard)[start + k]?
      else r.userRange shard start stop
        = .error (.users shard start stop (usersAt shard).length)) ∧
    (∀ shard index, r.contract shard index = if h : index < (contractsAt shard).length
      then .ok (contractsAt shard)[index] else .error (.contract shard index)) ∧
    ∀ a, match r.account a with
      | .ok account => account.address = a ∧ account.signer.address = a ∧
        account.signer ∈ sponsor :: users
      | .error e => e = .account a ∧ ∀ signer ∈ sponsor :: users, signer.address ≠ a := by
  intro r usersAt contractsAt
  have husers : ∀ shard, r.usersIn shard = usersAt shard := r.usersIn_eq
  have hcontracts : ∀ shard, r.contractsIn shard = contractsAt shard := r.contractsIn_eq
  refine ⟨husers, ⟨sharding.nodup_ids, r.perm_usersIn⟩, ?_, ?_, ?_, ?_⟩
  · intro shard index
    simpa only [husers] using r.user_eq shard index
  · intro shard start stop
    rw [← husers]
    by_cases h : start ≤ stop ∧ stop ≤ (r.usersIn shard).length
    · rw [if_pos h]
      exact userRange_eq_ok h
    · rw [if_neg h]
      exact userRange_eq_error h
  · intro shard index
    simpa only [hcontracts] using r.contract_eq shard index
  · intro a
    have haccount := r.account_cases a
    have hgiven : r.sponsor :: r.users = (sponsor :: users).map Account.ofSigner := rfl
    rw [hgiven] at haccount
    cases h : r.account a with
    | ok account =>
      rw [h] at haccount
      obtain ⟨hmem, rfl⟩ := haccount
      obtain ⟨signer, hsigner, rfl⟩ := List.mem_map.1 hmem
      exact ⟨rfl, rfl, hsigner⟩
    | error e =>
      rw [h] at haccount
      obtain ⟨he, hnone⟩ := haccount
      exact ⟨he, fun signer hsigner => hnone _ (List.mem_map_of_mem hsigner)⟩

end Registry

end ShardClient
