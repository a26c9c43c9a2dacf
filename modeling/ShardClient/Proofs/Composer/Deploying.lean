/-
What the builder of the deployments hands out.

The builder goes through the shards in order and looks up the first user of each only when its
turn has come.  As long as it finds one, the deployment is finished, for a user can always sign.
So it ends in one of three ways: with one deployment for each shard, with the code missing before
anything is handed out, or at the first shard without users, and then the first user of each shard
before it has been handed a nonce that no transaction uses.
-/
import ShardClient.Proofs.Composer.Builders
import ShardClient.Proofs.Registry.Shards

namespace ShardClient

namespace Registry

/-- The first user of a shard, if it has one. -/
theorem firstUser_cases (r : Registry) (shard : ShardId) :
    (∃ user ∈ r.users, r.user shard 0 = .ok user ∧ r.sharding.home user.address = shard) ∨
      (r.user shard 0 = .error (.user shard 0) ∧ r.usersIn shard = []) := by
  cases h : r.usersIn shard with
  | nil => exact .inr ⟨by rw [user, h]; rfl, rfl⟩
  | cons user rest =>
    have hmem : user ∈ r.usersIn shard := h ▸ List.mem_cons_self
    rw [usersIn_eq, List.mem_filter, decide_eq_true_eq] at hmem
    exact .inl ⟨user, hmem.1, by rw [Registry.user, h]; rfl, hmem.2⟩

/-- Under the address of the sponsor and of every user there is an account. -/
theorem exists_account_of_mem {r : Registry} {member : Account}
    (h : member ∈ r.sponsor :: r.users) : ∃ account, r.account member.address = .ok account := by
  have hcases := r.account_cases member.address
  cases haccount : r.account member.address with
  | ok account => exact ⟨account, rfl⟩
  | error e =>
    rw [haccount] at hcases
    exact absurd rfl (hcases.2 member h)

end Registry

/-- Where each item tells the one beside it, the items tell them all. -/
theorem map_eq_of_forall₂ {α β : Type} {R : α → β → Prop} {f : β → α} {as : List α} {bs : List β}
    (h : List.Forall₂ R as bs) (hf : ∀ a b, R a b → f b = a) : bs.map f = as := by
  have hequal : List.Forall₂ (· = ·) as (bs.map f) :=
    List.forall₂_map_right_iff.2 (h.imp fun a b hab => (hf a b hab).symm)
  rw [List.forall₂_eq_eq_eq] at hequal
  exact hequal.symm

/-- Shards in order, from the given one on. -/
def shardsFrom (shard count : Nat) : List ShardId := (List.range' shard count).map UInt32.ofNat

/-- No shard of a network comes twice. -/
theorem nodup_shardsFrom {s : Sharding} {count : Nat} (h : count ≤ s.count.toNat) :
    (shardsFrom 0 count).Nodup := by
  refine List.Nodup.map_on (fun x hx y hy heq => ?_) List.nodup_range'
  rw [List.mem_range'_1] at hx hy
  have hx : x < s.count.toNat := by omega
  have hy : y < s.count.toNat := by omega
  rw [← Sharding.toNat_ofNat_of_lt hx, ← Sharding.toNat_ofNat_of_lt hy, heq]

namespace Composer

variable {σ : Type} {c : Composer}

/-- The transaction deploys the code from the first user of the shard, and the address is that of
the contract. -/
def Deploys (c : Composer) (code : Bytes) (shard : ShardId) (p : Signed × Address) : Prop :=
  ∃ deployer, c.registry.user shard 0 = .ok deployer ∧
    (Draft.deployment c.fees deployer.address code contractGas initialValue 0 {}).Becomes p.1 ∧
    p.2 = Sharding.contractAddress deployer.address p.1.nonce

theorem Deploys.reservations {code : Bytes} {shard : ShardId} {p : Signed × Address}
    (h : Deploys c code shard p) : p.1.reservations = [(p.1.sender, p.1.nonce)] := by
  obtain ⟨deployer, -, hbecomes, -⟩ := h
  exact hbecomes.reservations (Draft.plain_deployment ..)

/-- The nonce is one of the first user of the shard. -/
def HandedFirst (c : Composer) (shard : ShardId) (r : Reservation) : Prop :=
  ∃ deployer, c.registry.user shard 0 = .ok deployer ∧ r.1 = deployer.address

theorem Deploys.handedFirst {code : Bytes} {shard : ShardId} {p : Signed × Address}
    (h : Deploys c code shard p) : HandedFirst c shard (p.1.sender, p.1.nonce) := by
  obtain ⟨deployer, huser, hbecomes, -⟩ := h
  exact ⟨deployer, huser, hbecomes.sender⟩

theorem HandedFirst.home {shard : ShardId} {r : Reservation} (h : HandedFirst c shard r) :
    c.registry.sharding.home r.1 = shard := by
  obtain ⟨deployer, huser, hr⟩ := h
  rcases c.registry.firstUser_cases shard with ⟨user, -, hfirst, hhome⟩ | ⟨hnone, -⟩
  · obtain rfl : deployer = user := Except.ok.inj (huser.symm.trans hfirst)
    rw [hr, hhome]
  · exact absurd (huser.symm.trans hnone) (by simp)

/-! ### First users -/

/-- The first users of the shards, of those that have users. -/
def firstUsers (c : Composer) (shards : List ShardId) : List Address :=
  shards.filterMap fun shard => (c.registry.user shard 0).toOption.map (·.address)

theorem firstUsers_cons {shard : ShardId} {user : Account} {shards : List ShardId}
    (h : c.registry.user shard 0 = .ok user) :
    c.firstUsers (shard :: shards) = user.address :: c.firstUsers shards := by
  refine List.filterMap_cons_some ?_
  rw [h]
  rfl

/-- The accounts that have been handed nonces are the first users, if each of these has been handed
one. -/
theorem firstUsers_of_handedFirst {shards : List ShardId} {rs : List Reservation}
    (h : List.Forall₂ (HandedFirst c) shards rs) : c.firstUsers shards = rs.map (·.1) := by
  induction h with
  | nil => rfl
  | cons first _ ih =>
    obtain ⟨user, huser, haddress⟩ := first
    rw [firstUsers_cons huser, ih, List.map_cons, haddress]

/-- No account is the first user of two shards. -/
theorem nodup_firstUsers {shards : List ShardId} (h : shards.Nodup) :
    (c.firstUsers shards).Nodup := by
  refine h.filterMap ?_
  intro shard other a hshard hother
  have home : ∀ {t : ShardId}, a ∈ (c.registry.user t 0).toOption.map (·.address) →
      c.registry.sharding.home a = t := by
    intro t ha
    cases huser : c.registry.user t 0 with
    | error e =>
      rw [huser] at ha
      cases ha
    | ok user =>
      rw [huser] at ha
      obtain rfl := Option.some.inj ha
      have hfirst : HandedFirst c t (user.address, 0) := ⟨user, huser, rfl⟩
      exact hfirst.home
  rw [← home hshard, ← home hother]

/-- What is handed to first users of different shards is handed to different accounts. -/
theorem nodup_of_handedFirst {shards : List ShardId} {rs : List Reservation}
    (h : List.Forall₂ (HandedFirst c) shards rs) (hnodup : shards.Nodup) :
    (rs.map (·.1)).Nodup := by
  rw [← firstUsers_of_handedFirst h]
  exact nodup_firstUsers hnodup

/-- The builder has met a shard without users, the `k`-th from the given one on, and the first
users of those before it have been handed a nonce each. -/
structure RunsOut (c : Composer) (shard k : Nat) (rs : List Reservation) (e : RunError) :
    Prop where
  error : e = .lookup (.user (UInt32.ofNat (shard + k)) 0)
  empty : c.registry.usersIn (UInt32.ofNat (shard + k)) = []
  handed : List.Forall₂ (HandedFirst c) (shardsFrom shard k) rs

/-! ### One shard -/

theorem books_adderDeployment (host : Host (StateM σ)) (code : Bytes) {shard : ShardId}
    {deployer : Account} (hmem : deployer ∈ c.registry.users)
    (huser : c.registry.user shard 0 = .ok deployer) :
    Books (c.adderDeployment host.recorded code shard)
      (fun rs p => rs = [(p.1.sender, p.1.nonce)] ∧ Deploys c code shard p) Never := by
  have hmanaged : c.Managed deployer.address :=
    Registry.exists_account_of_mem (List.mem_cons_of_mem _ hmem)
  have hinfo : ∀ text,
      Books (Run.act (host.recorded.info text)) (fun rs _ => rs = []) Never :=
    fun text => books_info host text rfl
  unfold adderDeployment
  rw [huser]
  refine Books.found ((books_finish_managed host hmanaged).andThen ?_)
  rintro _ t ⟨rfl, hbecomes⟩
  refine (hinfo _).andThen ?_
  rintro _ _ rfl
  exact books_pure ⟨rfl, _, huser, hbecomes, rfl⟩

/-- Where there is no user, nothing is done. -/
theorem books_adderDeployment_empty (host : Host (StateM σ)) (code : Bytes) {shard : ShardId}
    (huser : c.registry.user shard 0 = .error (.user shard 0)) :
    Books (c.adderDeployment host.recorded code shard) (fun _ _ => False)
      fun rs e => rs = [] ∧ e = .lookup (.user shard 0) := by
  unfold adderDeployment
  rw [huser]
  exact books_notFound ⟨rfl, rfl⟩

/-! ### All shards -/

theorem books_adderDeploymentsFrom (host : Host (StateM σ)) (code : Bytes) (shard count : Nat) :
    Books (c.adderDeploymentsFrom host.recorded code shard count)
      (fun rs ps => rs = (ps.map (·.1)).flatMap Signed.reservations ∧
        List.Forall₂ (Deploys c code) (shardsFrom shard count) ps)
      fun rs e => ∃ k < count, RunsOut c shard k rs e := by
  induction count generalizing shard with
  | zero => exact books_pure ⟨rfl, .nil⟩
  | succ count ih =>
    unfold adderDeploymentsFrom
    rcases c.registry.firstUser_cases (UInt32.ofNat shard) with
      ⟨deployer, hmem, huser, -⟩ | ⟨huser, hempty⟩
    · refine (books_adderDeployment host code hmem huser).bind (fun _ _ h => h.elim) ?_
      rintro _ first ⟨rfl, hfirst⟩
      refine (ih (shard + 1)).bind ?_ ?_
      · rintro rs e ⟨k, hk, herror, hnone, hhanded⟩
        have hplace : shard + 1 + k = shard + (k + 1) := by omega
        rw [hplace] at herror hnone
        exact ⟨k + 1, by omega, herror, hnone, .cons hfirst.handedFirst hhanded⟩
      · rintro _ rest ⟨rfl, hrest⟩
        refine books_pure ⟨?_, .cons hfirst hrest⟩
        rw [List.append_nil, List.map_cons, List.flatMap_cons, hfirst.reservations]
    · refine (books_adderDeployment_empty host code huser).bind ?_ fun _ _ h => h.elim
      rintro _ _ ⟨rfl, rfl⟩
      exact ⟨0, by omega, rfl, hempty, .nil⟩

/-- Why the builder of the deployments stops by itself: the code is missing, or a shard is
without users. -/
def StopsDeploying (c : Composer) (rs : List Reservation) (e : RunError) : Prop :=
  (rs = [] ∧ ∃ cause, c.files.readCode (FileStore.join c.contractsDir adderFile) = .error cause ∧
    e = .code cause) ∨
  ∃ k < c.registry.sharding.count.toNat, RunsOut c 0 k rs e

/-- **The builder of the deployments** finishes with one deployment for each shard, in order, and
has handed out what these use; or it stops as said. -/
theorem books_adderDeployments (host : Host (StateM σ)) :
    Books (c.adderDeployments host.recorded)
      (fun rs ps => rs = (ps.map (·.1)).flatMap Signed.reservations ∧
        ∃ code, c.files.readCode (FileStore.join c.contractsDir adderFile) = .ok code ∧
          List.Forall₂ (Deploys c code) (shardsFrom 0 c.registry.sharding.count.toNat) ps)
      (StopsDeploying c) := by
  unfold adderDeployments code
  cases hcode : c.files.readCode (FileStore.join c.contractsDir adderFile) with
  | error cause => exact books_notFound (.inl ⟨rfl, cause, hcode, rfl⟩)
  | ok code =>
    refine Books.found ((books_adderDeploymentsFrom host code 0 _).mono ?_ fun _ _ h => .inr h)
    exact fun _ _ h => ⟨h.1, code, rfl, h.2⟩

/-! ### A small network -/

/-- A composer for the given users, with code to deploy. -/
def ofUsers (users : List Signer) (shards : UInt32) : Composer :=
  { small with
    registry := Registry.ofSigners (Signer.blank 1) users [] (Sharding.ofCount shards)
    files := ⟨fun _ => .ok [0x00, 0x61, 0x73, 0x6d]⟩ }

end Composer

end ShardClient
