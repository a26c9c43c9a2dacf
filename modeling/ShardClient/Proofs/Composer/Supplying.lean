/-
Nonces for the deployments.

Where every shard has users, it depends on the code and on nonces alone whether the deployments
are built.  The builder reserves a nonce for the first user of each shard in turn, and these users
are different accounts, for they are at home in different shards.  So the record tells how far
the builder has come.  If each first user had a nonce, known before or told by the network, then
there is a deployment from each, with just this nonce; and otherwise the builder has stopped at
the first one who had none, with the error that says why.
-/
import ShardClient.Proofs.Composer.Deploying
import ShardClient.Proofs.Composer.Making
import ShardClient.Proofs.Run.Once

namespace ShardClient

namespace Composer

variable {σ : Type} {c : Composer}

/-! ### The first one without a nonce -/

theorem deployers_eq (c : Composer) :
    c.deployers = c.firstUsers (shardsFrom 0 c.registry.sharding.count.toNat) := by
  rw [deployers, firstUsers, shardsFrom, List.filterMap_map, ← List.range_eq_range']
  rfl

/-- A deployment uses a nonce of the first user of its shard, and no other. -/
theorem reservations_of_deploys {code : Bytes} {shards : List ShardId}
    {ps : List (Signed × Address)} (h : List.Forall₂ (Deploys c code) shards ps) :
    (ps.map (·.1)).flatMap Signed.reservations = ps.map fun p => (p.1.sender, p.1.nonce) := by
  induction h with
  | nil => rfl
  | cons first _ ih =>
    rw [List.map_cons, List.flatMap_cons, ih, first.reservations]
    rfl

theorem firstUsers_of_deploys {code : Bytes} {shards : List ShardId}
    {ps : List (Signed × Address)} (h : List.Forall₂ (Deploys c code) shards ps) :
    c.firstUsers shards = (ps.map fun p => (p.1.sender, p.1.nonce)).map (·.1) :=
  firstUsers_of_handedFirst (List.forall₂_map_right_iff.2 (h.imp fun _ _ h => h.handedFirst))

end Composer

end ShardClient
