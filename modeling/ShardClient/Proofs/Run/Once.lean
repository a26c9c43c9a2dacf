/-
Nonces handed out to different accounts, one to each.

What such steps do to the table and ask of the network can be said account by account.  Each of
them is handed the nonce that was known, or else the one that the network tells when it is asked,
and the next one is the one behind it; no other account is touched or asked for.  Whether there is
one to be handed out can be seen from the record alone: from what was known before, and from what
was answered about the account since.
-/
import ShardClient.Proofs.Run.Requests
import ShardClient.Proofs.Run.Reserving

namespace ShardClient

variable {σ : Type} {s s₁ : Moment (Recorded σ)} {a : Address} {rs : List Reservation}

/-- A nonce that is handed out is the one that was known, if any was. -/
theorem Reserved.eq_of_known {n m : UInt64} (step : Reserved a s (.ok n) s₁)
    (h : s.table.find? a = some m) : m = n := by
  cases step with
  | granted asked =>
    cases asked with
    | known hn => exact Option.some.inj (h.symm.trans hn)
    | told _ _ hnone => exact absurd (h.symm.trans hnone) (by simp)

/-- Each account has been handed one nonce: the one known, behind which the count goes on, or the
one that the network told.  For all others nothing has changed, and nobody has asked for them. -/
structure HandedOnce (s : Moment (Recorded σ)) (rs : List Reservation)
    (s₁ : Moment (Recorded σ)) : Prop where
  known : ∀ r ∈ rs, ∀ n, s.table.find? r.1 = some n → n = r.2
  next : ∀ r ∈ rs, s₁.table.find? r.1 = some (r.2 + 1)
  others : ∀ a, (∀ r ∈ rs, a ≠ r.1) → s₁.table.find? a = s.table.find? a
  asked : ∃ asked, s₁.world.exchanges = s.world.exchanges ++ asked ∧
    List.Forall₂ (fun r x => ∃ state : AccountState,
        x = Exchange.account r.1 (.ok state) ∧ state.nonce = r.2)
      (rs.filter fun r => s.table.find? r.1 = none) asked

/-- Nothing has been handed out. -/
theorem HandedOnce.nothing (htable : s₁.table = s.table)
    (hexchanges : s₁.world.exchanges = s.world.exchanges) : HandedOnce s [] s₁ where
  known := by simp
  next := by simp
  others := fun a _ => by rw [htable]
  asked := ⟨[], by rw [hexchanges, List.append_nil], .nil⟩

/-- One more account before the others. -/
theorem HandedOnce.cons {s₂ : Moment (Recorded σ)} {n : UInt64}
    (first : Reserved a s (.ok n) s₁) (rest : HandedOnce s₁ rs s₂) (hne : ∀ r ∈ rs, r.1 ≠ a) :
    HandedOnce s ((a, n) :: rs) s₂ where
  known := by
    rw [List.forall_mem_cons]
    refine ⟨fun m hm => first.eq_of_known hm, fun r hr m hm => rest.known r hr m ?_⟩
    rw [first.find?_other (hne r hr), hm]
  next := by
    rw [List.forall_mem_cons]
    refine ⟨?_, rest.next⟩
    rw [rest.others a fun r hr => (hne r hr).symm]
    cases first with
    | granted => rw [AddressMap.find?_insert, if_pos rfl]
  others := by
    intro b hb
    rw [List.forall_mem_cons] at hb
    rw [rest.others b hb.2, first.find?_other hb.1]
  asked := by
    obtain ⟨asked, hexchanges, hasked⟩ := rest.asked
    have hsame : (rs.filter fun r => s₁.table.find? r.1 = none)
        = rs.filter fun r => s.table.find? r.1 = none :=
      List.filter_congr fun r hr => by rw [first.find?_other (hne r hr)]
    rw [hsame] at hasked
    cases first with
    | granted step =>
      cases step with
      | known hn =>
        refine ⟨asked, hexchanges, ?_⟩
        rw [List.filter_cons_of_neg (by simp [hn])]
        exact hasked
      | told state world hnone =>
        refine ⟨.account a (.ok state) :: asked, by rw [hexchanges, List.append_assoc]; rfl, ?_⟩
        rw [List.filter_cons_of_pos (by simp [hnone])]
        exact .cons ⟨state, rfl, rfl⟩ hasked

/-- **Steps that hand out one nonce to each of some accounts.** -/
theorem Steps.handedOnce (steps : Steps s rs s₁) (once : (rs.map (·.1)).Nodup) :
    HandedOnce s rs s₁ := by
  induction steps with
  | refl => exact .nothing rfl rfl
  | @reserve s s₁ s₂ a n rs first _ ih =>
    rw [List.map_cons, List.nodup_cons] at once
    have hnot : a ∉ rs.map (·.1) := once.1
    exact .cons first (ih once.2) fun r hr heq => hnot (heq ▸ List.mem_map_of_mem hr)
  | outside world _ ih =>
    have hrest := ih once
    exact ⟨hrest.known, hrest.next, hrest.others, hrest.asked⟩

/-! ### Accounts with a nonce, and without -/

/-- What is found of the next nonce of an account: it was known, or else it is what the network
answered when it was first asked about the account. -/
def foundNonce (known : NonceTable) (asked : List Exchange) (a : Address) :
    Option (Except NetworkFault UInt64) :=
  match known.find? a with
  | some n => some (.ok n)
  | none => (answersAbout a asked).head?.map (·.map (·.nonce))

/-- Why an account is left without a nonce: the request for it was not served, or the nonce that is
next is the last one. -/
def shortage (known : NonceTable) (asked : List Exchange) (a : Address) : Option RunError :=
  match foundNonce known asked a with
  | some (.error fault) => some (.network fault)
  | some (.ok n) => if n = lastNonce then some (.noncesExhausted a) else none
  | none => none

/-- The account has been handed the nonce that was found for it, which is not the last one. -/
structure Supplied (known : NonceTable) (asked : List Exchange) (r : Reservation) : Prop where
  found : foundNonce known asked r.1 = some (.ok r.2)
  notLast : r.2 ≠ lastNonce

/-- A reservation comes to this, by what is found of the nonce. -/
def ComesTo (known : NonceTable) (asked : List Exchange) (a : Address) :
    Except RunError UInt64 → Prop
  | .ok n => Supplied known asked (a, n)
  | .error e => shortage known asked a = some e

section

variable {known : NonceTable} {asked : List Exchange}

theorem foundNonce_of_known {n : UInt64} (h : known.find? a = some n) :
    foundNonce known asked a = some (.ok n) := by
  rw [foundNonce, h]

theorem foundNonce_of_asked (h : known.find? a = none)
    (answer : Except NetworkFault AccountState) :
    foundNonce known [.account a answer] a = some (answer.map (·.nonce)) := by
  rw [foundNonce, h, answersAbout_account]
  rfl

/-- What was known of other accounts and asked about them makes no difference. -/
theorem foundNonce_congr {known' : NonceTable} {asked' : List Exchange}
    (hknown : known.find? a = known'.find? a)
    (hasked : answersAbout a asked = answersAbout a asked') :
    foundNonce known asked a = foundNonce known' asked' a := by
  rw [foundNonce, foundNonce, hknown, hasked]

theorem ComesTo.congr {known' : NonceTable} {asked' : List Exchange}
    {r : Except RunError UInt64} (h : ComesTo known asked a r)
    (hknown : known'.find? a = known.find? a)
    (hasked : answersAbout a asked' = answersAbout a asked) : ComesTo known' asked' a r := by
  have hfound := foundNonce_congr hknown hasked
  cases r with
  | ok n => exact ⟨hfound.trans h.found, h.notLast⟩
  | error e =>
    show shortage known' asked' a = some e
    rw [shortage, hfound]
    exact h

end

/-- One reservation asks about its own account only, and comes to what is found. -/
theorem Reserved.comesTo {r : Except RunError UInt64} (step : Reserved a s r s₁) :
    ∃ asked, Asks s s₁ asked ∧ (∀ b, b ≠ a → answersAbout b asked = []) ∧
      ComesTo s.table asked a r := by
  have told : ∀ {r : Except RunError UInt64} {s₁ : Moment (Recorded σ)}
      (answer : Except NetworkFault AccountState),
      s₁.world.exchanges = s.world.exchanges ++ [.account a answer] →
      ComesTo s.table [.account a answer] a r →
      ∃ asked, Asks s s₁ asked ∧ (∀ b, b ≠ a → answersAbout b asked = []) ∧
        ComesTo s.table asked a r := by
    intro r s₁ answer hexchanges hcomes
    exact ⟨_, ⟨hexchanges, by simp⟩, fun b hb => answersAbout_account_ne hb answer, hcomes⟩
  have usedUp : ∀ {asked : List Exchange}, foundNonce s.table asked a = some (.ok lastNonce) →
      ComesTo s.table asked a (.error (.noncesExhausted a)) := by
    intro asked hfound
    show shortage s.table asked a = _
    rw [shortage, hfound]
    exact if_pos rfl
  cases step with
  | granted asked hn =>
    cases asked with
    | known hnext => exact ⟨[], .nothing rfl, fun _ _ => rfl, foundNonce_of_known hnext, hn⟩
    | told state world hnone =>
      exact told (.ok state) rfl ⟨foundNonce_of_asked hnone (.ok state), hn⟩
  | exhausted asked =>
    generalize hlast : lastNonce = last at asked usedUp
    cases asked with
    | known hnext => exact ⟨[], .nothing rfl, fun _ _ => rfl, usedUp (foundNonce_of_known hnext)⟩
    | told state world hnone =>
      exact told (.ok state) rfl (usedUp (foundNonce_of_asked hnone (.ok state)))
  | refused asked =>
    cases asked with
    | refused fault world hnone =>
      refine told (.error fault) rfl ?_
      show shortage s.table _ a = _
      rw [shortage, foundNonce_of_asked hnone]
      rfl

/-- **Accounts that have been handed a nonce are supplied**, if each was handed one only. -/
theorem Steps.supplied (steps : Steps s rs s₁) (once : (rs.map (·.1)).Nodup) :
    ∃ asked, Asks s s₁ asked ∧ (∀ b, b ∉ rs.map (·.1) → answersAbout b asked = []) ∧
      ∀ r ∈ rs, Supplied s.table asked r := by
  induction steps with
  | refl => exact ⟨[], .nothing rfl, fun _ _ => rfl, by simp⟩
  | outside world _ ih =>
    obtain ⟨asked, hasks, hothers, hall⟩ := ih once
    exact ⟨asked, ⟨hasks.exchanges, hasks.accounts⟩, hothers, hall⟩
  | @reserve s s₁ s₂ a n rs first _ ih =>
    rw [List.map_cons, List.nodup_cons] at once
    obtain ⟨one, hasks, hothers, hfirst⟩ := first.comesTo
    obtain ⟨more, hmore, hrest, hall⟩ := ih once.2
    refine ⟨one ++ more, hasks.trans hmore, ?_, ?_⟩
    · intro b hb
      rw [List.map_cons, List.mem_cons, not_or] at hb
      rw [answersAbout_append, hothers b hb.1, hrest b hb.2, List.append_nil]
    · rw [List.forall_mem_cons]
      constructor
      · refine hfirst.congr rfl ?_
        rw [answersAbout_append, hrest a once.1, List.append_nil]
      · intro r hr
        have hne : r.1 ≠ a := ne_of_mem_of_not_mem (List.mem_map_of_mem hr) once.1
        have hsupplied : ComesTo s₁.table more r.1 (.ok r.2) := hall r hr
        refine hsupplied.congr (first.find?_other hne).symm ?_
        rw [answersAbout_append, hothers r.1 hne, List.nil_append]

/-- The next account is left without a nonce, and those before it are supplied. -/
theorem Steps.shortage {s₂ : Moment (Recorded σ)} {e : RunError} (steps : Steps s rs s₁)
    (last : Reserved a s₁ (.error e) s₂) (once : (rs.map (·.1)).Nodup) (fresh : a ∉ rs.map (·.1)) :
    ∃ asked, Asks s s₂ asked ∧ (∀ r ∈ rs, Supplied s.table asked r) ∧
      shortage s.table asked a = some e := by
  obtain ⟨asked, hasks, hothers, hall⟩ := steps.supplied once
  obtain ⟨one, hone, hrest, hlast⟩ := last.comesTo
  refine ⟨asked ++ one, hasks.trans hone, ?_, ?_⟩
  · intro r hr
    have hne : r.1 ≠ a := ne_of_mem_of_not_mem (List.mem_map_of_mem hr) fresh
    have hsupplied : ComesTo s.table asked r.1 (.ok r.2) := hall r hr
    refine hsupplied.congr rfl ?_
    rw [answersAbout_append, hrest r.1 hne, List.append_nil]
  · refine hlast.congr ?_ ?_
    · refine (steps.find?_other ?_).symm
      intro r hr
      exact (ne_of_mem_of_not_mem (List.mem_map_of_mem hr) fresh).symm
    · rw [answersAbout_append, hothers a fresh, List.nil_append]

end ShardClient
