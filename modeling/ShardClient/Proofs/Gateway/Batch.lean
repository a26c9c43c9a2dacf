/-
Batches that are sent over a gateway.

The reply is a map, and what it names is brought together with the transactions twice: the hashes
are put in slots by their places, and the slots are paired with the transactions.  That nothing
gets out of step is stated by places: a transaction that is accepted stands in the batch at a
place that the map names, with the hash that the map has for just this place.
-/
import ShardClient.Proofs.Gateway.Places
import ShardClient.Proofs.Gateway.Request
import ShardClient.Proofs.Submission.Handing

namespace ShardClient

variable {σ α β : Type}

/-! ### Reading the reply -/

/-- Reads the hashes of transactions that were sent at once, as they stand in the reply. -/
def Reply.listed? (v : Json) : Option (List (String × String)) := do
  let f ← v.fields? ["numOfSentTxs", "txsHashes"]
  let _ ← f.defaulted? "numOfSentTxs" 0 (Json.nat? UInt64.size)
  f.defaulted? "txsHashes" [] (Json.entries? Json.text?)

theorem Reply.hashes?_eq (v : Json) : Reply.hashes? v = (Reply.listed? v).map Json.sorted := by
  unfold Reply.hashes? Reply.listed?
  cases v.fields? ["numOfSentTxs", "txsHashes"] with
  | none => rfl
  | some fields =>
    simp only [Option.bind_eq_bind, Option.bind_some]
    cases fields.defaulted? "numOfSentTxs" 0 (Json.nat? UInt64.size) with
    | none => rfl
    | some count =>
      simp only [Option.bind_some]
      unfold Json.Fields.defaulted?
      cases fields.given.lookup "txsHashes" with
      | none => rfl
      | some v => exact Json.map?_eq Json.text? v

/-- The entries in the reply of the gateway to a batch: an error if the reply is not that of a
success. -/
def Gateway.listed {m : Type → Type} [Monad m] (g : Gateway) (transport : Transport m)
    (ts : List Signed) : m (Except NetworkFault (List (String × String))) :=
  g.request transport "transaction/send-multiple" (some (Json.array (Signed.jsonList ts)).print)
    Reply.listed?

/-! ### Picking from a list -/

/-- The line that reports a hash as one without a place. -/
def strayLine (e : String × String) : LogLine :=
  ⟨.warn, "ignoring hash " ++ e.2 ++ " under unexpected index " ++ Quoted.text e.1⟩

/-- The hashes of a reply that have no place in a batch, by their keys. -/
structure Strays (count : Nat) (entries strays : List (String × String)) : Prop where
  increasing : Json.Increasing strays
  mem : ∀ key hash, (key, hash) ∈ strays ↔
    Json.under entries key = some hash ∧ ∀ place < count, ¬Reply.Names key place

theorem strays_stray (count : Nat) (entries : List (String × String)) :
    Strays count entries (Reply.stray count (Json.sorted entries)) := by
  unfold Reply.stray
  refine ⟨(Json.increasing_sorted entries).filter _, ?_⟩
  intro key hash
  rw [List.mem_filter, Json.mem_sorted, Option.isNone_iff_eq_none, Option.eq_none_iff_forall_ne_some]
  refine and_congr_right fun _ => ?_
  constructor
  · intro h place hplace hnames
    exact h place (Reply.place?_eq_some.2 ⟨hnames, hplace⟩)
  · intro h place hplace
    obtain ⟨hnames, hlt⟩ := Reply.place?_eq_some.1 hplace
    exact h place hlt hnames

theorem shows_logStray (o : Outside (StateM σ)) (strays : List (String × String))
    (w : Watched HttpExchange σ) :
    Shows (Gateway.logStray o.watched.log strays) w () (strays.map fun e => .line (strayLine e)) := by
  induction strays generalizing w with
  | nil => exact shows_pure () w
  | cons e strays ih =>
    have hline := shows_watch (fun _ => Occurrence.line (strayLine e)) (o.log (strayLine e)) w
    obtain ⟨world, hrest⟩ := hline.bind Unit
    exact hrest (ih ⟨world, _⟩)

/-- The hashes are asked for as their entries are, and then sorted. -/
theorem shows_hashes (g : Gateway) (o : Outside (StateM σ)) (ts : List Signed)
    (w : Watched HttpExchange σ) :
    let body := some (Json.array (Signed.jsonList ts)).print
    let answer := ((g.listed o.transport ts).run w.world).1
    ∃ xs, g.Requested "transaction/send-multiple" body Reply.listed? answer xs ∧
      Shows (g.request o.watched.transport "transaction/send-multiple" body Reply.hashes?) w
        (answer.map Json.sorted) (xs.map .exchange) := by
  intro body answer
  obtain ⟨xs, hrequested, hshows⟩ := Gateway.requested_request g o "transaction/send-multiple" body
    Reply.listed? w
  refine ⟨xs, hrequested, ?_⟩
  rw [show Reply.hashes? = fun v => (Reply.listed? v).map Json.sorted from funext Reply.hashes?_eq,
    Gateway.request_map]
  exact hshows.map fun answer => answer.map Json.sorted

/-- A batch is one request, and what comes of it are the slots; hashes without a place are
logged. -/
theorem shows_submitBatch (g : Gateway) (o : Outside (StateM σ)) (ts : List Signed)
    (w : Watched HttpExchange σ) :
    let answer := ((g.listed o.transport ts).run w.world).1
    ∃ xs strays, Shows ((o.watched.host g).network.submitBatch ts) w
        (answer.map fun entries => Reply.spread ts.length (Json.sorted entries))
        (xs.map .exchange ++ strays.map fun e => .line (strayLine e)) ∧
      ∀ entries, answer = .ok entries → Strays ts.length entries strays ∧ ∃ x, xs = [x] := by
  intro answer
  obtain ⟨xs, hrequested, hshows⟩ := shows_hashes g o ts w
  obtain ⟨world, hthen⟩ := hshows.bind (Except NetworkFault (List (Option String)))
  change Gateway.Requested g _ _ _ answer xs at hrequested
  rw [show ((g.listed o.transport ts).run w.world).1 = answer from rfl] at hthen
  generalize answer = answer at hrequested hthen
  cases answer with
  | error e => exact ⟨xs, [], hthen (shows_pure _ _), by simp⟩
  | ok entries =>
    have hstrays := strays_stray ts.length entries
    obtain ⟨url, reply, hx⟩ := hrequested.of_ok
    obtain ⟨after, hlast⟩ := (shows_logStray o (Reply.stray ts.length (Json.sorted entries))
      ⟨world, _⟩).bind (Except NetworkFault (List (Option String)))
    refine ⟨xs, Reply.stray ts.length (Json.sorted entries), hthen ?_, ?_⟩
    · rw [← List.append_nil (List.map _ (Reply.stray ts.length (Json.sorted entries)))]
      exact hlast (shows_pure _ _)
    · rintro _ ⟨⟩
      exact ⟨hstrays, _, hx⟩

/-- Logging lines is all that happens then. -/
theorem happens_logged (g : Gateway) (o : Outside (StateM σ)) (lines : List LogLine)
    (s : Moment (Watched HttpExchange σ)) :
    Happens s (lines.map .line) (s.logged (o.watched.host g) lines) := by
  induction lines generalizing s with
  | nil => exact .nothing s
  | cons line lines ih =>
    have hline : Happens s [.line line] (s.after ((o.watched.host g).log line)) := ⟨rfl, rfl⟩
    exact hline.trans (ih _)

/-- A batch with a successful reply is paired with its slots. -/
theorem run_sendBatch (courier : Courier) (g : Gateway) (o : Outside (StateM σ))
    (ts : List Signed) (s : Moment (Watched HttpExchange σ)) {entries : List (String × String)}
    (h : ((g.listed o.transport ts).run s.world.world).1 = .ok entries) :
    let pairs := ts.zip (Reply.spread ts.length (Json.sorted entries))
    ∃ strays request s₁, Run.runFrom (courier.sendBatch (o.watched.host g) ts) s
        = (.ok (pairs.filterMap acceptedOf), s₁) ∧
      Strays ts.length entries strays ∧
      Happens s ([.exchange request] ++ strays.map (fun e => .line (strayLine e)) ++
        (pairs.filterMap rejectedOf).map (fun t => .line (rejection t)) ++
        [.line (sentLine (pairs.filterMap acceptedOf).length ts.length)]) s₁ := by
  intro pairs
  obtain ⟨xs, strays, ⟨world, hrun⟩, hok⟩ := shows_submitBatch g o ts s.world
  obtain ⟨hstrays, request, rfl⟩ := hok entries h
  rw [courier.run_sendBatch, hrun, h]
  refine ⟨strays, request, _, rfl, hstrays, ?_⟩
  have hasked : Happens s ([.exchange request] ++ strays.map fun e => .line (strayLine e))
      ⟨s.table, world, s.world.seen ++ _⟩ := ⟨rfl, rfl⟩
  have hall := hasked.trans (happens_logged g o ((pairs.filterMap rejectedOf).map rejection ++
    [sentLine (pairs.filterMap acceptedOf).length ts.length]) _)
  rw [List.map_append, List.map_map, ← List.append_assoc] at hall
  exact hall

end ShardClient
