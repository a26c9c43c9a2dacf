/-
Transactions as a gateway writes them.

Reading a reply about a transaction takes two steps at once: its members are found, and what
they stand for is worked out, so that events from many logs end up in one list and a topic that
is not base64 is already an empty one.  Here the steps come apart.  What is written is read
first, as it stands; that reading it this way and working it out afterwards comes to the same
is proved reader by reader, down from the reply to the single event.  Which token an outcome
announces can then be said of what is written.
-/
import ShardClient.Issuance
import ShardClient.Proofs.Gateway.Request

namespace ShardClient

namespace Reply

/-! ### What is written -/

/-- An event as it is written. -/
structure WrittenEvent where
  address : Option String
  identifier : String
  topics : Option (List String)
  deriving DecidableEq

/-- A transaction as it is written. -/
structure WrittenTransaction where
  hash : Option String
  status : String
  log : Option (List WrittenEvent)
  /-- The logs of the contracts that were called. -/
  contractLogs : List (Option (List WrittenEvent))
  deriving DecidableEq

/-- Reads an event as it is written. -/
def writtenEvent? (v : Json) : Option WrittenEvent := do
  let f ← v.fields? ["address", "identifier", "topics"]
  let address ← f.defaulted? "address" none (Json.nullable? Json.text?)
  let identifier ← f.required? "identifier" Json.text?
  let topics ← f.defaulted? "topics" none (Json.nullable? (Json.list? Json.text?))
  some ⟨address, identifier, topics⟩

/-- Reads the events of a log as they are written. -/
def writtenLog? (v : Json) : Option (List WrittenEvent) := do
  let f ← v.fields? ["events"]
  f.defaulted? "events" [] (Json.list? writtenEvent?)

/-- Reads the events of a contract as they are written. -/
def writtenContractLog? (v : Json) : Option (Option (List WrittenEvent)) := do
  let f ← v.fields? ["logs"]
  f.defaulted? "logs" none (Json.nullable? writtenLog?)

/-- Reads a transaction as it is written. -/
def writtenTransaction? (v : Json) : Option WrittenTransaction := do
  let f ← v.fields? ["transaction"]
  f.required? "transaction" fun v => do
    let f ← v.fields? ["hash", "status", "logs", "smartContractResults"]
    let hash ← f.defaulted? "hash" none (Json.nullable? Json.text?)
    let status ← f.required? "status" Json.text?
    let log ← f.defaulted? "logs" none (Json.nullable? writtenLog?)
    let contractLogs ← f.defaulted? "smartContractResults" [] (Json.list? writtenContractLog?)
    some ⟨hash, status, log, contractLogs⟩

/-! ### What it stands for -/

/-- The bytes of a topic. -/
def topicBytes (topic : String) : Bytes := (Base64.decode? topic).getD []

namespace WrittenEvent

/-- The event that is meant. -/
def event (e : WrittenEvent) : Event where
  address := e.address.bind fun text => (Address.ofText text).toOption
  identifier := e.identifier
  topics := (e.topics.getD []).map topicBytes

/-- The event is one of issuance, and this is its first topic. -/
def Issues (e : WrittenEvent) (topic : String) : Prop :=
  e.identifier = "issue" ∧ ∃ more, e.topics = some (topic :: more)

end WrittenEvent

namespace WrittenTransaction

/-- The transaction with its events worked out. -/
def record (t : WrittenTransaction) : TransactionRecord where
  hash := t.hash
  status := t.status
  log := t.log.map (·.map WrittenEvent.event)
  contractLogs := t.contractLogs.map (·.map (·.map WrittenEvent.event))

/-- The events of a transaction: first its own, then those of the contracts in order. -/
def events (t : WrittenTransaction) : List WrittenEvent :=
  t.log.getD [] ++ t.contractLogs.flatMap (·.getD [])

/-- The token that the transaction announces: the first event of issuance that has a topic names
it by the first of its topics. -/
def Announces (t : WrittenTransaction) (identifier : String) : Prop :=
  ∃ before e after topic, t.events = before ++ e :: after ∧
    (∀ x ∈ before, ∀ other, ¬x.Issues other) ∧ e.Issues topic ∧
      identifier = Utf8.decodeLossy (topicBytes topic)

end WrittenTransaction

/-! ### Reading in two steps -/

theorem event?_eq : event? = fun v => (writtenEvent? v).map WrittenEvent.event := by
  funext v
  unfold event? writtenEvent?
  simp only [Option.bind_eq_bind, Option.map_bind, Function.comp_def, Option.map_some]
  rfl

theorem log?_eq : log? = fun v => (writtenLog? v).map (·.map WrittenEvent.event) := by
  funext v
  unfold log? writtenLog?
  rw [event?_eq]
  simp only [Option.bind_eq_bind, Option.map_bind, Function.comp_def,
    Json.Fields.defaulted?_list?_map]

theorem contractLog?_eq :
    contractLog? = fun v => (writtenContractLog? v).map (·.map (·.map WrittenEvent.event)) := by
  funext v
  unfold contractLog? writtenContractLog?
  rw [log?_eq]
  simp only [Option.bind_eq_bind, Option.map_bind, Function.comp_def,
    Json.Fields.defaulted?_nullable?_map]

/-- **A transaction is read by reading what is written and then working it out.** -/
theorem transaction?_eq :
    transaction? = fun v => (writtenTransaction? v).map WrittenTransaction.record := by
  funext v
  unfold transaction? writtenTransaction?
  rw [log?_eq, contractLog?_eq]
  simp only [Option.bind_eq_bind, Option.map_bind, Function.comp_def, ← Json.Fields.required?_map,
    Json.Fields.defaulted?_nullable?_map, Json.Fields.defaulted?_list?_map, Option.bind_map,
    Option.map_some]
  rfl

/-! ### The token that is announced -/

namespace WrittenEvent

/-- The name that an event gives to a token, if it is one of issuance and has a topic. -/
def announced? (e : WrittenEvent) : Option String :=
  if e.event.identifier == "issue" then e.event.topics.head?.map Utf8.decodeLossy else none

variable {e : WrittenEvent}

theorem announced?_eq_some {identifier : String} :
    e.announced? = some identifier ↔
      ∃ topic, e.Issues topic ∧ identifier = Utf8.decodeLossy (topicBytes topic) := by
  obtain ⟨address, kind, topics⟩ := e
  unfold announced? Issues
  by_cases hkind : kind = "issue"
  · rcases topics with _ | _ | ⟨topic, more⟩
    · simp [event]
    · simp [event]
    · simp [event, hkind, eq_comm]
  · simp [event, hkind]

theorem announced?_eq_none : e.announced? = none ↔ ∀ topic, ¬e.Issues topic := by
  rw [Option.eq_none_iff_forall_ne_some]
  constructor
  · intro hnone topic hissues
    exact hnone _ (announced?_eq_some.2 ⟨topic, hissues, rfl⟩)
  · intro hnot identifier hsome
    obtain ⟨topic, hissues, -⟩ := announced?_eq_some.1 hsome
    exact hnot topic hissues

end WrittenEvent

namespace WrittenTransaction

variable (t : WrittenTransaction)

/-- Going through the events finds the token that is announced. -/
theorem findSome?_announced? {identifier : String} :
    t.events.findSome? WrittenEvent.announced? = some identifier ↔ t.Announces identifier := by
  rw [List.findSome?_eq_some_iff]
  simp only [WrittenEvent.announced?_eq_some, WrittenEvent.announced?_eq_none]
  constructor
  · rintro ⟨before, e, after, hevents, ⟨topic, hissues, hidentifier⟩, hbefore⟩
    exact ⟨before, e, after, topic, hevents, hbefore, hissues, hidentifier⟩
  · rintro ⟨before, e, after, topic, hevents, hbefore, hissues, hidentifier⟩
    exact ⟨before, e, after, hevents, ⟨topic, hissues, hidentifier⟩, hbefore⟩

/-- A token is announced if there is an event of issuance with a topic. -/
theorem exists_announces :
    (∃ identifier, t.Announces identifier) ↔ ∃ e ∈ t.events, ∃ topic, e.Issues topic := by
  simp only [← findSome?_announced?]
  rw [← Option.isSome_iff_exists, List.findSome?_isSome_iff]
  simp only [Option.isSome_iff_exists, WrittenEvent.announced?_eq_some]
  constructor
  · rintro ⟨e, he, identifier, topic, hissues, -⟩
    exact ⟨e, he, topic, hissues⟩
  · rintro ⟨e, he, topic, hissues⟩
    exact ⟨e, he, _, topic, hissues, rfl⟩

/-- The events of the outcome are those that are written, in the same order. -/
theorem events_outcome (hash : String) :
    (t.record.outcome hash).events = t.events.map WrittenEvent.event := by
  obtain ⟨-, -, log, contractLogs⟩ := t
  have hlog (log : Option (List WrittenEvent)) :
      (log.map (·.map WrittenEvent.event)).getD [] = (log.getD []).map WrittenEvent.event := by
    cases log <;> rfl
  simp only [TransactionRecord.outcome, record, events, List.map_cons, List.flatten_cons,
    List.map_map, List.map_append, List.map_flatten, List.flatMap_def, Function.comp_def, hlog]

/-- **The first identifier of an outcome is the one that is announced.** -/
theorem head?_identifiers (hash : String) {identifier : String} :
    (Issuance.identifiers (t.record.outcome hash)).head? = some identifier ↔
      t.Announces identifier := by
  have hall : Issuance.identifiers (t.record.outcome hash)
      = t.events.filterMap WrittenEvent.announced? := by
    unfold Issuance.identifiers
    rw [events_outcome, List.filterMap_filter, List.filterMap_map]
    rfl
  rw [hall, List.head?_filterMap, findSome?_announced?]

/-- Events that announce nothing are passed over, and a topic that is not base64 is an empty
one. -/
example :
    let skipped : List WrittenEvent := [⟨none, "writeLog", none⟩, ⟨none, "issue", some []⟩]
    let issues : List WrittenEvent := [⟨none, "issue", some ["Uk9TRVRUQS0xMjM0NTY=", "?"]⟩]
    let unnamed : List WrittenEvent := [⟨none, "issue", some ["?", "Uk9TRVRUQS0xMjM0NTY="]⟩]
    let late : WrittenTransaction := ⟨none, "success", some skipped, [none, some issues]⟩
    let early : WrittenTransaction := ⟨none, "success", some unnamed, [some issues]⟩
    Issuance.identifiers (late.record.outcome "") = ["ROSETTA-123456"] ∧
      Issuance.identifiers (early.record.outcome "") = ["", "ROSETTA-123456"] := by
  decide +kernel

end WrittenTransaction

end Reply

end ShardClient
