/-
A network behind a gateway that is asked over HTTP.

The client makes requests and reads replies; how they are carried is a transport, given from
outside.  An outcome that looks at the processing takes two requests, and the second one is
made only after the first has succeeded.
-/
import ShardClient.Gateway.Reply
import ShardClient.Host
import ShardClient.Text.Slash
import ShardClient.Url.Basic

namespace ShardClient

/-- A request.  One with a body posts it. -/
structure HttpRequest where
  url : String
  body : Option Bytes

/-- The method of a request. -/
def HttpRequest.method (r : HttpRequest) : String := if r.body.isSome then "POST" else "GET"

/-- A way to carry requests: the body of the reply, or nothing if there is none. -/
structure Transport (m : Type → Type) where
  exchange : HttpRequest → m (Option Bytes)

/-- The transport of a machine without a connection: no request gets a reply. -/
def Transport.disconnected {m : Type → Type} [Monad m] : Transport m := ⟨fun _ => pure none⟩

/-- A gateway, by its address without slashes at its end. -/
structure Gateway where
  url : String
  deriving DecidableEq

namespace Gateway

/-- The gateway with the given address. -/
def ofUrl (url : String) : Gateway := ⟨withoutSlashes url⟩

/-- The address of something that the gateway offers. -/
def address (g : Gateway) (path : String) : String := g.url ++ "/" ++ path

variable {m : Type → Type} [Monad m] {α : Type}

/-- Makes a request and reads the data of its reply. -/
def request (g : Gateway) (transport : Transport m) (path : String) (body : Option Bytes)
    (read : Json → Option α) : m (Except NetworkFault α) := do
  let url := g.address path
  match (Url.read? url).map Url.forRequest with
  | none => pure (.error (.http .noAddress))
  | some target =>
    if !target.isAskable then pure (.error (.http (.notHttp target.text)))
    else
      match ← transport.exchange ⟨target.text, body⟩ with
      | none => pure (.error (.http (.noReply target.text)))
      | some reply =>
        match Reply.ofBody? read reply with
        | none => pure (.error (.http .undecodable))
        | some reply => pure (reply.answer url)

/-- Asks for an account. -/
def account (g : Gateway) (transport : Transport m) (a : Address) :
    m (Except NetworkFault AccountState) := do
  let path := "address/" ++ a.text
  match ← g.request transport path none Reply.account? with
  | .error e => pure (.error e)
  | .ok data => pure (data.state path)

/-- Sends a transaction. -/
def submit (g : Gateway) (transport : Transport m) (t : Signed) : m (Except NetworkFault String) :=
  g.request transport "transaction/send" (some t.wire) Reply.hash?

/-- Logs the hashes that have no place in a batch. -/
def logStray (log : LogLine → m Unit) : List (String × String) → m Unit
  | [] => pure ()
  | (name, hash) :: rest => do
    log ⟨.warn, "ignoring hash " ++ hash ++ " under unexpected index " ++ Quoted.text name⟩
    logStray log rest

/-- Sends transactions at once. -/
def submitBatch (g : Gateway) (transport : Transport m) (log : LogLine → m Unit)
    (ts : List Signed) : m (Except NetworkFault (List (Option String))) := do
  let body := (Json.array (Signed.jsonList ts)).print
  match ← g.request transport "transaction/send-multiple" (some body) Reply.hashes? with
  | .error e => pure (.error e)
  | .ok hashes =>
    logStray log (Reply.stray ts.length hashes)
    pure (.ok (Reply.spread ts.length hashes))

/-- Asks for the outcome of a transaction, and on demand for its processing. -/
def outcome (g : Gateway) (transport : Transport m) (hash : String) (processStatus : Bool) :
    m (Except NetworkFault Outcome) := do
  match ← g.request transport ("transaction/" ++ hash ++ "?withResults=true") none
      Reply.transaction? with
  | .error e => pure (.error e)
  | .ok data =>
    let outcome := data.outcome hash
    if processStatus then
      match ← g.request transport ("transaction/" ++ hash ++ "/process-status") none
          Reply.status? with
      | .error e => pure (.error e)
      | .ok status => pure (.ok { outcome with status := status })
    else pure (.ok outcome)

/-- The network behind a gateway. -/
def network (g : Gateway) (transport : Transport m) (log : LogLine → m Unit) : Network m where
  account := g.account transport
  submit := g.submit transport
  submitBatch := g.submitBatch transport log
  outcome := g.outcome transport

end Gateway

end ShardClient
