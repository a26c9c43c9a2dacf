/-
Requests to a gateway.

A request goes out once or not at all, and what it is answered depends on nothing but the
reply.  How the data of a reply are read can be changed afterwards: a reading that goes through
another one asks the same and only looks further.
-/
import ShardClient.Proofs.Run.Watching

namespace ShardClient

variable {σ α β : Type}

/-! ### Reading further -/

/-- A reply whose data are looked at further. -/
def Reply.map (f : α → β) (r : Reply α) : Reply β := ⟨r.data.map f, r.error, r.code⟩

theorem Json.nullable?_map (f : α → β) (read : Json → Option α) (v : Json) :
    Json.nullable? (fun v => (read v).map f) v = (Json.nullable? read v).map (·.map f) := by
  cases v with
  | null => rfl
  | _ =>
    simp only [Json.nullable?, Option.map_map]
    rfl

theorem Json.list?_map (f : α → β) (read : Json → Option α) (v : Json) :
    Json.list? (fun v => (read v).map f) v = (Json.list? read v).map (List.map f) := by
  cases v with
  | array items =>
    simp only [Json.list?]
    induction items with
    | nil => rfl
    | cons item items ih =>
      rw [List.mapM_cons, List.mapM_cons, ih]
      cases read item with
      | none => rfl
      | some a => cases items.mapM read <;> rfl
  | _ => rfl

theorem Json.Fields.optional?_map (fields : Json.Fields) (name : String) (f : α → β)
    (read : Json → Option α) :
    fields.optional? name (fun v => (read v).map f)
      = (fields.optional? name read).map (·.map f) := by
  unfold Json.Fields.optional?
  cases fields.given.lookup name with
  | none =>
    by_cases h : fields.byPosition = true
    · simp [h]
    · simp [h]
  | some v => exact Json.nullable?_map f read v

theorem Json.Fields.required?_map (fields : Json.Fields) (name : String) (f : α → β)
    (read : Json → Option α) :
    fields.required? name (fun v => (read v).map f) = (fields.required? name read).map f := by
  unfold Json.Fields.required?
  cases fields.given.lookup name <;> rfl

theorem Json.Fields.defaulted?_map (fields : Json.Fields) (name : String) (f : α → β)
    (default : α) (read : Json → Option α) :
    fields.defaulted? name (f default) (fun v => (read v).map f)
      = (fields.defaulted? name default read).map f := by
  unfold Json.Fields.defaulted?
  cases fields.given.lookup name <;> rfl

/-- A value that may be left out or null. -/
theorem Json.Fields.defaulted?_nullable?_map (fields : Json.Fields) (name : String) (f : α → β)
    (read : Json → Option α) :
    fields.defaulted? name none (Json.nullable? fun v => (read v).map f)
      = (fields.defaulted? name none (Json.nullable? read)).map (·.map f) := by
  rw [funext (Json.nullable?_map f read)]
  exact fields.defaulted?_map name (·.map f) none (Json.nullable? read)

/-- A list that may be left out. -/
theorem Json.Fields.defaulted?_list?_map (fields : Json.Fields) (name : String) (f : α → β)
    (read : Json → Option α) :
    fields.defaulted? name [] (Json.list? fun v => (read v).map f)
      = (fields.defaulted? name [] (Json.list? read)).map (List.map f) := by
  rw [funext (Json.list?_map f read)]
  exact fields.defaulted?_map name (List.map f) [] (Json.list? read)

theorem Reply.ofBody?_map (f : α → β) (read : Json → Option α) (body : Bytes) :
    Reply.ofBody? (fun v => (read v).map f) body = (Reply.ofBody? read body).map (Reply.map f) := by
  unfold Reply.ofBody?
  cases Json.parse? body with
  | none => rfl
  | some v =>
    show Reply.ofJson? _ v = (Reply.ofJson? read v).map _
    unfold Reply.ofJson?
    cases v.fields? ["data", "error", "code"] with
    | none => rfl
    | some fields =>
      simp only [Option.bind_eq_bind, Option.bind_some]
      rw [fields.optional?_map]
      cases fields.optional? "data" read with
      | none => rfl
      | some data =>
        simp only [Option.map_some, Option.bind_some]
        cases fields.defaulted? "error" "" Json.text? with
        | none => rfl
        | some error =>
          simp only [Option.bind_some]
          cases fields.defaulted? "code" "" Json.text? <;> rfl

theorem Reply.answer_map (f : α → β) (url : String) (r : Reply α) :
    (r.map f).answer url = (r.answer url).map f := by
  unfold Reply.answer Reply.map
  cases r.data with
  | none => rfl
  | some data =>
    simp only [Option.map_some]
    split <;> rfl

namespace Gateway

/-- What a request is answered, by its reply. -/
def understand (g : Gateway) (path : String) (target : String) (read : Json → Option α) :
    Option Bytes → Except NetworkFault α
  | none => .error (.http (.noReply target))
  | some reply =>
    match Reply.ofBody? read reply with
    | none => .error (.http .undecodable)
    | some reply => reply.answer (g.address path)

theorem understand_map (g : Gateway) (path target : String) (f : α → β)
    (read : Json → Option α) (reply : Option Bytes) :
    g.understand path target (fun v => (read v).map f) reply
      = (g.understand path target read reply).map f := by
  unfold understand
  cases reply with
  | none => rfl
  | some body =>
    simp only [Reply.ofBody?_map]
    cases Reply.ofBody? read body with
    | none => rfl
    | some r => exact Reply.answer_map f _ r

section

variable {m : Type → Type} [Monad m] {g : Gateway} {transport : Transport m}
  {path : String} {body : Option Bytes} {read : Json → Option α}

theorem request_noAddress (h : (Url.read? (g.address path)).map Url.forRequest = none) :
    g.request transport path body read = pure (.error (.http .noAddress)) := by
  unfold request
  simp only [h]

theorem request_notHttp {target : Url}
    (h : (Url.read? (g.address path)).map Url.forRequest = some target)
    (hnot : target.isAskable = false) :
    g.request transport path body read = pure (.error (.http (.notHttp target.text))) := by
  unfold request
  simp only [h, hnot]
  rfl

/-- A request that goes out is answered as its reply is understood. -/
theorem request_made [LawfulMonad m] {target : Url}
    (h : (Url.read? (g.address path)).map Url.forRequest = some target)
    (hask : target.isAskable = true) :
    g.request transport path body read
      = g.understand path target.text read <$> transport.exchange ⟨target.text, body⟩ := by
  unfold request
  simp only [h, hask, Bool.not_true, Bool.false_eq_true, if_false, map_eq_pure_bind]
  congr 1
  funext reply
  cases reply with
  | none => rfl
  | some reply =>
    simp only [understand]
    cases Reply.ofBody? read reply <;> rfl

/-- **A further look at the data changes nothing else.** -/
theorem request_map [LawfulMonad m] (f : α → β) :
    g.request transport path body (fun v => (read v).map f)
      = (fun answer => answer.map f) <$> g.request transport path body read := by
  cases htarget : (Url.read? (g.address path)).map Url.forRequest with
  | none =>
    rw [request_noAddress htarget, request_noAddress htarget, map_pure]
    rfl
  | some target =>
    cases hask : target.isAskable with
    | false =>
      rw [request_notHttp htarget hask, request_notHttp htarget hask, map_pure]
      rfl
    | true =>
      rw [request_made htarget hask, request_made htarget hask, Functor.map_map]
      congr 1
      funext reply
      exact understand_map g path target.text f read reply

end

/-! ### Requests that are watched -/

/-- What comes of a request, and the exchanges that it makes: one at most. -/
inductive Requested (g : Gateway) (path : String) (body : Option Bytes) (read : Json → Option α) :
    Except NetworkFault α → List HttpExchange → Prop
  | noAddress (h : (Url.read? (g.address path)).map Url.forRequest = none) :
    Requested g path body read (.error (.http .noAddress)) []
  | notHttp {target : Url} (h : (Url.read? (g.address path)).map Url.forRequest = some target)
    (hnot : target.isAskable = false) :
    Requested g path body read (.error (.http (.notHttp target.text))) []
  | made {target : Url} (h : (Url.read? (g.address path)).map Url.forRequest = some target)
    (hask : target.isAskable = true) (reply : Option Bytes) :
    Requested g path body read (g.understand path target.text read reply)
      [⟨⟨target.text, body⟩, reply⟩]

/-- A request that is answered with data has been made, and has got a reply. -/
theorem Requested.of_ok {g : Gateway} {path : String} {body : Option Bytes}
    {read : Json → Option α} {a : α} {xs : List HttpExchange}
    (h : Requested g path body read (.ok a) xs) :
    ∃ url reply, xs = [⟨⟨url, body⟩, some reply⟩] := by
  generalize hanswer : (Except.ok a : Except NetworkFault α) = answer at h
  cases h with
  | noAddress => simp at hanswer
  | notHttp => simp at hanswer
  | @made target h hask reply =>
    cases reply with
    | none => simp [understand] at hanswer
    | some reply => exact ⟨target.text, reply, rfl⟩

/-- A request whose data are looked at further is answered as without the further look. -/
theorem Requested.of_map {g : Gateway} {path : String} {body : Option Bytes}
    {read : Json → Option α} {f : α → β} {b : β} {xs : List HttpExchange}
    (h : Requested g path body (fun v => (read v).map f) (.ok b) xs) :
    ∃ a, b = f a ∧ Requested g path body read (.ok a) xs := by
  generalize hanswer : (Except.ok b : Except NetworkFault β) = answer at h
  cases h with
  | noAddress => simp at hanswer
  | notHttp => simp at hanswer
  | @made target htarget hask reply =>
    rw [understand_map] at hanswer
    have hmade : Requested g path body read (g.understand path target.text read reply)
        [⟨⟨target.text, body⟩, reply⟩] := .made htarget hask reply
    cases hread : g.understand path target.text read reply with
    | error fault => simp [hread, Except.map] at hanswer
    | ok a =>
      rw [hread] at hanswer hmade
      exact ⟨a, Except.ok.inj hanswer, hmade⟩

/-- **A request is one exchange at most**, and answered as without being watched. -/
theorem requested_request (g : Gateway) (o : Outside (StateM σ)) (path : String)
    (body : Option Bytes) (read : Json → Option α) (w : Watched HttpExchange σ) :
    ∃ xs, Requested g path body read ((g.request o.transport path body read).run w.world).1 xs ∧
      Shows (g.request o.watched.transport path body read) w
        ((g.request o.transport path body read).run w.world).1 (xs.map .exchange) := by
  cases htarget : (Url.read? (g.address path)).map Url.forRequest with
  | none =>
    rw [request_noAddress htarget, request_noAddress htarget]
    exact ⟨[], .noAddress htarget, shows_pure _ w⟩
  | some target =>
    cases hask : target.isAskable with
    | false =>
      rw [request_notHttp htarget hask, request_notHttp htarget hask]
      exact ⟨[], .notHttp htarget hask, shows_pure _ w⟩
    | true =>
      rw [request_made htarget hask, request_made htarget hask]
      exact ⟨_, .made htarget hask _, _, rfl⟩

end Gateway

end ShardClient
