/-
Faults of the configuration come to light before anything is asked.

Before a command works it sets up a workbench, and for this it reads files and nothing else.  What
comes of that does not depend on the network: it is a function of the files.  If it is an error then
the command ends there, with nothing but lines of the log behind it.  If it is a workbench, then it
has a currency wherever one is needed, and what the command does on it blames the configuration
no more.
-/
import ShardClient.Proofs.CommandLine.Performing
import ShardClient.Proofs.Run.Forgetting

namespace ShardClient

variable {ε σ α β : Type}

/-! ### Actions that only log -/

/-- The action returns `a`, and all that happens is that lines are written to the log. -/
def Logs (action : StateM (Watched ε σ) α) (a : α) : Prop :=
  ∀ w, ∃ lines : List LogLine, Shows action w a (lines.map .line)

theorem logs_pure (a : α) : Logs (pure a : StateM (Watched ε σ) α) a :=
  fun w => ⟨[], shows_pure a w⟩

theorem Logs.bind {x : StateM (Watched ε σ) α} {f : α → StateM (Watched ε σ) β} {a : α} {b : β}
    (hx : Logs x a) (hf : Logs (f a) b) : Logs (x >>= f) b := by
  intro w
  obtain ⟨lines, hfirst⟩ := hx w
  obtain ⟨world, hbind⟩ := hfirst.bind β
  obtain ⟨more, hrest⟩ := hf ⟨world, w.seen ++ lines.map .line⟩
  refine ⟨lines ++ more, ?_⟩
  rw [List.map_append]
  exact hbind hrest

theorem exchangesOf_lines (lines : List LogLine) :
    exchangesOf (lines.map .line : List (Occurrence ε)) = [] := by
  simp [exchangesOf, Occurrence.exchange?]

/-! ### What can be wrong with files -/

section

variable {τ γ δ : Type} {e : ε}

theorem bind_ne_error {x : Except ε γ} {f : γ → Except ε δ} (hx : x ≠ .error e)
    (hf : ∀ a, f a ≠ .error e) : x >>= f ≠ .error e := by
  cases x with
  | error fault =>
    intro h
    exact hx (congrArg _ (Except.error.inj h))
  | ok a => exact hf a

theorem mapError_ne_error {wrap : τ → ε} (h : ∀ fault, wrap fault ≠ e) (x : Except τ γ) :
    x.mapError wrap ≠ .error e := by
  cases x with
  | error fault =>
    intro heq
    exact h fault (Except.error.inj heq)
  | ok a => exact nofun

end

namespace FileStore

variable (files : FileStore) (path : String)

/-- A file may be unreadable or not of the expected form; what follows from its content is another
matter. -/
theorem readJson_ne_missingCurrency (read : Json → Option α) :
    files.readJson path read ≠ .error .missingCurrency := by
  unfold readJson
  split
  · simp
  · split <;> simp

theorem readConfiguration_ne_missingCurrency (name : String) :
    files.readConfiguration path name ≠ .error .missingCurrency := by
  refine bind_ne_error (readJson_ne_missingCurrency files path _) fun all => ?_
  split <;> simp

theorem readCurrency_ne_missingCurrency :
    files.readCurrency path ≠ .error .missingCurrency := by
  refine bind_ne_error (readJson_ne_missingCurrency files path _) fun symbols => ?_
  split <;> simp

end FileStore

namespace Registry

theorem readContracts_ne_missingCurrency (texts : List String) :
    readContracts texts ≠ .error .missingCurrency := by
  induction texts with
  | nil => simp [readContracts]
  | cons text texts ih =>
    unfold readContracts
    split
    · simp
    · intro h
      cases hrest : readContracts texts with
      | error fault =>
        rw [hrest] at h ih
        exact ih (congrArg _ (Except.error.inj h))
      | ok addresses =>
        rw [hrest] at h
        cases h

theorem ofConfiguration_ne_missingCurrency (scheme : SignatureScheme) (c : Configuration) :
    ofConfiguration scheme c ≠ .error .missingCurrency := by
  refine bind_ne_error (mapError_ne_error nofun _) fun sponsor => ?_
  refine bind_ne_error (mapError_ne_error nofun _) fun mnemonic => ?_
  exact bind_ne_error (readContracts_ne_missingCurrency _) fun contracts => nofun

end Registry

/-! ### The workbench -/

namespace Workbench

/-- The currency that a file names, if it does, or if there has to be one. -/
def currency (files : FileStore) (path : String) (needed : Bool) :
    Except ConfigurationError (Option String) :=
  match files.readCurrency path with
  | .ok symbol => .ok (some symbol)
  | .error e => if needed then .error e else .ok none

/-- The workbench that a configuration describes. -/
def described (scheme : SignatureScheme) (files : FileStore) (c : Configuration)
    (currencyNeeded : Bool) : Except ConfigurationError Workbench := do
  let registry ← Registry.ofConfiguration scheme c
  let currency ← currency files c.currenciesFile currencyNeeded
  pure
    { composer :=
        { registry := registry
          fees := c.fees
          files := files
          contractsDir := c.contractsDir
          currency := currency }
      courier := Courier.ofUrl c.explorerUrl {} }

/-- That a currency is missing is not said here. -/
theorem described_ne_missingCurrency (scheme : SignatureScheme) (files : FileStore)
    (c : Configuration) (needed : Bool) :
    described scheme files c needed ≠ .error .missingCurrency := by
  refine bind_ne_error (Registry.ofConfiguration_ne_missingCurrency scheme c) fun registry => ?_
  refine bind_ne_error ?_ fun found => nofun
  have hread := files.readCurrency_ne_missingCurrency c.currenciesFile
  unfold currency
  cases hfile : files.readCurrency c.currenciesFile with
  | ok symbol => exact nofun
  | error e =>
    rw [hfile] at hread
    cases needed with
    | true => exact fun h => hread (congrArg _ (Except.error.inj h))
    | false => exact nofun

section

variable (scheme : SignatureScheme) (o : Outside (StateM σ)) (g : Gateway) (files : FileStore)

theorem logs_info (text : String) : Logs ((o.watched.host g).info text) () :=
  fun w => ⟨[⟨.info, text⟩], shows_watch (fun _ => .line _) (o.log _) w⟩

theorem logs_warn (text : String) : Logs ((o.watched.host g).warn text) () :=
  fun w => ⟨[⟨.warn, text⟩], shows_watch (fun _ => .line _) (o.log _) w⟩

theorem logs_openCurrency (path : String) (needed : Bool) :
    Logs (openCurrency (o.watched.host g) files path needed)
      ((currency files path needed).mapError .configuration) := by
  unfold openCurrency currency
  cases files.readCurrency path with
  | ok symbol => exact (logs_info o g _).bind (logs_pure _)
  | error e =>
    cases needed with
    | true => exact logs_pure _
    | false => exact (logs_warn o g _).bind (logs_pure _)

theorem logs_ofConfiguration (c : Configuration) (currencyNeeded : Bool) :
    Logs (ofConfiguration scheme (o.watched.host g) files c currencyNeeded)
      ((described scheme files c currencyNeeded).mapError .configuration) := by
  unfold ofConfiguration described
  cases Registry.ofConfiguration scheme c with
  | error e => exact logs_pure _
  | ok registry =>
    refine (logs_info o g _).bind ?_
    refine (logs_openCurrency o g files c.currenciesFile currencyNeeded).bind ?_
    cases hcurrency : currency files c.currenciesFile currencyNeeded with
    | error e => exact logs_pure _
    | ok currency => exact logs_pure _

theorem logs_overGateway (c : Configuration) (currencyNeeded : Bool) :
    Logs (overGateway scheme o.watched files c currencyNeeded)
      (o.watched.host (Gateway.ofUrl c.proxyUrl),
        (described scheme files c currencyNeeded).mapError .configuration) :=
  (logs_info o _ _).bind
    ((logs_ofConfiguration scheme o _ files c currencyNeeded).bind (logs_pure _))

end

/-- Where a currency is needed, a workbench has one. -/
theorem currency_ne_none {scheme : SignatureScheme} {files : FileStore} {c : Configuration}
    {w : Workbench} (h : described scheme files c true = .ok w) : w.composer.currency ≠ none := by
  unfold described currency at h
  cases hregistry : Registry.ofConfiguration scheme c with
  | error e => simp [hregistry, bind, Except.bind] at h
  | ok registry =>
    cases hcurrency : files.readCurrency c.currenciesFile with
    | error e => simp [hregistry, hcurrency, bind, Except.bind] at h
    | ok symbol =>
      rw [hregistry, hcurrency] at h
      obtain rfl := Except.ok.inj h
      simp

end Workbench

/-! ### Commands -/

namespace CommandLine

/-- The workbench that a command works on, or what is wrong with the files that it reads for it. -/
def Command.workbench (scheme : SignatureScheme) (files : FileStore) (c : Command) :
    Except ConfigurationError Workbench := do
  let configuration ← files.readConfiguration c.configPath c.network
  Workbench.described scheme files configuration c.action.needsCurrency

variable {scheme : SignatureScheme} {files : FileStore} {c : Command}

theorem workbench_of_error {e : ConfigurationError}
    (h : files.readConfiguration c.configPath c.network = .error e) :
    c.workbench scheme files = .error e := by
  rw [Command.workbench, h]
  rfl

theorem workbench_of_ok {configuration : Configuration}
    (h : files.readConfiguration c.configPath c.network = .ok configuration) :
    c.workbench scheme files
      = Workbench.described scheme files configuration c.action.needsCurrency := by
  rw [Command.workbench, h]
  exact pure_bind configuration _

theorem workbench_eq_ok {w : Workbench} (h : c.workbench scheme files = .ok w) :
    ∃ configuration, files.readConfiguration c.configPath c.network = .ok configuration ∧
      Workbench.described scheme files configuration c.action.needsCurrency = .ok w := by
  cases hconfiguration : files.readConfiguration c.configPath c.network with
  | error fault =>
    rw [workbench_of_error hconfiguration] at h
    cases h
  | ok configuration =>
    rw [workbench_of_ok hconfiguration] at h
    exact ⟨configuration, rfl, h⟩

/-- The files may be at fault in many ways, but a missing currency is not one of them: that is said
only where tokens are to be moved. -/
theorem workbench_ne_missingCurrency :
    c.workbench scheme files ≠ .error .missingCurrency :=
  bind_ne_error (files.readConfiguration_ne_missingCurrency c.configPath c.network)
    fun configuration => Workbench.described_ne_missingCurrency scheme files configuration _

/-- A workbench has a currency wherever one is needed. -/
theorem currency_of_needed {w : Workbench} (h : c.workbench scheme files = .ok w)
    (hneeded : c.action.needsCurrency = true) : w.composer.currency ≠ none := by
  obtain ⟨configuration, -, hdescribed⟩ := workbench_eq_ok h
  rw [hneeded] at hdescribed
  exact Workbench.currency_ne_none hdescribed

/-- Without a workbench a command ends with the fault, and does nothing but log. -/
theorem logs_execute (o : Outside (StateM σ)) {e : ConfigurationError}
    (h : c.workbench scheme files = .error e) :
    Logs (execute scheme o.watched files c) (.error (.configuration e)) := by
  unfold execute
  cases hconfiguration : files.readConfiguration c.configPath c.network with
  | error fault =>
    rw [workbench_of_error hconfiguration] at h
    obtain rfl := Except.error.inj h
    exact logs_pure _
  | ok configuration =>
    rw [workbench_of_ok hconfiguration] at h
    have hlogs := Workbench.logs_overGateway scheme o files configuration c.action.needsCurrency
    rw [h] at hlogs
    exact hlogs.bind (logs_pure _)

/-- With one, it ends as what it does on the workbench, which begins without any nonces. -/
theorem result_execute (o : Outside (StateM σ)) {w : Workbench} (h : c.workbench scheme files = .ok w)
    (start : Watched HttpExchange σ) :
    ∃ (host : Host (StateM (Watched HttpExchange σ))) (world : Watched HttpExchange σ),
      ((execute scheme o.watched files c).run start).1
        = (Run.runFrom (perform host w c.action) ⟨{}, world⟩).1 := by
  obtain ⟨configuration, hread, hdescribed⟩ := workbench_eq_ok h
  have hlogs := Workbench.logs_overGateway scheme o files configuration c.action.needsCurrency
  rw [hdescribed] at hlogs
  obtain ⟨lines, world, hrun⟩ := hlogs start
  refine ⟨o.watched.host (Gateway.ofUrl configuration.proxyUrl),
    ⟨world, start.seen ++ lines.map .line⟩, ?_⟩
  unfold execute
  simp only [hread]
  rw [StateT.run_bind, hrun]
  rfl

/-- **Faults of the configuration come to light before anything is asked.**  Whether a command ends
with one is settled by the files that it reads to set up its workbench, whatever the network
answers; and if it does then no request has been made.  In particular no command that has sent
anything ends because a currency is missing: no command ever does. -/
theorem configuration_faults_come_first (scheme : SignatureScheme) (o : Outside (StateM σ))
    (files : FileStore) (c : Command) (world : σ) :
    let ended := (execute scheme o.watched files c).run ⟨world, []⟩
    (∀ e, ended.1 = .error (.configuration e) ↔ c.workbench scheme files = .error e) ∧
    (∀ e, ended.1 = .error (.configuration e) → exchangesOf ended.2.seen = []) ∧
    ended.1 ≠ .error (.configuration .missingCurrency) := by
  intro ended
  have hiff : ∀ e, ended.1 = .error (.configuration e) ↔ c.workbench scheme files = .error e := by
    intro e
    cases hworkbench : c.workbench scheme files with
    | error fault =>
      obtain ⟨lines, after, hrun⟩ := logs_execute o hworkbench ⟨world, []⟩
      rw [show ended.1 = .error (.configuration fault) from congrArg Prod.fst hrun]
      simp
    | ok w =>
      obtain ⟨host, start, hresult⟩ := result_execute o hworkbench ⟨world, []⟩
      have hblameless : Blameless (perform host w c.action) :=
        blameless_perform host fun hneeded => currency_of_needed hworkbench hneeded
      rw [show ended.1 = _ from hresult]
      simpa using hblameless ⟨{}, start⟩ e
  refine ⟨hiff, ?_, ?_⟩
  · intro e he
    obtain ⟨lines, after, hrun⟩ := logs_execute o ((hiff e).1 he) ⟨world, []⟩
    have hseen : ended.2.seen = lines.map .line := by
      rw [show ended = _ from hrun]
      rfl
    rw [hseen, exchangesOf_lines]
  · rw [Ne, hiff]
    exact workbench_ne_missingCurrency

end CommandLine

end ShardClient
