/-
The command line.

There are two commands, one that prepares a network and one that runs the battery on it.  The
file of configurations can be named in front of the command or behind it, and there the
second naming counts; the network has to be named behind the command.

Arguments are read from left to right, and the first one that asks for help or for the version
ends the reading, as does the first one that is wrong.  What can only be seen at the end is
whether an option lacks its value, came twice, or is missing; behind a command that is looked
at before what stands in front of it.
-/
import ShardClient.Battery
import ShardClient.Workbench
import ShardClient.Preparation

namespace ShardClient

namespace CommandLine

/-- What a command does. -/
inductive Action where
  | setup (options : Preparation.Options)
  | run (newer : Bool)
  deriving DecidableEq

/-- A command, with the configuration that it works on. -/
structure Command where
  action : Action
  configPath : String
  network : String
  deriving DecidableEq

/-- Why the arguments are no command. -/
inductive Refusal where
  /-- They ask for help or for the version. -/
  | information
  /-- They are wrong. -/
  | usage
  deriving DecidableEq

/-! ### Options -/

/-- The options that are known in one place: those with a value, and those without. -/
structure Known where
  valued : List String
  flags : List String

/-- The options that have been given.  One that takes a value and has not got it yet waits. -/
structure Given where
  names : List String := []
  values : List (String × String) := []
  waiting : Option String := none

namespace Given

/-- The given options and their values are complete, and none came twice. -/
def isSound (g : Given) (known : Known) : Bool :=
  g.names.all (fun name => g.names.count name == 1) &&
    known.valued.all fun name => g.names.contains name == (g.values.lookup name).isSome

/-- A value for the option that waits, if there is one. -/
def take? (g : Given) (value : String) : Option Given :=
  g.waiting.map fun name => { g with values := (name, value) :: g.values, waiting := none }

end Given

/-- The name of a long option, and the value behind its equals sign, if it has one.  Equals signs
in front of the value do not count. -/
def splitLong (arg : List Char) : String × Option String :=
  let cs := arg.dropWhile (· == '-')
  let name := String.ofList (cs.takeWhile (· != '='))
  match cs.dropWhile (· != '=') with
  | [] => (name, none)
  | equals => (name, some (String.ofList (equals.dropWhile (· == '='))))

/-- Reads a long option. -/
def readLong (known : Known) (g : Given) (arg : List Char) : Except Refusal Given :=
  let (name, value?) := splitLong arg
  if known.valued.contains name then
    let g := { g with names := name :: g.names, waiting := some name }
    match value? with
    | some value => .ok ((g.take? value).getD g)
    | none => .ok g
  else if name == "help" || name == "version" then .error .information
  else if known.flags.contains name then
    .ok { g with names := name :: g.names, waiting := none }
  else .error .usage

/-- Reads a cluster of short options.  The only ones ask for help and for the version. -/
def readShort (arg : List Char) : Except Refusal Given :=
  match arg.dropWhile (· == '-') with
  | 'h' :: _ => .error .information
  | 'V' :: _ => .error .information
  | _ => .error .usage

/-- Reads an argument that begins with a dash and is longer than that. -/
def readOption (known : Known) (g : Given) (arg : List Char) : Except Refusal Given :=
  match arg with
  | '-' :: '-' :: _ => readLong known g arg
  | _ => readShort arg

/-- Whether an argument is an option: a single dash is not. -/
def isOption (arg : List Char) : Bool := arg.head? == some '-' && arg.length != 1

/-- Reads the options up to the first argument that is none, and is no value either.  Returns
that argument and those behind it.  Two dashes end the options; nothing may follow them. -/
def readOptions (known : Known) (g : Given) : List String → Except Refusal (Given × List String)
  | [] => .ok (g, [])
  | arg :: rest =>
    if arg == "--" then if rest.isEmpty then .ok (g, []) else .error .usage
    else if isOption arg.toList then
      match readOption known g arg.toList with
      | .error e => .error e
      | .ok g => readOptions known g rest
    else
      match g.take? arg with
      | some g => readOptions known g rest
      | none => .ok (g, arg :: rest)

/-! ### Commands -/

/-- The options in front of a command. -/
def general : Known := ⟨["config"], []⟩

/-- The options behind a command. -/
def knownBehind : String → Option Known
  | "setup" =>
    some ⟨["config", "network"], ["with-token-airdrops", "with-contract-deployments"]⟩
  | "run" => some ⟨["config", "network"], ["without-spica"]⟩
  | _ => none

/-- What a command does, given its options. -/
def action (name : String) (g : Given) : Action :=
  if name == "setup" then
    .setup ⟨g.names.contains "with-token-airdrops", g.names.contains "with-contract-deployments"⟩
  else .run (!g.names.contains "without-spica")

/-- Reads what stands behind the name of a command; `front` is what stood in front of it. -/
def readBehind (name : String) (known : Known) (front : Given) (args : List String) :
    Except Refusal Command := do
  let (g, rest) ← readOptions known {} args
  if !rest.isEmpty || !g.isSound known then throw .usage
  match g.values.lookup "network" with
  | none => throw .usage
  | some network =>
    if !front.isSound general then throw .usage
    let path := ((g.values.lookup "config").orElse fun _ => front.values.lookup "config").getD
      Configuration.defaultPath
    pure ⟨action name g, path, network⟩

/-- Reads what stands behind the request for help: at most the name of one command. -/
def readHelp : List String → Refusal
  | [] => .information
  | [name] => if name == "help" || (knownBehind name).isSome then .information else .usage
  | _ => .usage

/-- Reads the arguments. -/
def read (args : List String) : Except Refusal Command := do
  let (front, rest) ← readOptions general {} args
  match rest with
  | [] => throw .usage
  | name :: rest =>
    if name == "help" then throw (readHelp rest)
    match knownBehind name with
    | some known => readBehind name known front rest
    | none => throw .usage

/-! ### Execution -/

variable {m : Type → Type} [Monad m]

/-- Does what a command does, on a workbench. -/
def perform (host : Host m) (w : Workbench) : Action → Run m Unit
  | .setup options => Preparation.run w.composer w.courier host options
  | .run newer => do
    let hashes ← Battery.run w.composer w.courier host newer
    Run.act (host.info ("Done, " ++ Decimal.text hashes.length ++ " transactions submitted"))

/-- Whether an action needs the custom currency from its start. -/
def Action.needsCurrency : Action → Bool
  | .setup options => options.tokenAirdrops
  | .run _ => true

/-- Executes a command. -/
def execute (scheme : SignatureScheme) (o : Outside m) (files : FileStore) (c : Command) :
    m (Except RunError Unit) := do
  match files.readConfiguration c.configPath c.network with
  | .error e => pure (.error (.configuration e))
  | .ok configuration =>
    match ← Workbench.overGateway scheme o files configuration c.action.needsCurrency with
    | (_, .error e) => pure (.error e)
    | (host, .ok workbench) =>
      let (result, _) ← ((perform host workbench c.action).run).run {}
      pure result

/-- The files that a command can read: the configurations, and those that the configuration of its
network names. -/
def Command.files (c : Command) (found : FileStore) : List String :=
  c.configPath ::
    match found.readConfiguration c.configPath c.network with
    | .error _ => []
    | .ok configuration =>
      [configuration.currenciesFile,
        FileStore.join configuration.contractsDir Composer.adderFile,
        FileStore.join configuration.contractsDir Composer.dummyFile]

/-- Runs the program with the given arguments, and returns its exit code. -/
def runProgram (scheme : SignatureScheme) (o : Outside m) (files : FileStore) (args : List String) :
    m UInt32 := do
  match read args with
  | .error .information => pure 0
  | .error .usage => pure 1
  | .ok command =>
    match ← execute scheme o files command with
    | .ok () => pure 0
    | .error e =>
      o.log ⟨.error, e.message⟩
      pure 1

end CommandLine

end ShardClient
