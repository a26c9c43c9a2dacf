/-
Configurations of networks, by name, and the custom currency of a network.

The configurations stand in one JSON file, an object from names to records.  The currency has
a file of its own, an array whose first entry names the token.
-/
import ShardClient.FileStore
import ShardClient.Gas
import ShardClient.Json.Field
import ShardClient.KeyTree

namespace ShardClient

/-- All that a run has to know about a network. -/
structure Configuration where
  /-- The identifier of the chain. -/
  networkId : String
  proxyUrl : String
  explorerUrl : String
  /-- The secret key of the account that pays, in hexadecimal. -/
  sponsorSecretKey : String
  /-- The phrase from which the users' keys are derived. -/
  usersMnemonic : String
  /-- The path of the file that names the custom currency. -/
  currenciesFile : String
  knownContracts : List String := []
  numShards : UInt32 := 3
  numUsers : UInt32 := 32
  /-- The path of the directory that holds the code of the contracts. -/
  contractsDir : String := "systemtests/contracts"
  deriving DecidableEq

/-- Why a configuration cannot be used. -/
inductive ConfigurationError where
  | unreadable (path : String) (cause : FileError)
  | unparsable (path : String)
  | unknownNetwork (name : String) (available : List String)
  | sponsorKey (cause : SecretKeyError)
  | usersMnemonic (cause : MnemonicError)
  | knownContract (text : String) (cause : AddressError)
  /-- The file of the currency lists none. -/
  | noCurrency (path : String)
  /-- A currency is needed, and none is configured. -/
  | missingCurrency
  deriving DecidableEq

/-- The wording of an error. -/
def ConfigurationError.message : ConfigurationError → String
  | .unreadable path cause => "cannot read " ++ path ++ ": " ++ cause.message
  | .unparsable path => "cannot parse " ++ path ++ ": not of the expected form"
  | .unknownNetwork name available =>
    "unknown network " ++ Quoted.text name ++ ", available: " ++ ", ".intercalate available
  | .sponsorKey cause => "invalid sponsor secret key: " ++ cause.message
  | .usersMnemonic cause => "invalid users mnemonic: " ++ cause.message
  | .knownContract text cause =>
    "invalid known contract " ++ Quoted.text text ++ ": " ++ cause.message
  | .noCurrency path => "custom currencies file " ++ path ++ " lists no currency"
  | .missingCurrency => "no custom currency configured for token transfers"

namespace Configuration

/-- The file of configurations, unless another is asked for. -/
def defaultPath : String := "systemtests/config.json"

/-- The names of the fields, in order. -/
def fieldNames : List String :=
  ["network_id", "proxy_url", "explorer_url", "sponsor_secret_key", "users_mnemonic",
    "config_file_custom_currencies", "known_contracts", "num_shards", "num_users",
    "contracts_dir"]

/-- A number of 32 bits. -/
def count? (v : Json) : Option UInt32 := (v.nat? UInt32.size).map UInt32.ofNat

/-- Reads a configuration. -/
def ofJson? (v : Json) : Option Configuration := do
  let f ← v.fields? fieldNames
  let networkId ← f.required? "network_id" Json.text?
  let proxyUrl ← f.required? "proxy_url" Json.text?
  let explorerUrl ← f.required? "explorer_url" Json.text?
  let sponsorSecretKey ← f.required? "sponsor_secret_key" Json.text?
  let usersMnemonic ← f.required? "users_mnemonic" Json.text?
  let currenciesFile ← f.required? "config_file_custom_currencies" Json.text?
  let knownContracts ← f.defaulted? "known_contracts" [] (Json.list? Json.text?)
  let numShards ← f.defaulted? "num_shards" 3 count?
  let numUsers ← f.defaulted? "num_users" 32 count?
  let contractsDir ← f.defaulted? "contracts_dir" "systemtests/contracts" Json.text?
  some { networkId, proxyUrl, explorerUrl, sponsorSecretKey, usersMnemonic, currenciesFile,
         knownContracts, numShards, numUsers, contractsDir }

/-- What the network charges. -/
def fees (c : Configuration) : FeeSchedule := { chainId := c.networkId }

/-- The configuration as it appears in listings: without its secrets. -/
def listing (c : Configuration) : String :=
  "Configuration \x7b network_id: " ++ Quoted.text c.networkId ++
    ", proxy_url: " ++ Quoted.text c.proxyUrl ++
    ", explorer_url: " ++ Quoted.text c.explorerUrl ++
    ", config_file_custom_currencies: " ++ Quoted.text c.currenciesFile ++
    ", known_contracts: [" ++ ", ".intercalate (c.knownContracts.map Quoted.text) ++
    "], num_shards: " ++ Decimal.text c.numShards.toNat ++
    ", num_users: " ++ Decimal.text c.numUsers.toNat ++
    ", contracts_dir: " ++ Quoted.text c.contractsDir ++ ", .. \x7d"

end Configuration

namespace FileStore

/-- The content of a JSON file, read as a value of a known type. -/
def readJson {α : Type} (files : FileStore) (path : String) (read : Json → Option α) :
    Except ConfigurationError α :=
  match files.readText path with
  | .error cause => .error (.unreadable path cause)
  | .ok text =>
    match (Json.parse? (Utf8.encode text)).bind read with
    | some value => .ok value
    | none => .error (.unparsable path)

/-- All configurations in a file, in the order of their names. -/
def readConfigurations (files : FileStore) (path : String) :
    Except ConfigurationError (List (String × Configuration)) :=
  files.readJson path (Json.map? Configuration.ofJson?)

/-- The configuration of one network. -/
def readConfiguration (files : FileStore) (path name : String) :
    Except ConfigurationError Configuration := do
  let all ← files.readConfigurations path
  match all.lookup name with
  | some configuration => .ok configuration
  | none => .error (.unknownNetwork name (all.map (·.1)))

/-- The custom currency that a file names. -/
def readCurrency (files : FileStore) (path : String) : Except ConfigurationError String := do
  let symbols ← files.readJson path
    (Json.list? fun v => do
      let f ← v.fields? ["symbol"]
      f.required? "symbol" Json.text?)
  match symbols.head? with
  | some symbol => .ok symbol
  | none => .error (.noCurrency path)

end FileStore

end ShardClient
