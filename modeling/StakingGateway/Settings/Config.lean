import StakingGateway.Json.Parser
import StakingGateway.Network
import StakingGateway.Settings.EnvFile
import StakingGateway.Settings.Url

/-!
The settings of the gateway and their reading from the environment.
-/

namespace StakingGateway.Settings

structure Config where
  port : Nat := 8080
  /-- Endpoints that are used in place of the public ones. -/
  endpoints : List (Network × String) := []
  /-- The key that signs when a call does not bring its own. -/
  signingKey : Option String := none
  /-- How long a receipt is waited for, in milliseconds. -/
  receiptTimeout : Nat := 120000
  /-- The time between two looks for a receipt, in milliseconds. -/
  pollInterval : Nat := 2000
deriving Repr

inductive ConfigError where
  | endpointsNotJson
  | unsupportedNetwork (entry : String)
  | badUrl (entry : String) (cause : UrlError)
  | notNumber (name : String)
deriving Repr, DecidableEq

def ConfigError.message : ConfigError → String
  | endpointsNotJson => "Invalid CHAIN_RPC_URLS JSON format"
  | unsupportedNetwork entry =>
    s!"CHAIN_RPC_URLS entry '{entry}': unsupported network: {entry}"
  | badUrl entry _ => s!"CHAIN_RPC_URLS entry '{entry}' has an invalid URL"
  | notNumber name => s!"{name} must be a valid number"

/-- The endpoint of a network in a list in which later entries replace earlier ones. -/
def endpoint? (endpoints : List (Network × String)) (network : Network) : Option String :=
  endpoints.reverse.lookup network

def Config.endpoint (config : Config) (network : Network) : String :=
  (endpoint? config.endpoints network).getD network.publicEndpoint

def readEntry (entry : String × String) : Except ConfigError (Network × String) :=
  match Network.resolve? entry.1 with
  | none => .error (.unsupportedNetwork entry.1)
  | some network =>
    match Url.check entry.2 with
    | .ok () => .ok (network, entry.2)
    | .error cause => .error (.badUrl entry.1 cause)

/-- The endpoints that entries name, in the order of the entries; one bad entry spoils them all. -/
def readEntries (entries : List (String × String)) :
    Except ConfigError (List (Network × String)) :=
  entries.mapM readEntry

def textFields? : Json → Option (List (String × String))
  | .object fields => fields.mapM fun (name, value) => value.string?.map fun text => (name, text)
  | _ => none

/-- Of entries with one name the last stays, in the place of the first. -/
def lastByName (entries : List (String × String)) : List (String × String) :=
  entries.foldl (fun kept entry =>
    if kept.any (·.1 = entry.1) then kept.map fun old => if old.1 = entry.1 then entry else old
    else kept ++ [entry]) []

/-- Reads a JSON object of endpoints by network name, alias or chain identifier. -/
def parseEndpoints (raw : String) : Except ConfigError (List (Network × String)) :=
  match Json.parseRaw raw.toList with
  | .error _ => .error .endpointsNotJson
  | .ok value =>
    match textFields? value with
    | none => .error .endpointsNotJson
    | some entries => readEntries (lastByName entries)

/-- A number below `limit` in a variable, or the default when there is no such variable. -/
def readNumber (environment : EnvFile.Variables) (name : String) (limit default : Nat) :
    Except ConfigError Nat :=
  match environment.lookup name with
  | none => .ok default
  | some text =>
    match Text.readUnsigned limit text.toList with
    | some n => .ok n
    | none => .error (.notNumber name)

/-- Reads the settings from the environment; blank variables for endpoints and for the key count
as absent. -/
def Config.ofEnvironment (environment : EnvFile.Variables) : Except ConfigError Config := do
  let default : Config := {}
  let endpoints ←
    match environment.lookup "CHAIN_RPC_URLS" with
    | some raw => if Text.isBlankText raw then pure [] else parseEndpoints raw
    | none => pure []
  let port ← readNumber environment "PORT" UInt16.size default.port
  let timeout ← readNumber environment "RECEIPT_TIMEOUT_SECS" UInt64.size
    (default.receiptTimeout / 1000)
  let interval ← readNumber environment "RECEIPT_POLL_INTERVAL_MS" UInt64.size
    default.pollInterval
  return {
    port := port
    endpoints := endpoints
    signingKey := (environment.lookup "PRIVATE_KEY").filter (!Text.isBlankText ·)
    receiptTimeout := timeout * 1000
    pollInterval := interval }

def Config.load (environment : EnvFile.Variables) (file : Option String) :
    Except ConfigError Config :=
  match file with
  | some file => ofEnvironment (EnvFile.extend environment file)
  | none => ofEnvironment environment

end StakingGateway.Settings
