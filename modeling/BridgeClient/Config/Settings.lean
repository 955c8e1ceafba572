import BridgeClient.Await.Watch
import BridgeClient.Document.Record
import BridgeClient.Config.Placeholder
import BridgeClient.Number.Numeral
import BridgeClient.Text.Quoted
import BridgeClient.Toml.Reader

set_option autoImplicit false

/-!
The client's settings: the ledger node, the explorer, the metrics page and the deposits to wait for.
They are written in TOML, with placeholders for variables of the environment, and checked once they
are read. Times are in the units that the names of the entries give.
-/
namespace BridgeClient

structure LedgerSettings where
  rpcUrl : String
  commitment : String
  healthCheckSeconds : Nat
deriving DecidableEq

structure ExplorerSettings where
  apiUrl : String
  apiKey : String
deriving DecidableEq

structure MetricsSettings where
  enabled : Bool
  port : Nat
deriving DecidableEq

/-- Where a deposit is looked for. -/
inductive WatchKind where
  | explorer
  | ledger
deriving DecidableEq

def WatchKind.name : WatchKind → String
  | explorer => "explorer"
  | ledger => "ledger"

/-- One deposit to wait for, as it is configured. -/
structure WatchEntry where
  name : String
  kind : WatchKind
  address : String
  /-- A wallet whose token account for `asset` is watched in place of `address`. -/
  owner : Option String
  asset : String
  /-- A numeral of base units. -/
  amount : String
  blockStart : Option Nat
  pollMilliseconds : Nat
  timeoutSeconds : Option Nat
deriving DecidableEq

structure Settings where
  ledger : LedgerSettings
  explorer : Option ExplorerSettings
  metrics : MetricsSettings
  watches : List WatchEntry
deriving DecidableEq

/-- Why there are no settings, or no watch for an entry. -/
inductive ConfigFault where
  | unreadable (path : String)
  | unparsable
  | missingUrl
  | duplicateWatch (watch : String)
  | missingExplorer (watch : String)
  | zeroInterval (watch : String)
  | invalidAmount (watch amount : String)
  | invalidOwner (watch : String) (cause : BridgeError)
  | invalidMint (watch : String) (cause : BridgeError)
  | unexpectedOwner (watch : String)
  | missingAddress (watch : String)
  | noTokenAccount (cause : BridgeError)
deriving DecidableEq

namespace ConfigFault

/-- The messages of a fault, from the outermost to its cause. -/
def chain : ConfigFault → List String
  | unreadable path => ["Failed to read config file: " ++ Quoted.path path]
  | unparsable => ["Failed to parse configuration"]
  | missingUrl => ["Ledger RPC URL is not configured"]
  | duplicateWatch watch => [s!"Watch {watch} is configured twice"]
  | missingExplorer watch => [s!"Watch {watch} needs an [explorer] section"]
  | zeroInterval watch => [s!"Watch {watch} has a zero poll interval"]
  | invalidAmount watch amount =>
      [s!"Watch {watch} has invalid amount " ++ Quoted.text amount]
  | invalidOwner watch cause => [s!"Watch {watch} has invalid owner", cause.message]
  | invalidMint watch cause => [s!"Watch {watch} has invalid mint", cause.message]
  | unexpectedOwner watch => [s!"Watch {watch}: owner is only valid for ledger watches"]
  | missingAddress watch => [s!"Watch {watch} has no address"]
  | noTokenAccount cause => [cause.message]

end ConfigFault

open Document in
def LedgerSettings.read (dialect : Dialect) (document : Document) : Option LedgerSettings := do
  match ← fields? dialect ["rpc_url", "commitment", "health_check_interval_secs"] document with
  | [url, commitment, health] =>
      return ⟨← url.required asText, ← commitment.orElse "confirmed" asText,
        ← health.orElse 30 (asUnsigned 64)⟩
  | _ => none

open Document in
def ExplorerSettings.read (dialect : Dialect) (document : Document) : Option ExplorerSettings := do
  match ← fields? dialect ["api_url", "api_key"] document with
  | [url, key] => return ⟨← url.required asText, ← key.required asText⟩
  | _ => none

open Document in
def MetricsSettings.read (dialect : Dialect) (document : Document) : Option MetricsSettings := do
  match ← fields? dialect ["enabled", "port"] document with
  | [enabled, port] => return ⟨← enabled.required asFlag, ← port.required (asUnsigned 16)⟩
  | _ => none

namespace WatchEntry

open Document in
def read (dialect : Dialect) (document : Document) : Option WatchEntry := do
  let names := ["name", "kind", "address", "owner", "asset", "amount", "block_start",
    "poll_interval_ms", "timeout_secs"]
  match ← fields? dialect names document with
  | [name, kind, address, owner, asset, amount, block, interval, timeout] =>
      let kinds := [WatchKind.explorer, WatchKind.ledger].map fun kind => (kind.name, kind)
      return {
        name := ← name.required asText
        kind := ← kind.required (asChoice dialect kinds)
        address := ← address.orElse "" asText
        owner := ← owner.optional asText
        asset := ← asset.orElse "" asText
        amount := ← amount.required asText
        blockStart := ← block.optional (asUnsigned 64)
        pollMilliseconds := ← interval.orElse 5000 (asUnsigned 64)
        timeoutSeconds := ← timeout.optional (asUnsigned 64) }
  | _ => none

/-- What the entry watches, without its block, interval and timeout. -/
def target (scheme : Derivation) (entry : WatchEntry) (amount : Nat) :
    Except ConfigFault DepositWatch := do
  match entry.kind, entry.owner with
  | .ledger, some owner =>
      let owner ← (Key.parse owner).mapError (.invalidOwner entry.name)
      let mint ← (Key.parse entry.asset).mapError (.invalidMint entry.name)
      (DepositWatch.associated scheme owner mint amount).mapError .noTokenAccount
  | _, some _ => .error (.unexpectedOwner entry.name)
  | _, none =>
      if entry.address = "" then .error (.missingAddress entry.name)
      else .ok (.new entry.address entry.asset amount)

/-- The watch that the entry describes. -/
def toWatch (scheme : Derivation) (entry : WatchEntry) : Except ConfigFault DepositWatch := do
  match Numeral.parse? entry.amount with
  | none => .error (.invalidAmount entry.name entry.amount)
  | some amount =>
      let watch ← entry.target scheme amount
      return { watch with
        blockStart := entry.blockStart
        pollInterval := entry.pollMilliseconds
        timeout := entry.timeoutSeconds.map (· * 1000) }

end WatchEntry

namespace Settings

open Document in
def read (dialect : Dialect) (document : Document) : Option Settings := do
  match ← fields? dialect ["ledger", "explorer", "metrics", "watches"] document with
  | [ledger, explorer, metrics, watches] =>
      let readWatches (document : Document) : Option (List WatchEntry) := do
        (← asList document).mapM (WatchEntry.read dialect)
      return {
        ledger := ← ledger.required (LedgerSettings.read dialect)
        explorer := ← explorer.optional (ExplorerSettings.read dialect)
        metrics := ← metrics.required (MetricsSettings.read dialect)
        watches := ← watches.orElse [] readWatches }
  | _ => none

/-- Checks entries one after the other, given the names of those before. -/
def checkWatches (scheme : Derivation) (hasExplorer : Bool) :
    List String → List WatchEntry → Except ConfigFault Unit
  | _, [] => .ok ()
  | names, entry :: rest => do
      if entry.name ∈ names then .error (.duplicateWatch entry.name)
      else if entry.kind = .explorer && !hasExplorer then .error (.missingExplorer entry.name)
      else if entry.pollMilliseconds = 0 then .error (.zeroInterval entry.name)
      else
        let _ ← entry.toWatch scheme
        checkWatches scheme hasExplorer (entry.name :: names) rest

/-- Finds the first fault of settings that could be read. -/
def validate (scheme : Derivation) (settings : Settings) : Except ConfigFault Unit :=
  if settings.ledger.rpcUrl = "" then .error .missingUrl
  else checkWatches scheme settings.explorer.isSome [] settings.watches

/-- The settings of a text. -/
def parse (scheme : Derivation) (environment : Environment) (text : String) :
    Except ConfigFault Settings :=
  match (Toml.parse? (environment.fill text)).bind (read .toml) with
  | none => .error .unparsable
  | some settings => (settings.validate scheme).map fun _ => settings

/-- The variable that names the file. -/
def pathVariable : String := "SOLANOID_CONFIG"

/-- The file that is read if no other is named. -/
def defaultPath : String := "config/default.toml"

/-- The settings in a file, where the files that can be read are given by path. -/
def loadFile (scheme : Derivation) (environment : Environment) (files : String → Option String)
    (path : String) : Except ConfigFault Settings :=
  match files path with
  | none => .error (.unreadable path)
  | some text => parse scheme environment text

/-- The settings in the file that the environment names. -/
def load (scheme : Derivation) (environment : Environment) (files : String → Option String) :
    Except ConfigFault Settings :=
  loadFile scheme environment files ((environment pathVariable).getD defaultPath)

end Settings
end BridgeClient
