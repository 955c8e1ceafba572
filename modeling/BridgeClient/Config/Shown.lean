import BridgeClient.Config.Settings

set_option autoImplicit false

/-! Settings, faults and watches as JSON. -/
namespace BridgeClient

open Json (large member ofMembers)

instance : ToJson DepositWatch := ⟨fun watch =>
  ofMembers
    [member "address" watch.address, member "asset" watch.asset,
      member "amount" (large watch.amount), member "block_start" (watch.blockStart.map large),
      member "poll_interval_ms" (large watch.pollInterval),
      member "timeout_ms" (watch.timeout.map large)]⟩

instance : ToJson ConfigFault := ⟨fun fault =>
  ofMembers [member "error" "Config", member "chain" fault.chain]⟩

instance {α : Type} [ToJson α] : ToJson (Except ConfigFault α) := ⟨fun
  | .ok value => toJson value
  | .error fault => toJson fault⟩

/-- An entry together with the watch it describes. -/
instance : ToJson WatchEntry := ⟨fun entry =>
  ofMembers
    [member "name" entry.name, member "kind" entry.kind.name, member "address" entry.address,
      member "owner" entry.owner, member "asset" entry.asset, member "amount" entry.amount,
      member "block_start" (entry.blockStart.map large),
      member "poll_interval_ms" (large entry.pollMilliseconds),
      member "timeout_secs" (entry.timeoutSeconds.map large),
      member "watch" (entry.toWatch .ledger)]⟩

instance : ToJson LedgerSettings := ⟨fun ledger =>
  ofMembers
    [member "rpc_url" ledger.rpcUrl, member "commitment" ledger.commitment,
      member "health_check_interval_secs" (large ledger.healthCheckSeconds)]⟩

instance : ToJson ExplorerSettings := ⟨fun explorer =>
  ofMembers [member "api_url" explorer.apiUrl, member "api_key" explorer.apiKey]⟩

instance : ToJson MetricsSettings := ⟨fun metrics =>
  ofMembers [member "enabled" metrics.enabled, member "port" metrics.port]⟩

instance : ToJson Settings := ⟨fun settings =>
  ofMembers
    [member "ledger" settings.ledger, member "explorer" settings.explorer,
      member "metrics" settings.metrics, member "watches" settings.watches]⟩

end BridgeClient
