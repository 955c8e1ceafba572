import BridgeClient.Amount
import BridgeClient.Wire.Operation

set_option autoImplicit false

/-!
Swap operations for both ways over a bridge. Direct moves value from the origin to the destination
and mints there; reverse brings it back and unlocks it. Every build draws a new identifier and
remembers it.
-/
namespace BridgeClient

/-- An endless supply of random bytes. -/
structure RandomBytes where
  byteAt : Nat → UInt8

namespace RandomBytes

/-- The next `n` bytes, and the supply behind them. -/
def draw (n : Nat) (source : RandomBytes) : FixedBytes n × RandomBytes :=
  (⟨(List.range n).map source.byteAt, by simp⟩, ⟨fun i => source.byteAt (n + i)⟩)

end RandomBytes

namespace SwapId

/-- A new identifier: 16 bytes for the ledger, 32 for an EVM chain. -/
def random (target : Target) (source : RandomBytes) : SwapId × RandomBytes :=
  match target with
  | .ledger => ((SwapId.ledger (source.draw 16).1), (source.draw 16).2)
  | .evm => ((SwapId.evm (source.draw 32).1), (source.draw 32).2)

end SwapId

/-- The precision of a token on both sides of a bridge. -/
structure DecimalConfig where
  origin : Decimals
  destination : Decimals
deriving DecidableEq

/-- The way a bridge runs, with the amount in the form its origin uses. -/
inductive Route where
  /-- Base units of the EVM token. -/
  | evmToLedger (amount : Nat)
  /-- A human readable amount of the ledger token. -/
  | ledgerToEvm (amount : Binary64)
deriving DecidableEq

structure SwapBuilder where
  route : Route
  ledgerReceiver : FixedBytes 32
  evmReceiver : FixedBytes 20
  config : DecimalConfig
  lastSwapId : Option SwapId
deriving DecidableEq

namespace SwapBuilder

/-- A builder that has built nothing, with no digits on either side. -/
def new (route : Route) (ledgerReceiver : FixedBytes 32) (evmReceiver : FixedBytes 20) :
    SwapBuilder :=
  ⟨route, ledgerReceiver, evmReceiver, ⟨0, 0⟩, none⟩

def setConfig (builder : SwapBuilder) (config : DecimalConfig) : SwapBuilder :=
  { builder with config }

/-- The double that a direct mint on the ledger carries. -/
def ledgerAmount (config : DecimalConfig) (amount : Nat) : Binary64 :=
  let rebased := (TokenAmount.mk amount).rebase config.origin config.destination
  (TokenAmount.mk rebased).toFloat config.destination

/-- The base units that a direct mint on the EVM side carries. -/
def evmAmount (config : DecimalConfig) (amount : Binary64) : Nat :=
  (TokenAmount.ofFloat amount config.origin).rebase config.origin config.destination

/-- The result of a build, with the builder and the supply it leaves. -/
structure Built where
  operation : SwapOperation
  builder : SwapBuilder
  source : RandomBytes

/-- An operation on the ledger under the next 16 random bytes. -/
def onLedger (builder : SwapBuilder) (action : Action) (amount : Binary64)
    (source : RandomBytes) : Built :=
  let (id, source) := source.draw 16
  ⟨.ledger action id amount builder.ledgerReceiver,
    { builder with lastSwapId := some (.ledger id) }, source⟩

/-- An operation on the EVM side under the next 32 random bytes. -/
def onEvm (builder : SwapBuilder) (action : Action) (amount : Nat)
    (source : RandomBytes) : Built :=
  let (id, source) := source.draw 32
  ⟨.evm action id amount builder.evmReceiver,
    { builder with lastSwapId := some (.evm id) }, source⟩

/-- Mints on the destination what the amount is worth there. -/
def buildDirect (builder : SwapBuilder) (source : RandomBytes) : Built :=
  match builder.route with
  | .evmToLedger amount => builder.onLedger .mint (ledgerAmount builder.config amount) source
  | .ledgerToEvm amount => builder.onEvm .mint (evmAmount builder.config amount) source

/-- Unlocks the amount on the origin, unchanged. -/
def buildReverse (builder : SwapBuilder) (source : RandomBytes) : Built :=
  match builder.route with
  | .evmToLedger amount => builder.onEvm .unlock amount source
  | .ledgerToEvm amount => builder.onLedger .unlock amount source

end SwapBuilder
end BridgeClient
