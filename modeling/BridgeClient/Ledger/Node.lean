import BridgeClient.Ledger.Key
import BridgeClient.Ledger.Message
import BridgeClient.Number.Binary64

set_option autoImplicit false

/-!
What the client asks of a ledger node, and the node as a partner that may answer anything: each
answer may depend on everything asked before.
-/
namespace BridgeClient

/-- The state of an account as a node reports it. -/
structure AccountInfo where
  owner : Key
  lamports : UInt64
  data : Bytes
  executable : Bool
deriving DecidableEq

/-- A request that submitting a transaction makes. -/
inductive NodeCall where
  | blockhash
  | send (transaction : Bytes)
deriving DecidableEq

/-- Answers to requests, given the requests that came before, and the time the last call has taken. -/
structure Node where
  blockhash : List NodeCall → Except BridgeError Blockhash
  send : List NodeCall → Bytes → Except BridgeError String
  elapsed : List NodeCall → Binary64

end BridgeClient
