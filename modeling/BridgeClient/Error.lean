import BridgeClient.Json.Typed

set_option autoImplicit false

/-! What can go wrong, as causes; the wording of each stands in `message`. -/
namespace BridgeClient

inductive BridgeError where
  | configuration (text : String)
  | rpc (endpoint message : String)
  | malformedResponse (method message : String)
  | explorer (text : String)
  | serialization (text : String)
  | invalidFormat (expected actual : Nat)
  | mixedEncoding (text : String)
  | invalidAddress (text : String)
  | signing (text : String)
  | transactionTooLarge (size limit : Nat)
  | rejected (text : String)
  | accountNotFound (account : String)
  | unexpectedOwner (account owner : String)
  | awaiterNotConfigured
  | canceled
  | timeout (operation : String)
  | channelClosed
deriving DecidableEq

/-- The groups under which failed transactions are counted. -/
inductive FailureReason where
  | rpc
  | rejected
  | signing
  | tooLarge
  | other
deriving DecidableEq

namespace FailureReason

def label : FailureReason → String
  | rpc => "rpc"
  | rejected => "rejected"
  | signing => "signing"
  | tooLarge => "too_large"
  | other => "other"

def all : List FailureReason := [rpc, rejected, signing, tooLarge, other]

end FailureReason

namespace BridgeError

/-- The cause in one word. -/
def name : BridgeError → String
  | configuration _ => "Config"
  | rpc .. => "Rpc"
  | malformedResponse .. => "MalformedResponse"
  | explorer _ => "Explorer"
  | serialization _ => "Serialization"
  | invalidFormat .. => "InvalidFormat"
  | mixedEncoding _ => "MixedEncoding"
  | invalidAddress _ => "InvalidAddress"
  | signing _ => "Signing"
  | transactionTooLarge .. => "TransactionTooLarge"
  | rejected _ => "Rejected"
  | accountNotFound _ => "AccountNotFound"
  | unexpectedOwner .. => "UnexpectedOwner"
  | awaiterNotConfigured => "AwaiterNotConfigured"
  | canceled => "Canceled"
  | timeout _ => "Timeout"
  | channelClosed => "ChannelClosed"

/-- The cause in a sentence, with its particulars. -/
def message : BridgeError → String
  | configuration text => s!"Configuration error: {text}"
  | rpc endpoint message => s!"RPC error on {endpoint}: {message}"
  | malformedResponse method message => s!"Malformed RPC response for {method}: {message}"
  | explorer text => s!"Explorer request failed: {text}"
  | serialization text => s!"Serialization error: {text}"
  | invalidFormat expected actual =>
      s!"Invalid wire format: expected at least {expected} bytes, got {actual}"
  | mixedEncoding text => s!"Mixed operation encoding: {text}"
  | invalidAddress text => s!"Invalid address: {text}"
  | signing text => s!"Signing error: {text}"
  | transactionTooLarge size limit =>
      s!"Transaction too large: {size} bytes exceeds limit of {limit}"
  | rejected text => s!"Transaction rejected: {text}"
  | accountNotFound account => s!"Account {account} not found"
  | unexpectedOwner account owner => s!"Unexpected account owner for {account}: {owner}"
  | awaiterNotConfigured => "Await configuration is not set"
  | canceled => "Await canceled"
  | timeout operation => s!"Timeout waiting for {operation}"
  | channelClosed => "Delivery channel closed"

/-- A passing network condition: the same call may succeed later. -/
def isRetryable : BridgeError → Bool
  | rpc .. | explorer _ | timeout _ => true
  | _ => false

/-- The node answered, and the answer was no. -/
def isRejection : BridgeError → Bool
  | rejected _ => true
  | _ => false

/-- The group a failed transaction is counted in. -/
def reason : BridgeError → FailureReason
  | rpc .. | malformedResponse .. => .rpc
  | rejected _ => .rejected
  | signing _ => .signing
  | transactionTooLarge .. => .tooLarge
  | _ => .other

/-- What reports show of an error. -/
def members (error : BridgeError) : List (String × Json) :=
  [Json.member "error" error.name, Json.member "message" error.message]

end BridgeError

instance {α : Type} [ToJson α] : ToJson (Except BridgeError α) := ⟨fun
  | .ok value => toJson value
  | .error error => Json.ofMembers error.members⟩

end BridgeClient
