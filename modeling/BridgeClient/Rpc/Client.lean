import BridgeClient.Invocation.Session
import BridgeClient.Rpc.Envelope
import BridgeClient.Text.Base64
import BridgeClient.Url.Basic

set_option autoImplicit false

/-!
The client's side of a ledger node: the requests it makes, and what it reads from the replies. An
answer that is no envelope, and a result of another shape than was asked for, count as failures of the
connection; a value that has the shape and makes no sense is malformed.
-/
namespace BridgeClient

/-- A node by its address, and how settled a state has to be for its answers. -/
structure LedgerClient where
  endpoint : String
  commitment : String
deriving DecidableEq

namespace LedgerClient

/-- A client for a node at an absolute address. -/
def new (endpoint commitment : String) : Except BridgeError LedgerClient :=
  match Url.parse endpoint with
  | .ok _ => .ok ⟨endpoint, commitment⟩
  | .error fault =>
      .error (.configuration (s!"Invalid RPC endpoint {endpoint}: " ++ fault.message))

/-! ## Requests -/

def healthRequest : RpcRequest := ⟨"getHealth", []⟩

def blockhashRequest (client : LedgerClient) : RpcRequest :=
  ⟨"getLatestBlockhash", [Json.ofMembers [Json.member "commitment" client.commitment]]⟩

def sendRequest (client : LedgerClient) (transaction : Bytes) : RpcRequest :=
  ⟨"sendTransaction",
    [toJson (Base64.encode transaction),
      Json.ofMembers
        [Json.member "encoding" "base64", Json.member "preflightCommitment" client.commitment]]⟩

def accountRequest (client : LedgerClient) (address : Key) : RpcRequest :=
  ⟨"getAccountInfo",
    [toJson address,
      Json.ofMembers
        [Json.member "commitment" client.commitment, Json.member "encoding" "base64"]]⟩

/-! ## Replies -/

/-- A failure of the connection. -/
def failed (client : LedgerClient) (reason : String) : BridgeError := .rpc client.endpoint reason

variable [JsonLibrary]

/-- The result of an exchange in the wanted form; an error that the node reports goes to `refused`. -/
def result {α : Type} (client : LedgerClient) (refused : NodeFault → BridgeError)
    (read : Document → Option α) : RpcReply → Except BridgeError α
  | .unreachable reason => .error (client.failed reason)
  | .answered _ body =>
      match Envelope.parse? body with
      | none => .error (client.failed "response without an envelope")
      | some (.failure fault) => .error (refused fault)
      | some (.success result) =>
          match read result with
          | some value => .ok value
          | none => .error (client.failed "unexpected result")

/-- An error that the node reports where it has nothing to refuse. -/
def faulty (client : LedgerClient) (fault : NodeFault) : BridgeError := client.failed fault.message

/-- A healthy node says `ok`. -/
def isHealthy (client : LedgerClient) (reply : RpcReply) : Bool :=
  match client.result client.faulty Document.asText reply with
  | .ok status => status = "ok"
  | .error _ => false

/-- The signature under which a node has taken a transaction, or the reason why it refused. -/
def signature (client : LedgerClient) (reply : RpcReply) : Except BridgeError String :=
  client.result (fun fault => .rejected fault.describe) Document.asText reply

open Document in
/-- The value of a result that comes with its context. -/
def readValue {α : Type} (read : Field → Option α) (document : Document) : Option α := do
  match ← fields? .json ["value"] document with
  | [value] => read value
  | _ => none

open Document in
/-- A blockhash as text; up to which block it is valid has to be told. -/
def readBlockhash (document : Document) : Option String := do
  match ← fields? .json ["blockhash", "lastValidBlockHeight"] document with
  | [blockhash, height] =>
      let text ← blockhash.required asText
      let _ ← height.required (asUnsigned 64)
      return text
  | _ => none

def decodeBlockhash (text : String) : Except BridgeError Blockhash :=
  let malformed := BridgeError.malformedResponse "getLatestBlockhash"
  match Base58.decode text with
  | .error e => .error (malformed e.message)
  | .ok bytes =>
      match FixedBytes.ofList? 32 bytes with
      | some hash => .ok hash
      | none =>
          let length := bytes.length
          .error (malformed s!"hash of {length} bytes")

def blockhash (client : LedgerClient) (reply : RpcReply) : Except BridgeError Blockhash := do
  let text ← client.result client.faulty (readValue (Document.Field.required readBlockhash)) reply
  decodeBlockhash text

/-- An account as it is written in a reply. -/
structure AccountText where
  payload : String
  encoding : String
  executable : Bool
  lamports : UInt64
  owner : String
deriving DecidableEq

open Document in
/-- The data of an account, and in which encoding it stands there. -/
def readData : Document → Option (String × String)
  | list [text payload, text encoding] => some (payload, encoding)
  | _ => none

open Document in
def readAccount (document : Document) : Option AccountText := do
  match ← fields? .json ["data", "executable", "lamports", "owner"] document with
  | [data, executable, lamports, owner] =>
      let (payload, encoding) ← data.required readData
      return ⟨payload, encoding, ← executable.required asFlag,
        UInt64.ofNat (← lamports.required (asUnsigned 64)), ← owner.required asText⟩
  | _ => none

def decodeAccount (account : AccountText) : Except BridgeError AccountInfo :=
  let malformed := BridgeError.malformedResponse "getAccountInfo"
  if account.encoding ≠ "base64" then
    .error (malformed ("unexpected data encoding " ++ account.encoding))
  else
    match Key.parse account.owner with
    | .error e => .error e
    | .ok owner =>
        match Base64.decode account.payload with
        | .error e => .error (malformed e.message)
        | .ok data => .ok ⟨owner, account.lamports, data, account.executable⟩

/-- The state of an account, if the node knows it. -/
def account (client : LedgerClient) (reply : RpcReply) :
    Except BridgeError (Option AccountInfo) := do
  match ← client.result client.faulty (readValue (Document.Field.optional readAccount)) reply with
  | none => return none
  | some account => some <$> decodeAccount account

/-- The client as the partner of an executor: what it makes of the replies to its requests, each of
which may depend on all that was asked before. -/
def node (client : LedgerClient) (exchange : List NodeCall → RpcRequest → RpcReply)
    (elapsed : List NodeCall → Binary64) : Node where
  blockhash calls := client.blockhash (exchange calls client.blockhashRequest)
  send calls transaction := client.signature (exchange calls (client.sendRequest transaction))
  elapsed := elapsed

end LedgerClient

/-- A client and a session of a target, whose invoker's key is given as base58 text. -/
def Session.connect (endpoint commitment invoker : String) (target : ProgramTarget) :
    Except BridgeError (LedgerClient × Session Keypair) := do
  let client ← LedgerClient.new endpoint commitment
  return (client, .new target (← Keypair.ofBase58 invoker))

end BridgeClient
