import BridgeClient.Await.Awaiter
import BridgeClient.Document.Untyped
import BridgeClient.Explorer.Transfer
import BridgeClient.Json.Reader
import BridgeClient.Url.Basic

set_option autoImplicit false

/-!
Asking an explorer for the transfers of an address, and waiting for a deposit among them. An explorer
answers with a list of transfers, or with a note why there is none; an empty history is no error.
-/
namespace BridgeClient

/-- What stands where the transfers are expected. -/
inductive HistoryResult where
  | transfers (list : List TokenTransfer)
  | note (text : String)
deriving DecidableEq

/-- The body of an explorer's answer. -/
structure History where
  status : String
  message : String
  result : HistoryResult
deriving DecidableEq

namespace HistoryResult

/-- How deep arrays and objects may nest in a result. -/
def nestingLimit : Nat := 126

open Document in
/-- A result is taken as a whole before it is known what it is. -/
def read [JsonLibrary] (document : Document) : Option HistoryResult :=
  if document.isHeld && document.depth ≤ nestingLimit then
    match document with
    | text value => some (note value)
    | list elements => (elements.mapM TokenTransfer.read).map transfers
    | _ => none
  else none

end HistoryResult

namespace History

open Document in
/-- What a body holds besides these fields is skipped, whatever it is. -/
def read [JsonLibrary] (document : Document) : Option History := do
  match ← fields? .json ["status", "message", "result"] document with
  | [status, message, result] =>
      return ⟨← status.required asText, ← message.required asText,
        ← result.required HistoryResult.read⟩
  | _ => none

def parse? [JsonLibrary] (body : Bytes) : Option History :=
  match Json.parseBytes? body with
  | some json => read (.ofJson json)
  | none => none

/-- How the message of an empty history begins. -/
def emptyMessage : String := "No transactions found"

def transfers (history : History) : Except BridgeError (List TokenTransfer) :=
  match history.result with
  | .transfers list => .ok list
  | .note reason =>
      if emptyMessage.toList.isPrefixOf history.message.toList then .ok []
      else .error (.explorer s!"status {history.status}: {history.message}: {reason}")

end History

/-- What comes back from a request to an explorer. -/
inductive ExplorerReply where
  | unreachable (reason : String)
  | answered (status : Nat) (body : Bytes)
deriving DecidableEq

namespace ExplorerReply

/-- Whether a status says that the request failed. -/
def isFailure (status : Nat) : Bool := 400 ≤ status && status < 600

def transfers [JsonLibrary] : ExplorerReply → Except BridgeError (List TokenTransfer)
  | unreachable reason => .error (.explorer reason)
  | answered status body =>
      if isFailure status then .error (.explorer s!"HTTP status {status}")
      else
        match History.parse? body with
        | none => .error (.explorer "Invalid tokentx response")
        | some history => history.transfers

end ExplorerReply

/-- An explorer by its address and the key that it is asked with. -/
structure Explorer where
  apiUrl : String
  apiKey : String
deriving DecidableEq

namespace Explorer

/-- An explorer; slashes at the end of its address do not count. -/
def new (apiUrl apiKey : String) : Explorer :=
  ⟨String.ofList (apiUrl.toList.reverse.dropWhile (· = '/')).reverse, apiKey⟩

/-- The query of a request. -/
def parameters (explorer : Explorer) (watch : DepositWatch) : List (String × String) :=
  [("module", "account"), ("action", "tokentx"), ("address", watch.address),
    ("startblock", String.ofList (Radix.decimal (watch.blockStart.getD 0))), ("sort", "desc"),
    ("apikey", explorer.apiKey)]

/-- The request for the transfers that touch a watched address. -/
def requestUrl (explorer : Explorer) (watch : DepositWatch) : Except BridgeError Url :=
  match Url.parse (explorer.apiUrl ++ "/api") with
  | .ok url => .ok (url.withPairs (explorer.parameters watch))
  | .error fault =>
      .error (.configuration
        (s!"Invalid explorer URL {explorer.apiUrl}: " ++ fault.message))

/-- The transfers of one exchange. -/
def lastTransfers [JsonLibrary] (explorer : Explorer) (watch : DepositWatch)
    (exchange : Url → ExplorerReply) : Except BridgeError (List TokenTransfer) := do
  let url ← explorer.requestUrl watch
  (exchange url).transfers

end Explorer

/-- Matches on lists of transfers. -/
def transferMatcher (watch : DepositWatch) : Matcher Unit (List TokenTransfer) TokenTransfer :=
  ⟨fun memory transfers => (findDeposit transfers watch, memory)⟩

/-- Waits for a transfer that an explorer lists. -/
def explorerAwaiter : Awaiter Unit (List TokenTransfer) TokenTransfer where
  name := "explorer"
  prepare watch := .ok (transferMatcher watch, ())

end BridgeClient
