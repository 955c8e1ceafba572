import BridgeClient.Document.Record
import BridgeClient.Document.Untyped
import BridgeClient.Json.Reader

set_option autoImplicit false

/-!
Requests to a ledger node, and the envelope around its answers: an object that names the protocol and
the request, and holds either a result or an error. Nothing else may stand in it, nothing twice, and
what it names has to be written without escapes.
-/
namespace BridgeClient

structure RpcRequest where
  method : String
  parameters : List Json

/-- What comes back for a request. What the body says holds under any status. -/
inductive RpcReply where
  | unreachable (reason : String)
  | answered (status : Nat) (body : Bytes)
deriving DecidableEq

/-- An error that the node reports. Its data, if there is any, has no fixed type and is kept as it is
shown. -/
structure NodeFault where
  code : Int
  message : String
  data : Option String
deriving DecidableEq

namespace NodeFault

/-- How deep arrays and objects may nest in the data of an error. -/
def nestingLimit : Nat := 125

variable [JsonLibrary]

def readData (document : Document) : Option String :=
  if document.depth ≤ nestingLimit then document.render? else none

open Document in
def read (json : Json) : Option NodeFault := do
  match ← fields? .json ["code", "message", "data"] (.ofJson json) with
  | [code, message, data] =>
      return ⟨← code.required (asSigned 64), ← message.required asText, ← data.optional readData⟩
  | _ => none

/-- The message, followed by the data if there is any. -/
def describe (fault : NodeFault) : String :=
  match fault.data with
  | none => fault.message
  | some data => fault.message ++ ": " ++ data

end NodeFault

/-- An answer of a node. -/
inductive Envelope where
  | success (result : Document)
  | failure (fault : NodeFault)

namespace Envelope

/-- The version of the protocol. -/
def version : String := "2.0"

def memberNames : List String := ["jsonrpc", "id", "result", "error", "method", "params"]

/-- The value of the only member of that name. -/
def find? (members : List (Json.Text × Json)) (name : String) : Option Json :=
  (members.find? fun entry => entry.1.isKey name).map Prod.snd

/-- Whether every member has one of the names, and no two have the same. -/
def isRegular (members : List (Json.Text × Json)) : Bool :=
  members.all (fun entry => memberNames.any entry.1.isKey)
    && memberNames.all fun name => (members.countP fun entry => entry.1.isKey name) ≤ 1

/-- Whether a value is a request number. -/
def isNumber (value : Json) : Bool := (Document.asUnsigned 64 (.ofJson value)).isSome

def isVersion (value : Json) : Bool := value.toText?.any (·.isKey version)

variable [JsonLibrary]

/-- A result is kept as it was written until its type is known, and has to be UTF-8. -/
def ofMembers (members : List (Json.Text × Json)) : Option Envelope := do
  guard (isRegular members)
  guard ((find? members "jsonrpc").any isVersion)
  guard ((find? members "id").any isNumber)
  match find? members "result", find? members "error", find? members "method",
    find? members "params" with
  | some result, none, none, none =>
      if result.isEncoded then some (success (.ofJson result)) else none
  | none, some error, none, none => (NodeFault.read error).map failure
  | _, _, _, _ => none

def parse? (body : Bytes) : Option Envelope :=
  match Json.parseBytes? body with
  | some (.object members) => ofMembers members
  | _ => none

end Envelope
end BridgeClient
