import BridgeClient.Await.Watch
import BridgeClient.Document.Record
import BridgeClient.Number.Numeral
import BridgeClient.Text.Ascii

set_option autoImplicit false

/-! Token transfers as explorers list them, and the search for a deposit among them. -/
namespace BridgeClient

/-- One transfer. Everything is text, as explorers send it; the amount is a numeral. -/
structure TokenTransfer where
  blockNumber : String
  timeStamp : String
  hash : String
  blockHash : String
  sender : String
  contractAddress : String
  receiver : String
  value : String
  tokenName : String
  tokenSymbol : String
  tokenDecimal : String
  confirmations : String
deriving DecidableEq

namespace TokenTransfer

/-- The names of the fields in JSON, in order. -/
def fieldNames : List String :=
  ["blockNumber", "timeStamp", "hash", "blockHash", "from", "contractAddress", "to", "value",
    "tokenName", "tokenSymbol", "tokenDecimal", "confirmations"]

/-- The names of the fields that may be left out, and are empty then. -/
def optionalNames : List String :=
  ["timeStamp", "blockHash", "tokenName", "tokenSymbol", "tokenDecimal", "confirmations"]

open Document in
/-- The text in a field. -/
def readField (name : String) (field : Field) : Option String :=
  if name ∈ optionalNames then field.orElse "" asText else field.required asText

/-- The texts of the fields, in the order of their names. -/
def toFields (transfer : TokenTransfer) : List String :=
  [transfer.blockNumber, transfer.timeStamp, transfer.hash, transfer.blockHash, transfer.sender,
    transfer.contractAddress, transfer.receiver, transfer.value, transfer.tokenName,
    transfer.tokenSymbol, transfer.tokenDecimal, transfer.confirmations]

/-- The transfer with these texts in its fields. -/
def ofFields? : List String → Option TokenTransfer
  | [blockNumber, timeStamp, hash, blockHash, sender, contractAddress, receiver, value, tokenName,
      tokenSymbol, tokenDecimal, confirmations] =>
      some ⟨blockNumber, timeStamp, hash, blockHash, sender, contractAddress, receiver, value,
        tokenName, tokenSymbol, tokenDecimal, confirmations⟩
  | _ => none

/-- A transfer in a reply. -/
def read (document : Document) : Option TokenTransfer := do
  let fields ← document.fields? .json fieldNames
  let texts ← (fieldNames.zip fields).mapM fun entry => readField entry.1 entry.2
  ofFields? texts

instance : ToJson TokenTransfer := ⟨fun transfer =>
  Json.ofMembers ((fieldNames.zip transfer.toFields).map fun field =>
    Json.member field.1 field.2)⟩

/-- Whether a transfer is the deposit a watch waits for: addresses up to the case of ASCII letters,
the amount as a number. -/
def isDeposit (watch : DepositWatch) (transfer : TokenTransfer) : Bool :=
  Ascii.equalIgnoringCase transfer.contractAddress watch.asset
    && Ascii.equalIgnoringCase transfer.receiver watch.address
    && Numeral.parse? transfer.value = some watch.amount

end TokenTransfer

/-- The first transfer of a list that a watch waits for. -/
def findDeposit (transfers : List TokenTransfer) (watch : DepositWatch) : Option TokenTransfer :=
  transfers.find? (TokenTransfer.isDeposit watch)

end BridgeClient
