import BridgeClient.Json.Binary
import BridgeClient.Wire.Operation

set_option autoImplicit false

/-! Swap operations as JSON. Values that have two forms stand under the name of their target. -/
namespace BridgeClient

open Json (member ofMembers)

instance : ToJson Target := ⟨fun target => toJson target.name⟩

instance : ToJson Action := ⟨fun
  | .mint => toJson "Mint"
  | .unlock => toJson "Unlock"
  | .confirm => toJson "Confirm"
  | .other tag => ofMembers [member "Other" tag]⟩

instance : ToJson SwapAmount := ⟨fun
  | .ledger amount => ofMembers [member "Ledger" amount]
  | .evm amount => ofMembers [member "Evm" (Json.large amount)]⟩

namespace SwapOperation

/-- The parts of an operation, and what follows from them. -/
def members (operation : SwapOperation) : List (String × Json) :=
  [member "target" operation.target, member "action" operation.action,
    member "tag" operation.action.tag,
    ("swap_id", ofMembers [member operation.swapId.target.name operation.swapId.bytes]),
    member "amount" operation.amount, member "amount_target" operation.amount.target,
    ("receiver", ofMembers [member operation.receiver.target.name operation.receiver.bytes])]

end SwapOperation

instance : ToJson SwapOperation := ⟨fun operation =>
  ofMembers (operation.members ++ [member "encoded" operation.encode])⟩

end BridgeClient
