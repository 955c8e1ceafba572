import BridgeClient.Json.Binary
import BridgeClient.Program.Gravity
import BridgeClient.Program.Nebula
import BridgeClient.Program.Port

set_option autoImplicit false

/-! Instructions as JSON: a name under `ix`, and the fields. -/
namespace BridgeClient

open Json (member ofMembers)

instance : ToJson GravityInstruction := ⟨fun
  | .init bft round consuls => ofMembers
      [member "ix" "init", member "bft" bft, member "round" round, member "consuls" consuls]
  | .updateConsuls bft round consuls => ofMembers
      [member "ix" "update_consuls", member "bft" bft, member "round" round,
        member "consuls" consuls]⟩

def NebulaDataType.name : NebulaDataType → String
  | int64 => "Int64"
  | string => "String"
  | bytes => "Bytes"

instance : ToJson NebulaDataType := ⟨fun dataType => toJson dataType.name⟩

instance : ToJson NebulaInstruction := ⟨fun
  | .init bft dataType program oracles => ofMembers
      [member "ix" "init", member "bft" bft, member "data_type" dataType,
        member "gravity_program_id" program, member "oracles" oracles]
  | .updateOracles bft oracles round => ofMembers
      [member "ix" "update_oracles", member "bft" bft, member "oracles" oracles,
        member "new_round" round]
  | .sendHashValue hash => ofMembers [member "ix" "send_hash_value", member "data_hash" hash]
  | .sendValueToSubs value dataType pulse subscription => ofMembers
      [member "ix" "send_value_to_subs", member "data_value" value, member "data_type" dataType,
        member "pulse_id" pulse, member "subscription_id" subscription]
  | .subscribe subscriber confirmations reward subscription => ofMembers
      [member "ix" "subscribe", member "subscriber" subscriber,
        member "min_confirmations" confirmations, member "reward" reward,
        member "subscription_id" subscription]⟩

instance : ToJson PortInstruction := ⟨fun
  | .initWithOracles nebulaData tokenData mint bft oracles => ofMembers
      [member "ix" "init_with_oracles", member "nebula_data_account" nebulaData,
        member "token_data_account" tokenData, member "token_mint" mint, member "bft" bft,
        member "oracles" oracles]
  | .createTransferRequest amount receiver id => ofMembers
      [member "ix" "create_transfer_request", member "token_amount" amount,
        member "receiver" receiver, member "request_id" id]
  | .attachValue value => ofMembers [member "ix" "attach_value", member "byte_vector" value]
  | .confirmProcessedRequest id => ofMembers
      [member "ix" "confirm_processed_request", member "request_id" id]
  | .transferTokenOwnership authority token => ofMembers
      [member "ix" "transfer_token_ownership", member "new_authority" authority,
        member "new_token" token]⟩

end BridgeClient
