import BridgeClient.Program.Borsh

set_option autoImplicit false

/-! Instructions of the oracle program: oracle sets, values for subscribers, subscriptions. -/
namespace BridgeClient

/-- The kind of value that is brought to subscribers. -/
inductive NebulaDataType where
  | int64
  | string
  | bytes
deriving DecidableEq

namespace NebulaDataType

def tag : NebulaDataType → UInt8
  | int64 => 0
  | string => 1
  | bytes => 2

def read : Borsh.Reader NebulaDataType := do
  let tag ← Borsh.byte
  if tag = 0 then return int64
  else if tag = 1 then return string
  else if tag = 2 then return bytes
  else Borsh.Reader.fail (.unknownVariant tag)

end NebulaDataType

inductive NebulaInstruction where
  | init (bft : UInt8) (dataType : NebulaDataType) (gravityProgram : Key) (oracles : Bytes)
  | updateOracles (bft : UInt8) (oracles : Bytes) (newRound : UInt64)
  | sendHashValue (dataHash : FixedBytes 64)
  | sendValueToSubs (dataValue : FixedBytes 64) (dataType : NebulaDataType) (pulseId : UInt64)
      (subscriptionId : FixedBytes 16)
  | subscribe (subscriber : Key) (minConfirmations : UInt8) (reward : UInt64)
      (subscriptionId : FixedBytes 16)
deriving DecidableEq

namespace NebulaInstruction

def initKeys (bft : UInt8) (dataType : NebulaDataType) (gravityProgram : Key)
    (oracles : List Key) : NebulaInstruction :=
  init bft dataType gravityProgram (Key.pack oracles)

def updateOracleKeys (bft : UInt8) (oracles : List Key) (newRound : UInt64) : NebulaInstruction :=
  updateOracles bft (Key.pack oracles) newRound

def encode : NebulaInstruction → Bytes
  | init bft dataType gravityProgram oracles =>
      0 :: bft :: dataType.tag ::
        (Borsh.writeKey gravityProgram ++ Borsh.writeByteString oracles)
  | updateOracles bft oracles newRound =>
      1 :: bft :: (Borsh.writeByteString oracles ++ Borsh.writeWord64 newRound)
  | sendHashValue dataHash => 2 :: dataHash.toList
  | sendValueToSubs dataValue dataType pulseId subscriptionId =>
      3 :: (dataValue.toList ++ dataType.tag ::
        (Borsh.writeWord64 pulseId ++ subscriptionId.toList))
  | subscribe subscriber minConfirmations reward subscriptionId =>
      4 :: (Borsh.writeKey subscriber ++ minConfirmations ::
        (Borsh.writeWord64 reward ++ subscriptionId.toList))

def read : Borsh.Reader NebulaInstruction := do
  let tag ← Borsh.byte
  if tag = 0 then
    return init (← Borsh.byte) (← NebulaDataType.read) (← Borsh.key) (← Borsh.byteString)
  else if tag = 1 then
    return updateOracles (← Borsh.byte) (← Borsh.byteString) (← Borsh.word64)
  else if tag = 2 then
    return sendHashValue (← Borsh.fixed 64)
  else if tag = 3 then
    return sendValueToSubs (← Borsh.fixed 64) (← NebulaDataType.read) (← Borsh.word64)
      (← Borsh.fixed 16)
  else if tag = 4 then
    return subscribe (← Borsh.key) (← Borsh.byte) (← Borsh.word64) (← Borsh.fixed 16)
  else Borsh.Reader.fail (.unknownVariant tag)

def decode (bytes : Bytes) : Except Borsh.Fault NebulaInstruction := read.whole bytes

end NebulaInstruction
end BridgeClient
