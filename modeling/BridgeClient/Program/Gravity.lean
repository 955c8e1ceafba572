import BridgeClient.Program.Borsh

set_option autoImplicit false

/-! Instructions of the consensus program: the first set of consuls, and its rotation. -/
namespace BridgeClient

inductive GravityInstruction where
  | init (bft : UInt8) (initRound : UInt64) (consuls : Bytes)
  | updateConsuls (bft : UInt8) (lastRound : UInt64) (consuls : Bytes)
deriving DecidableEq

namespace GravityInstruction

/-- The first set of consuls. -/
def initKeys (bft : UInt8) (initRound : UInt64) (consuls : List Key) : GravityInstruction :=
  init bft initRound (Key.pack consuls)

/-- A new set of consuls, signed by the old. -/
def updateConsulKeys (bft : UInt8) (lastRound : UInt64) (consuls : List Key) :
    GravityInstruction :=
  updateConsuls bft lastRound (Key.pack consuls)

def encode : GravityInstruction → Bytes
  | init bft round consuls =>
      0 :: bft :: (Borsh.writeWord64 round ++ Borsh.writeByteString consuls)
  | updateConsuls bft round consuls =>
      1 :: bft :: (Borsh.writeWord64 round ++ Borsh.writeByteString consuls)

def read : Borsh.Reader GravityInstruction := do
  let tag ← Borsh.byte
  if tag = 0 then
    return init (← Borsh.byte) (← Borsh.word64) (← Borsh.byteString)
  else if tag = 1 then
    return updateConsuls (← Borsh.byte) (← Borsh.word64) (← Borsh.byteString)
  else Borsh.Reader.fail (.unknownVariant tag)

def decode (bytes : Bytes) : Except Borsh.Fault GravityInstruction := read.whole bytes

end GravityInstruction
end BridgeClient
