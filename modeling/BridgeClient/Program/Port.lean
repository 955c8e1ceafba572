import BridgeClient.Ledger.Derived
import BridgeClient.Program.Borsh
import BridgeClient.Wire.Builder

set_option autoImplicit false

/-!
Instructions of the port programs, which move tokens between the ledger and an EVM chain. Both ports
share them. They differ in what a transfer request asks of the other chain: the one that burns
wrapped tokens asks for a mint, the one that locks native tokens asks for an unlock.
-/
namespace BridgeClient

inductive PortKind where
  /-- Burns wrapped tokens; its requests mint. -/
  | ibPort
  /-- Locks native tokens; its requests unlock. -/
  | luPort
deriving DecidableEq

def PortKind.requestAction : PortKind → Action
  | ibPort => .mint
  | luPort => .unlock

inductive PortInstruction where
  | initWithOracles (nebulaDataAccount tokenDataAccount tokenMint : Key) (bft : UInt8)
      (oracles : Bytes)
  | createTransferRequest (tokenAmount : Bytes) (receiver : FixedBytes 32)
      (requestId : FixedBytes 16)
  | attachValue (byteVector : Bytes)
  | confirmProcessedRequest (requestId : Bytes)
  | transferTokenOwnership (newAuthority newToken : Key)
deriving DecidableEq

namespace PortInstruction

def initWithOracleKeys (nebulaDataAccount tokenDataAccount tokenMint : Key) (bft : UInt8)
    (oracles : List Key) : PortInstruction :=
  initWithOracles nebulaDataAccount tokenDataAccount tokenMint bft (Key.pack oracles)

/-- A request to pay `amount` to `receiver`, under the next 16 random bytes. -/
def requestTransfer (receiver : FixedBytes 32) (amount : Binary64) (source : RandomBytes) :
    PortInstruction × RandomBytes :=
  let (id, source) := source.draw 16
  (createTransferRequest amount.toBytes.toList receiver id, source)

/-- Brings an operation to the port in its wire encoding. -/
def attachOperation (operation : SwapOperation) : PortInstruction := attachValue operation.encode

def encode : PortInstruction → Bytes
  | initWithOracles nebulaDataAccount tokenDataAccount tokenMint bft oracles =>
      0 :: (Borsh.writeKey nebulaDataAccount ++ (Borsh.writeKey tokenDataAccount ++
        (Borsh.writeKey tokenMint ++ bft :: Borsh.writeByteString oracles)))
  | createTransferRequest tokenAmount receiver requestId =>
      1 :: (Borsh.writeByteString tokenAmount ++ (receiver.toList ++ requestId.toList))
  | attachValue byteVector => 2 :: Borsh.writeByteString byteVector
  | confirmProcessedRequest requestId => 3 :: Borsh.writeByteString requestId
  | transferTokenOwnership newAuthority newToken =>
      4 :: (Borsh.writeKey newAuthority ++ Borsh.writeKey newToken)

def read : Borsh.Reader PortInstruction := do
  let tag ← Borsh.byte
  if tag = 0 then
    return initWithOracles (← Borsh.key) (← Borsh.key) (← Borsh.key) (← Borsh.byte)
      (← Borsh.byteString)
  else if tag = 1 then
    return createTransferRequest (← Borsh.byteString) (← Borsh.fixed 32) (← Borsh.fixed 16)
  else if tag = 2 then return attachValue (← Borsh.byteString)
  else if tag = 3 then return confirmProcessedRequest (← Borsh.byteString)
  else if tag = 4 then return transferTokenOwnership (← Borsh.key) (← Borsh.key)
  else Borsh.Reader.fail (.unknownVariant tag)

def decode (bytes : Bytes) : Except Borsh.Fault PortInstruction := read.whole bytes

/-- Bytes as a bracketed list of numbers. -/
def describeBytes (bytes : Bytes) : String :=
  "[" ++ ", ".intercalate (bytes.map fun b => toString b.toNat) ++ "]"

/-- A name with its fields in braces. -/
def describeFields (name : String) (fields : List (String × String)) : String :=
  name ++ " \x7b " ++ ", ".intercalate (fields.map fun f => f.1 ++ ": " ++ f.2) ++ " \x7d"

/-- The instruction with all its fields, for messages. -/
def describe : PortInstruction → String
  | initWithOracles nebulaDataAccount tokenDataAccount tokenMint bft oracles =>
      describeFields "InitWithOracles"
        [("nebula_data_account", nebulaDataAccount.describe),
          ("token_data_account", tokenDataAccount.describe),
          ("token_mint", tokenMint.describe), ("bft", toString bft.toNat),
          ("oracles", describeBytes oracles)]
  | createTransferRequest tokenAmount receiver requestId =>
      describeFields "CreateTransferRequest"
        [("token_amount", describeBytes tokenAmount), ("receiver", describeBytes receiver.toList),
          ("request_id", describeBytes requestId.toList)]
  | attachValue byteVector => describeFields "AttachValue" [("byte_vector", describeBytes byteVector)]
  | confirmProcessedRequest requestId =>
      describeFields "ConfirmProcessedRequest" [("request_id", describeBytes requestId)]
  | transferTokenOwnership newAuthority newToken =>
      describeFields "TransferTokenOwnership"
        [("new_authority", newAuthority.describe), ("new_token", newToken.describe)]

/-- The operation that the oracles relay for a transfer request. -/
def toSwapOperation (kind : PortKind) : PortInstruction → Except BridgeError SwapOperation
  | createTransferRequest tokenAmount receiver requestId =>
      match FixedBytes.ofList? 8 tokenAmount with
      | some amount =>
          .ok (.ledger kind.requestAction requestId (Binary64.ofBytes amount) receiver)
      | none => .error (.invalidFormat 8 tokenAmount.length)
  | other => .error (.serialization (other.describe ++ " is not a transfer request"))

end PortInstruction

/-- The seed of a port's token authority. -/
def portSeed : Bytes := Bytes.ofAscii "ibport"

/-- The address a port signs mints and unlocks with. -/
def portAuthority (scheme : Derivation) (port : Key) : Except BridgeError (Key × UInt8) :=
  scheme.find [portSeed] port

end BridgeClient
