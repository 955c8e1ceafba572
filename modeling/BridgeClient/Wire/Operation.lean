import BridgeClient.Error
import BridgeClient.Number.Binary64
import BridgeClient.Number.Radix

set_option autoImplicit false

/-!
Swap operations and their wire format, which has no length prefixes:

  bound for the ledger:  tag 1, swap id 16, amount 8 (double, little endian), receiver 32
  bound for an EVM:      tag 1, swap id 32, amount big endian without leading zeros, receiver 20

Only the first has a fixed size and can be read back.
-/
namespace BridgeClient

/-- The chain an operation is executed on. -/
inductive Target where
  | ledger
  | evm
deriving DecidableEq

namespace Target

def name : Target → String
  | ledger => "Ledger"
  | evm => "Evm"

end Target

/-- What an operation asks for. Reading a tag does not judge it, so any other byte is kept. -/
inductive Action where
  | mint
  | unlock
  | confirm
  | other (tag : UInt8)
deriving DecidableEq

namespace Action

/-- One byte: `m`, `u`, `c`, or the byte that was kept. -/
def tag : Action → UInt8
  | mint => 109
  | unlock => 117
  | confirm => 99
  | other byte => byte

def ofTag (byte : UInt8) : Action :=
  if byte = 109 then mint
  else if byte = 117 then unlock
  else if byte = 99 then confirm
  else other byte

@[simp] theorem tag_ofTag (byte : UInt8) : (ofTag byte).tag = byte := by
  unfold ofTag
  split
  · simp_all [tag]
  · split
    · simp_all [tag]
    · split <;> simp_all [tag]

end Action

/-- The random identifier by which a port program refuses to act twice. -/
inductive SwapId where
  | ledger (id : FixedBytes 16)
  | evm (id : FixedBytes 32)
deriving DecidableEq

namespace SwapId

def target : SwapId → Target
  | ledger _ => .ledger
  | evm _ => .evm

def bytes : SwapId → Bytes
  | ledger id => id.toList
  | evm id => id.toList

end SwapId

/-- A double for the ledger, a whole number of base units for an EVM chain. -/
inductive SwapAmount where
  | ledger (amount : Binary64)
  | evm (amount : Nat)
deriving DecidableEq

namespace SwapAmount

def target : SwapAmount → Target
  | ledger _ => .ledger
  | evm _ => .evm

end SwapAmount

/-- Who is paid: a 32-byte ledger field, or a 20-byte EVM address. -/
inductive Receiver where
  | ledger (field : FixedBytes 32)
  | evm (address : FixedBytes 20)
deriving DecidableEq

namespace Receiver

def target : Receiver → Target
  | ledger _ => .ledger
  | evm _ => .evm

def bytes : Receiver → Bytes
  | ledger field => field.toList
  | evm address => address.toList

/-- An EVM address in the first 20 bytes of a ledger field, zeros behind it. -/
def paddedEvm (address : FixedBytes 20) : Receiver :=
  .ledger (address.append (FixedBytes.fill 12 0))

end Receiver

/-- A swap operation. Its three fields always belong to one chain. -/
inductive SwapOperation where
  | ledger (action : Action) (swapId : FixedBytes 16) (amount : Binary64) (receiver : FixedBytes 32)
  | evm (action : Action) (swapId : FixedBytes 32) (amount : Nat) (receiver : FixedBytes 20)
deriving DecidableEq

namespace SwapOperation

/-- The size of an operation bound for the ledger. -/
def ledgerLength : Nat := 1 + 16 + 8 + 32

/-- Joins fields that belong to one chain, and refuses any others. -/
def ofParts (action : Action) :
    SwapId → SwapAmount → Receiver → Except BridgeError SwapOperation
  | .ledger id, .ledger amount, .ledger receiver => .ok (ledger action id amount receiver)
  | .evm id, .evm amount, .evm receiver => .ok (evm action id amount receiver)
  | id, amount, receiver =>
      .error (.mixedEncoding
        (s!"swap id targets {id.target.name}, " ++
          s!"amount targets {amount.target.name}, receiver targets {receiver.target.name}"))

def target : SwapOperation → Target
  | ledger .. => .ledger
  | evm .. => .evm

def action : SwapOperation → Action
  | ledger action .. => action
  | evm action .. => action

def swapId : SwapOperation → SwapId
  | ledger _ id .. => .ledger id
  | evm _ id .. => .evm id

def amount : SwapOperation → SwapAmount
  | ledger _ _ amount _ => .ledger amount
  | evm _ _ amount _ => .evm amount

def receiver : SwapOperation → Receiver
  | ledger _ _ _ receiver => .ledger receiver
  | evm _ _ _ receiver => .evm receiver

/-- The same operation asking for something else. -/
def withAction (action : Action) : SwapOperation → SwapOperation
  | ledger _ id amount receiver => ledger action id amount receiver
  | evm _ id amount receiver => evm action id amount receiver

/-- Equality with doubles compared as numbers: a NaN differs from itself, the zeros agree. -/
def sameValue : SwapOperation → SwapOperation → Bool
  | ledger a id x r, ledger a' id' x' r' => a = a' && id = id' && x.numEq x' && r = r'
  | evm a id x r, evm a' id' x' r' => a = a' && id = id' && x = x' && r = r'
  | _, _ => false

/-- Big endian bytes without leading zeros; zero has none. -/
def minimalBigEndian (n : Nat) : Bytes := ((Radix.digits 256 n).map UInt8.ofNat).reverse

def encode : SwapOperation → Bytes
  | ledger action id amount receiver =>
      action.tag :: (id.toList ++ (amount.toBytes.toList ++ receiver.toList))
  | evm action id amount receiver =>
      action.tag :: (id.toList ++ (minimalBigEndian amount ++ receiver.toList))

/-- The three fields behind the tag of an operation bound for the ledger. -/
def decodeFields? (bytes : Bytes) : Option (FixedBytes 16 × FixedBytes 8 × FixedBytes 32) := do
  let (id, bytes) ← FixedBytes.split? 16 bytes
  let (amount, bytes) ← FixedBytes.split? 8 bytes
  let (receiver, _) ← FixedBytes.split? 32 bytes
  pure (id, amount, receiver)

/-- Reads an operation bound for the ledger off the front of a string. Only the length is checked:
any tag and any bits of a double are taken, and what follows is ignored. -/
def decode (bytes : Bytes) : Except BridgeError SwapOperation :=
  match bytes with
  | [] => .error (.invalidFormat ledgerLength 0)
  | tag :: fields =>
      match decodeFields? fields with
      | some (id, amount, receiver) =>
          .ok (ledger (Action.ofTag tag) id (Binary64.ofBytes amount) receiver)
      | none => .error (.invalidFormat ledgerLength bytes.length)

/-- Marks an encoded operation as a confirmation by its first byte. -/
def confirmEncoded : Bytes → Except BridgeError Bytes
  | [] => .error (.invalidFormat 1 0)
  | _ :: rest => .ok (Action.confirm.tag :: rest)

end SwapOperation
end BridgeClient
