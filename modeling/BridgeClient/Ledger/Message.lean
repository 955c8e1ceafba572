import BridgeClient.Ledger.CompactLength
import BridgeClient.Ledger.Key

set_option autoImplicit false

/-!
Instructions, and the message they are compiled into.

A message names every account once. Its keys stand in four groups: writable signers, with the fee
payer first, read-only signers, writable accounts that do not sign, and the rest. Three counts in
front tell the groups apart. Instructions refer to accounts by their place.

Layout: the three counts, the number of keys, the keys, the blockhash, the number of instructions,
and per instruction the program's place, the number of accounts, their places, the length of the
data, the data. Numbers of things are compact lengths.
-/
namespace BridgeClient

/-- The recent block a transaction refers to. -/
abbrev Blockhash := FixedBytes 32

/-- An account of an instruction, with the roles asked for it. -/
structure AccountMeta where
  key : Key
  isSigner : Bool
  isWritable : Bool
deriving DecidableEq

namespace AccountMeta

def writable (key : Key) (isSigner : Bool) : AccountMeta := ⟨key, isSigner, true⟩

def readOnly (key : Key) (isSigner : Bool) : AccountMeta := ⟨key, isSigner, false⟩

/-- The group of the message an account with these roles belongs to. -/
def group (account : AccountMeta) : Nat :=
  if account.isSigner then (if account.isWritable then 0 else 1)
  else if account.isWritable then 2 else 3

/-- The same account with the roles of another mention added. -/
def join (account mention : AccountMeta) : AccountMeta :=
  ⟨account.key, account.isSigner || mention.isSigner, account.isWritable || mention.isWritable⟩

instance : ToJson AccountMeta := ⟨fun account =>
  Json.ofMembers
    [Json.member "pubkey" account.key, Json.member "signer" account.isSigner,
      Json.member "writable" account.isWritable]⟩

end AccountMeta

structure Instruction where
  program : Key
  accounts : List AccountMeta
  data : Bytes
deriving DecidableEq

/-- An instruction whose accounts are places in the key list. -/
structure CompiledInstruction where
  programIndex : UInt8
  accountIndices : List UInt8
  data : Bytes
deriving DecidableEq

/-- The part of a transaction that is signed. -/
structure Message where
  requiredSignatures : UInt8
  readOnlySigned : UInt8
  readOnlyUnsigned : UInt8
  accountKeys : List Key
  blockhash : Blockhash
  instructions : List CompiledInstruction
deriving DecidableEq

namespace Roster

/-- Adds a mention to a list that holds each account once: its roles are joined to those of the
account, or the account is put at the end. -/
def add : List AccountMeta → AccountMeta → List AccountMeta
  | [], mention => [mention]
  | account :: rest, mention =>
      if account.key = mention.key then account.join mention :: rest
      else account :: add rest mention

/-- Every mention of an account, in order: the fee payer, then per instruction its accounts and its
program, which asks for no role. -/
def mentions (instructions : List Instruction) (feePayer : Key) : List AccountMeta :=
  ⟨feePayer, true, true⟩ ::
    instructions.flatMap fun instruction =>
      instruction.accounts ++ [⟨instruction.program, false, false⟩]

/-- Every account once, by its first mention, with all the roles asked for it. -/
def collect (mentions : List AccountMeta) : List AccountMeta := mentions.foldl add []

/-- The four groups one after the other; the order within a group is kept. -/
def arrange (accounts : List AccountMeta) : List AccountMeta :=
  [0, 1, 2, 3].flatMap fun group => accounts.filter fun account => account.group = group

end Roster

namespace Message

/-- Places are one byte. -/
def maxAccounts : Nat := 256

/-- How many accounts satisfy a test, as the byte that the header holds. -/
def count (accounts : List AccountMeta) (test : AccountMeta → Bool) : UInt8 :=
  UInt8.ofNat (accounts.countP test)

/-- The place of a key. -/
def indexOf (keys : List Key) (key : Key) : Except BridgeError UInt8 :=
  match keys.idxOf? key with
  | some place => .ok (UInt8.ofNat place)
  | none =>
      let text := key.toBase58
      .error (.serialization s!"account {text} not in message")

def compileInstruction (keys : List Key) (instruction : Instruction) :
    Except BridgeError CompiledInstruction := do
  let accountIndices ← instruction.accounts.mapM fun account => indexOf keys account.key
  let programIndex ← indexOf keys instruction.program
  return ⟨programIndex, accountIndices, instruction.data⟩

/-- The message of some instructions for one fee payer. -/
def compile (instructions : List Instruction) (feePayer : Key) (blockhash : Blockhash) :
    Except BridgeError Message := do
  let accounts := Roster.arrange (Roster.collect (Roster.mentions instructions feePayer))
  if maxAccounts < accounts.length then
    let named := accounts.length
    throw (.serialization s!"{named} accounts exceed the u8 index space")
  let keys := accounts.map AccountMeta.key
  let compiled ← instructions.mapM (compileInstruction keys)
  return {
    requiredSignatures := count accounts fun a => a.isSigner
    readOnlySigned := count accounts fun a => a.isSigner && !a.isWritable
    readOnlyUnsigned := count accounts fun a => !a.isSigner && !a.isWritable
    accountKeys := keys
    blockhash
    instructions := compiled }

/-- The keys that must sign, in the order of the signatures. -/
def signerKeys (message : Message) : List Key :=
  message.accountKeys.take message.requiredSignatures.toNat

def serializeInstruction (instruction : CompiledInstruction) : Except BridgeError Bytes := do
  let accounts ← CompactLength.encodeChecked instruction.accountIndices.length
  let data ← CompactLength.encodeChecked instruction.data.length
  return instruction.programIndex ::
    (accounts ++ (instruction.accountIndices ++ (data ++ instruction.data)))

/-- The bytes that every signer signs. -/
def serialize (message : Message) : Except BridgeError Bytes := do
  let keyCount ← CompactLength.encodeChecked message.accountKeys.length
  let instructionCount ← CompactLength.encodeChecked message.instructions.length
  let instructions ← message.instructions.mapM serializeInstruction
  return message.requiredSignatures :: message.readOnlySigned :: message.readOnlyUnsigned ::
    (keyCount ++ (Key.pack message.accountKeys ++ (message.blockhash.toList ++
      (instructionCount ++ instructions.flatten))))

end Message
end BridgeClient
