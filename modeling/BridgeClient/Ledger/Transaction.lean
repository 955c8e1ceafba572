import BridgeClient.Ledger.Message

set_option autoImplicit false

/-!
Signed transactions. Layout: the number of signatures as a compact length, the signatures, and the
message.
-/
namespace BridgeClient

/-- Signatures by the key they belong to; of two for one key the later counts. -/
structure SignatureMap where
  entries : List (Key × Signature)

namespace SignatureMap

def empty : SignatureMap := ⟨[]⟩

def insert (signatures : SignatureMap) (key : Key) (signature : Signature) : SignatureMap :=
  ⟨(key, signature) :: signatures.entries⟩

def find? (signatures : SignatureMap) (key : Key) : Option Signature :=
  signatures.entries.lookup key

@[simp] theorem find?_empty (key : Key) : empty.find? key = none := rfl

theorem find?_insert (signatures : SignatureMap) (key other : Key) (signature : Signature) :
    (signatures.insert key signature).find? other =
      if other = key then some signature else signatures.find? other := by
  unfold find? insert
  by_cases h : other = key
  · subst h; simp
  · have hne : (other == key) = false := by simp [h]
    simp [List.lookup_cons, hne, h]

end SignatureMap

structure Transaction where
  signatures : List Signature
  message : Message
deriving DecidableEq

namespace Transaction

/-- The largest transaction a node accepts. -/
def maxSize : Nat := 1232

/-- Puts each required signature into its slot. Signatures of other keys are dropped. -/
def assemble (message : Message) (signatures : SignatureMap) : Except BridgeError Transaction := do
  let ordered ← message.signerKeys.mapM fun key =>
    match signatures.find? key with
    | some signature => Except.ok signature
    | none =>
        let text := key.toBase58
        Except.error (BridgeError.signing s!"missing signature for {text}")
  return ⟨ordered, message⟩

def serialize (transaction : Transaction) : Except BridgeError Bytes := do
  let message ← transaction.message.serialize
  let count ← CompactLength.encodeChecked transaction.signatures.length
  return count ++
    ((transaction.signatures.flatMap fun signature => signature.bytes.toList) ++ message)

/-- The size a message will have once it is signed. -/
def wireSize (message : Message) : Except BridgeError Nat := do
  let signers := message.requiredSignatures.toNat
  let count ← CompactLength.encodeChecked signers
  let bytes ← message.serialize
  return count.length + 64 * signers + bytes.length

/-- A transaction is named by its first signature. -/
def id? (transaction : Transaction) : Option String :=
  transaction.signatures.head?.map Signature.toBase58

end Transaction
end BridgeClient
