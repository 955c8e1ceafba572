import BridgeClient.Ledger.Transaction

set_option autoImplicit false

/-!
Cutting a list of instructions into as few transactions as their size allows, in order. A
transaction takes instructions as long as it fits; one that does not fit alone is refused.
-/
namespace BridgeClient.Packing

/-- The size of one transaction with these instructions. -/
def measure (feePayer : Key) (blockhash : Blockhash) (instructions : List Instruction) :
    Except BridgeError Nat := do
  let message ← Message.compile instructions feePayer blockhash
  Transaction.wireSize message

/-- Packs instructions behind those already taken, given the size of a list of them. -/
def packFrom (measure : List Instruction → Except BridgeError Nat) :
    List Instruction → List Instruction → Except BridgeError (List (List Instruction))
  | [], [] => .ok []
  | taken, [] => .ok [taken]
  | [], next :: rest => do
      let size ← measure [next]
      if size ≤ Transaction.maxSize then packFrom measure [next] rest
      else throw (.transactionTooLarge size Transaction.maxSize)
  | taken, next :: rest => do
      let size ← measure (taken ++ [next])
      if size ≤ Transaction.maxSize then packFrom measure (taken ++ [next]) rest
      else
        let alone ← measure [next]
        if alone ≤ Transaction.maxSize then
          let batches ← packFrom measure [next] rest
          return taken :: batches
        else throw (.transactionTooLarge alone Transaction.maxSize)

/-- The batches of a list of instructions. -/
def pack (instructions : List Instruction) (feePayer : Key) (blockhash : Blockhash) :
    Except BridgeError (List (List Instruction)) :=
  packFrom (measure feePayer blockhash) [] instructions

end BridgeClient.Packing
