import BridgeClient.Proofs.Program.Instructions
import BridgeClient.Proofs.Wire.Layout

set_option autoImplicit false

/-!
One transfer on its way through a port: the request, the operation that is relayed for it, the bytes
that are attached for that, the bytes that confirm it, and the notice that the request is done. Its
identifier, receiver and amount are the same in all of them.
-/
namespace BridgeClient

namespace SwapOperation

theorem confirmEncoded_encode (operation : SwapOperation) :
    confirmEncoded operation.encode = .ok (operation.withAction .confirm).encode := by
  cases operation <;> rfl

/-- Only the first byte changes. -/
theorem tail_of_confirmEncoded {bytes confirmed : Bytes}
    (marked : confirmEncoded bytes = .ok confirmed) :
    confirmed.length = bytes.length ∧ confirmed.tail = bytes.tail := by
  cases bytes with
  | nil => cases marked
  | cons tag fields =>
      cases marked
      exact ⟨rfl, rfl⟩

theorem confirmEncoded_of_confirmEncoded {bytes confirmed : Bytes}
    (marked : confirmEncoded bytes = .ok confirmed) :
    confirmEncoded confirmed = .ok confirmed := by
  cases bytes with
  | nil => cases marked
  | cons tag fields =>
      cases marked
      rfl

end SwapOperation

theorem PortKind.ofTag_requestAction (kind : PortKind) :
    Action.ofTag kind.requestAction.tag = kind.requestAction := by
  cases kind <;> rfl

namespace PortInstruction

variable {kind : PortKind}

/-- A request is relayed with the number that its amount writes. -/
theorem toSwapOperation_eq_ok_iff {instruction : PortInstruction} {operation : SwapOperation} :
    instruction.toSwapOperation kind = .ok operation ↔
      ∃ (amount : FixedBytes 8) (receiver : FixedBytes 32) (id : FixedBytes 16),
        instruction = createTransferRequest amount.toList receiver id ∧
          operation = .ledger kind.requestAction id (Binary64.ofBytes amount) receiver := by
  constructor
  · intro relayed
    cases instruction with
    | createTransferRequest tokenAmount receiver id =>
        rw [toSwapOperation] at relayed
        split at relayed
        · rename_i amount found
          cases relayed
          rw [FixedBytes.ofList?_eq_some_iff] at found
          exact ⟨amount, receiver, id, by rw [found], rfl⟩
        · cases relayed
    | _ => cases relayed
  · rintro ⟨amount, receiver, id, rfl, rfl⟩
    rw [toSwapOperation, FixedBytes.ofList?_toList]

theorem exists_toSwapOperation_iff {instruction : PortInstruction} :
    (∃ operation, instruction.toSwapOperation kind = .ok operation) ↔
      ∃ tokenAmount receiver id, instruction = createTransferRequest tokenAmount receiver id ∧
        tokenAmount.length = 8 := by
  simp only [toSwapOperation_eq_ok_iff]
  constructor
  · rintro ⟨_, amount, receiver, id, rfl, _⟩
    exact ⟨amount.toList, receiver, id, rfl, amount.length_toList⟩
  · rintro ⟨tokenAmount, receiver, id, rfl, eight⟩
    exact ⟨_, ⟨tokenAmount, eight⟩, receiver, id, rfl, rfl⟩

/-- A transfer in each form that it takes: a request, the operation relayed for it, the bytes attached
for that, and the bytes that confirm it. -/
structure Passage (kind : PortKind) (receiver : FixedBytes 32) (id : FixedBytes 16)
    (amount : Binary64) (request : PortInstruction) (operation : SwapOperation)
    (attached confirmed : Bytes) : Prop where
  requests : decode request.encode = .ok request
  relays : request.toSwapOperation kind = .ok operation
  attaches : attachOperation operation = attachValue attached
  delivers : decode (attachOperation operation).encode = .ok (attachValue attached)
  reads : SwapOperation.decode attached = .ok (.ledger kind.requestAction id amount receiver)
  confirms : SwapOperation.confirmEncoded attached = .ok confirmed
  retags : confirmed.length = attached.length ∧ confirmed.tail = attached.tail
  rewrites : confirmed = (operation.withAction .confirm).encode
  settles : SwapOperation.confirmEncoded confirmed = .ok confirmed
  closes : decode (confirmProcessedRequest operation.swapId.bytes).encode =
    .ok (confirmProcessedRequest id.toList)

theorem passage_of_request (kind : PortKind) (receiver : FixedBytes 32) (id : FixedBytes 16)
    (amount : Binary64) :
    let operation := SwapOperation.ledger kind.requestAction id amount receiver
    Passage kind receiver id amount (createTransferRequest amount.toBytes.toList receiver id)
      operation operation.encode (operation.withAction .confirm).encode := by
  intro operation
  have few : amount.toBytes.toList.length < 2 ^ 32 := by
    rw [FixedBytes.length_toList]
    decide
  have short : operation.encode.length < 2 ^ 32 := by
    rw [SwapOperation.length_encode_ledger]
    decide
  have narrow : operation.swapId.bytes.length < 2 ^ 32 := by
    change id.toList.length < 2 ^ 32
    rw [FixedBytes.length_toList]
    decide
  have read : SwapOperation.decode operation.encode = .ok operation := by
    have again := SwapOperation.decode_encode_append kind.requestAction id amount receiver []
    rwa [List.append_nil, kind.ofTag_requestAction] at again
  have confirmed := operation.confirmEncoded_encode
  exact {
    requests := strict.roundTrip _ few
    relays := toSwapOperation_eq_ok_iff.mpr
      ⟨amount.toBytes, receiver, id, rfl, by rw [Binary64.ofBytes_toBytes]⟩
    attaches := rfl
    delivers := strict.roundTrip _ short
    reads := read
    confirms := confirmed
    retags := SwapOperation.tail_of_confirmEncoded confirmed
    rewrites := rfl
    settles := SwapOperation.confirmEncoded_of_confirmEncoded confirmed
    closes := strict.roundTrip _ narrow }

/-- Exactly the transfer requests with an amount of eight bytes are relayed; the identifier, the
receiver and every bit of the amount of a requested transfer are found in each form that it takes,
under a mint or an unlock as the port asks for; and confirming changes the first byte of any
operation's bytes to those of its confirmation, once and for all. -/
theorem transfer_keeps_fields :
    (∀ (kind : PortKind) (instruction : PortInstruction),
        (∃ operation, instruction.toSwapOperation kind = .ok operation) ↔
          ∃ tokenAmount receiver id, instruction = createTransferRequest tokenAmount receiver id ∧
            tokenAmount.length = 8) ∧
      (∀ (kind : PortKind) (receiver : FixedBytes 32) (id : FixedBytes 16) (amount : Binary64),
        ∃ operation attached confirmed, Passage kind receiver id amount
          (createTransferRequest amount.toBytes.toList receiver id) operation attached confirmed) ∧
      (∀ (kind : PortKind) (receiver : FixedBytes 32) (amount : Binary64) (source : RandomBytes),
        ∃ operation attached confirmed, Passage kind receiver (source.draw 16).1 amount
          (requestTransfer receiver amount source).1 operation attached confirmed) ∧
      (∀ kind : PortKind,
        kind.requestAction = match kind with | .ibPort => .mint | .luPort => .unlock) ∧
      ∀ operation : SwapOperation, ∃ confirmed,
        SwapOperation.confirmEncoded operation.encode = .ok confirmed ∧
          confirmed.length = operation.encode.length ∧ confirmed.tail = operation.encode.tail ∧
          confirmed = (operation.withAction .confirm).encode ∧
          SwapOperation.confirmEncoded confirmed = .ok confirmed := by
  refine ⟨fun _ _ => exists_toSwapOperation_iff, ?_, ?_, fun kind => by cases kind <;> rfl, ?_⟩
  · intro kind receiver id amount
    exact ⟨_, _, _, passage_of_request kind receiver id amount⟩
  · intro kind receiver amount source
    exact ⟨_, _, _, passage_of_request kind receiver (source.draw 16).1 amount⟩
  · intro operation
    have confirmed := operation.confirmEncoded_encode
    obtain ⟨long, rest⟩ := SwapOperation.tail_of_confirmEncoded confirmed
    exact ⟨_, confirmed, long, rest, rfl,
      SwapOperation.confirmEncoded_of_confirmEncoded confirmed⟩

end PortInstruction
end BridgeClient
