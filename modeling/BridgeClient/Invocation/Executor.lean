import BridgeClient.Invocation.Context
import BridgeClient.Invocation.Packing
import BridgeClient.Ledger.Node
import BridgeClient.Metrics.Basic
import BridgeClient.Program.Gravity
import BridgeClient.Program.Nebula
import BridgeClient.Program.Port
import BridgeClient.Text.Hex

set_option autoImplicit false

/-!
Building, signing and submitting transactions of one program. A call asks for a blockhash, builds,
signs and submits, and the first error ends it. Nothing is retried: an answer only means that the
node took the transaction.
-/
namespace BridgeClient

/-- What can be the data of an instruction. -/
class Payload (P : Type) where
  serialize : P → Except BridgeError Bytes

instance : Payload GravityInstruction := ⟨fun payload => .ok payload.encode⟩
instance : Payload NebulaInstruction := ⟨fun payload => .ok payload.encode⟩
instance : Payload PortInstruction := ⟨fun payload => .ok payload.encode⟩

/-- What has happened so far: the requests made of the node, and the events counted. -/
structure Journal where
  calls : List NodeCall
  records : List Record
deriving DecidableEq

namespace Journal

def empty : Journal := ⟨[], []⟩

def call (journal : Journal) (request : NodeCall) : Journal :=
  { journal with calls := journal.calls ++ [request] }

def record (journal : Journal) (event : Record) : Journal :=
  { journal with records := journal.records ++ [event] }

end Journal

/-- A result, and the journal after it. -/
structure Outcome (α : Type) where
  result : Except BridgeError α
  journal : Journal

/-- A transaction ready to be sent, with the bytes that were signed. -/
structure SignedTransaction where
  message : Bytes
  raw : Bytes
deriving DecidableEq

namespace Executor

variable {K : Type} [SigningKey K]

/-- Asks the node for a blockhash. -/
def fetchBlockhash (node : Node) (journal : Journal) : Outcome Blockhash :=
  ⟨node.blockhash journal.calls, journal.call .blockhash⟩

/-- The name a program is counted under. -/
def label (target : ProgramTarget) : String := target.program.toBase58

def buildInstruction {P : Type} [Payload P] (target : ProgramTarget) (context : CallContext K)
    (payload : P) : Except BridgeError Instruction := do
  let data ← Payload.serialize payload
  return ⟨target.program, context.accounts target, data⟩

/-- Everyone's signature over a message; a party named twice signs twice, and the later counts. -/
def signatures (context : CallContext K) (message : Bytes) : SignatureMap :=
  context.signers.foldl
    (fun signed signer => signed.insert signer.publicKey (SigningKey.sign signer.key message))
    (SignatureMap.empty.insert context.primaryKey (SigningKey.sign context.primary message))

/-- The signed transaction of some instructions, if it can be signed and is not too large. -/
def prepare (context : CallContext K) (instructions : List Instruction) (blockhash : Blockhash) :
    Except BridgeError SignedTransaction := do
  let message ← Message.compile instructions context.primaryKey blockhash
  let bytes ← message.serialize
  let transaction ← Transaction.assemble message (signatures context bytes)
  let raw ← transaction.serialize
  if Transaction.maxSize < raw.length then
    throw (.transactionTooLarge raw.length Transaction.maxSize)
  return ⟨bytes, raw⟩

/-- Signs one transaction and sends it. -/
def signAndSubmit (target : ProgramTarget) (context : CallContext K)
    (instructions : List Instruction) (blockhash : Blockhash) (node : Node) (journal : Journal) :
    Outcome CommandResponse :=
  match prepare context instructions blockhash with
  | .error e => ⟨.error e, journal⟩
  | .ok transaction =>
      let sent := journal.call (.send transaction.raw)
      match node.send journal.calls transaction.raw with
      | .error e => ⟨.error e, sent⟩
      | .ok signature =>
          ⟨.ok ⟨Hex.encode transaction.message, signature⟩,
            sent.record (.transactionSubmitted (label target))⟩

/-- Submits batches in order, up to the first error; the answer is that of the last. -/
def submitBatches (target : ProgramTarget) (context : CallContext K) (blockhash : Blockhash)
    (node : Node) :
    List (List Instruction) → Option CommandResponse → Journal → Outcome CommandResponse
  | [], some last, journal => ⟨.ok last, journal⟩
  | [], none, journal => ⟨.error (.configuration "no batches were built"), journal⟩
  | batch :: rest, _, journal =>
      let started := journal.record (.batchStarted (label target))
      let outcome := signAndSubmit target context batch blockhash node started
      match outcome.result with
      | .error e => ⟨.error e, outcome.journal⟩
      | .ok response => submitBatches target context blockhash node rest (some response)
          outcome.journal

/-- One payload in one transaction. -/
def invokeSingle {P : Type} [Payload P] (target : ProgramTarget) (context : CallContext K)
    (payload : P) (node : Node) (journal : Journal) : Outcome CommandResponse :=
  let fetched := fetchBlockhash node journal
  match fetched.result with
  | .error e => ⟨.error e, fetched.journal⟩
  | .ok blockhash =>
      match buildInstruction target context payload with
      | .error e => ⟨.error e, fetched.journal⟩
      | .ok instruction =>
          signAndSubmit target context [instruction] blockhash node fetched.journal

/-- The batches of a list of payloads. -/
def buildBatches {P : Type} [Payload P] (target : ProgramTarget) (context : CallContext K)
    (payloads : List P) (blockhash : Blockhash) : Except BridgeError (List (List Instruction)) := do
  let instructions ← payloads.mapM (buildInstruction target context)
  Packing.pack instructions context.primaryKey blockhash

/-- Payloads packed into transactions that share one blockhash. -/
def invokePacked {P : Type} [Payload P] (target : ProgramTarget) (context : CallContext K)
    (payloads : List P) (node : Node) (journal : Journal) : Outcome CommandResponse :=
  if payloads.isEmpty then ⟨.error (.configuration "no payloads to invoke"), journal⟩
  else
    let fetched := fetchBlockhash node journal
    match fetched.result with
    | .error e => ⟨.error e, fetched.journal⟩
    | .ok blockhash =>
        match buildBatches target context payloads blockhash with
        | .error e => ⟨.error e, fetched.journal⟩
        | .ok batches => submitBatches target context blockhash node batches none fetched.journal

/-- Counts how a call ended: its duration, or the reason of its error. -/
def observe (target : ProgramTarget) (node : Node) (outcome : Outcome CommandResponse) :
    Outcome CommandResponse :=
  match outcome.result with
  | .ok response =>
      ⟨.ok response, outcome.journal.record
        (.transactionTimed (label target) (node.elapsed outcome.journal.calls))⟩
  | .error e =>
      ⟨.error e, outcome.journal.record (.transactionFailed (label target) e.reason)⟩

/-- Submits one payload. -/
def invoke {P : Type} [Payload P] (target : ProgramTarget) (context : CallContext K)
    (payload : P) (node : Node) (journal : Journal) : Outcome CommandResponse :=
  observe target node (invokeSingle target context payload node journal)

/-- Submits payloads in as few transactions as possible. What was sent before an error stays sent. -/
def invokeBatches {P : Type} [Payload P] (target : ProgramTarget) (context : CallContext K)
    (payloads : List P) (node : Node) (journal : Journal) : Outcome CommandResponse :=
  observe target node (invokePacked target context payloads node journal)

end Executor
end BridgeClient
