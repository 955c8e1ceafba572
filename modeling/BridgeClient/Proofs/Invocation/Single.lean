import BridgeClient.Proofs.Invocation.Submission

set_option autoImplicit false

/-!
One payload alone, and the same payload as a list of one. Packing measures what signing will make,
so both make the same requests and have the same result. The order of the checks shows only when
both fail: packing looks at the size first, signing alone at the signatures.
-/
namespace BridgeClient

open Sequencing Packing

namespace Message

variable {instructions : List Instruction} {feePayer : Key} {blockhash : Blockhash}
  {message : Message}

/-- No one is asked to sign who does not have to, not even when the count of signers is read as
zero. -/
theorem mustSign_of_mem_signerKeys
    (compiled : compile instructions feePayer blockhash = .ok message) {key : Key}
    (asked : key ∈ message.signerKeys) : MustSign instructions feePayer key := by
  by_cases full : message.AllSign instructions feePayer
  · rw [signerKeys_of_allSign compiled full] at asked
    cases asked
  · have tells := headerTells_of_compile compiled full
    exact (mem_signerKeys_iff_mustSign compiled tells key).mp asked

end Message

namespace Executor

variable {K P : Type} [SigningKey K] [Payload P] {target : ProgramTarget} {context : CallContext K}
  {blockhash : Blockhash} {node : Node} {journal : Journal}

section Prepare

variable {group : List Instruction} {message : Message} {reason : BridgeError}

/-- What cannot be measured cannot be signed, for the same reason. -/
theorem prepare_of_measure_error
    (failed : measure context.primaryKey blockhash group = .error reason) :
    prepare context group blockhash = .error reason := by
  rcases bind_eq_error_iff.mp failed with uncompiled | ⟨message, compiled, unsized⟩
  · rw [prepare, uncompiled]
    rfl
  · have unwritten := Transaction.wireSize_eq_error_iff.mp unsized
    rw [prepare, compiled]
    show (message.serialize >>= _) = _
    rw [unwritten]
    rfl

/-- What follows once the message is compiled and written: slots, size, and the bytes to send. -/
theorem prepare_of_compiled
    (compiled : Message.compile group context.primaryKey blockhash = .ok message)
    (countable : message.Countable) :
    prepare context group blockhash =
      (Transaction.assemble message (signatures context message.layout) >>= fun transaction =>
        transaction.serialize >>= fun raw =>
          if Transaction.maxSize < raw.length then
            .error (.transactionTooLarge raw.length Transaction.maxSize)
          else .ok ⟨message.layout, raw⟩) := by
  rw [prepare, compiled]
  show (message.serialize >>= _) = _
  rw [Message.serialize_of_countable countable]
  rfl

theorem prepare_of_unassembled
    (compiled : Message.compile group context.primaryKey blockhash = .ok message)
    (countable : message.Countable)
    (failed : Transaction.assemble message (signatures context message.layout) = .error reason) :
    prepare context group blockhash = .error reason := by
  rw [prepare_of_compiled compiled countable, failed]
  rfl

theorem prepare_of_large {ordered : List Signature}
    (compiled : Message.compile group context.primaryKey blockhash = .ok message)
    (countable : message.Countable)
    (assembled : Transaction.assemble message (signatures context message.layout) =
      .ok ⟨ordered, message⟩)
    (large : Transaction.maxSize <
      Transaction.signedSize message.requiredSignatures.toNat message) :
    prepare context group blockhash = .error (.transactionTooLarge
      (Transaction.signedSize message.requiredSignatures.toNat message) Transaction.maxSize) := by
  have filled : message.signerKeys.map (signatures context message.layout).find? =
      ordered.map some := (Transaction.assemble_eq_ok_iff.mp assembled).2
  obtain ⟨_, size⟩ := length_layout_of_signed compiled filled
  have few := Transaction.length_lt_of_slots filled
  have written : (Transaction.mk ordered message).serialize =
      .ok (Transaction.mk ordered message).layout :=
    Transaction.serialize_eq_ok_iff.mpr ⟨countable, few, rfl⟩
  rw [prepare_of_compiled compiled countable, assembled]
  show ((Transaction.mk ordered message).serialize >>= _) = _
  rw [written]
  show (if Transaction.maxSize < (Transaction.mk ordered message).layout.length then _ else _) = _
  rw [size, if_pos large]

/-- A slot stays empty for an account that is flagged as a signer and has no keypair. -/
theorem keyless_of_unassembled (uniform : Uniform target.program (context.accounts target) group)
    (nonempty : group ≠ [])
    (compiled : Message.compile group context.primaryKey blockhash = .ok message)
    (failed : Transaction.assemble message (signatures context message.layout) = .error reason) :
    (∃ text, reason = .signing text) ∧
      ∃ account ∈ context.accounts target, account.isSigner = true ∧
        account.key ∉ context.keys := by
  obtain ⟨before, key, after, split, _, missing, rfl⟩ :=
    Transaction.assemble_eq_error_iff.mp failed
  have absent : key ∉ context.keys := by
    intro present
    obtain ⟨signature, found⟩ := exists_find?_signatures_iff.mpr present
    rw [missing] at found
    cases found
  have asked : key ∈ message.signerKeys := by
    rw [split]
    exact List.mem_append_right _ (List.mem_cons_self ..)
  have signs := Message.mustSign_of_mem_signerKeys compiled asked
  refine ⟨⟨_, rfl⟩, ?_⟩
  rcases (mustSign_iff_of_uniform uniform nonempty key).mp signs with rfl | flagged
  · exact absurd (List.mem_cons_self ..) absent
  · obtain ⟨account, among, rfl, signer⟩ := flagged
    exact ⟨account, among, signer, absent⟩

/-- Beyond the size limit, signing reports the size, or first of all an account without keypair. -/
theorem prepare_of_overflow {size : Nat}
    (uniform : Uniform target.program (context.accounts target) group) (nonempty : group ≠ [])
    (measured : measure context.primaryKey blockhash group = .ok size)
    (large : Transaction.maxSize < size) :
    prepare context group blockhash = .error (.transactionTooLarge size Transaction.maxSize) ∨
      (∃ text, prepare context group blockhash = .error (.signing text)) ∧
        ∃ account ∈ context.accounts target, account.isSigner = true ∧
          account.key ∉ context.keys := by
  obtain ⟨message, compiled, sized⟩ := bind_eq_ok_iff.mp measured
  obtain ⟨countable, rfl⟩ := Transaction.wireSize_eq_ok_iff.mp sized
  cases assembled : Transaction.assemble message (signatures context message.layout) with
  | ok transaction =>
      obtain ⟨ordered, other⟩ := transaction
      obtain ⟨rfl, _⟩ := Transaction.assemble_eq_ok_iff.mp assembled
      exact Or.inl (prepare_of_large compiled countable assembled large)
  | error reason =>
      obtain ⟨⟨text, rfl⟩, keyless⟩ := keyless_of_unassembled uniform nonempty compiled assembled
      exact Or.inr ⟨⟨text, prepare_of_unassembled compiled countable assembled⟩, keyless⟩

end Prepare

section One

variable {payload : P} {instruction : Instruction} {reason : BridgeError}

theorem buildBatches_singleton_of_error
    (built : buildInstruction target context payload = .error reason) :
    buildBatches target context [payload] blockhash = .error reason := by
  rw [buildBatches, List.mapM_cons, built]
  rfl

theorem buildBatches_singleton_of_ok
    (built : buildInstruction target context payload = .ok instruction) :
    buildBatches target context [payload] blockhash =
      (measure context.primaryKey blockhash [instruction] >>= fun size =>
        if size ≤ Transaction.maxSize then .ok [[instruction]]
        else .error (.transactionTooLarge size Transaction.maxSize)) := by
  rw [buildBatches, List.mapM_cons, built]
  rfl

theorem invokeSingle_of_unasked (asked : node.blockhash journal.calls = .error reason) :
    invokeSingle target context payload node journal =
      ⟨.error reason, journal.call .blockhash⟩ := by
  simp only [invokeSingle, fetchBlockhash, asked]

theorem invokeSingle_of_unbuilt (asked : node.blockhash journal.calls = .ok blockhash)
    (built : buildInstruction target context payload = .error reason) :
    invokeSingle target context payload node journal =
      ⟨.error reason, journal.call .blockhash⟩ := by
  simp only [invokeSingle, fetchBlockhash, asked, built]

theorem invokeSingle_of_built (asked : node.blockhash journal.calls = .ok blockhash)
    (built : buildInstruction target context payload = .ok instruction) :
    invokeSingle target context payload node journal =
      signAndSubmit target context [instruction] blockhash node (journal.call .blockhash) := by
  simp only [invokeSingle, fetchBlockhash, asked, built]

end One

section Counting

variable (target : ProgramTarget) (context : CallContext K) (blockhash : Blockhash) (node : Node)
  (journal : Journal)

/-- What is counted changes neither a result nor a request. -/
theorem signAndSubmit_record (group : List Instruction) (event : Record) :
    (signAndSubmit target context group blockhash node (journal.record event)).result =
        (signAndSubmit target context group blockhash node journal).result ∧
      (signAndSubmit target context group blockhash node (journal.record event)).journal.calls =
        (signAndSubmit target context group blockhash node journal).journal.calls := by
  cases prepared : prepare context group blockhash with
  | error reason =>
      rw [signAndSubmit_of_error prepared, signAndSubmit_of_error prepared]
      exact ⟨rfl, rfl⟩
  | ok signed =>
      cases answer : node.send journal.calls signed.raw with
      | error reason =>
          rw [signAndSubmit_refused (journal.record event) prepared answer,
            signAndSubmit_refused journal prepared answer]
          exact ⟨rfl, rfl⟩
      | ok signature =>
          rw [signAndSubmit_accepted (journal.record event) prepared answer,
            signAndSubmit_accepted journal prepared answer]
          exact ⟨rfl, rfl⟩

/-- One batch is one transaction. -/
theorem submitBatches_singleton (batch : List Instruction) (last : Option CommandResponse) :
    (submitBatches target context blockhash node [batch] last journal).result =
        (signAndSubmit target context batch blockhash node journal).result ∧
      (submitBatches target context blockhash node [batch] last journal).journal.calls =
        (signAndSubmit target context batch blockhash node journal).journal.calls := by
  obtain ⟨sameResult, sameCalls⟩ := signAndSubmit_record target context blockhash node journal
    batch (.batchStarted (label target))
  rw [← sameResult, ← sameCalls, submitBatches]
  cases result : (signAndSubmit target context batch blockhash node
      (journal.record (.batchStarted (label target)))).result with
  | error reason => exact ⟨rfl, rfl⟩
  | ok response => exact ⟨rfl, rfl⟩

end Counting

section Agreement

variable (target : ProgramTarget) (context : CallContext K) (payload : P) (node : Node)
  (journal : Journal)

/-- Two faults at once: the transaction of a payload is too large, and an account that is flagged as
a signer has no keypair. -/
def LargeAndKeyless (size : Nat) : Prop :=
  (∃ blockhash data, node.blockhash journal.calls = .ok blockhash ∧
      Payload.serialize payload = .ok data ∧
      measure context.primaryKey blockhash [⟨target.program, context.accounts target, data⟩] =
        .ok size ∧ Transaction.maxSize < size) ∧
    ∃ account ∈ context.accounts target, account.isSigner = true ∧ account.key ∉ context.keys

/-- The same result, or of two faults the one reports the missing keypair and the other the size. -/
def SameButTwoFaults (single packed : Except BridgeError CommandResponse) : Prop :=
  single = packed ∨ ∃ text size, single = .error (.signing text) ∧
    packed = .error (.transactionTooLarge size Transaction.maxSize) ∧
    LargeAndKeyless target context payload node journal size

variable {target context payload node journal}

/-- A payload that fits is one batch. -/
theorem agrees_of_small {instruction : Instruction} {size : Nat}
    (asked : node.blockhash journal.calls = .ok blockhash)
    (built : buildInstruction target context payload = .ok instruction)
    (measured : measure context.primaryKey blockhash [instruction] = .ok size)
    (small : size ≤ Transaction.maxSize) :
    (invokeSingle target context payload node journal).journal.calls =
        (invokePacked target context [payload] node journal).journal.calls ∧
      (invokeSingle target context payload node journal).result =
        (invokePacked target context [payload] node journal).result := by
  have one : buildBatches target context [payload] blockhash = .ok [[instruction]] := by
    rw [buildBatches_singleton_of_ok built, measured]
    exact if_pos small
  rw [invokeSingle_of_built asked built, invokePacked_of_built (List.cons_ne_nil _ _) asked one]
  obtain ⟨result, calls⟩ := submitBatches_singleton target context blockhash node
    (journal.call .blockhash) [instruction] none
  exact ⟨calls.symm, result.symm⟩

/-- A payload that does not fit fails both times, before anything is sent. -/
theorem agrees_of_large {instruction : Instruction} {size : Nat}
    (asked : node.blockhash journal.calls = .ok blockhash)
    (built : buildInstruction target context payload = .ok instruction)
    (measured : measure context.primaryKey blockhash [instruction] = .ok size)
    (large : Transaction.maxSize < size) :
    (invokeSingle target context payload node journal).journal.calls =
        (invokePacked target context [payload] node journal).journal.calls ∧
      SameButTwoFaults target context payload node journal
        (invokeSingle target context payload node journal).result
        (invokePacked target context [payload] node journal).result := by
  have refused : buildBatches target context [payload] blockhash =
      .error (.transactionTooLarge size Transaction.maxSize) := by
    rw [buildBatches_singleton_of_ok built, measured]
    exact if_neg (Nat.not_le.mpr large)
  rw [invokeSingle_of_built asked built,
    invokePacked_of_unbuilt (List.cons_ne_nil _ _) asked refused]
  obtain ⟨data, serialized, rfl⟩ := buildInstruction_eq_ok_iff.mp built
  have uniform : Uniform target.program (context.accounts target)
      [⟨target.program, context.accounts target, data⟩] :=
    uniform_map target.program (context.accounts target) [data]
  rcases prepare_of_overflow uniform (List.cons_ne_nil _ _) measured large with
    prepared | ⟨⟨text, prepared⟩, keyless⟩
  · rw [signAndSubmit_of_error prepared]
    exact ⟨rfl, Or.inl rfl⟩
  · rw [signAndSubmit_of_error prepared]
    refine ⟨rfl, Or.inr ⟨text, size, rfl, rfl, ?_, keyless⟩⟩
    exact ⟨blockhash, data, asked, serialized, measured, large⟩

variable (target context payload node journal)

theorem invokeSingle_agrees :
    (invokeSingle target context payload node journal).journal.calls =
        (invokePacked target context [payload] node journal).journal.calls ∧
      SameButTwoFaults target context payload node journal
        (invokeSingle target context payload node journal).result
        (invokePacked target context [payload] node journal).result := by
  have nonempty : [payload] ≠ [] := List.cons_ne_nil _ _
  cases asked : node.blockhash journal.calls with
  | error reason =>
      rw [invokeSingle_of_unasked asked, invokePacked_of_unasked nonempty asked]
      exact ⟨rfl, Or.inl rfl⟩
  | ok blockhash =>
      cases built : buildInstruction target context payload with
      | error reason =>
          rw [invokeSingle_of_unbuilt asked built, invokePacked_of_unbuilt nonempty asked
            (buildBatches_singleton_of_error built)]
          exact ⟨rfl, Or.inl rfl⟩
      | ok instruction =>
          cases measured : measure context.primaryKey blockhash [instruction] with
          | error reason =>
              have refused : buildBatches target context [payload] blockhash = .error reason := by
                rw [buildBatches_singleton_of_ok built, measured]
                rfl
              rw [invokeSingle_of_built asked built, invokePacked_of_unbuilt nonempty asked refused,
                signAndSubmit_of_error (prepare_of_measure_error measured)]
              exact ⟨rfl, Or.inl rfl⟩
          | ok size =>
              by_cases small : size ≤ Transaction.maxSize
              · obtain ⟨calls, same⟩ := agrees_of_small asked built measured small
                exact ⟨calls, Or.inl same⟩
              · exact agrees_of_large asked built measured (Nat.not_le.mp small)

end Agreement

/-- A payload alone and as a list of one makes the same requests, and has the same response or the
same error, but for two faults at once. -/
theorem single_agrees_with_batch (target : ProgramTarget) (context : CallContext K) (payload : P)
    (node : Node) (journal : Journal) :
    let single := invoke target context payload node journal
    let packed := invokeBatches target context [payload] node journal
    single.journal.calls = packed.journal.calls ∧
      (∀ response, single.result = .ok response ↔ packed.result = .ok response) ∧
      (single.result = packed.result ∨ ∃ text size,
        single.result = .error (.signing text) ∧
          packed.result = .error (.transactionTooLarge size Transaction.maxSize) ∧
          LargeAndKeyless target context payload node journal size) := by
  intro single packed
  have single_calls : single.journal.calls =
      (invokeSingle target context payload node journal).journal.calls := observe_calls _
  have packed_calls : packed.journal.calls =
      (invokePacked target context [payload] node journal).journal.calls := observe_calls _
  have single_result : single.result =
      (invokeSingle target context payload node journal).result := observe_result _
  have packed_result : packed.result =
      (invokePacked target context [payload] node journal).result := observe_result _
  obtain ⟨calls, results⟩ := invokeSingle_agrees target context payload node journal
  rw [← single_calls, ← packed_calls] at calls
  rw [← single_result, ← packed_result] at results
  refine ⟨calls, ?_, results⟩
  intro response
  rcases results with same | ⟨text, size, signing, large, _⟩
  · rw [same]
  · rw [signing, large]
    constructor <;> intro answered <;> cases answered

/-- Of two faults, signing alone reports the missing keypair and packing the size. -/
example :
    let context : CallContext Stamp :=
      ⟨⟨Key.fill 1⟩, [], [AccountMeta.readOnly (Key.fill 7) true]⟩
    let node : Node :=
      ⟨fun _ => .ok (FixedBytes.fill 32 42), fun _ _ => .ok "taken", fun _ => .zero⟩
    let payload := PortInstruction.attachValue (List.replicate 1200 0)
    let target : ProgramTarget := ⟨Key.fill 10, Key.fill 11, none⟩
    let fault (outcome : Outcome CommandResponse) : String :=
      match outcome.result with
      | .ok _ => "none"
      | .error reason => reason.name
    fault (invoke target context payload node .empty) = "Signing" ∧
      fault (invokeBatches target context [payload] node .empty) = "TransactionTooLarge" := by
  decide +kernel

end Executor
end BridgeClient
