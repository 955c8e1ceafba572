import BridgeClient.Proofs.Invocation.Submission

set_option autoImplicit false

/-!
The course of a call with several payloads: one request for a blockhash, then transactions that
carry the data of the payloads in their order, up to the first that the node refuses. The call
succeeds exactly when everything was sent and taken.
-/
namespace BridgeClient

open Sequencing Packing

/-- The data of the instructions of a transaction. -/
def Transaction.payloads (transaction : Transaction) : List Bytes :=
  transaction.message.instructions.map CompiledInstruction.data

namespace Executor

variable {K P : Type} [SigningKey K] [Payload P] {target : ProgramTarget} {context : CallContext K}
  {blockhash : Blockhash} {node : Node} {journal : Journal}

/-- A transaction of a group has the data of its instructions. -/
theorem payloads_of_compile {batch : List Instruction} {feePayer : Key} {transaction : Transaction}
    (compiled : Message.compile batch feePayer blockhash = .ok transaction.message) :
    transaction.message.blockhash = blockhash ∧
      transaction.payloads = batch.map Instruction.data := by
  obtain ⟨_, whole⟩ := Message.compile_eq_ok_iff.mp compiled
  rw [Transaction.payloads, whole, Message.ofRoster, List.map_map]
  exact ⟨rfl, rfl⟩

/-- The transactions of some batches carry the data of all of them, in order. -/
theorem exists_transactions_of_prepare {batches : List (List Instruction)}
    {sent : List SignedTransaction}
    (prepared : batches.map (fun batch => prepare context batch blockhash) = sent.map .ok) :
    ∃ transactions : List Transaction,
      transactions.map Transaction.serialize = (sent.map SignedTransaction.raw).map .ok ∧
      (∀ transaction ∈ transactions, transaction.message.blockhash = blockhash) ∧
      transactions.flatMap Transaction.payloads = batches.flatten.map Instruction.data := by
  induction batches generalizing sent with
  | nil =>
      cases sent with
      | nil => exact ⟨[], rfl, by simp, rfl⟩
      | cons first others => cases prepared
  | cons batch rest ih =>
      cases sent with
      | nil => cases prepared
      | cons first others =>
          rw [List.map_cons, List.map_cons, List.cons.injEq] at prepared
          obtain ⟨transaction, written, compiled, _⟩ := exists_transaction_of_prepare prepared.1
          obtain ⟨hash, data⟩ := payloads_of_compile compiled
          obtain ⟨transactions, allWritten, hashes, allData⟩ := ih prepared.2
          refine ⟨transaction :: transactions, ?_, ?_, ?_⟩
          · rw [List.map_cons, written, allWritten, List.map_cons, List.map_cons]
          · exact List.forall_mem_cons.mpr ⟨hash, hashes⟩
          · rw [List.flatMap_cons, data, allData, List.flatten_cons, List.map_append]

/-- The batches hold the data of the payloads, in order. -/
theorem serialize_of_build {payloads : List P} {batches : List (List Instruction)}
    (built : buildBatches target context payloads blockhash = .ok batches) :
    payloads.map Payload.serialize = (batches.flatten.map Instruction.data).map .ok := by
  obtain ⟨instructions, built, packed⟩ := buildBatches_eq_ok_iff.mp built
  have data_of (payload : P) :
      (buildInstruction target context payload).map Instruction.data =
        Payload.serialize payload := by
    unfold buildInstruction
    cases Payload.serialize payload <;> rfl
  calc payloads.map Payload.serialize
      = (payloads.map (buildInstruction target context)).map (Except.map Instruction.data) := by
        simp only [List.map_map, Function.comp_def, data_of]
    _ = (instructions.map .ok).map (Except.map Instruction.data) := by rw [built]
    _ = (batches.flatten.map Instruction.data).map .ok := by
        simp only [(pack_isCut packed).joined, List.map_map]
        rfl

/-- The data of the first batches is the data of all of them only if there are no others. -/
theorem data_eq_iff {sent unsent : List (List Instruction)}
    (nonempty : ∀ batch ∈ unsent, batch ≠ []) :
    (sent.flatten.map Instruction.data).map (Except.ok (ε := BridgeError)) =
        ((sent ++ unsent).flatten.map Instruction.data).map .ok ↔ unsent = [] := by
  constructor
  · intro same
    have lengths := congrArg List.length same
    simp only [List.length_map, List.flatten_append, List.length_append] at lengths
    have none_left : unsent.flatten = [] := List.eq_nil_of_length_eq_zero (by omega)
    cases unsent with
    | nil => rfl
    | cons batch rest =>
        rw [List.flatten_cons, List.append_eq_nil_iff] at none_left
        exact absurd none_left.1 (nonempty batch (List.mem_cons_self ..))
  · intro ended
    rw [ended, List.append_nil]

/-- A call with payloads: the transactions it sends, and how it ends. -/
structure Course (target : ProgramTarget) (context : CallContext K) (payloads : List P)
    (node : Node) (journal : Journal) (outcome : Outcome CommandResponse) (raws : List Bytes)
    (transactions : List Transaction) : Prop where
  /-- One request for a blockhash, and then the sends. -/
  calls : outcome.journal.calls = journal.calls ++ .blockhash :: raws.map .send
  /-- Only when the blockhash was given and the payloads were packed is anything sent. -/
  packed : raws ≠ [] → ∃ blockhash batches, node.blockhash journal.calls = .ok blockhash ∧
    buildBatches target context payloads blockhash = .ok batches
  /-- What is sent are transactions. -/
  written : transactions.map Transaction.serialize = raws.map .ok
  /-- Their data is that of the payloads from the first on: none is lost, moved or sent twice. -/
  ordered : (transactions.flatMap Transaction.payloads).map .ok <+: payloads.map Payload.serialize
  /-- They carry the blockhash that was given. -/
  dated : ∀ transaction ∈ transactions,
    node.blockhash journal.calls = .ok transaction.message.blockhash
  /-- A refusal ends the call and is its error. -/
  stops : ∀ earlier raw later reason, raws = earlier ++ raw :: later →
    node.send (journal.calls ++ .blockhash :: earlier.map .send) raw = .error reason →
      later = [] ∧ outcome.result = .error reason
  /-- The call succeeds when all data was sent and every send was taken. -/
  complete : (∃ response, outcome.result = .ok response) ↔
    (transactions.flatMap Transaction.payloads).map .ok = payloads.map Payload.serialize ∧
      Accepted node (journal.calls ++ [.blockhash]) raws
  /-- Its response holds the signature of the last send. -/
  answered : ∀ response, outcome.result = .ok response → ∃ earlier raw, raws = earlier ++ [raw] ∧
    node.send (journal.calls ++ .blockhash :: earlier.map .send) raw = .ok response.txSignature
  /-- It fails for a hindrance, or by a refusal. -/
  failed : ∀ reason, outcome.result = .error reason →
    Hindrance target context payloads node journal reason ∨
      ∃ earlier raw, raws = earlier ++ [raw] ∧
        node.send (journal.calls ++ .blockhash :: earlier.map .send) raw = .error reason

/-- A call that is hindered fails and sends nothing. -/
theorem course_of_hindrance {payloads : List P} {outcome : Outcome CommandResponse}
    {reason : BridgeError} (nonempty : payloads ≠ [])
    (hindered : Hindrance target context payloads node journal reason)
    (ends : outcome.result = .error reason)
    (calls : outcome.journal.calls = journal.calls ++ [.blockhash]) :
    Course target context payloads node journal outcome [] [] where
  calls := calls
  packed := fun sends => absurd rfl sends
  written := rfl
  ordered := List.nil_prefix
  dated := by simp
  stops := by
    intro earlier raw later _ split
    simp at split
  complete := by
    rw [ends]
    constructor
    · intro answered
      obtain ⟨_, answered⟩ := answered
      cases answered
    · intro sent
      exact absurd (List.map_eq_nil_iff.mp sent.1.symm) nonempty
  answered := by
    intro response answered
    rw [ends] at answered
    cases answered
  failed := by
    intro other also
    rw [ends] at also
    cases also
    exact Or.inl hindered

/-- A call that can sign its batches sends them. -/
theorem course_of_delivers {payloads : List P} {outcome : Outcome CommandResponse}
    {batches : List (List Instruction)} {signed : List SignedTransaction}
    (asked : node.blockhash journal.calls = .ok blockhash)
    (built : buildBatches target context payloads blockhash = .ok batches)
    (prepared : batches.map (fun batch => prepare context batch blockhash) = signed.map .ok)
    (delivers : Delivers node journal signed outcome) :
    ∃ raws transactions, Course target context payloads node journal outcome raws transactions := by
  obtain ⟨made, calls, delivered⟩ := delivers
  obtain ⟨earlier, last, unsent, rfl, rfl, accepted, settled⟩ := delivered.split
  have history (sends : List NodeCall) :
      journal.calls ++ [.blockhash] ++ sends = journal.calls ++ .blockhash :: sends := by
    rw [List.append_assoc, List.singleton_append]
  -- The batches that were sent, and those that were not.
  obtain ⟨sent, others, rfl, sentPrepared, othersPrepared⟩ : ∃ sent others,
      batches = sent ++ others ∧
        sent.map (fun batch => prepare context batch blockhash) = (earlier ++ [last]).map .ok ∧
        others.map (fun batch => prepare context batch blockhash) = unsent.map .ok := by
    rw [List.append_cons, List.map_append] at prepared
    exact List.map_eq_append_iff.mp prepared
  have ended_iff : unsent = [] ↔ others = [] := by
    have lengths := congrArg List.length othersPrepared
    rw [List.length_map, List.length_map] at lengths
    rw [← List.length_eq_zero_iff, ← lengths, List.length_eq_zero_iff]
  obtain ⟨transactions, written, dated, data⟩ := exists_transactions_of_prepare sentPrepared
  rw [List.map_append, List.map_singleton] at written
  have whole := serialize_of_build built
  have complete_iff : (transactions.flatMap Transaction.payloads).map .ok =
      payloads.map Payload.serialize ↔ others = [] := by
    rw [whole, data]
    apply data_eq_iff
    intro batch among
    exact (batch_of_build built (List.mem_append_right _ among)).2.1
  refine ⟨_, transactions, calls, fun _ => ⟨_, _, asked, built⟩, written, ?_, ?_, ?_, ?_, ?_, ?_⟩
  · rw [whole, data, List.flatten_append, List.map_append, List.map_append]
    exact List.prefix_append _ _
  · intro transaction among
    rw [asked, dated transaction among]
  · intro front raw later reason split refused
    rw [← history] at refused
    obtain ⟨rfl, rfl, rfl⟩ := accepted.refused_last split refused
    exact ⟨rfl, settled.error_iff.mpr refused⟩
  · rw [settled.exists_ok_iff, complete_iff, accepted_concat_iff, ended_iff]
    exact and_congr_right fun _ => (and_iff_right accepted).symm
  · intro response succeeded
    rw [succeeded] at settled
    exact ⟨_, _, rfl, history _ ▸ settled.ok⟩
  · intro reason failed
    exact Or.inr ⟨_, _, rfl, history _ ▸ settled.error_iff.mp failed⟩

section Calls

variable (target : ProgramTarget) (context : CallContext K) (node : Node) (journal : Journal)

theorem course_of_observe {payloads : List P} {outcome : Outcome CommandResponse}
    {raws : List Bytes} {transactions : List Transaction}
    (course : Course target context payloads node journal outcome raws transactions) :
    Course target context payloads node journal (observe target node outcome) raws
      transactions := by
  obtain ⟨calls, packed, written, ordered, dated, stops, complete, answered, failed⟩ := course
  rw [← observe_result outcome] at stops complete answered failed
  rw [← observe_calls outcome] at calls
  exact ⟨calls, packed, written, ordered, dated, stops, complete, answered, failed⟩

/-- An empty call asks for nothing. A call with payloads asks for a blockhash and then sends the
data of the payloads in their order, until everything is sent or the node refuses. -/
theorem batches_sent_in_order (payloads : List P) :
    let outcome := invokeBatches target context payloads node journal
    (payloads = [] → outcome.journal.calls = journal.calls ∧
        ∃ text, outcome.result = .error (.configuration text)) ∧
      (payloads ≠ [] → ∃ raws transactions,
        Course target context payloads node journal outcome raws transactions) := by
  intro outcome
  constructor
  · intro empty
    subst empty
    exact ⟨rfl, _, rfl⟩
  · intro nonempty
    suffices ∃ raws transactions, Course target context payloads node journal
        (invokePacked target context payloads node journal) raws transactions by
      obtain ⟨raws, transactions, course⟩ := this
      exact ⟨raws, transactions, course_of_observe target context node journal course⟩
    rcases invokePacked_hindered_or_delivers target context node journal nonempty with
      ⟨reason, hindered, failed, calls⟩ | ⟨_, _, _, asked, built, _, prepared, delivers⟩
    · exact ⟨[], [], course_of_hindrance nonempty hindered failed calls⟩
    · exact course_of_delivers asked built prepared delivers

end Calls

/-- Five payloads take two transactions, and the node refuses the second: the call ends with that
refusal, and both were sent. -/
theorem batches_sent_in_order_refused :
    let payloads := List.replicate 5 (PortInstruction.attachValue (List.replicate 300 0))
    let context : CallContext Stamp := .new ⟨Key.fill 1⟩
    let node : Node := ⟨fun _ => .ok (FixedBytes.fill 32 42), fun calls _ =>
      if calls.length = 1 then .ok "taken" else .error (.rejected "full"), fun _ => .zero⟩
    let outcome := invokeBatches ⟨Key.fill 10, Key.fill 11, none⟩ context payloads node .empty
    payloads ≠ [] ∧ ∃ first second transactions,
      Course ⟨Key.fill 10, Key.fill 11, none⟩ context payloads node .empty outcome [first, second]
        transactions ∧ outcome.result = .error (.rejected "full") := by
  intro payloads context node outcome
  have nonempty : payloads ≠ [] := by decide
  obtain ⟨raws, transactions, course⟩ :=
    (batches_sent_in_order ⟨Key.fill 10, Key.fill 11, none⟩ context node .empty payloads).2 nonempty
  have calls : outcome.journal.calls.length = 3 := by decide +kernel
  have lengths : outcome.journal.calls.length = raws.length + 1 := by
    rw [course.calls, List.length_append, List.length_cons, List.length_map]
    exact Nat.zero_add _
  have two : raws.length = 2 := by omega
  match raws, two, course with
  | [first, second], _, course =>
      have refused := course.stops [first] second [] (.rejected "full") rfl rfl
      exact ⟨nonempty, first, second, transactions, course, refused.2⟩

end Executor
end BridgeClient
