import BridgeClient.Proofs.Invocation.Delivery
import BridgeClient.Proofs.Invocation.Packing

set_option autoImplicit false

/-!
Whole calls. A call is refused with nothing sent, or everything it will send can be signed before
the first transaction goes out: the batches of one call ask for the same signers, and what was
measured when they were packed is what is sent.
-/
namespace BridgeClient

open Sequencing Packing

/-- A call that ends with an error and sends nothing. -/
def Refuses (journal : Journal) (outcome : Outcome CommandResponse) : Prop :=
  (∃ reason, outcome.result = .error reason) ∧
    ∃ made, outcome.journal.calls = journal.calls ++ made ∧ ∀ raw, .send raw ∉ made

/-- A call that asks for a blockhash and then sends some transactions. -/
def Delivers (node : Node) (journal : Journal) (transactions : List SignedTransaction)
    (outcome : Outcome CommandResponse) : Prop :=
  ∃ made, outcome.journal.calls = journal.calls ++ .blockhash :: made ∧
    Delivered node (journal.calls ++ [.blockhash]) transactions made outcome.result

namespace CallContext

variable {K : Type} [SigningKey K]

/-- There is a keypair for every account that is flagged as a signer. -/
def Signable (context : CallContext K) (target : ProgramTarget) : Prop :=
  ∀ account ∈ context.accounts target, account.isSigner = true → account.key ∈ context.keys

end CallContext

/-- A party whose signature is its key, twice. -/
structure Stamp where
  key : Key

instance : SigningKey Stamp := ⟨Stamp.key, fun stamp _ => ⟨stamp.key.bytes.append stamp.key.bytes⟩⟩

namespace Executor

variable {K P : Type} [SigningKey K] [Payload P] {target : ProgramTarget} {context : CallContext K}
  {blockhash : Blockhash} {node : Node} {journal : Journal}

@[simp] theorem observe_result (outcome : Outcome CommandResponse) :
    (observe target node outcome).result = outcome.result := by
  unfold observe
  cases outcome.result <;> rfl

@[simp] theorem observe_calls (outcome : Outcome CommandResponse) :
    (observe target node outcome).journal.calls = outcome.journal.calls := by
  unfold observe
  cases outcome.result <;> rfl

theorem buildInstruction_eq_ok_iff {payload : P} {instruction : Instruction} :
    buildInstruction target context payload = .ok instruction ↔
      ∃ data, Payload.serialize payload = .ok data ∧
        instruction = ⟨target.program, context.accounts target, data⟩ := by
  unfold buildInstruction
  cases Payload.serialize payload <;> simp [bind, Except.bind, pure, Except.pure, eq_comm]

theorem buildBatches_eq_ok_iff {payloads : List P} {batches : List (List Instruction)} :
    buildBatches target context payloads blockhash = .ok batches ↔
      ∃ instructions, payloads.map (buildInstruction target context) = instructions.map .ok ∧
        pack instructions context.primaryKey blockhash = .ok batches := by
  simp only [buildBatches, bind_eq_ok_iff, mapM_eq_ok_iff]

theorem uniform_of_build {payloads : List P} {instructions : List Instruction}
    (built : payloads.map (buildInstruction target context) = instructions.map .ok) :
    Uniform target.program (context.accounts target) instructions := by
  intro instruction inside
  have made : Except.ok instruction ∈ payloads.map (buildInstruction target context) :=
    built ▸ List.mem_map_of_mem inside
  obtain ⟨payload, _, made⟩ := List.mem_map.mp made
  obtain ⟨_, _, rfl⟩ := buildInstruction_eq_ok_iff.mp made
  exact ⟨rfl, rfl⟩

/-- A batch has instructions of the call only, at least one, and fits. -/
theorem batch_of_build {payloads : List P} {batches : List (List Instruction)}
    {batch : List Instruction}
    (built : buildBatches target context payloads blockhash = .ok batches)
    (among : batch ∈ batches) :
    Uniform target.program (context.accounts target) batch ∧ batch ≠ [] ∧
      Fits (measure context.primaryKey blockhash) batch := by
  obtain ⟨instructions, built, packed⟩ := buildBatches_eq_ok_iff.mp built
  have cut := pack_isCut packed
  exact ⟨cut.uniform (uniform_of_build built) among, cut.nonempty batch among,
    cut.fits batch among⟩

theorem batches_ne_nil {payloads : List P} {batches : List (List Instruction)}
    (nonempty : payloads ≠ [])
    (built : buildBatches target context payloads blockhash = .ok batches) : batches ≠ [] := by
  obtain ⟨instructions, built, packed⟩ := buildBatches_eq_ok_iff.mp built
  intro none_built
  have joined := (pack_isCut packed).joined
  rw [none_built, List.flatten_nil] at joined
  rw [← joined, List.map_nil, List.map_eq_nil_iff] at built
  exact nonempty built

/-- Every payload of a call that was packed fits alone. -/
theorem fits_of_build {payloads : List P} {batches : List (List Instruction)} {payload : P}
    (built : buildBatches target context payloads blockhash = .ok batches)
    (inside : payload ∈ payloads) :
    ∃ data, Payload.serialize payload = .ok data ∧ Fits (measure context.primaryKey blockhash)
      [⟨target.program, context.accounts target, data⟩] := by
  obtain ⟨instructions, built, packed⟩ := buildBatches_eq_ok_iff.mp built
  have made : buildInstruction target context payload ∈ instructions.map .ok :=
    built ▸ List.mem_map_of_mem inside
  obtain ⟨instruction, among, made⟩ := List.mem_map.mp made
  obtain ⟨data, serialized, rfl⟩ := buildInstruction_eq_ok_iff.mp made.symm
  exact ⟨data, serialized, fits_alone_of_isCut (uniform_of_build built) (pack_isCut packed) among⟩

/-- What can be signed does not depend on the batch, as long as it fits. -/
theorem exists_prepare_iff_signable {batch : List Instruction}
    (uniform : Uniform target.program (context.accounts target) batch) (nonempty : batch ≠ [])
    (fits : Fits (measure context.primaryKey blockhash) batch) :
    (∃ signed, prepare context batch blockhash = .ok signed) ↔ context.Signable target := by
  have payer : context.primaryKey ∈ context.keys := List.mem_cons_self ..
  rw [exists_prepare_iff]
  constructor
  · intro parts account among flagged
    apply parts.2
    exact (mustSign_iff_of_uniform uniform nonempty _).mpr (Or.inr ⟨account, among, rfl, flagged⟩)
  · intro signable
    refine ⟨fits, ?_⟩
    intro key signs
    rcases (mustSign_iff_of_uniform uniform nonempty key).mp signs with rfl | asked
    · exact payer
    · obtain ⟨account, among, rfl, flagged⟩ := asked
      exact signable account among flagged

/-- One payload is refused, or one transaction of it is delivered. -/
theorem invokeSingle_cases (target : ProgramTarget) (context : CallContext K) (payload : P)
    (node : Node) (journal : Journal) :
    Refuses journal (invokeSingle target context payload node journal) ∨
      ∃ blockhash instruction signed,
        buildInstruction target context payload = .ok instruction ∧
          prepare context [instruction] blockhash = .ok signed ∧
          Delivers node journal [signed] (invokeSingle target context payload node journal) := by
  unfold invokeSingle fetchBlockhash
  cases asked : node.blockhash journal.calls with
  | error reason => exact Or.inl ⟨⟨reason, rfl⟩, [.blockhash], rfl, by simp⟩
  | ok blockhash =>
      cases built : buildInstruction target context payload with
      | error reason => exact Or.inl ⟨⟨reason, rfl⟩, [.blockhash], rfl, by simp⟩
      | ok instruction =>
          cases prepared : prepare context [instruction] blockhash with
          | error reason =>
              simp only [signAndSubmit_of_error prepared]
              exact Or.inl ⟨⟨reason, rfl⟩, [.blockhash], rfl, by simp⟩
          | ok signed =>
              obtain ⟨made, calls, delivered⟩ :=
                signAndSubmit_delivered prepared (journal.call .blockhash)
              refine Or.inr ⟨blockhash, instruction, signed, rfl, prepared, made, ?_, delivered⟩
              rw [List.append_cons]
              exact calls

theorem invokePacked_of_unasked {payloads : List P} {reason : BridgeError}
    (nonempty : payloads ≠ []) (asked : node.blockhash journal.calls = .error reason) :
    invokePacked target context payloads node journal =
      ⟨.error reason, journal.call .blockhash⟩ := by
  have filled : ¬ payloads.isEmpty = true := by simpa using nonempty
  simp only [invokePacked, filled, Bool.false_eq_true, ↓reduceIte, fetchBlockhash, asked]

theorem invokePacked_of_unbuilt {payloads : List P} {reason : BridgeError}
    (nonempty : payloads ≠ []) (asked : node.blockhash journal.calls = .ok blockhash)
    (built : buildBatches target context payloads blockhash = .error reason) :
    invokePacked target context payloads node journal =
      ⟨.error reason, journal.call .blockhash⟩ := by
  have filled : ¬ payloads.isEmpty = true := by simpa using nonempty
  simp only [invokePacked, filled, Bool.false_eq_true, ↓reduceIte, fetchBlockhash, asked, built]

theorem invokePacked_of_built {payloads : List P} {batches : List (List Instruction)}
    (nonempty : payloads ≠ []) (asked : node.blockhash journal.calls = .ok blockhash)
    (built : buildBatches target context payloads blockhash = .ok batches) :
    invokePacked target context payloads node journal =
      submitBatches target context blockhash node batches none (journal.call .blockhash) := by
  have filled : ¬ payloads.isEmpty = true := by simpa using nonempty
  simp only [invokePacked, filled, Bool.false_eq_true, ↓reduceIte, fetchBlockhash, asked, built]

/-- The batches of a call can all be signed, or the first of them already cannot. -/
theorem prepared_or_keyless {payloads : List P} {batches : List (List Instruction)}
    (nonempty : payloads ≠ [])
    (built : buildBatches target context payloads blockhash = .ok batches) :
    (context.Signable target ∧ ∃ transactions : List SignedTransaction,
        batches.map (fun batch => prepare context batch blockhash) = transactions.map .ok) ∨
      ¬ context.Signable target ∧ ∃ batch rest reason, batches = batch :: rest ∧
        prepare context batch blockhash = .error reason := by
  have each (batch : List Instruction) (among : batch ∈ batches) :
      (∃ signed, prepare context batch blockhash = .ok signed) ↔ context.Signable target := by
    obtain ⟨uniform, filled, fits⟩ := batch_of_build built among
    exact exists_prepare_iff_signable uniform filled fits
  by_cases signable : context.Signable target
  · refine Or.inl ⟨signable, exists_map_eq_map_iff.mpr ?_⟩
    intro batch among
    exact (each batch among).mpr signable
  · obtain ⟨batch, rest, rfl⟩ := List.exists_cons_of_ne_nil (batches_ne_nil nonempty built)
    refine Or.inr ⟨signable, ?_⟩
    cases prepared : prepare context batch blockhash with
    | ok signed =>
        exact absurd ((each batch (List.mem_cons_self ..)).mp ⟨signed, prepared⟩) signable
    | error reason => exact ⟨batch, rest, reason, rfl, prepared⟩

/-- What keeps a call with payloads from sending: the node gives no blockhash, the payloads cannot
be packed, or an account has no keypair. -/
def Hindrance (target : ProgramTarget) (context : CallContext K) (payloads : List P) (node : Node)
    (journal : Journal) (reason : BridgeError) : Prop :=
  node.blockhash journal.calls = .error reason ∨
    (∃ blockhash, node.blockhash journal.calls = .ok blockhash ∧
      buildBatches target context payloads blockhash = .error reason) ∨
    ¬ context.Signable target

/-- A call with payloads fails after its request for a blockhash, or delivers all its batches. -/
theorem invokePacked_hindered_or_delivers (target : ProgramTarget) (context : CallContext K)
    (node : Node) (journal : Journal) {payloads : List P} (nonempty : payloads ≠ []) :
    (∃ reason, Hindrance target context payloads node journal reason ∧
        (invokePacked target context payloads node journal).result = .error reason ∧
        (invokePacked target context payloads node journal).journal.calls =
          journal.calls ++ [.blockhash]) ∨
      ∃ blockhash batches transactions, node.blockhash journal.calls = .ok blockhash ∧
        buildBatches target context payloads blockhash = .ok batches ∧
        context.Signable target ∧
        batches.map (fun batch => prepare context batch blockhash) = transactions.map .ok ∧
        Delivers node journal transactions
          (invokePacked target context payloads node journal) := by
  cases asked : node.blockhash journal.calls with
  | error reason =>
      rw [invokePacked_of_unasked nonempty asked]
      exact Or.inl ⟨reason, Or.inl asked, rfl, rfl⟩
  | ok blockhash =>
      cases built : buildBatches target context payloads blockhash with
      | error reason =>
          rw [invokePacked_of_unbuilt nonempty asked built]
          exact Or.inl ⟨reason, Or.inr (Or.inl ⟨blockhash, asked, built⟩), rfl, rfl⟩
      | ok batches =>
          rw [invokePacked_of_built nonempty asked built]
          rcases prepared_or_keyless nonempty built with
            ⟨signable, transactions, prepared⟩ | ⟨keyless, batch, rest, reason, rfl, failing⟩
          · obtain ⟨made, calls, delivered⟩ :=
              submitBatches_delivered (batches_ne_nil nonempty built) prepared none
                (journal.call .blockhash)
            refine Or.inr ⟨blockhash, batches, transactions, rfl, built, signable, prepared, made,
              ?_, delivered⟩
            rw [List.append_cons]
            exact calls
          · obtain ⟨failed, calls⟩ :=
              submitBatches_of_error failing none (journal.call .blockhash)
            exact Or.inl ⟨reason, Or.inr (Or.inr keyless), failed, calls⟩

/-- A list of payloads is refused, or all its batches can be signed and are delivered. -/
theorem invokePacked_cases (target : ProgramTarget) (context : CallContext K) (payloads : List P)
    (node : Node) (journal : Journal) :
    Refuses journal (invokePacked target context payloads node journal) ∨
      ∃ blockhash batches transactions, node.blockhash journal.calls = .ok blockhash ∧
        buildBatches target context payloads blockhash = .ok batches ∧
        context.Signable target ∧
        batches.map (fun batch => prepare context batch blockhash) = transactions.map .ok ∧
        Delivers node journal transactions
          (invokePacked target context payloads node journal) := by
  by_cases empty : payloads = []
  · subst empty
    exact Or.inl ⟨⟨_, rfl⟩, [], (List.append_nil _).symm, by simp⟩
  · rcases invokePacked_hindered_or_delivers target context node journal empty with
      ⟨reason, _, failed, calls⟩ | delivers
    · exact Or.inl ⟨⟨reason, failed⟩, [.blockhash], calls, by simp⟩
    · exact Or.inr delivers

/-- What the context signs for instructions of the target's program on its account list. -/
def Prepares (target : ProgramTarget) (context : CallContext K) (signed : SignedTransaction) :
    Prop :=
  ∃ blockhash group, Uniform target.program (context.accounts target) group ∧ group ≠ [] ∧
    prepare context group blockhash = .ok signed

theorem Prepares.signedFor {signed : SignedTransaction} (prepares : Prepares target context signed)
    (flagged : ∀ signer ∈ context.signers, signer.isSigner = true) :
    ∃ signatures, SignedFor context signed.raw signatures signed.message := by
  obtain ⟨blockhash, group, uniform, nonempty, prepared⟩ := prepares
  exact exists_signedFor flagged uniform nonempty prepared

theorem invokeSingle_prepares (target : ProgramTarget) (context : CallContext K) (payload : P)
    (node : Node) (journal : Journal) :
    Refuses journal (invokeSingle target context payload node journal) ∨
      ∃ transactions, (∀ signed ∈ transactions, Prepares target context signed) ∧
        Delivers node journal transactions
          (invokeSingle target context payload node journal) := by
  rcases invokeSingle_cases target context payload node journal with refused | delivers
  · exact Or.inl refused
  · obtain ⟨blockhash, instruction, signed, built, prepared, delivers⟩ := delivers
    obtain ⟨data, _, rfl⟩ := buildInstruction_eq_ok_iff.mp built
    have uniform := uniform_map target.program (context.accounts target) [data]
    refine Or.inr ⟨[signed], ?_, delivers⟩
    intro other only
    cases List.mem_singleton.mp only
    exact ⟨blockhash, _, uniform, by simp, prepared⟩

theorem invokePacked_prepares (target : ProgramTarget) (context : CallContext K)
    (payloads : List P) (node : Node) (journal : Journal) :
    Refuses journal (invokePacked target context payloads node journal) ∨
      ∃ transactions, (∀ signed ∈ transactions, Prepares target context signed) ∧
        Delivers node journal transactions
          (invokePacked target context payloads node journal) := by
  rcases invokePacked_cases target context payloads node journal with refused | delivers
  · exact Or.inl refused
  · obtain ⟨blockhash, batches, transactions, _, built, _, prepared, delivers⟩ := delivers
    refine Or.inr ⟨transactions, ?_, delivers⟩
    intro signed among
    have entry : Except.ok signed ∈ batches.map fun batch => prepare context batch blockhash :=
      prepared ▸ List.mem_map_of_mem among
    obtain ⟨batch, inside, ready⟩ := List.mem_map.mp entry
    obtain ⟨uniform, nonempty, _⟩ := batch_of_build built inside
    exact ⟨blockhash, batch, uniform, nonempty, ready⟩

/-- Whatever a call sends is signed by everyone who has to sign, and its response shows the message
of the last transaction. -/
def SendsSigned (context : CallContext K) (journal : Journal) (outcome : Outcome CommandResponse) :
    Prop :=
  ∃ made, outcome.journal.calls = journal.calls ++ made ∧
    (∀ raw, .send raw ∈ made → ∃ signatures message, SignedFor context raw signatures message) ∧
    ∀ response, outcome.result = .ok response → ∃ earlier raw signatures message,
      made = earlier ++ [.send raw] ∧ SignedFor context raw signatures message ∧
        response.serializedMessage = Hex.encode message

theorem sendsSigned_of_refuses {outcome : Outcome CommandResponse}
    (refused : Refuses journal outcome) : SendsSigned context journal outcome := by
  obtain ⟨⟨reason, failed⟩, made, calls, unsent⟩ := refused
  refine ⟨made, calls, ?_, ?_⟩
  · intro raw inside
    exact absurd inside (unsent raw)
  · intro response answered
    rw [failed] at answered
    cases answered

theorem sendsSigned_of_delivers {transactions : List SignedTransaction}
    {outcome : Outcome CommandResponse}
    (each : ∀ signed ∈ transactions,
      ∃ signatures, SignedFor context signed.raw signatures signed.message)
    (delivers : Delivers node journal transactions outcome) :
    SendsSigned context journal outcome := by
  obtain ⟨made, calls, delivered⟩ := delivers
  refine ⟨.blockhash :: made, calls, ?_, ?_⟩
  · intro raw inside
    have later : .send raw ∈ made := by simpa using inside
    obtain ⟨signed, among, rfl⟩ := delivered.sent later
    obtain ⟨signatures, whole⟩ := each signed among
    exact ⟨signatures, signed.message, whole⟩
  · intro response answered
    rw [answered] at delivered
    obtain ⟨earlier, signed, among, rfl, shown⟩ := delivered.response
    obtain ⟨signatures, whole⟩ := each signed among
    exact ⟨.blockhash :: earlier, signed.raw, signatures, signed.message, rfl, whole, shown⟩

theorem invokeSingle_sendsSigned (flagged : ∀ signer ∈ context.signers, signer.isSigner = true)
    (payload : P) :
    SendsSigned context journal (invokeSingle target context payload node journal) := by
  rcases invokeSingle_prepares target context payload node journal with refused | delivers
  · exact sendsSigned_of_refuses refused
  · obtain ⟨transactions, prepares, delivers⟩ := delivers
    exact sendsSigned_of_delivers (fun signed among => (prepares signed among).signedFor flagged)
      delivers

theorem invokePacked_sendsSigned (flagged : ∀ signer ∈ context.signers, signer.isSigner = true)
    (payloads : List P) :
    SendsSigned context journal (invokePacked target context payloads node journal) := by
  rcases invokePacked_prepares target context payloads node journal with refused | delivers
  · exact sendsSigned_of_refuses refused
  · obtain ⟨transactions, prepares, delivers⟩ := delivers
    exact sendsSigned_of_delivers (fun signed among => (prepares signed among).signedFor flagged)
      delivers

theorem sendsSigned_observe {outcome : Outcome CommandResponse} :
    SendsSigned context journal (observe target node outcome) ↔
      SendsSigned context journal outcome := by
  simp only [SendsSigned, observe_result, observe_calls]

/-- Every transaction that a call sends, alone or in batches, is complete: it has one signature of
every signatory, in the order of the keys, each over the message that a response shows. -/
theorem sent_transactions_signed (target : ProgramTarget) (primary : K) (oracles : List K)
    (extra : List AccountMeta) (node : Node) (journal : Journal) :
    let context : CallContext K := ⟨primary, oracles.map AuxiliarySigner.oracle, extra⟩
    (∀ payload : P, SendsSigned context journal (invoke target context payload node journal)) ∧
      ∀ payloads : List P,
        SendsSigned context journal (invokeBatches target context payloads node journal) := by
  intro context
  have flagged : ∀ signer ∈ context.signers, signer.isSigner = true := by
    intro signer inside
    obtain ⟨keypair, _, rfl⟩ := List.mem_map.mp inside
    rfl
  constructor
  · intro payload
    exact sendsSigned_observe.mpr (invokeSingle_sendsSigned flagged payload)
  · intro payloads
    exact sendsSigned_observe.mpr (invokePacked_sendsSigned flagged payloads)

/-- The primary is also an oracle, and one oracle is named again among the extra accounts: two
signatures are sent. -/
theorem sent_transactions_signed_overlapping :
    let context : CallContext Stamp := ⟨⟨Key.fill 1⟩,
      [⟨Key.fill 2⟩, ⟨Key.fill 1⟩].map AuxiliarySigner.oracle,
      [AccountMeta.readOnly (Key.fill 2) true]⟩
    let node : Node :=
      ⟨fun _ => .ok (FixedBytes.fill 32 42), fun _ _ => .ok "taken", fun _ => .zero⟩
    let outcome := invoke ⟨Key.fill 10, Key.fill 11, none⟩ context (PortInstruction.attachValue [7])
      node .empty
    (∃ response, outcome.result = .ok response) ∧
      ∃ earlier raw signatures message, outcome.journal.calls = earlier ++ [.send raw] ∧
        SignedFor context raw signatures message ∧ signatures.length = 2 := by
  intro context node outcome
  have answered : outcome.result.isOk = true := by decide +kernel
  have signed : SendsSigned context .empty outcome :=
    (sent_transactions_signed _ _ _ _ _ _).1 (PortInstruction.attachValue [7])
  obtain ⟨made, calls, _, shown⟩ := signed
  cases result : outcome.result with
  | error reason =>
      rw [result] at answered
      cases answered
  | ok response =>
      obtain ⟨earlier, raw, signatures, message, rfl, whole, _⟩ := shown response result
      have everyone : context.signatories.length = 2 := by decide +kernel
      refine ⟨⟨response, rfl⟩, earlier, raw, signatures, message, ?_, whole,
        whole.counted.trans everyone⟩
      exact calls

/-- The data of a payload cannot be written, or an instruction of it does not fit alone. -/
def Unpackable (target : ProgramTarget) (context : CallContext K) (blockhash : Blockhash)
    (payload : P) : Prop :=
  ∀ data, Payload.serialize payload = .ok data → ¬ Fits (measure context.primaryKey blockhash)
    [⟨target.program, context.accounts target, data⟩]

theorem refuses_observe {outcome : Outcome CommandResponse} :
    Refuses journal (observe target node outcome) ↔ Refuses journal outcome := by
  simp only [Refuses, observe_result, observe_calls]

/-- A call that fails before or between its sends has sent nothing: an error after a send is the
answer to it. A payload that cannot be packed and an account without its keypair are refused. -/
theorem local_errors_precede_sending (target : ProgramTarget) (context : CallContext K)
    (payloads : List P) (node : Node) (journal : Journal) :
    let outcome := invokeBatches target context payloads node journal
    (∀ reason, outcome.result = .error reason → Refuses journal outcome ∨
        ∃ earlier raw, outcome.journal.calls = journal.calls ++ earlier ++ [.send raw] ∧
          node.send (journal.calls ++ earlier) raw = .error reason) ∧
      ((∃ payload ∈ payloads, ∀ blockhash, node.blockhash journal.calls = .ok blockhash →
          Unpackable target context blockhash payload) → Refuses journal outcome) ∧
      ((∃ account ∈ context.accounts target, account.isSigner = true ∧
          account.key ∉ context.keys) → Refuses journal outcome) := by
  intro outcome
  have result : outcome.result = (invokePacked target context payloads node journal).result :=
    observe_result _
  have calls : outcome.journal.calls =
      (invokePacked target context payloads node journal).journal.calls := observe_calls _
  rcases invokePacked_cases target context payloads node journal with refused | delivers
  · have nothing : Refuses journal outcome := refuses_observe.mpr refused
    exact ⟨fun _ _ => Or.inl nothing, fun _ => nothing, fun _ => nothing⟩
  · obtain ⟨blockhash, batches, transactions, asked, built, signable, _, made, sent, delivered⟩ :=
      delivers
    refine ⟨?_, ?_, ?_⟩
    · intro reason failed
      rw [← result, failed] at delivered
      obtain ⟨earlier, raw, rfl, refused⟩ := delivered.refusal
      refine Or.inr ⟨.blockhash :: earlier, raw, ?_, ?_⟩
      · rw [calls, sent, List.append_assoc, List.cons_append]
      · rw [List.append_cons]
        exact refused
    · intro unpackable
      obtain ⟨payload, inside, never⟩ := unpackable
      obtain ⟨data, serialized, fits⟩ := fits_of_build built inside
      exact absurd fits (never blockhash asked data serialized)
    · intro keyless
      obtain ⟨account, among, flagged, missing⟩ := keyless
      exact absurd (signable account among flagged) missing

/-- An extra account that should sign and has no keypair stops a call of three payloads. -/
theorem local_errors_precede_sending_keyless :
    Refuses .empty (invokeBatches ⟨Key.fill 10, Key.fill 11, none⟩
      (⟨⟨Key.fill 1⟩, [], [AccountMeta.readOnly (Key.fill 7) true]⟩ : CallContext Stamp)
      (List.replicate 3 (PortInstruction.attachValue (List.replicate 600 0)))
      ⟨fun _ => .ok (FixedBytes.fill 32 42), fun _ _ => .ok "taken", fun _ => .zero⟩ .empty) := by
  apply (local_errors_precede_sending _ _ _ _ _).2.2
  exact ⟨AccountMeta.readOnly (Key.fill 7) true, by decide, rfl, by decide⟩

end Executor
end BridgeClient
