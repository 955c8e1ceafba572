import BridgeClient.Proofs.Invocation.Submission

set_option autoImplicit false

/-!
What a call counts on its way: an event for every batch whose signing is started and for every send
that the node takes, under the name of the program, and nothing else. A batch is started when all
batches in front of it were signed and taken, so one more is started than taken when the call fails.
-/
namespace BridgeClient

/-- How many of the requests made after some others are sends that the node takes. -/
def taken (node : Node) : List NodeCall → List NodeCall → Nat
  | _, [] => 0
  | before, .blockhash :: made => taken node (before ++ [.blockhash]) made
  | before, .send raw :: made =>
      (if (node.send before raw).isOk then 1 else 0) + taken node (before ++ [.send raw]) made

theorem taken_append (node : Node) (before made more : List NodeCall) :
    taken node before (made ++ more) = taken node before made + taken node (before ++ made) more := by
  induction made generalizing before with
  | nil => rw [List.nil_append, List.append_nil, taken, Nat.zero_add]
  | cons request rest ih =>
      cases request with
      | blockhash =>
          rw [List.cons_append, taken, taken, ih, ← List.append_cons]
      | send raw =>
          rw [List.cons_append, taken, taken, ih, ← List.append_cons, Nat.add_assoc]

/-- The events of a run of a program that starts some batches and has some sends taken. -/
structure Tally (program : String) (started accepted : Nat) (events : List Record) : Prop where
  only : ∀ event ∈ events, event = .batchStarted program ∨ event = .transactionSubmitted program
  started : events.count (.batchStarted program) = started
  accepted : events.count (.transactionSubmitted program) = accepted

theorem Tally.nil (program : String) : Tally program 0 0 [] := ⟨by simp, rfl, rfl⟩

theorem Tally.append {program : String} {started accepted others more : Nat}
    {events later : List Record} (first : Tally program started accepted events)
    (next : Tally program others more later) :
    Tally program (started + others) (accepted + more) (events ++ later) where
  only := by
    intro event inside
    rcases List.mem_append.mp inside with inside | inside
    · exact first.only event inside
    · exact next.only event inside
  started := by rw [List.count_append, first.started, next.started]
  accepted := by rw [List.count_append, first.accepted, next.accepted]

theorem Tally.batchStarted (program : String) : Tally program 1 0 [.batchStarted program] :=
  ⟨by simp, by simp, by simp⟩

theorem Tally.submitted (program : String) : Tally program 0 1 [.transactionSubmitted program] :=
  ⟨by simp, by simp, by simp⟩

/-- The events of either kind weigh as many as there are. -/
theorem Tally.countP {program : String} {started accepted : Nat} {events : List Record}
    (tally : Tally program started accepted events) (raises : Record → Bool) :
    events.countP raises = (if raises (.batchStarted program) then started else 0) +
      if raises (.transactionSubmitted program) then accepted else 0 := by
  obtain ⟨only, rfl, rfl⟩ := tally
  induction events with
  | nil => simp
  | cons event rest ih =>
      have others := ih fun other inside => only other (List.mem_cons_of_mem _ inside)
      rw [List.countP_cons, others, List.count_cons, List.count_cons]
      rcases only event (List.mem_cons_self ..) with same | same
      · subst same
        cases raises (.batchStarted program) <;> simp [Nat.add_right_comm]
      · subst same
        cases raises (.transactionSubmitted program) <;> simp [Nat.add_assoc]

namespace Executor

variable {K P : Type} [SigningKey K] [Payload P] {target : ProgramTarget} {context : CallContext K}
  {blockhash : Blockhash} {node : Node}

/-- How many of some batches are started after some requests: a batch that cannot be signed, or that
the node does not take, is the last one. -/
def started (context : CallContext K) (blockhash : Blockhash) (node : Node) :
    List NodeCall → List (List Instruction) → Nat
  | _, [] => 0
  | before, batch :: rest =>
      match prepare context batch blockhash with
      | .error _ => 1
      | .ok signed =>
          match node.send before signed.raw with
          | .error _ => 1
          | .ok _ => 1 + started context blockhash node (before ++ [.send signed.raw]) rest

section Started

variable {before : List NodeCall} {batch : List Instruction} {rest : List (List Instruction)}

theorem started_of_unsigned {reason : BridgeError}
    (failed : prepare context batch blockhash = .error reason) :
    started context blockhash node before (batch :: rest) = 1 := by
  simp only [started, failed]

theorem started_of_refused {signed : SignedTransaction} {reason : BridgeError}
    (prepared : prepare context batch blockhash = .ok signed)
    (answer : node.send before signed.raw = .error reason) :
    started context blockhash node before (batch :: rest) = 1 := by
  simp only [started, prepared, answer]

theorem started_of_taken {signed : SignedTransaction} {signature : String}
    (prepared : prepare context batch blockhash = .ok signed)
    (answer : node.send before signed.raw = .ok signature) :
    started context blockhash node before (batch :: rest) =
      1 + started context blockhash node (before ++ [.send signed.raw]) rest := by
  simp only [started, prepared, answer]

/-- Some batches, sent after some requests, are signed and taken, all of them. -/
def Passes (context : CallContext K) (blockhash : Blockhash) (node : Node)
    (before : List NodeCall) (batches : List (List Instruction)) : Prop :=
  ∃ transactions : List SignedTransaction,
    batches.map (fun batch => prepare context batch blockhash) = transactions.map .ok ∧
      Accepted node before (transactions.map SignedTransaction.raw)

end Started

/-- What a run adds to a journal: some requests, and an event for every batch that was started and
every send that was taken. -/
def Adds (target : ProgramTarget) (node : Node) (journal after : Journal) (batches sends : Nat) :
    Prop :=
  ∃ made events, after = ⟨journal.calls ++ made, journal.records ++ events⟩ ∧
    taken node journal.calls made = sends ∧ Tally (label target) batches sends events

section Adds

variable {journal middle after : Journal} {batches sends others more : Nat}

theorem adds_call_blockhash (target : ProgramTarget) (node : Node) (journal : Journal) :
    Adds target node journal (journal.call .blockhash) 0 0 := by
  refine ⟨[.blockhash], [], ?_, rfl, .nil _⟩
  rw [List.append_nil]
  rfl

theorem adds_record_batchStarted (target : ProgramTarget) (node : Node) (journal : Journal) :
    Adds target node journal (journal.record (.batchStarted (label target))) 1 0 := by
  refine ⟨[], [.batchStarted (label target)], ?_, rfl, .batchStarted _⟩
  rw [List.append_nil]
  rfl

theorem Adds.refl (target : ProgramTarget) (node : Node) (journal : Journal) :
    Adds target node journal journal 0 0 := by
  refine ⟨[], [], ?_, rfl, .nil _⟩
  rw [List.append_nil, List.append_nil]

theorem Adds.trans (first : Adds target node journal middle batches sends)
    (next : Adds target node middle after others more) :
    Adds target node journal after (batches + others) (sends + more) := by
  obtain ⟨made, events, rfl, taken_first, tally⟩ := first
  obtain ⟨later, rest, rfl, taken_next, tally_next⟩ := next
  refine ⟨made ++ later, events ++ rest, ?_, ?_, tally.append tally_next⟩
  · rw [← List.append_assoc, ← List.append_assoc]
  · rw [taken_append, taken_first, taken_next]

end Adds

/-- A transaction is counted when the node takes it, and that is when the answer is not an error. -/
theorem signAndSubmit_adds (target : ProgramTarget) (context : CallContext K)
    (batch : List Instruction) (blockhash : Blockhash) (node : Node) (journal : Journal) :
    let outcome := signAndSubmit target context batch blockhash node journal
    Adds target node journal outcome.journal 0 (if outcome.result.isOk then 1 else 0) := by
  intro outcome
  cases prepared : prepare context batch blockhash with
  | error reason =>
      have failed : outcome = ⟨.error reason, journal⟩ := signAndSubmit_of_error prepared journal
      rw [failed]
      exact .refl target node journal
  | ok signed =>
      cases answer : node.send journal.calls signed.raw with
      | error reason =>
          have failed : outcome = ⟨.error reason, journal.call (.send signed.raw)⟩ :=
            signAndSubmit_refused journal prepared answer
          rw [failed]
          refine ⟨[.send signed.raw], [], ?_, ?_, .nil _⟩
          · rw [List.append_nil]
            rfl
          · rw [taken, answer]
            rfl
      | ok signature =>
          have passed : outcome = ⟨.ok ⟨Hex.encode signed.message, signature⟩,
              (journal.call (.send signed.raw)).record (.transactionSubmitted (label target))⟩ :=
            signAndSubmit_accepted journal prepared answer
          rw [passed]
          refine ⟨[.send signed.raw], [.transactionSubmitted (label target)], rfl, ?_, .submitted _⟩
          rw [taken, answer]
          rfl

/-- Batches are counted as they are started and sends as they are taken. When there was anything to
submit, one batch more was started than taken exactly if the run fails. -/
theorem submitBatches_adds (target : ProgramTarget) (context : CallContext K)
    (blockhash : Blockhash) (node : Node) (batches : List (List Instruction))
    (last : Option CommandResponse) (journal : Journal) :
    let outcome := submitBatches target context blockhash node batches last journal
    ∃ sends, Adds target node journal outcome.journal
        (started context blockhash node journal.calls batches) sends ∧
      (batches ≠ [] ∨ last.isSome = true →
        started context blockhash node journal.calls batches =
          sends + if outcome.result.isOk then 0 else 1) := by
  induction batches generalizing last journal with
  | nil =>
      cases last with
      | none =>
          refine ⟨0, .refl target node journal, ?_⟩
          intro something
          simp at something
      | some response => exact ⟨0, .refl target node journal, fun _ => rfl⟩
  | cons batch rest ih =>
      have begun := adds_record_batchStarted target node journal
      rw [submitBatches]
      cases prepared : prepare context batch blockhash with
      | error reason =>
          rw [signAndSubmit_of_error prepared, started_of_unsigned prepared]
          exact ⟨0, begun, fun _ => rfl⟩
      | ok signed =>
          have sent := begun.trans (signAndSubmit_adds target context batch blockhash node
            (journal.record (.batchStarted (label target))))
          cases answer : node.send journal.calls signed.raw with
          | error reason =>
              rw [signAndSubmit_refused (journal.record _) prepared answer] at sent ⊢
              rw [started_of_refused prepared answer]
              exact ⟨0, sent, fun _ => rfl⟩
          | ok signature =>
              rw [signAndSubmit_accepted (journal.record _) prepared answer] at sent ⊢
              rw [started_of_taken prepared answer]
              -- The run behind this batch has an answer at hand, so it cannot fail for want of one.
              obtain ⟨sends, added, counted⟩ := ih (some ⟨Hex.encode signed.message, signature⟩)
                (((journal.record (.batchStarted (label target))).call (.send signed.raw)).record
                  (.transactionSubmitted (label target)))
              refine ⟨1 + sends, sent.trans added, fun _ => ?_⟩
              have others := counted (Or.inr rfl)
              rw [Nat.add_assoc]
              exact congrArg (1 + ·) others

theorem invokeSingle_adds (target : ProgramTarget) (context : CallContext K) (payload : P)
    (node : Node) (journal : Journal) :
    ∃ sends, Adds target node journal
      (invokeSingle target context payload node journal).journal 0 sends := by
  have fetched := adds_call_blockhash target node journal
  unfold invokeSingle fetchBlockhash
  cases node.blockhash journal.calls with
  | error reason => exact ⟨0, fetched⟩
  | ok blockhash =>
      cases buildInstruction target context payload with
      | error reason => exact ⟨0, fetched⟩
      | ok instruction =>
          have sent := signAndSubmit_adds target context [instruction] blockhash node
            (journal.call .blockhash)
          exact ⟨_, fetched.trans sent⟩

/-- The batches of a call that gets as far as packing its payloads, and the blockhash they share. -/
def packed? (target : ProgramTarget) (context : CallContext K) (payloads : List P) (node : Node)
    (before : List NodeCall) : Option (Blockhash × List (List Instruction)) :=
  if payloads.isEmpty then none
  else do
    let blockhash ← (node.blockhash before).toOption
    let batches ← (buildBatches target context payloads blockhash).toOption
    return (blockhash, batches)

/-- How many batches of a call are started. -/
def startedOf (context : CallContext K) (node : Node) (before : List NodeCall) :
    Option (Blockhash × List (List Instruction)) → Nat
  | none => 0
  | some (blockhash, batches) => started context blockhash node (before ++ [.blockhash]) batches

/-- One batch more is started than taken exactly if a call fails that was packed. -/
theorem invokePacked_adds (target : ProgramTarget) (context : CallContext K) (payloads : List P)
    (node : Node) (journal : Journal) :
    let outcome := invokePacked target context payloads node journal
    let packed := packed? target context payloads node journal.calls
    ∃ sends, Adds target node journal outcome.journal (startedOf context node journal.calls packed)
        sends ∧
      startedOf context node journal.calls packed =
        sends + if packed.isSome && !outcome.result.isOk then 1 else 0 := by
  by_cases nonempty : payloads = []
  · subst nonempty
    exact ⟨0, .refl target node journal, rfl⟩
  have filled : payloads.isEmpty = false := by simpa using nonempty
  cases asked : node.blockhash journal.calls with
  | error reason =>
      have unpacked : packed? target context payloads node journal.calls = none := by
        simp [packed?, filled, asked, Except.toOption]
      rw [invokePacked_of_unasked nonempty asked, unpacked]
      exact ⟨0, adds_call_blockhash target node journal, rfl⟩
  | ok blockhash =>
      cases built : buildBatches target context payloads blockhash with
      | error reason =>
          have unpacked : packed? target context payloads node journal.calls = none := by
            simp [packed?, filled, asked, built, Except.toOption]
          rw [invokePacked_of_unbuilt nonempty asked built, unpacked]
          exact ⟨0, adds_call_blockhash target node journal, rfl⟩
      | ok batches =>
          have packed : packed? target context payloads node journal.calls =
              some (blockhash, batches) := by
            simp [packed?, filled, asked, built, Except.toOption]
          rw [invokePacked_of_built nonempty asked built, packed]
          obtain ⟨sends, added, counted⟩ := submitBatches_adds target context blockhash node batches
            none (journal.call .blockhash)
          have begun := (adds_call_blockhash target node journal).trans added
          rw [Nat.zero_add, Nat.zero_add] at begun
          have ends := counted (Or.inl (batches_ne_nil nonempty built))
          refine ⟨sends, begun, ends.trans ?_⟩
          rw [Option.isSome_some, Bool.true_and]
          cases (submitBatches target context blockhash node batches none
            (journal.call .blockhash)).result <;> rfl

end Executor
end BridgeClient
