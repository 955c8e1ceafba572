import BridgeClient.Proofs.Invocation.Signing

set_option autoImplicit false

/-!
Sending prepared transactions one after the other. The node may refuse any of them, which ends the
run with its error; otherwise the run answers for the last one.
-/
namespace BridgeClient

/-- A run over some transactions, after earlier requests: the requests it makes, and its result. -/
inductive Delivered (node : Node) :
    List NodeCall → List SignedTransaction → List NodeCall →
      Except BridgeError CommandResponse → Prop
  | refused {before : List NodeCall} {first : SignedTransaction} {rest : List SignedTransaction}
      {reason : BridgeError} (answer : node.send before first.raw = .error reason) :
      Delivered node before (first :: rest) [.send first.raw] (.error reason)
  | last {before : List NodeCall} {only : SignedTransaction} {signature : String}
      (answer : node.send before only.raw = .ok signature) :
      Delivered node before [only] [.send only.raw] (.ok ⟨Hex.encode only.message, signature⟩)
  | next {before made : List NodeCall} {first : SignedTransaction} {rest : List SignedTransaction}
      {signature : String} {result : Except BridgeError CommandResponse}
      (answer : node.send before first.raw = .ok signature)
      (others : Delivered node (before ++ [.send first.raw]) rest made result) :
      Delivered node before (first :: rest) (.send first.raw :: made) result

/-- The node takes each of some transactions, sent one after the other. -/
def Accepted (node : Node) (before : List NodeCall) (raws : List Bytes) : Prop :=
  ∀ earlier raw later, raws = earlier ++ raw :: later →
    ∃ signature, node.send (before ++ earlier.map .send) raw = .ok signature

theorem accepted_nil (node : Node) (before : List NodeCall) : Accepted node before [] := by
  intro earlier raw later split
  simp at split

theorem accepted_cons_iff {node : Node} {before : List NodeCall} {raw : Bytes}
    {raws : List Bytes} :
    Accepted node before (raw :: raws) ↔
      (∃ signature, node.send before raw = .ok signature) ∧
        Accepted node (before ++ [.send raw]) raws := by
  constructor
  · intro accepted
    constructor
    · simpa using accepted [] raw raws rfl
    · intro earlier next later split
      have taken := accepted (raw :: earlier) next later (by rw [split, List.cons_append])
      rwa [List.map_cons, List.append_cons] at taken
  · intro accepted earlier next later split
    obtain ⟨first, others⟩ := accepted
    cases earlier with
    | nil =>
        cases split
        simpa using first
    | cons head earlier =>
        cases split
        have taken := others earlier next later rfl
        rwa [List.map_cons, List.append_cons]

theorem accepted_concat_iff {node : Node} {before : List NodeCall} {raws : List Bytes}
    {last : Bytes} :
    Accepted node before (raws ++ [last]) ↔
      Accepted node before raws ∧
        ∃ signature, node.send (before ++ raws.map .send) last = .ok signature := by
  induction raws generalizing before with
  | nil => simp [accepted_cons_iff, accepted_nil]
  | cons raw rest ih =>
      rw [List.cons_append, accepted_cons_iff, accepted_cons_iff, ih, List.map_cons, and_assoc,
        List.append_cons before (.send raw) (rest.map .send)]

/-- When all but the last of some transactions were taken, only the last can have been refused. -/
theorem Accepted.refused_last {node : Node} {before : List NodeCall}
    {raws earlier later : List Bytes} {last raw : Bytes} {reason : BridgeError}
    (accepted : Accepted node before raws) (whole : raws ++ [last] = earlier ++ raw :: later)
    (refused : node.send (before ++ earlier.map .send) raw = .error reason) :
    later = [] ∧ earlier = raws ∧ raw = last := by
  rcases List.eq_nil_or_concat later with rfl | ⟨middle, final, rfl⟩
  · obtain ⟨same, only⟩ := List.append_inj' whole rfl
    cases only
    exact ⟨rfl, same.symm, rfl⟩
  · rw [List.concat_eq_append, ← List.cons_append, ← List.append_assoc] at whole
    obtain ⟨same, _⟩ := List.append_inj' whole rfl
    obtain ⟨signature, taken⟩ := accepted earlier raw middle same
    rw [refused] at taken
    cases taken

/-- How a run ends that sends a transaction, with some more behind it: a refusal is its error, and
it succeeds when nothing is left to send. -/
inductive Settled (node : Node) (history : List NodeCall) (last : SignedTransaction) :
    List SignedTransaction → Except BridgeError CommandResponse → Prop
  | refused {unsent : List SignedTransaction} {reason : BridgeError}
      (answer : node.send history last.raw = .error reason) :
      Settled node history last unsent (.error reason)
  | taken {signature : String} (answer : node.send history last.raw = .ok signature) :
      Settled node history last [] (.ok ⟨Hex.encode last.message, signature⟩)

namespace Settled

variable {node : Node} {history : List NodeCall} {last : SignedTransaction}
  {unsent : List SignedTransaction} {result : Except BridgeError CommandResponse}

theorem error_iff {reason : BridgeError} (settled : Settled node history last unsent result) :
    result = .error reason ↔ node.send history last.raw = .error reason := by
  cases settled with
  | refused answer => simp [answer]
  | taken answer => simp [answer]

theorem ok {response : CommandResponse}
    (settled : Settled node history last unsent (.ok response)) :
    node.send history last.raw = .ok response.txSignature := by
  cases settled with
  | taken answer => exact answer

theorem exists_ok_iff (settled : Settled node history last unsent result) :
    (∃ response, result = .ok response) ↔
      unsent = [] ∧ ∃ signature, node.send history last.raw = .ok signature := by
  cases settled with
  | refused answer => simp [answer]
  | taken answer => simp [answer]

end Settled

namespace Delivered

variable {node : Node} {before made : List NodeCall} {transactions : List SignedTransaction}

/-- Nothing is sent but the transactions of the run. -/
theorem sent {result : Except BridgeError CommandResponse} {raw : Bytes}
    (delivered : Delivered node before transactions made result) (inside : .send raw ∈ made) :
    ∃ signed ∈ transactions, signed.raw = raw := by
  induction delivered with
  | refused answer =>
      cases List.mem_singleton.mp inside
      exact ⟨_, List.mem_cons_self .., rfl⟩
  | last answer =>
      cases List.mem_singleton.mp inside
      exact ⟨_, List.mem_cons_self .., rfl⟩
  | next answer others ih =>
      rcases List.mem_cons.mp inside with same | later
      · cases same
        exact ⟨_, List.mem_cons_self .., rfl⟩
      · obtain ⟨signed, among, same⟩ := ih later
        exact ⟨signed, List.mem_cons_of_mem _ among, same⟩

/-- An error is that of the last request. -/
theorem refusal {reason : BridgeError}
    (delivered : Delivered node before transactions made (.error reason)) :
    ∃ earlier raw, made = earlier ++ [.send raw] ∧
      node.send (before ++ earlier) raw = .error reason := by
  generalize failed : Except.error reason = result at delivered
  induction delivered with
  | refused answer =>
      cases failed
      exact ⟨[], _, rfl, by rw [List.append_nil, answer]⟩
  | last answer => cases failed
  | next answer others ih =>
      obtain ⟨earlier, raw, rfl, refused⟩ := ih failed
      exact ⟨_ :: earlier, raw, rfl, by rw [← refused, List.append_cons]⟩

/-- A response shows the message of the last transaction sent. -/
theorem response {response : CommandResponse}
    (delivered : Delivered node before transactions made (.ok response)) :
    ∃ earlier signed, signed ∈ transactions ∧ made = earlier ++ [.send signed.raw] ∧
      response.serializedMessage = Hex.encode signed.message := by
  generalize answered : Except.ok response = result at delivered
  induction delivered with
  | refused answer => cases answered
  | last answer =>
      cases answered
      exact ⟨[], _, List.mem_cons_self .., rfl, rfl⟩
  | next answer others ih =>
      obtain ⟨earlier, signed, among, rfl, shown⟩ := ih answered
      exact ⟨_ :: earlier, signed, List.mem_cons_of_mem _ among, rfl, shown⟩

/-- A run sends its transactions up to the first that is refused, or all of them, and ends with the
answer to the last one. -/
theorem split {result : Except BridgeError CommandResponse}
    (delivered : Delivered node before transactions made result) :
    ∃ (earlier : List SignedTransaction) (last : SignedTransaction)
      (unsent : List SignedTransaction),
      transactions = earlier ++ last :: unsent ∧
      made = (earlier.map SignedTransaction.raw ++ [last.raw]).map .send ∧
      Accepted node before (earlier.map SignedTransaction.raw) ∧
      Settled node (before ++ (earlier.map SignedTransaction.raw).map .send) last unsent
        result := by
  induction delivered with
  | @refused before first rest reason answer =>
      refine ⟨[], first, rest, rfl, rfl, accepted_nil _ _, .refused ?_⟩
      rw [List.map_nil, List.map_nil, List.append_nil, answer]
  | @last before only signature answer =>
      refine ⟨[], only, [], rfl, rfl, accepted_nil _ _, .taken ?_⟩
      rw [List.map_nil, List.map_nil, List.append_nil, answer]
  | @next before made first rest signature result answer others ih =>
      obtain ⟨earlier, last, unsent, rfl, rfl, taken, settled⟩ := ih
      refine ⟨first :: earlier, last, unsent, rfl, rfl, ?_, ?_⟩
      · rw [List.map_cons, accepted_cons_iff]
        exact ⟨⟨signature, answer⟩, taken⟩
      · rw [List.map_cons, List.map_cons, List.append_cons]
        exact settled

end Delivered

namespace Executor

variable {K : Type} [SigningKey K] {target : ProgramTarget} {context : CallContext K}
  {blockhash : Blockhash} {node : Node}

theorem signAndSubmit_accepted {group : List Instruction} {signed : SignedTransaction}
    {signature : String} (journal : Journal)
    (prepared : prepare context group blockhash = .ok signed)
    (answer : node.send journal.calls signed.raw = .ok signature) :
    signAndSubmit target context group blockhash node journal =
      ⟨.ok ⟨Hex.encode signed.message, signature⟩,
        (journal.call (.send signed.raw)).record (.transactionSubmitted (label target))⟩ := by
  simp only [signAndSubmit, prepared, answer]

theorem signAndSubmit_refused {group : List Instruction} {signed : SignedTransaction}
    {reason : BridgeError} (journal : Journal)
    (prepared : prepare context group blockhash = .ok signed)
    (answer : node.send journal.calls signed.raw = .error reason) :
    signAndSubmit target context group blockhash node journal =
      ⟨.error reason, journal.call (.send signed.raw)⟩ := by
  simp only [signAndSubmit, prepared, answer]

theorem signAndSubmit_of_error {group : List Instruction} {reason : BridgeError}
    (failed : prepare context group blockhash = .error reason) (journal : Journal) :
    signAndSubmit target context group blockhash node journal = ⟨.error reason, journal⟩ := by
  simp only [signAndSubmit, failed]

theorem signAndSubmit_delivered {group : List Instruction} {signed : SignedTransaction}
    (prepared : prepare context group blockhash = .ok signed) (journal : Journal) :
    ∃ made,
      (signAndSubmit target context group blockhash node journal).journal.calls =
        journal.calls ++ made ∧
      Delivered node journal.calls [signed] made
        (signAndSubmit target context group blockhash node journal).result := by
  refine ⟨[.send signed.raw], ?_⟩
  cases answer : node.send journal.calls signed.raw with
  | error reason =>
      rw [signAndSubmit_refused journal prepared answer]
      exact ⟨rfl, .refused answer⟩
  | ok signature =>
      rw [signAndSubmit_accepted journal prepared answer]
      exact ⟨rfl, .last answer⟩

/-- Batches that can all be signed are delivered. -/
theorem submitBatches_delivered {batches : List (List Instruction)}
    {transactions : List SignedTransaction} (nonempty : batches ≠ [])
    (prepared : batches.map (fun batch => prepare context batch blockhash) = transactions.map .ok)
    (last : Option CommandResponse) (journal : Journal) :
    ∃ made,
      (submitBatches target context blockhash node batches last journal).journal.calls =
        journal.calls ++ made ∧
      Delivered node journal.calls transactions made
        (submitBatches target context blockhash node batches last journal).result := by
  induction batches generalizing transactions last journal with
  | nil => exact absurd rfl nonempty
  | cons batch rest ih =>
      obtain ⟨first, others, rfl, ready, remaining⟩ : ∃ first others,
          transactions = first :: others ∧ prepare context batch blockhash = .ok first ∧
            rest.map (fun batch => prepare context batch blockhash) = others.map .ok := by
        cases transactions with
        | nil => cases prepared
        | cons first others =>
            rw [List.map_cons, List.map_cons, List.cons.injEq] at prepared
            exact ⟨first, others, rfl, prepared⟩
      rw [submitBatches]
      cases answer : node.send journal.calls first.raw with
      | error reason =>
          rw [signAndSubmit_refused (journal.record _) ready answer]
          exact ⟨[.send first.raw], rfl, .refused answer⟩
      | ok signature =>
          rw [signAndSubmit_accepted (journal.record _) ready answer]
          cases rest with
          | nil =>
              cases others with
              | nil => exact ⟨[.send first.raw], rfl, .last answer⟩
              | cons second others => cases remaining
          | cons batch rest =>
              obtain ⟨made, calls, delivered⟩ := ih (by simp) remaining
                (some ⟨Hex.encode first.message, signature⟩)
                (((journal.record (.batchStarted (label target))).call (.send first.raw)).record
                  (.transactionSubmitted (label target)))
              refine ⟨.send first.raw :: made, ?_, .next answer delivered⟩
              rw [List.append_cons]
              exact calls

/-- A first batch that cannot be signed ends the run with nothing sent. -/
theorem submitBatches_of_error {batch : List Instruction} {rest : List (List Instruction)}
    {reason : BridgeError} (failed : prepare context batch blockhash = .error reason)
    (last : Option CommandResponse) (journal : Journal) :
    (submitBatches target context blockhash node (batch :: rest) last journal).result =
        .error reason ∧
      (submitBatches target context blockhash node (batch :: rest) last journal).journal.calls =
        journal.calls := by
  rw [submitBatches, signAndSubmit_of_error failed]
  exact ⟨rfl, rfl⟩

end Executor
end BridgeClient
