import BridgeClient.Proofs.Metrics.Accounting
import BridgeClient.Proofs.Rpc.Replies

set_option autoImplicit false

/-!
Telling a refusal from a failure to get an answer. A transaction that the node refused must not be
sent again as it is; one that nobody answered for may be.
-/
namespace BridgeClient

/-- A send that the node does not take is the last of its run, and its error is the result. -/
theorem Delivered.of_refused {node : Node} {before made earlier later : List NodeCall}
    {transactions : List SignedTransaction} {result : Except BridgeError CommandResponse}
    {raw : Bytes} {reason : BridgeError}
    (delivered : Delivered node before transactions made result)
    (sent : made = earlier ++ .send raw :: later)
    (refused : node.send (before ++ earlier) raw = .error reason) : result = .error reason := by
  obtain ⟨taken, last, unsent, _, same, accepted, settled⟩ := delivered.split
  rw [sent, eq_comm, List.map_eq_append_iff] at same
  obtain ⟨front, back, whole, rfl, behind⟩ := same
  obtain ⟨_, _, rfl, only, rfl⟩ := List.map_eq_cons_iff.mp behind
  cases only
  obtain ⟨rfl, rfl, rfl⟩ := accepted.refused_last whole refused
  exact settled.error_iff.mpr refused

namespace LedgerClient

open Sequencing

theorem decodeBlockhash_ne_rejected (encoded text : String) :
    decodeBlockhash encoded ≠ .error (.rejected text) := by
  unfold decodeBlockhash
  split
  · simp
  · split <;> simp

theorem decodeAccount_ne_rejected (account : AccountText) (text : String) :
    decodeAccount account ≠ .error (.rejected text) := by
  unfold decodeAccount
  split
  · simp
  · split
    · rename_i refused
      obtain ⟨message, rfl⟩ := Key.parse_eq_error refused
      simp
    · split <;> simp

variable [JsonLibrary] {client : LedgerClient} {reply : RpcReply}

/-- What the answer to a send says about the reply: the node took the transaction, it refused it, or
nobody knows. -/
structure TellsApart (client : LedgerClient) (reply : RpcReply)
    (answer : Except BridgeError String) : Prop where
  taken : ∀ signature, answer = .ok signature ↔ reply.Carries (.success (.text signature))
  /-- The reason is the message of the node, and its data behind it. -/
  rejected : ∀ text, answer = .error (.rejected text) ↔
    ∃ fault, reply.Carries (.failure fault) ∧ text = fault.describe
  failed : (∃ text, answer = .error (.rpc client.endpoint text)) ↔
    (∀ signature, ¬ reply.Carries (.success (.text signature))) ∧
      ∀ fault, ¬ reply.Carries (.failure fault)
  /-- There are no other errors, and an error is either a refusal or a reason to try again. -/
  errors : ∀ reason, answer = .error reason →
    ((∃ text, reason = .rejected text) ∨ ∃ text, reason = .rpc client.endpoint text) ∧
      (reason.isRejection = !reason.isRetryable)

theorem signature_tellsApart (client : LedgerClient) (reply : RpcReply) :
    client.TellsApart reply (client.signature reply) := by
  have concludes := result_concludes client (fun fault => .rejected fault.describe)
    Document.asText reply
  rw [signature]
  generalize client.result _ _ reply = answer at concludes
  cases concludes with
  | @value result taken carries fits =>
      cases Document.asText_eq_some_iff.mp fits
      refine ⟨?_, by simp [carries.iff_eq], by simp [carries.iff_eq], by simp⟩
      intro other
      rw [carries.iff_eq, Except.ok.injEq, Envelope.success.injEq, Document.text.injEq, eq_comm]
  | @refused fault carries =>
      refine ⟨by simp [carries.iff_eq], ?_, by simp [carries.iff_eq], ?_⟩
      · intro text
        simp only [Except.error.injEq, BridgeError.rejected.injEq, carries.iff_eq,
          Envelope.failure.injEq, exists_eq_left]
        exact eq_comm
      · rintro _ same
        cases same
        exact ⟨Or.inl ⟨_, rfl⟩, rfl⟩
  | @misshapen result message carries unfit =>
      have other (taken : String) : Document.text taken ≠ result := by
        rintro rfl
        cases unfit
      refine ⟨by simp [carries.iff_eq, other], by simp [carries.iff_eq, failed],
        by simp [carries.iff_eq, other, failed], ?_⟩
      rintro _ same
      cases same
      exact ⟨Or.inr ⟨_, rfl⟩, rfl⟩
  | useless nothing =>
      refine ⟨by simp [nothing], by simp [nothing, failed], by simp [nothing, failed], ?_⟩
      rintro _ same
      cases same
      exact ⟨Or.inr ⟨_, rfl⟩, rfl⟩

/-- Where nothing can be refused, no error is a refusal. -/
theorem result_ne_rejected {α : Type} (client : LedgerClient) (read : Document → Option α)
    (reply : RpcReply) (text : String) :
    client.result client.faulty read reply ≠ .error (.rejected text) := by
  have concludes := result_concludes client client.faulty read reply
  generalize client.result client.faulty read reply = answer at concludes
  cases concludes <;> simp [faulty, failed]

theorem blockhash_ne_rejected (client : LedgerClient) (reply : RpcReply) (text : String) :
    client.blockhash reply ≠ .error (.rejected text) := by
  rw [blockhash, Ne, bind_eq_error_iff]
  rintro (failed | ⟨encoded, _, failed⟩)
  · exact result_ne_rejected _ _ _ _ failed
  · exact decodeBlockhash_ne_rejected _ _ failed

theorem account_ne_rejected (client : LedgerClient) (reply : RpcReply) (text : String) :
    client.account reply ≠ .error (.rejected text) := by
  rw [account, Ne, bind_eq_error_iff]
  rintro (failed | ⟨told, _, failed⟩)
  · exact result_ne_rejected _ _ _ _ failed
  · cases told with
    | none => cases failed
    | some told =>
        cases decoded : decodeAccount told with
        | ok info => simp [decoded] at failed
        | error reason =>
            simp only [decoded, Functor.map, Except.map, Except.error.injEq] at failed
            exact decodeAccount_ne_rejected told text (failed ▸ decoded)

theorem TellsApart.counted {answer : Except BridgeError String} {reason : BridgeError}
    (apart : client.TellsApart reply answer) (failed : answer = .error reason) :
    reason.reason = if reason.isRejection then .rejected else .rpc := by
  obtain ⟨⟨text, rfl⟩ | ⟨text, rfl⟩, _⟩ := apart.errors reason failed
  · rfl
  · rfl

end LedgerClient

section Calls

variable {K P : Type} [SigningKey K] [Payload P] {call : Call K P}

namespace Call

theorem run_cases (call : Call K P) : Refuses ⟨call.before, []⟩ call.run ∨
    ∃ transactions, Delivers call.node ⟨call.before, []⟩ transactions call.run := by
  unfold run
  cases call.request with
  | single payload =>
      exact (Executor.invokeSingle_prepares ..).imp_right fun ⟨transactions, _, delivers⟩ =>
        ⟨transactions, delivers⟩
  | batched payloads =>
      exact (Executor.invokePacked_prepares ..).imp_right fun ⟨transactions, _, delivers⟩ =>
        ⟨transactions, delivers⟩

/-- A call with a send that fails has no other error. -/
theorem error?_of_refused {earlier later : List NodeCall} {raw : Bytes} {reason : BridgeError}
    (sent : call.outcome.journal.calls = call.before ++ (earlier ++ .send raw :: later))
    (refused : call.node.send (call.before ++ earlier) raw = .error reason) :
    call.error? = some reason := by
  rw [outcome_eq, Executor.observe_calls] at sent
  rw [error?, outcome_eq, Executor.observe_result]
  rcases call.run_cases with ⟨_, made, calls, unsent⟩ | ⟨transactions, made, calls, delivered⟩
  · rw [calls] at sent
    have same := List.append_cancel_left sent
    exact absurd (same ▸ List.mem_append_right _ (List.mem_cons_self ..)) (unsent raw)
  · rw [calls] at sent
    have same := List.append_cancel_left sent
    cases earlier with
    | nil => cases same
    | cons first earlier =>
        cases same
        rw [List.append_cons] at refused
        rw [delivered.of_refused rfl refused]

end Call

theorem Metrics.failed_after_singleton {reason : BridgeError} (metrics : Metrics)
    (failed : call.error? = some reason) (cause : FailureReason) :
    (metrics.after [call]).failed.count [call.program, cause.label] =
      metrics.failed.count [call.program, cause.label] +
        if reason.reason = cause then 1 else 0 := by
  rw [(accounted metrics [call] call.program).failed cause]
  simp [named, failed]

/-- The answer to a send tells a refusal of the node from every other way to fail, for any
transaction and any reply; a request that sends nothing is never refused. The executor reports the
failed send as it is, and counts it once, as a refusal or as a failure of the connection. -/
theorem LedgerClient.sends_told_apart [JsonLibrary] (client : LedgerClient)
    (exchange : List NodeCall → RpcRequest → RpcReply) (elapsed : List NodeCall → Binary64) :
    let node := client.node exchange elapsed
    (∀ calls raw,
      client.TellsApart (exchange calls (client.sendRequest raw)) (node.send calls raw)) ∧
    (∀ reply text, client.blockhash reply ≠ .error (.rejected text) ∧
      client.account reply ≠ .error (.rejected text)) ∧
    ∀ call : Call K P, call.node = node → ∀ earlier raw later reason,
      call.outcome.journal.calls = call.before ++ (earlier ++ .send raw :: later) →
      node.send (call.before ++ earlier) raw = .error reason →
      call.error? = some reason ∧ ∀ (metrics : Metrics) (cause : FailureReason),
        (metrics.after [call]).failed.count [call.program, cause.label] =
          metrics.failed.count [call.program, cause.label] +
            if cause = (if reason.isRejection then .rejected else .rpc) then 1 else 0 := by
  intro node
  have apart (calls : List NodeCall) (raw : Bytes) :
      client.TellsApart (exchange calls (client.sendRequest raw)) (node.send calls raw) :=
    client.signature_tellsApart _
  refine ⟨apart, fun reply text => ⟨client.blockhash_ne_rejected reply text,
    client.account_ne_rejected reply text⟩, ?_⟩
  intro call partner earlier raw later reason sent refused
  have failed : call.error? = some reason := Call.error?_of_refused sent (partner ▸ refused)
  refine ⟨failed, fun metrics cause => ?_⟩
  rw [metrics.failed_after_singleton failed, (apart _ raw).counted refused]
  simp only [eq_comm]

end Calls

/-- A node that gives a blockhash and then refuses the transaction, under a status of its own. -/
theorem LedgerClient.sends_told_apart_refused :
    let client : LedgerClient := ⟨"http://node", "confirmed"⟩
    let fresh := Bytes.ofAscii ("\x7b\"result\":\x7b\"value\":\x7b\"blockhash\":" ++
      "\"11111111111111111111111111111111\",\"lastValidBlockHeight\":9\x7d\x7d," ++
      "\"jsonrpc\":\"2.0\",\"id\":1\x7d")
    let full := Bytes.ofAscii ("\x7b\"jsonrpc\":\"2.0\",\"id\":2,\"error\":\x7b\"code\":-32002," ++
      "\"message\":\"full\",\"data\":[true, 1.5]\x7d\x7d")
    let exchange (calls : List NodeCall) (_ : RpcRequest) : RpcReply :=
      if calls.isEmpty then .answered 200 fresh else .answered 400 full
    let call : Call Stamp PortInstruction :=
      { target := ⟨Key.fill 10, Key.fill 11, none⟩
        context := .new ⟨Key.fill 1⟩
        node := client.node exchange fun _ => .zero
        before := []
        request := .single (.attachValue [7]) }
    call.error? = some (.rejected "full: [true,1.5]") ∧
      (Metrics.empty.after [call]).failed.count [call.program, "rejected"] = 1 := by
  intro client fresh full exchange call
  obtain ⟨raw, sent⟩ : ∃ raw, call.outcome.journal.calls = [.blockhash, .send raw] := by
    obtain ⟨two, first, second⟩ : call.outcome.journal.calls.length = 2 ∧
        call.outcome.journal.calls[0]? = some .blockhash ∧
        call.outcome.journal.calls[1]? ≠ some .blockhash := by decide +kernel
    obtain ⟨_, asked, whole⟩ := List.length_eq_two.mp two
    rw [whole] at first second ⊢
    cases first
    cases asked with
    | blockhash => exact absurd rfl second
    | send raw => exact ⟨raw, rfl⟩
  have second : exchange [.blockhash] (client.sendRequest raw) = .answered 400 full :=
    if_neg (by decide)
  have answered : client.signature (.answered 400 full) =
      .error (.rejected "full: [true,1.5]") := by decide +kernel
  have refused : (client.node exchange fun _ => .zero).send [.blockhash] raw =
      .error (.rejected "full: [true,1.5]") := by
    rw [node]
    dsimp only
    rw [second, answered]
  obtain ⟨failed, counted⟩ := (client.sends_told_apart exchange fun _ => .zero).2.2 call rfl
    [.blockhash] raw [] _ sent refused
  exact ⟨failed, counted Metrics.empty .rejected⟩

end BridgeClient
