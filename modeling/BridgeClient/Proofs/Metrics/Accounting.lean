import BridgeClient.Proofs.Invocation.Tally
import BridgeClient.Proofs.Metrics.Counting

set_option autoImplicit false

/-!
The counters of the executors against the calls that were made. Every call is timed or fails, under
the reason of its error; every send that the node takes is counted, also when the call fails later;
and a batch is counted before it is signed, so a call that fails after packing counts one batch more
than the node takes.
-/
namespace BridgeClient

open Executor

/-- What an executor is asked to invoke. -/
inductive Request (P : Type) where
  | single (payload : P)
  | batched (payloads : List P)

/-- A call of an executor, and the requests that its node has answered before. -/
structure Call (K P : Type) where
  target : ProgramTarget
  context : CallContext K
  node : Node
  before : List NodeCall
  request : Request P

namespace Call

variable {K P : Type} [SigningKey K] [Payload P]

/-- The name the program of a call is counted under. -/
def program (call : Call K P) : String := label call.target

def outcome (call : Call K P) : Outcome CommandResponse :=
  match call.request with
  | .single payload => invoke call.target call.context payload call.node ⟨call.before, []⟩
  | .batched payloads => invokeBatches call.target call.context payloads call.node ⟨call.before, []⟩

/-- The events that a call counts. -/
def records (call : Call K P) : List Record := call.outcome.journal.records

def error? (call : Call K P) : Option BridgeError :=
  match call.outcome.result with
  | .ok _ => none
  | .error reason => some reason

/-- How many sends of a call its node takes. -/
def acceptedSends (call : Call K P) : Nat :=
  taken call.node call.before (call.outcome.journal.calls.drop call.before.length)

/-- How many batches of a call its node takes. -/
def acceptedBatches (call : Call K P) : Nat :=
  match call.request with
  | .single _ => 0
  | .batched _ => call.acceptedSends

/-- The batches of a call that gets as far as packing its payloads, and the blockhash they share. -/
def packed? (call : Call K P) : Option (Blockhash × List (List Instruction)) :=
  match call.request with
  | .single _ => none
  | .batched payloads =>
      Executor.packed? call.target call.context payloads call.node call.before

/-- How many batches of a call are started. -/
def startedBatches (call : Call K P) : Nat :=
  startedOf call.context call.node call.before call.packed?

/-- A call whose payloads were packed, and which fails all the same. -/
def failsPacked (call : Call K P) : Bool := call.packed?.isSome && call.error?.isSome

/-- The event that a call ends with. -/
def ending (call : Call K P) : Record :=
  match call.error? with
  | none => .transactionTimed call.program (call.node.elapsed call.outcome.journal.calls)
  | some reason => .transactionFailed call.program reason.reason

/-- The call before it is counted how it ended. -/
def run (call : Call K P) : Outcome CommandResponse :=
  match call.request with
  | .single payload => invokeSingle call.target call.context payload call.node ⟨call.before, []⟩
  | .batched payloads => invokePacked call.target call.context payloads call.node ⟨call.before, []⟩

theorem outcome_eq (call : Call K P) : call.outcome = observe call.target call.node call.run := by
  unfold outcome run
  cases call.request <;> rfl

theorem records_eq_concat (call : Call K P) :
    call.records = call.run.journal.records ++ [call.ending] := by
  have calls : call.outcome.journal.calls = call.run.journal.calls := by
    rw [outcome_eq, observe_calls]
  rw [records, ending, error?, calls, outcome_eq, observe_result, observe]
  cases call.run.result <;> rfl

theorem isOk_run (call : Call K P) : (!call.run.result.isOk) = call.error?.isSome := by
  rw [error?, outcome_eq, observe_result]
  cases call.run.result <;> rfl

/-- The requests of a call come behind those that its node has answered before. -/
theorem acceptedSends_of_adds {call : Call K P} {batches sends : Nat}
    (added : Adds call.target call.node ⟨call.before, []⟩ call.run.journal batches sends) :
    call.acceptedSends = sends := by
  obtain ⟨made, events, same, counted, _⟩ := added
  have calls : call.outcome.journal.calls = call.before ++ made := by
    rw [outcome_eq, observe_calls, same]
  rw [acceptedSends, calls, List.drop_left, ← counted]

theorem tally_of_adds {call : Call K P} {batches sends : Nat}
    (added : Adds call.target call.node ⟨call.before, []⟩ call.run.journal batches sends) :
    Tally call.program batches sends call.run.journal.records := by
  obtain ⟨made, events, same, _, tally⟩ := added
  rw [same]
  exact tally

/-- On its way a call counts the batches it starts and the sends that are taken. One batch more is
started than taken exactly if the call fails after packing. -/
theorem run_tally (call : Call K P) :
    Tally call.program call.startedBatches call.acceptedSends call.run.journal.records ∧
      call.startedBatches = call.acceptedBatches + if call.failsPacked then 1 else 0 := by
  cases asked : call.request with
  | single payload =>
      have unpacked : call.packed? = none := by rw [packed?, asked]
      have none_started : call.startedBatches = 0 := by rw [startedBatches, unpacked]; rfl
      have ran : call.run = invokeSingle call.target call.context payload call.node
          ⟨call.before, []⟩ := by rw [run, asked]
      obtain ⟨sends, added⟩ := invokeSingle_adds call.target call.context payload call.node
        ⟨call.before, []⟩
      rw [← ran] at added
      rw [none_started, acceptedSends_of_adds added, acceptedBatches, asked, failsPacked, unpacked]
      exact ⟨tally_of_adds added, rfl⟩
  | batched payloads =>
      have packs : call.packed? = Executor.packed? call.target call.context payloads call.node
          call.before := by rw [packed?, asked]
      have ran : call.run = invokePacked call.target call.context payloads call.node
          ⟨call.before, []⟩ := by rw [run, asked]
      obtain ⟨sends, added, ends⟩ := invokePacked_adds call.target call.context payloads call.node
        ⟨call.before, []⟩
      rw [← ran] at added ends
      rw [← packs] at added ends
      have accepted := acceptedSends_of_adds added
      rw [isOk_run] at ends
      refine ⟨?_, ?_⟩
      · rw [accepted]
        exact tally_of_adds added
      · rw [acceptedBatches, asked, accepted]
        exact ends

/-- Five payloads make two batches, and the node takes the first of them only. -/
example :
    let call : Call Stamp PortInstruction :=
      { target := ⟨Key.fill 10, Key.fill 11, none⟩
        context := .new ⟨Key.fill 1⟩
        node := ⟨fun _ => .ok (FixedBytes.fill 32 42), fun calls _ =>
          if calls.length = 1 then .ok "taken" else .error (.rejected "full"), fun _ => .zero⟩
        before := []
        request := .batched (List.replicate 5 (.attachValue (List.replicate 300 0))) }
    call.startedBatches = 2 ∧ call.acceptedBatches = 1 ∧ call.failsPacked = true := by
  decide +kernel

/-- The events of a call are those on its way and the one it ends with. -/
theorem countP_records (call : Call K P) (raises : Record → Bool) :
    call.records.countP raises =
      (if raises (.batchStarted call.program) then call.startedBatches else 0) +
        (if raises (.transactionSubmitted call.program) then call.acceptedSends else 0) +
        if raises call.ending then 1 else 0 := by
  rw [records_eq_concat, List.countP_append, call.run_tally.1.countP, List.countP_singleton]

end Call

namespace Metrics

variable {K P : Type} [SigningKey K] [Payload P]

/-- The counters after some calls. -/
def after (metrics : Metrics) (calls : List (Call K P)) : Metrics :=
  calls.foldl (fun metrics call => metrics.recordAll call.records) metrics

theorem after_eq (metrics : Metrics) (calls : List (Call K P)) :
    metrics.after calls = metrics.recordAll (calls.flatMap Call.records) := by
  induction calls generalizing metrics with
  | nil => rfl
  | cons call rest ih =>
      rw [List.flatMap_cons, recordAll_append, ← ih]
      rfl

/-- The calls of one program. -/
def named (calls : List (Call K P)) (program : String) : List (Call K P) :=
  calls.filter fun call => call.program = program

/-- A counter that a call of a program raises by its gain, and that no other call raises. -/
theorem CountsBy.after {measure : Metrics → Nat} {raises : Record → Bool} {program : String}
    {gain : Call K P → Nat} (counts : CountsBy measure raises)
    (each : ∀ call : Call K P,
      call.records.countP raises = if call.program = program then gain call else 0)
    (metrics : Metrics) (calls : List (Call K P)) :
    measure (metrics.after calls) = measure metrics + ((named calls program).map gain).sum := by
  -- Calls of other programs have no such event.
  have weights : (calls.map fun call => call.records.countP raises).sum =
      ((named calls program).map gain).sum := by
    simp only [each]
    rw [named, ← sum_map_filter]
    simp only [decide_eq_true_eq]
  rw [after_eq, counts.recordAll, List.countP_flatMap, ← weights]
  rfl

/-- How the counters of a program stand after some calls. -/
structure Accounted (metrics : Metrics) (calls : List (Call K P)) (program : String) : Prop where
  /-- Every send that a node takes is counted. -/
  submitted : (metrics.after calls).submitted.count [program] =
    metrics.submitted.count [program] + ((named calls program).map Call.acceptedSends).sum
  /-- Every call that fails is counted under the reason of its error. -/
  failed : ∀ reason, (metrics.after calls).failed.count [program, reason.label] =
    metrics.failed.count [program, reason.label] + (named calls program).countP fun call =>
      call.error?.map BridgeError.reason = some reason
  /-- It is counted once. -/
  failures : (metrics.after calls).failures program =
    metrics.failures program + (named calls program).countP fun call => call.error?.isSome
  /-- Every call that succeeds is timed. -/
  timed : (metrics.after calls).timed program =
    metrics.timed program + (named calls program).countP fun call => call.error?.isNone
  /-- Every batch that is started is counted. -/
  batches : (metrics.after calls).batches.count [program] =
    metrics.batches.count [program] + ((named calls program).map Call.startedBatches).sum
  /-- Every call that fails after packing starts one batch that is not taken. -/
  started : ((named calls program).map Call.startedBatches).sum =
    ((named calls program).map Call.acceptedBatches).sum +
      (named calls program).countP Call.failsPacked

theorem accounted (metrics : Metrics) (calls : List (Call K P)) (program : String) :
    Accounted metrics calls program where
  submitted := by
    apply (submitted_countsBy program).after
    intro call
    rw [Call.countP_records, Call.ending]
    cases call.error? <;> simp
  failed := by
    intro reason
    rw [← sum_map_indicator]
    apply (failed_countsBy program reason).after
    intro call
    rw [Call.countP_records, Call.ending]
    cases call.error? <;> simp [ite_and]
  failures := by
    rw [← sum_map_indicator]
    apply (failures_countsBy program).after
    intro call
    rw [Call.countP_records, Call.ending]
    cases call.error? <;> simp [Record.isFailureOf]
  timed := by
    rw [← sum_map_indicator]
    apply (timed_countsBy program).after
    intro call
    rw [Call.countP_records, Call.ending]
    cases call.error? <;> simp [Record.isTimingOf]
  batches := by
    apply (batches_countsBy program).after
    intro call
    rw [Call.countP_records, Call.ending]
    cases call.error? <;> simp
  started := by
    rw [← sum_map_indicator, ← List.sum_map_add]
    exact congrArg List.sum (List.map_congr_left fun call _ => call.run_tally.2)

end Metrics
end BridgeClient
