import BridgeClient.Await.LedgerDeposit
import BridgeClient.Proofs.Await.Stepping
import BridgeClient.Proofs.Metrics.Counting

set_option autoImplicit false

/-!
The counters of the awaiters against their runs. Any number of awaiters, of any kinds and names, are
set out and take their steps in any order, and other events are counted in between. A run is kept
with all the moves of its loop, so that what it did can be told without its events.
-/
namespace BridgeClient

/-- Whether a loop has a retrieval under way. -/
def LoopPhase.isRetrieving {E : Type} : LoopPhase E → Bool
  | .retrieving => true
  | _ => false

/-- Whether a loop has ended by delivering its event. -/
def LoopPhase.isSuccess {E : Type} : LoopPhase E → Bool
  | .finished (.ok ()) => true
  | _ => false

namespace PollLoop

variable {S E : Type} {state : LoopState S E}

theorem isOver_of_interruptible (waiting : interruptible state = true) : isOver state = false := by
  cases phase : state.phase <;> simp [interruptible, isOver, phase] at waiting ⊢

theorem isSuccess_of_running (running : isOver state = false) :
    state.phase.isSuccess = false := by
  cases phase : state.phase <;> simp [isOver, phase, LoopPhase.isSuccess] at running ⊢

end PollLoop

/-- One step of a loop: where it stood, what it was told and where it stands then. -/
structure LoopMove (S T E : Type) where
  before : LoopState S E
  signal : LoopSignal T
  after : LoopState S E

namespace LoopMove

variable {S T E : Type}

def startsRetrieval (move : LoopMove S T E) : Bool :=
  !move.before.phase.isRetrieving && move.after.phase.isRetrieving

/-- Whether the loop learns that a retrieval failed. -/
def seesError (move : LoopMove S T E) : Bool :=
  match move.signal with
  | .retrieved (.error _) => true
  | _ => false

end LoopMove

/-- An awaiter that was set out: refused before its loop began, or with the moves of its loop. -/
inductive AwaiterRun : Type 1 where
  | refused (name : String)
  | entered {S T E : Type} (loop : PollLoop) (matcher : Matcher S T E) (memory : S)
      (past : List (LoopMove S T E))

namespace AwaiterRun

variable {S T E : Type}

def name : AwaiterRun → String
  | refused name => name
  | entered loop _ _ _ => loop.name

/-- Where a loop stands after its moves. -/
def standing (memory : S) (past : List (LoopMove S T E)) : LoopState S E :=
  (past.getLast?.map LoopMove.after).getD (PollLoop.begin memory)

def hasEntered : AwaiterRun → Bool
  | refused _ => false
  | entered .. => true

/-- Whether a run was delivered, cancelled, timed out, without a receiver, or dropped. -/
def hasEnded : AwaiterRun → Bool
  | refused _ => false
  | entered _ _ memory past => PollLoop.isOver (standing memory past)

def isUnderway (run : AwaiterRun) : Bool := run.hasEntered && !run.hasEnded

def returnedOk : AwaiterRun → Bool
  | refused _ => false
  | entered _ _ memory past => (standing memory past).phase.isSuccess

/-- How many retrievals a run has started: one with its loop, and those after its rests. -/
def retrievals : AwaiterRun → Nat
  | refused _ => 0
  | entered _ _ _ past => 1 + past.countP LoopMove.startsRetrieval

/-- How many failed retrievals the loop of a run has learnt of. -/
def errors : AwaiterRun → Nat
  | refused _ => 0
  | entered _ _ _ past => past.countP LoopMove.seesError

/-- An awaiter that is set out, and what is counted then. -/
def setOut (awaiter : Awaiter S T E) (watch : Option DepositWatch) (now : Nat) :
    AwaiterRun × List Record :=
  match awaiter.start watch now with
  | .polling loop matcher memory => (entered loop matcher memory [], loop.beginRecords)
  | _ => (refused awaiter.name, [])

end AwaiterRun

/-- The awaiter that an event is about. -/
def Record.awaiter? : Record → Option String
  | pollStarted awaiter | retrievalFailed awaiter | depositDelivered awaiter
  | awaiterStarted awaiter | awaiterStopped awaiter => some awaiter
  | _ => none

open AwaiterRun in
/-- What awaiters can come to, and the events that are counted on the way. Any of them may take the
next step. -/
inductive Interleaved : List AwaiterRun → List Record → Prop
  | nothing : Interleaved [] []
  | setsOut {S T E : Type} {runs : List AwaiterRun} {records : List Record}
      (so_far : Interleaved runs records) (awaiter : Awaiter S T E) (watch : Option DepositWatch)
      (now : Nat) :
      Interleaved (runs ++ [(setOut awaiter watch now).1])
        (records ++ (setOut awaiter watch now).2)
  | moves {S T E : Type} {front back : List AwaiterRun} {records counted : List Record}
      {loop : PollLoop} {matcher : Matcher S T E} {memory : S} {past : List (LoopMove S T E)}
      {signal : LoopSignal T} {next : LoopState S E}
      (so_far : Interleaved (front ++ entered loop matcher memory past :: back) records)
      (step : loop.step? matcher (standing memory past) signal = some (next, counted)) :
      Interleaved
        (front ++
          entered loop matcher memory (past ++ [⟨standing memory past, signal, next⟩]) :: back)
        (records ++ counted)
  | elsewhere {runs : List AwaiterRun} {records : List Record} {event : Record}
      (so_far : Interleaved runs records) (foreign : event.awaiter? = none) :
      Interleaved runs (records ++ [event])

namespace AwaiterRun

variable {S T E : Type} {loop : PollLoop} {matcher : Matcher S T E}

@[simp] theorem name_entered (memory : S) (past : List (LoopMove S T E)) :
    (entered loop matcher memory past).name = loop.name := rfl

@[simp] theorem standing_nil (memory : S) :
    standing memory ([] : List (LoopMove S T E)) = PollLoop.begin memory := rfl

@[simp] theorem standing_concat (memory : S) (past : List (LoopMove S T E))
    (move : LoopMove S T E) : standing memory (past ++ [move]) = move.after := by
  simp [standing]

/-- All that a loop counts is counted under its name. -/
theorem awaiter?_of_steps {state next : LoopState S E} {signal : LoopSignal T}
    {counted : List Record} (step : PollLoop.Steps loop matcher state signal next counted) :
    ∀ event ∈ counted, event.awaiter? = some loop.name := by
  cases step <;> simp [Record.awaiter?]

/-- The events of one kind, by the name they are counted under, are told by what runs gain: nothing
before the loop, and then as much with every move as there are such events. -/
structure Tells (kind : String → Record) (gain : AwaiterRun → Nat) : Prop where
  named : ∀ name, (kind name).awaiter? = some name
  refused : ∀ name, gain (.refused name) = 0
  begun : ∀ {S T E : Type} (loop : PollLoop) (matcher : Matcher S T E) (memory : S),
    gain (entered loop matcher memory []) = loop.beginRecords.countP (· == kind loop.name)
  moved : ∀ {S T E : Type} {loop : PollLoop} {matcher : Matcher S T E} {signal : LoopSignal T}
    {next : LoopState S E} {counted : List Record} (memory : S) (past : List (LoopMove S T E)),
    PollLoop.Steps loop matcher (standing memory past) signal next counted →
      gain (entered loop matcher memory (past ++ [⟨standing memory past, signal, next⟩])) =
        gain (entered loop matcher memory past) + counted.countP (· == kind loop.name)

namespace Tells

variable {kind : String → Record} {gain : AwaiterRun → Nat}

/-- Events under one name are not of a kind under another. -/
theorem countP_eq (tells : Tells kind gain) {events : List Record} {own : String}
    (named : ∀ event ∈ events, event.awaiter? = some own) (name : String) :
    events.countP (· == kind name) =
      if own = name then events.countP (· == kind own) else 0 := by
  split
  next same => rw [same]
  next different =>
    rw [List.countP_eq_zero]
    intro event inside same
    have shared := named event inside
    rw [eq_of_beq same, tells.named] at shared
    exact different (Option.some.inj shared).symm

theorem setOut (tells : Tells kind gain) (awaiter : Awaiter S T E) (watch : Option DepositWatch)
    (now : Nat) (name : String) :
    (AwaiterRun.setOut awaiter watch now).2.countP (· == kind name) =
      if (AwaiterRun.setOut awaiter watch now).1.name = name then
        gain (AwaiterRun.setOut awaiter watch now).1 else 0 := by
  unfold AwaiterRun.setOut
  cases awaiter.start watch now with
  | refused reason | deadlineOverflow => simp [tells.refused]
  | polling loop matcher memory =>
      have named : ∀ event ∈ loop.beginRecords, event.awaiter? = some loop.name := by
        simp [PollLoop.beginRecords, Record.awaiter?]
      rw [tells.countP_eq named, ← tells.begun loop matcher memory]
      rfl

/-- Whatever the order, the events of a kind under a name are what the runs of that name gain. -/
theorem countP_records (tells : Tells kind gain) (name : String) {runs : List AwaiterRun}
    {records : List Record} (interleaved : Interleaved runs records) :
    records.countP (· == kind name) = ((runs.filter (·.name = name)).map gain).sum := by
  rw [← sum_map_filter]
  induction interleaved with
  | nothing => rfl
  | setsOut so_far awaiter watch now ih =>
      rw [List.countP_append, List.map_append, List.sum_append, ih, tells.setOut]
      simp
  | @moves _ _ _ _ _ _ _ loop matcher memory past _ _ so_far step ih =>
      have step := PollLoop.steps_of_step? step
      have counted := tells.countP_eq (awaiter?_of_steps step) name
      have gained := tells.moved memory past step
      simp only [List.map_append, List.map_cons, List.sum_append, List.sum_cons, name_entered,
        decide_eq_true_eq] at ih ⊢
      rw [List.countP_append, ih, counted, gained]
      by_cases own : loop.name = name
      · simp only [own, ↓reduceIte]
        omega
      · simp only [own, ↓reduceIte]
        omega
  | @elsewhere _ _ event so_far foreign ih =>
      have other : (event == kind name) = false := by
        rw [beq_eq_false_iff_ne]
        intro same
        rw [same, tells.named] at foreign
        cases foreign
      rw [List.countP_append, ih, List.countP_singleton, other]
      simp

end Tells

theorem tells_pollStarted : Tells .pollStarted retrievals where
  named _ := rfl
  refused _ := rfl
  begun loop matcher memory := by simp [retrievals, PollLoop.beginRecords]
  moved memory past step := by
    cases step <;>
      simp_all [retrievals, LoopMove.startsRetrieval, LoopPhase.isRetrieving, PollLoop.rest,
        Nat.add_assoc]

theorem tells_retrievalFailed : Tells .retrievalFailed errors where
  named _ := rfl
  refused _ := rfl
  begun loop matcher memory := by simp [errors, PollLoop.beginRecords]
  moved memory past step := by
    cases step <;> simp [errors, LoopMove.seesError]

theorem tells_awaiterStarted : Tells .awaiterStarted fun run => run.hasEntered.toNat where
  named _ := rfl
  refused _ := rfl
  begun loop matcher memory := by simp [hasEntered, PollLoop.beginRecords]
  moved memory past step := by
    cases step <;> simp [hasEntered]

theorem tells_awaiterStopped : Tells .awaiterStopped fun run => run.hasEnded.toNat where
  named _ := rfl
  refused _ := rfl
  begun loop matcher memory := by
    simp [hasEnded, PollLoop.beginRecords, PollLoop.begin, PollLoop.isOver]
  moved memory past step := by
    cases step with
    | noticeCancel waiting | noticeExpiry waiting =>
        have running := PollLoop.isOver_of_interruptible waiting
        simp only [hasEnded, standing_concat, running]
        simp [PollLoop.isOver]
    | _ => simp_all [hasEnded, PollLoop.isOver, PollLoop.rest]

theorem tells_depositDelivered : Tells .depositDelivered fun run => run.returnedOk.toNat where
  named _ := rfl
  refused _ := rfl
  begun loop matcher memory := by
    simp [returnedOk, PollLoop.beginRecords, PollLoop.begin, LoopPhase.isSuccess]
  moved memory past step := by
    cases step with
    | noticeCancel waiting | noticeExpiry waiting =>
        have running := PollLoop.isOver_of_interruptible waiting
        simp only [returnedOk, standing_concat, PollLoop.isSuccess_of_running running]
        simp [LoopPhase.isSuccess]
    | abort running =>
        simp only [returnedOk, standing_concat, PollLoop.isSuccess_of_running running]
        simp [LoopPhase.isSuccess]
    | _ => simp_all [returnedOk, LoopPhase.isSuccess, PollLoop.rest]

/-- The runs of one name. -/
def named (runs : List AwaiterRun) (name : String) : List AwaiterRun :=
  runs.filter (·.name = name)

theorem countP_records {kind : String → Record} {among : AwaiterRun → Bool}
    (tells : Tells kind fun run => (among run).toNat) (name : String) {runs : List AwaiterRun}
    {records : List Record} (interleaved : Interleaved runs records) :
    records.countP (· == kind name) = (named runs name).countP among := by
  have indicator : (fun run => (among run).toNat) = fun run => if among run then 1 else 0 := by
    funext run
    cases among run <;> rfl
  rw [tells.countP_records name interleaved, indicator]
  exact sum_map_indicator ..

/-- A run that has entered its loop has ended or is under way. -/
theorem countP_hasEntered (runs : List AwaiterRun) :
    runs.countP hasEntered = runs.countP isUnderway + runs.countP hasEnded := by
  induction runs with
  | nil => rfl
  | cons run rest ih =>
      rw [List.countP_cons, List.countP_cons, List.countP_cons, ih]
      cases run with
      | refused name => simp [hasEntered, isUnderway, hasEnded]
      | entered loop matcher memory past =>
          cases ended : PollLoop.isOver (standing memory past) <;>
            simp [hasEntered, isUnderway, hasEnded, ended] <;> omega

/-- How the awaiters' metrics of a name stand behind some runs. -/
structure Accounted (metrics : Metrics) (runs : List AwaiterRun) (name : String) : Prop where
  /-- The runs that have entered their loops and have not ended. -/
  active : metrics.active.level [name] = (named runs name).countP isUnderway
  /-- The retrievals that were started. -/
  polls : metrics.polls.count [name] = ((named runs name).map retrievals).sum
  /-- The failed retrievals that their loops have learnt of. -/
  retrievalErrors : metrics.retrievalErrors.count [name] = ((named runs name).map errors).sum
  /-- The runs that returned without an error. -/
  deliveries : metrics.deliveries.count [name] = (named runs name).countP returnedOk

theorem accounted {runs : List AwaiterRun} {records : List Record}
    (interleaved : Interleaved runs records) (name : String) :
    Accounted (Metrics.empty.recordAll records) runs name where
  active := by
    have balance := Metrics.level_recordAll .empty records name
    have started := countP_records tells_awaiterStarted name interleaved
    have stopped := countP_records tells_awaiterStopped name interleaved
    have split := countP_hasEntered (named runs name)
    have initial : Metrics.empty.active.level [name] = 0 := rfl
    omega
  polls := by
    have counted := (Metrics.polls_countsBy name).recordAll .empty records
    rw [tells_pollStarted.countP_records name interleaved] at counted
    exact counted.trans (Nat.zero_add _)
  retrievalErrors := by
    have counted := (Metrics.retrievalErrors_countsBy name).recordAll .empty records
    rw [tells_retrievalFailed.countP_records name interleaved] at counted
    exact counted.trans (Nat.zero_add _)
  deliveries := by
    have counted := (Metrics.deliveries_countsBy name).recordAll .empty records
    rw [countP_records tells_depositDelivered name interleaved] at counted
    exact counted.trans (Nat.zero_add _)

/-- The runs that were refused count nothing and stand in nobody's way. -/
theorem interleaved_hasEntered {runs : List AwaiterRun} {records : List Record}
    (interleaved : Interleaved runs records) :
    Interleaved (runs.filter hasEntered) records := by
  induction interleaved with
  | nothing => exact .nothing
  | setsOut so_far awaiter watch now ih =>
      rw [List.filter_append]
      have after := ih.setsOut awaiter watch now
      revert after
      unfold setOut
      cases awaiter.start watch now with
      | refused reason | deadlineOverflow =>
          intro _
          simpa [hasEntered] using ih
      | polling loop matcher memory => exact id
  | moves so_far step ih =>
      rw [List.filter_append, List.filter_cons_of_pos rfl] at ih ⊢
      exact ih.moves step
  | elsewhere so_far foreign ih => exact ih.elsewhere foreign

/-- Whatever the order in which awaiters are set out and take their steps, and however they end, the
gauge and the three counters of every name tell what the runs of that name have come to; and without
the runs that were refused before their loops the same would have been counted. -/
theorem runs_accounted_for {runs : List AwaiterRun} {records : List Record}
    (interleaved : Interleaved runs records) :
    (∀ name, Accounted (Metrics.empty.recordAll records) runs name) ∧
      Interleaved (runs.filter hasEntered) records :=
  ⟨accounted interleaved, interleaved_hasEntered interleaved⟩

/-- Five awaiters overlap: one without a watch, one for an address that is no key, one that delivers
after a failed retrieval, one that is dropped with its event in hand, and one that still rests. -/
theorem runs_accounted_for_overlapping :
    ∃ runs records,
      Interleaved runs records ∧
      runs.map (fun run => (run.name, run.hasEntered, run.hasEnded, run.returnedOk)) =
        [("generic", false, false, false), ("ledger", false, false, false),
          ("generic", true, true, true), ("generic", true, true, false),
          ("generic", true, false, false)] ∧
      runs.map (fun run => (run.retrievals, run.errors)) =
        [(0, 0), (0, 0), (2, 1), (1, 0), (1, 0)] ∧
      (∀ name, Accounted (Metrics.empty.recordAll records) runs name) ∧
      Interleaved (runs.filter hasEntered) records := by
  let awaiter : Awaiter Unit Nat Nat := .generic (fun watch =>
    ⟨fun memory amount => (if amount = watch.amount then some amount else none, memory)⟩) ()
  let watch := some (DepositWatch.new "0x" "token" 5)
  have begun := ((Interleaved.nothing.setsOut awaiter none 0).setsOut ledgerAwaiter watch 0).setsOut
    awaiter watch 0
  have failed := @Interleaved.moves Unit Nat Nat [_, _] [] _ _ _ _ _ _
    (.retrieved (.error .canceled)) _ begun rfl
  have picked := @Interleaved.moves Unit Nat Nat [_, _, _] [] _ _ _ _ _ _ (.retrieved (.ok 5)) _
    (failed.setsOut awaiter watch 1) rfl
  have rested := @Interleaved.moves Unit Nat Nat [_, _] [_] _ _ _ _ _ _ .rested _ picked rfl
  have dropped := @Interleaved.moves Unit Nat Nat [_, _, _] [_] _ _ _ _ _ _ .abort _
    (rested.setsOut awaiter watch 2) rfl
  have found := @Interleaved.moves Unit Nat Nat [_, _] [_, _] _ _ _ _ _ _ (.retrieved (.ok 5)) _
    dropped rfl
  have missed := @Interleaved.moves Unit Nat Nat [_, _, _, _] [] _ _ _ _ _ _ (.retrieved (.ok 4)) _
    found rfl
  have scene := @Interleaved.moves Unit Nat Nat [_, _] [_, _] _ _ _ _ _ _ .delivered _ missed rfl
  exact ⟨_, _, scene, by decide, by decide, runs_accounted_for scene⟩

end AwaiterRun
end BridgeClient
