import BridgeClient.Await.Awaiter

set_option autoImplicit false

/-!
A run of the poll loop against a known course of events: how long each retrieval takes and what it
gives, when the token is cancelled, whether anyone receives. Of several things that happen at one
instant the loop's own work comes first, then cancellation, then the deadline. Rests, retrievals and
the time up to the cancellation are timers set for a duration, so none runs longer than
`longestTimer`; the deadline is an instant and may lie further off.
-/
namespace BridgeClient

structure Timeline (T : Type) where
  /-- Duration and outcome of each retrieval, by number. -/
  retrieval : Nat → Nat × Except BridgeError T
  /-- How long after the start the token is cancelled. -/
  cancelAfter : Option Nat
  receiverDropped : Bool

/-- A run as it was: its result, when it ended, how many retrievals were started, what was delivered
and what was counted. -/
structure RunReport (E : Type) where
  result : Except BridgeError Unit
  elapsed : Nat
  retrievals : Nat
  delivered : List E
  records : List Record

namespace Timeline

variable {S T E : Type}

/-- The first of the loop's own work, the cancellation and the deadline: the signals it brings, and
its instant. A stop in the past comes at once. -/
def first (loop : PollLoop) (timeline : Timeline T) (since ready : Nat) (work : LoopSignal T) :
    List (LoopSignal T) × Nat :=
  let earlier (best : List (LoopSignal T) × Nat) (instant? : Option Nat)
      (signals : List (LoopSignal T)) : List (LoopSignal T) × Nat :=
    match instant? with
    | none => best
    | some instant => if max since instant < best.2 then (signals, max since instant) else best
  let cancelAt := timeline.cancelAfter.map (min · longestTimer)
  let best := earlier ([work], ready) cancelAt [.cancel, .noticeCancel]
  earlier best loop.deadline [.expire, .noticeExpiry]

/-- The signals that come next in a state entered at some instant, and when they come. -/
def next (loop : PollLoop) (timeline : Timeline T) (state : LoopState S E) (since attempt : Nat) :
    List (LoopSignal T) × Nat :=
  match state.phase with
  | .retrieving =>
      let (duration, outcome) := timeline.retrieval attempt
      first loop timeline since (since + min duration longestTimer) (.retrieved outcome)
  | .resting _ => first loop timeline since (since + loop.restLength) .rested
  | .delivering _ => ([if state.receiverGone then .refused else .delivered], since)
  | _ => ([], since)

/-- Follows the loop for at most so many signals. -/
def play (loop : PollLoop) (matcher : Matcher S T E) (timeline : Timeline T) :
    Nat → LoopState S E → Nat → Nat → List Record → Option (RunReport E)
  | 0, _, _, _, _ => none
  | fuel + 1, state, since, attempt, records =>
      let (signals, instant) := timeline.next loop state since attempt
      match loop.follow? matcher state signals with
      | none => none
      | some (after, more) =>
          let records := records ++ more
          match after.phase with
          | .finished result =>
              some ⟨result, instant, attempt + 1, after.delivered, records⟩
          | .aborted => none
          | .resting _ => play loop matcher timeline fuel after instant attempt records
          | .delivering _ => play loop matcher timeline fuel after instant attempt records
          | .retrieving => play loop matcher timeline fuel after instant (attempt + 1) records

/-- The report of an awaiter that starts at the clock's zero, if it ends within so many signals and
its deadline is on the clock. -/
def report (timeline : Timeline T) (fuel : Nat) (awaiter : Awaiter S T E)
    (watch : Option DepositWatch) : Option (RunReport E) :=
  match awaiter.start watch 0 with
  | .refused e => some ⟨.error e, 0, 0, [], []⟩
  | .deadlineOverflow => none
  | .polling loop matcher memory =>
      let state := { PollLoop.begin memory with receiverGone := timeline.receiverDropped }
      play loop matcher timeline fuel state 0 0 loop.beginRecords

end Timeline
end BridgeClient
