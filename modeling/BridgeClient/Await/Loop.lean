import BridgeClient.Error
import BridgeClient.Metrics.Basic

set_option autoImplicit false

/-!
The loop that every deposit awaiter runs: retrieve, offer what was retrieved to a matcher, rest,
again, until the matcher returns an event and the event is delivered.

While it retrieves or rests the loop also watches for cancellation and for its deadline. Of several
things that are ready at once any may be taken, so the loop is a relation between a state, a signal
and the next state: `step?` says which signals a state admits. What the world does (cancelling,
reaching the deadline, dropping the receiver) is a signal like the others.
-/
namespace BridgeClient

/-- Looks at values one after the other, with a memory, and picks the event to deliver. -/
structure Matcher (S T E : Type) where
  offer : S → T → Option E × S

/-- The longest time that a timer set for a duration runs: thirty years, in milliseconds. -/
def longestTimer : Nat := 946080000000

/-- The fixed data of one run. Times are milliseconds of the clock. -/
structure PollLoop where
  name : String
  interval : Nat
  deadline : Option Nat
deriving DecidableEq

/-- Where a run stands. A rest knows whether a stop could already be seen when it began. -/
inductive LoopPhase (E : Type) where
  | retrieving
  | delivering (event : E)
  | resting (stopVisible : Bool)
  | finished (result : Except BridgeError Unit)
  | aborted

/-- A run with what has happened around it. -/
structure LoopState (S E : Type) where
  phase : LoopPhase E
  memory : S
  cancelled : Bool
  expired : Bool
  receiverGone : Bool
  delivered : List E

inductive LoopSignal (T : Type) where
  /-- The token is cancelled. -/
  | cancel
  /-- The deadline is reached. -/
  | expire
  /-- The receiving end is dropped. -/
  | dropReceiver
  /-- A retrieval ends. -/
  | retrieved (outcome : Except BridgeError T)
  /-- The channel takes the event. -/
  | delivered
  /-- The channel refuses the event. -/
  | refused
  /-- The rest is over. -/
  | rested
  /-- The loop notices the cancellation. -/
  | noticeCancel
  /-- The loop notices the deadline. -/
  | noticeExpiry
  /-- The task is dropped. -/
  | abort

namespace PollLoop

variable {S T E : Type}

/-- The first state: the first retrieval has started. -/
def begin (memory : S) : LoopState S E := ⟨.retrieving, memory, false, false, false, []⟩

/-- What is counted when a run begins. -/
def beginRecords (loop : PollLoop) : List Record :=
  [.awaiterStarted loop.name, .pollStarted loop.name]

/-- The error of a run that reached its deadline. -/
def timeoutError (loop : PollLoop) : BridgeError := .timeout (loop.name ++ " deposit")

/-- How long a rest lasts if nothing interrupts it. -/
def restLength (loop : PollLoop) : Nat := min loop.interval longestTimer

/-- The state at the beginning of a rest. -/
def rest (state : LoopState S E) : LoopState S E :=
  { state with phase := .resting (state.cancelled || state.expired) }

/-- The end of a run, which is counted. -/
def finish (loop : PollLoop) (result : Except BridgeError Unit) (state : LoopState S E) :
    LoopState S E × List Record :=
  ({ state with phase := .finished result }, [.awaiterStopped loop.name])

/-- The state after a retrieval. -/
def absorb (loop : PollLoop) (matcher : Matcher S T E) (outcome : Except BridgeError T)
    (state : LoopState S E) : LoopState S E × List Record :=
  match outcome with
  | .error _ => (rest state, [.retrievalFailed loop.name])
  | .ok value =>
      match matcher.offer state.memory value with
      | (some event, memory) => ({ state with phase := .delivering event, memory }, [])
      | (none, memory) => (rest { state with memory }, [])

/-- Whether the loop is at a point where it can be interrupted. -/
def interruptible (state : LoopState S E) : Bool :=
  match state.phase with
  | .retrieving => true
  | .resting _ => true
  | _ => false

/-- Whether a run is over. -/
def isOver (state : LoopState S E) : Bool :=
  match state.phase with
  | .finished _ => true
  | .aborted => true
  | _ => false

/-- The next state and what is counted, if the signal can come now. A rest of some length is never
over at the moment it begins, so it cannot win against a stop that was visible then. -/
def step? (loop : PollLoop) (matcher : Matcher S T E) (state : LoopState S E) :
    LoopSignal T → Option (LoopState S E × List Record)
  | .cancel => some ({ state with cancelled := true }, [])
  | .expire => if loop.deadline.isSome then some ({ state with expired := true }, []) else none
  | .dropReceiver => some ({ state with receiverGone := true }, [])
  | .retrieved outcome =>
      match state.phase with
      | .retrieving => some (absorb loop matcher outcome state)
      | _ => none
  | .delivered =>
      match state.phase with
      | .delivering event =>
          if state.receiverGone then none
          else
            let (state, stopped) :=
              finish loop (.ok ()) { state with delivered := state.delivered ++ [event] }
            some (state, .depositDelivered loop.name :: stopped)
      | _ => none
  | .refused =>
      match state.phase with
      | .delivering _ =>
          if state.receiverGone then some (finish loop (.error .channelClosed) state) else none
      | _ => none
  | .rested =>
      match state.phase with
      | .resting stopVisible =>
          if stopVisible && loop.interval ≠ 0 then none
          else some ({ state with phase := .retrieving }, [.pollStarted loop.name])
      | _ => none
  | .noticeCancel =>
      if interruptible state && state.cancelled then some (finish loop (.error .canceled) state)
      else none
  | .noticeExpiry =>
      if interruptible state && state.expired then
        some (finish loop (.error loop.timeoutError) state)
      else none
  | .abort =>
      if isOver state then none
      else some ({ state with phase := .aborted }, [.awaiterStopped loop.name])

/-- The state after a list of signals and all that was counted, if every one can come. -/
def follow? (loop : PollLoop) (matcher : Matcher S T E) :
    LoopState S E → List (LoopSignal T) → Option (LoopState S E × List Record)
  | state, [] => some (state, [])
  | state, signal :: rest =>
      match loop.step? matcher state signal with
      | none => none
      | some (next, records) =>
          (loop.follow? matcher next rest).map fun (last, more) => (last, records ++ more)

/-- A whole run, counted from its beginning. -/
def run? (loop : PollLoop) (matcher : Matcher S T E) (memory : S)
    (signals : List (LoopSignal T)) : Option (LoopState S E × List Record) :=
  (loop.follow? matcher (begin memory) signals).map fun (last, records) =>
    (last, loop.beginRecords ++ records)

end PollLoop
end BridgeClient
