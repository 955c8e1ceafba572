import BridgeClient.Await.Loop
import BridgeClient.Await.Watch

set_option autoImplicit false

/-!
Awaiters: a name, and the matcher that a watch asks for. An awaiter that has no watch, or whose
watch it cannot use, is refused before its loop begins.
-/
namespace BridgeClient

/-- Times on the clock: whole seconds are a signed 64-bit count, so an instant can be too late. -/
def Instant.limit : Nat := 0x8000000000000000 * 1000

/-- The instant so many milliseconds after another, if the clock has it. -/
def Instant.after? (now duration : Nat) : Option Nat :=
  if now + duration < Instant.limit then some (now + duration) else none

/-- A kind of awaiter. -/
structure Awaiter (S T E : Type) where
  name : String
  prepare : DepositWatch → Except BridgeError (Matcher S T E × S)

/-- How an awaiter starts. -/
inductive AwaiterStart (S T E : Type) where
  | refused (error : BridgeError)
  /-- The clock has no such deadline. -/
  | deadlineOverflow
  | polling (loop : PollLoop) (matcher : Matcher S T E) (memory : S)

namespace Awaiter

variable {S T E : Type}

/-- Sets out at some instant. The deadline counts from then. -/
def start (awaiter : Awaiter S T E) (watch : Option DepositWatch) (now : Nat) :
    AwaiterStart S T E :=
  match watch with
  | none => .refused .awaiterNotConfigured
  | some watch =>
      match awaiter.prepare watch with
      | .error e => .refused e
      | .ok (matcher, memory) =>
          match watch.timeout with
          | none => .polling ⟨awaiter.name, watch.pollInterval, none⟩ matcher memory
          | some timeout =>
              match Instant.after? now timeout with
              | none => .deadlineOverflow
              | some deadline =>
                  .polling ⟨awaiter.name, watch.pollInterval, some deadline⟩ matcher memory

/-- An awaiter whose retrieval and comparison are given from outside. -/
def generic (comparator : DepositWatch → Matcher S T E) (memory : S) : Awaiter S T E where
  name := "generic"
  prepare watch := .ok (comparator watch, memory)

end Awaiter
end BridgeClient
