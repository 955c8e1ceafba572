set_option autoImplicit false

/-!
Cancellation: a handle that can be pulled once, and any number of tokens that show it.

The pair shares a flag with a version that counts changes. A token remembers the version it has
seen, so a task that waits on it notices a change it has not seen yet before it notices that the
handle is gone.
-/
namespace BridgeClient

/-- What a handle and its tokens share. -/
structure Cancellation where
  cancelled : Bool
  version : Nat
  handleAlive : Bool
deriving DecidableEq

/-- A token, by the version it has seen. -/
structure CancelToken where
  seen : Nat
deriving DecidableEq

namespace Cancellation

def new : Cancellation := ⟨false, 0, true⟩

/-- A pair whose handle is gone from the start. -/
def never : Cancellation := ⟨false, 0, false⟩

/-- Pulls the handle, if it is still there. -/
def cancel (shared : Cancellation) : Cancellation :=
  if shared.handleAlive then { shared with cancelled := true, version := shared.version + 1 }
  else shared

def dropHandle (shared : Cancellation) : Cancellation := { shared with handleAlive := false }

/-- A token of the pair; what has happened before counts as seen. -/
def token (shared : Cancellation) : CancelToken := ⟨shared.version⟩

end Cancellation

/-- What a token shows: the flag, whichever version it has seen. -/
def CancelToken.isCancelled (shared : Cancellation) (_token : CancelToken) : Bool :=
  shared.cancelled

/-- How far a task that waits for cancellation has come. -/
inductive WaitPhase where
  /-- About to look at the flag. -/
  | looking
  /-- Asleep until a version it has not seen. -/
  | listening
  /-- Asleep for good: the handle went without being pulled. -/
  | abandoned
  | returned
deriving DecidableEq

structure Waiter where
  token : CancelToken
  phase : WaitPhase
deriving DecidableEq

namespace Waiter

/-- A task that begins to wait on a token. -/
def start (token : CancelToken) : Waiter := ⟨token, .looking⟩

/-- Looks at the flag, which sees the newest version, and falls asleep if it is not set. -/
def look (shared : Cancellation) (_waiter : Waiter) : Waiter :=
  let token : CancelToken := ⟨shared.version⟩
  if shared.cancelled then ⟨token, .returned⟩
  else if shared.handleAlive then ⟨token, .listening⟩
  else ⟨token, .abandoned⟩

/-- One step of the task. -/
def poll (shared : Cancellation) (waiter : Waiter) : Waiter :=
  match waiter.phase with
  | .looking => look shared waiter
  | .listening =>
      if shared.version ≠ waiter.token.seen then look shared waiter
      else if shared.handleAlive then waiter
      else ⟨waiter.token, .abandoned⟩
  | .abandoned => waiter
  | .returned => waiter

end Waiter
end BridgeClient
