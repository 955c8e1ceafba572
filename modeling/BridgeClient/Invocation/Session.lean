import BridgeClient.Invocation.Executor

set_option autoImplicit false

/-! A target together with the context that its next invocation will use. -/
namespace BridgeClient

structure Session (K : Type) where
  target : ProgramTarget
  context : CallContext K

/-- What is done with a session. -/
inductive SessionCommand (K P : Type) where
  | setInvoker (invoker : K)
  | setSigners (signers : List (AuxiliarySigner K))
  | eraseSigners
  | setExtra (extra : List AccountMeta)
  | eraseExtra
  | invoke (payload : P)
  | invokeBatches (payloads : List P)

namespace Session

variable {K P : Type}

/-- A session whose invoker signs alone. -/
def new (target : ProgramTarget) (invoker : K) : Session K := ⟨target, .new invoker⟩

def setInvoker (session : Session K) (invoker : K) : Session K :=
  { session with context := { session.context with primary := invoker } }

def setSigners (session : Session K) (signers : List (AuxiliarySigner K)) : Session K :=
  { session with context := { session.context with signers } }

def eraseSigners (session : Session K) : Session K := session.setSigners []

def setExtra (session : Session K) (extra : List AccountMeta) : Session K :=
  { session with context := { session.context with extra } }

def eraseExtra (session : Session K) : Session K := session.setExtra []

variable [SigningKey K] [Payload P]

def invoke (session : Session K) (payload : P) (node : Node) (journal : Journal) :
    Outcome CommandResponse :=
  Executor.invoke session.target session.context payload node journal

def invokeBatches (session : Session K) (payloads : List P) (node : Node) (journal : Journal) :
    Outcome CommandResponse :=
  Executor.invokeBatches session.target session.context payloads node journal

/-- The session after a command; invoking leaves it as it is. -/
def next (session : Session K) : SessionCommand K P → Session K
  | .setInvoker invoker => session.setInvoker invoker
  | .setSigners signers => session.setSigners signers
  | .eraseSigners => session.eraseSigners
  | .setExtra extra => session.setExtra extra
  | .eraseExtra => session.eraseExtra
  | .invoke _ => session
  | .invokeBatches _ => session

/-- The outcome of a command that invokes the program. -/
def answer? (session : Session K) (node : Node) (journal : Journal) :
    SessionCommand K P → Option (Outcome CommandResponse)
  | .invoke payload => some (session.invoke payload node journal)
  | .invokeBatches payloads => some (session.invokeBatches payloads node journal)
  | _ => none

end Session
end BridgeClient
