import BridgeClient.Proofs.Json.Reading
import BridgeClient.Proofs.Rpc.Envelope
import BridgeClient.Rpc.Client

set_option autoImplicit false

/-!
What a client makes of a reply. A reply carries one envelope at most, and carries none unless its
body spells one.
-/
namespace BridgeClient

variable [JsonLibrary]

/-- A body is an answer of a node: it spells an object with the members of an envelope. -/
def Envelope.SpelledBy (envelope : Envelope) (body : Bytes) : Prop :=
  ∃ members, Json.Spells body (.object members) ∧ Written members envelope

theorem Envelope.parse?_eq_some_iff {envelope : Envelope} {body : Bytes} :
    parse? body = some envelope ↔ envelope.SpelledBy body := by
  unfold parse? SpelledBy
  constructor
  · intro parsed
    split at parsed
    · rename_i members read
      exact ⟨members, Json.parseBytes?_eq_some_iff.mp read, ofMembers_eq_some_iff.mp parsed⟩
    · cases parsed
  · rintro ⟨members, spelled, written⟩
    simp only [Json.parseBytes?_eq_some_iff.mpr spelled]
    exact ofMembers_eq_some_iff.mpr written

namespace RpcReply

/-- A reply came back, under whatever status, and its body is an answer. -/
inductive Carries : RpcReply → Envelope → Prop
  | body {status : Nat} {body : Bytes} {envelope : Envelope} (spelled : envelope.SpelledBy body) :
      Carries (.answered status body) envelope

theorem carries_answered_iff {status : Nat} {body : Bytes} {envelope : Envelope} :
    Carries (.answered status body) envelope ↔ Envelope.parse? body = some envelope := by
  rw [Envelope.parse?_eq_some_iff]
  constructor
  · intro carries
    cases carries with
    | body spelled => exact spelled
  · exact .body

/-- A reply carries one answer at most. -/
theorem Carries.iff_eq {reply : RpcReply} {envelope other : Envelope}
    (carries : reply.Carries envelope) : reply.Carries other ↔ other = envelope := by
  cases reply with
  | unreachable reason => cases carries
  | answered status body =>
      rw [carries_answered_iff] at carries ⊢
      rw [carries, Option.some.injEq, eq_comm]

end RpcReply

namespace LedgerClient

variable {α : Type} {client : LedgerClient} {refused : NodeFault → BridgeError}
  {read : Document → Option α} {reply : RpcReply}

/-- What a client makes of a reply: the value of a result in the wanted form, the error for what the
node reports, or a failure of the connection. -/
inductive Concludes (client : LedgerClient) (refused : NodeFault → BridgeError)
    (read : Document → Option α) (reply : RpcReply) : Except BridgeError α → Prop
  | value {result : Document} {value : α} (carries : reply.Carries (.success result))
      (fits : read result = some value) : Concludes client refused read reply (.ok value)
  | refused {fault : NodeFault} (carries : reply.Carries (.failure fault)) :
      Concludes client refused read reply (.error (refused fault))
  | misshapen {result : Document} {text : String} (carries : reply.Carries (.success result))
      (unfit : read result = none) :
      Concludes client refused read reply (.error (client.failed text))
  | useless {text : String} (nothing : ∀ envelope, ¬ reply.Carries envelope) :
      Concludes client refused read reply (.error (client.failed text))

theorem result_concludes (client : LedgerClient) (refused : NodeFault → BridgeError)
    (read : Document → Option α) (reply : RpcReply) :
    Concludes client refused read reply (client.result refused read reply) := by
  cases reply with
  | unreachable reason =>
      apply Concludes.useless
      intro envelope carries
      cases carries
  | answered status body =>
      rw [result]
      split
      · rename_i unread
        apply Concludes.useless
        intro envelope carries
        rw [RpcReply.carries_answered_iff, unread] at carries
        cases carries
      · rename_i fault parsed
        exact .refused (RpcReply.carries_answered_iff.mpr parsed)
      · rename_i result parsed
        split
        · rename_i value fits
          exact .value (RpcReply.carries_answered_iff.mpr parsed) fits
        · rename_i unfit
          exact .misshapen (RpcReply.carries_answered_iff.mpr parsed) unfit

end LedgerClient
end BridgeClient
