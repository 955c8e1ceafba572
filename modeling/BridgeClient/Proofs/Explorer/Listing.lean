import BridgeClient.Explorer.History
import BridgeClient.Proofs.Document.Record
import BridgeClient.Proofs.Json.Reading

set_option autoImplicit false

/-!
Which transfers a reply of an explorer lists. A transfer is a record of texts, some of which may be
left out, and a list of them stands where the reply has its result.
-/
namespace BridgeClient

open Document

namespace TokenTransfer

/-- What a field tells: the text that it holds, or the empty one if it may be left out and is. -/
def Tells (name : String) (field : Field) (value : String) : Prop :=
  field = .given (.text value) ∨
    name ∈ optionalNames ∧ (field = .absent ∨ field = .beyond) ∧ value = ""

theorem readField_eq_some_iff {name : String} {field : Field} {value : String} :
    readField name field = some value ↔ Tells name field value := by
  unfold readField Tells
  by_cases optional : name ∈ optionalNames
  · cases field with
    | given document => simp [Field.orElse, optional, asText_eq_some_iff]
    | absent => simp [Field.orElse, optional, eq_comm]
    | beyond => simp [Field.orElse, optional, eq_comm]
  · cases field with
    | given document => simp [Field.required, optional, asText_eq_some_iff]
    | absent => simp [Field.required, optional]
    | beyond => simp [Field.required, optional]

theorem ofFields?_eq_some_iff {texts : List String} {transfer : TokenTransfer} :
    ofFields? texts = some transfer ↔ texts = transfer.toFields := by
  constructor
  · intro read
    unfold ofFields? at read
    split at read
    · cases read
      rfl
    · cases read
  · rintro rfl
    rfl

/-- A document writes a transfer if it has fields that tell the transfer's texts. -/
def WrittenAs (transfer : TokenTransfer) (document : Document) : Prop :=
  ∃ fields, LaysOut .json fieldNames document fields ∧
    List.Forall₂ (fun entry text => Tells entry.1 entry.2 text) (fieldNames.zip fields)
      transfer.toFields

theorem read_eq_some_iff {document : Document} {transfer : TokenTransfer} :
    TokenTransfer.read document = some transfer ↔ transfer.WrittenAs document := by
  simp only [TokenTransfer.read, WrittenAs, Option.bind_eq_bind, Option.bind_eq_some_iff,
    fields?_eq_some_iff, ofFields?_eq_some_iff, mapM_eq_some_iff, readField_eq_some_iff,
    exists_eq_right]

end TokenTransfer

variable [JsonLibrary]

/-- A result is a list of transfers if it can be taken as a whole and each element writes one. -/
theorem HistoryResult.read_eq_transfers_iff {document : Document} {transfers : List TokenTransfer} :
    HistoryResult.read document = some (.transfers transfers) ↔
      ∃ elements, document = .list elements ∧ document.isHeld = true ∧
        document.depth ≤ nestingLimit ∧
        List.Forall₂ (fun element transfer => transfer.WrittenAs element) elements transfers := by
  by_cases taken : document.isHeld = true ∧ document.depth ≤ nestingLimit
  · cases document with
    | list elements =>
        simp [HistoryResult.read, taken, mapM_eq_some_iff, TokenTransfer.read_eq_some_iff]
    | _ => simp [HistoryResult.read, taken]
  · have refused : HistoryResult.read document = none := if_neg (by simpa using taken)
    rw [refused]
    refine iff_of_false (by simp) ?_
    intro ⟨_, _, held, shallow, _⟩
    exact taken ⟨held, shallow⟩

namespace History

/-- A document is a reply whose result is a list of transfers. -/
def Lists (document : Document) (transfers : List TokenTransfer) : Prop :=
  ∃ status message elements,
    LaysOut .json ["status", "message", "result"] document
      [.given (.text status), .given (.text message), .given (.list elements)] ∧
    (Document.list elements).isHeld = true ∧
    (Document.list elements).depth ≤ HistoryResult.nestingLimit ∧
    List.Forall₂ (fun element transfer => transfer.WrittenAs element) elements transfers

theorem lists_iff {document : Document} {transfers : List TokenTransfer} :
    Lists document transfers ↔
      ∃ history, History.read document = some history ∧ history.result = .transfers transfers := by
  unfold History.read
  simp only [Option.bind_eq_bind, Option.bind_eq_some_iff, fields?_eq_some_iff]
  constructor
  · rintro ⟨status, message, elements, laid, held, shallow, written⟩
    have read := HistoryResult.read_eq_transfers_iff.mpr ⟨elements, rfl, held, shallow, written⟩
    refine ⟨⟨status, message, .transfers transfers⟩, ⟨_, laid, ?_⟩, rfl⟩
    simp [Field.required, asText, read]
  · rintro ⟨history, ⟨fields, laid, found⟩, listed⟩
    split at found
    · simp only [Option.bind_eq_some_iff, Option.pure_def, Option.some.injEq,
        Field.required_eq_some_iff, asText_eq_some_iff] at found
      obtain ⟨status, ⟨_, rfl, rfl⟩, message, ⟨_, rfl, rfl⟩, result, ⟨_, rfl, read⟩, rfl⟩ := found
      cases listed
      obtain ⟨elements, rfl, held, shallow, written⟩ :=
        HistoryResult.read_eq_transfers_iff.mp read
      exact ⟨status, message, elements, laid, held, shallow, written⟩
    · cases found

theorem parse?_eq_some_iff {body : Bytes} {history : History} :
    History.parse? body = some history ↔ ∃ json, Json.Spells body json ∧
      History.read (.ofJson json) = some history := by
  simp only [← Json.parseBytes?_eq_some_iff]
  unfold History.parse?
  cases Json.parseBytes? body with
  | none => simp
  | some json => simp

end History

/-- A reply lists transfers: its status tells of no failure, and its body spells a history with a
list of transfers. -/
def ExplorerReply.Lists (reply : ExplorerReply) (transfers : List TokenTransfer) : Prop :=
  ∃ status body json, reply = .answered status body ∧ ¬ (400 ≤ status ∧ status < 600) ∧
    Json.Spells body json ∧ History.Lists (.ofJson json) transfers

namespace ExplorerReply

variable {reply : ExplorerReply} {transfers : List TokenTransfer}

theorem Lists.transfers_eq (lists : reply.Lists transfers) : reply.transfers = .ok transfers := by
  obtain ⟨status, body, json, rfl, passed, spelled, listed⟩ := lists
  obtain ⟨history, read, result⟩ := History.lists_iff.mp listed
  have whole := History.parse?_eq_some_iff.mpr ⟨json, spelled, read⟩
  have fine : isFailure status = false := by
    rw [isFailure, Bool.and_eq_false_iff, decide_eq_false_iff_not, decide_eq_false_iff_not]
    omega
  simp [ExplorerReply.transfers, fine, whole, History.transfers, result]

/-- A reply that comes to a list has it, or tells that the history is empty. -/
theorem lists_of_transfers_eq (given : reply.transfers = .ok transfers) :
    reply.Lists transfers ∨ transfers = [] := by
  cases reply with
  | unreachable reason => cases given
  | answered status body =>
      rw [ExplorerReply.transfers] at given
      split at given
      · cases given
      · rename_i fine
        split at given
        · cases given
        · rename_i history whole
          rw [History.transfers] at given
          split at given
          · rename_i list listed
            cases given
            obtain ⟨json, spelled, read⟩ := History.parse?_eq_some_iff.mp whole
            refine Or.inl ⟨status, body, json, rfl, ?_, spelled, ?_⟩
            · simpa [isFailure] using fine
            · exact History.lists_iff.mpr ⟨history, read, listed⟩
          · split at given
            · cases given
              exact Or.inr rfl
            · cases given

end ExplorerReply
end BridgeClient
