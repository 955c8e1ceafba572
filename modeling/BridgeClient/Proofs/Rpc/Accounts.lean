import BridgeClient.Proofs.Ledger.Key
import BridgeClient.Proofs.Rpc.Replies
import BridgeClient.Proofs.Sequencing
import BridgeClient.Proofs.Text.Base64
import Mathlib.Tactic.ByContra

set_option autoImplicit false

/-!
What the reply to a request for an account may come to. A result that has no value tells of no
account; one whose value is written as an account and makes no sense is malformed; every other is a
failure of the connection.
-/
namespace BridgeClient

open Document

namespace LedgerClient

/-! ## Results as they are written -/

namespace AccountText

/-- A value is written as an account. -/
def WrittenAs (account : AccountText) (value : Document) : Prop :=
  LaysOut .json ["data", "executable", "lamports", "owner"] value
    [.given (.list [.text account.payload, .text account.encoding]),
      .given (.flag account.executable), .given (.integer account.lamports.toNat),
      .given (.text account.owner)]

/-- What is written is the state of an account: its data in base64, its owner in base58. -/
structure Means (account : AccountText) (info : AccountInfo) : Prop where
  encoding : account.encoding = "base64"
  owner : account.owner = info.owner.toBase58
  payload : account.payload = Base64.encode info.data
  lamports : info.lamports = account.lamports
  executable : info.executable = account.executable

end AccountText

/-- A result whose value is missing or null. -/
def TellsNothing (result : Document) : Prop :=
  LaysOut .json ["value"] result [.absent] ∨ LaysOut .json ["value"] result [.given .null]

/-- A result whose value is written as an account. -/
def Tells (result : Document) (account : AccountText) : Prop :=
  ∃ value, value ≠ .null ∧ LaysOut .json ["value"] result [.given value] ∧ account.WrittenAs value

theorem readData_eq_some_iff {document : Document} {payload encoding : String} :
    readData document = some (payload, encoding) ↔
      document = .list [.text payload, .text encoding] := by
  unfold readData
  split
  · simp
  · rename_i other
    refine iff_of_false (by simp) ?_
    rintro rfl
    exact other _ _ rfl

theorem readAccount_eq_some_iff {value : Document} {account : AccountText} :
    readAccount value = some account ↔ account.WrittenAs value := by
  unfold readAccount AccountText.WrittenAs
  simp only [Option.bind_eq_bind, Option.bind_eq_some_iff, fields?_eq_some_iff]
  constructor
  · rintro ⟨fields, laid, found⟩
    split at found
    · simp only [Option.bind_eq_some_iff, Field.required_eq_some_iff, asText_eq_some_iff,
        asFlag_eq_some_iff, asUnsigned_eq_some_iff, Option.pure_def, Option.some.injEq] at found
      obtain ⟨⟨payload, encoding⟩, ⟨_, rfl, data⟩, executable, ⟨_, rfl, rfl⟩, lamports,
        ⟨_, rfl, rfl, small⟩, owner, ⟨_, rfl, rfl⟩, rfl⟩ := found
      cases readData_eq_some_iff.mp data
      simp only [UInt64.toNat_ofNat']
      rw [Nat.mod_eq_of_lt small]
      exact laid
    · cases found
  · intro laid
    refine ⟨_, laid, ?_⟩
    have lamports : asUnsigned 64 (.integer account.lamports.toNat) = some account.lamports.toNat :=
      asUnsigned_eq_some_iff.mpr ⟨rfl, account.lamports.toNat_lt⟩
    simp only [Field.required, readData, asFlag, lamports, asText, Option.bind_some,
      UInt64.ofNat_toNat]
    rfl

/-- The value of a result. -/
theorem readValue_eq_some_iff {α : Type} {read : Field → Option α} {result : Document} {found : α} :
    readValue read result = some found ↔
      ∃ field, LaysOut .json ["value"] result [field] ∧ read field = some found := by
  simp only [readValue, Option.bind_eq_bind, Option.bind_eq_some_iff, fields?_eq_some_iff]
  constructor
  · rintro ⟨fields, laid, found⟩
    split at found
    · exact ⟨_, laid, found⟩
    · cases found
  · rintro ⟨field, laid, found⟩
    exact ⟨_, laid, found⟩

/-- What a client finds in a result. -/
def readResult (result : Document) : Option (Option AccountText) :=
  readValue (Field.optional readAccount) result

theorem readResult_eq_none_iff {result : Document} :
    readResult result = some none ↔ TellsNothing result := by
  have nothing {field : Field} :
      field.optional readAccount = some none ↔ field = .absent ∨ field = .given .null := by
    cases field with
    | given value => cases value <;> simp [Field.optional]
    | absent => simp [Field.optional]
    | beyond => simp [Field.optional]
  simp only [readResult, readValue_eq_some_iff, nothing, TellsNothing]
  constructor
  · rintro ⟨_, laid, rfl | rfl⟩
    · exact Or.inl laid
    · exact Or.inr laid
  · rintro (laid | laid)
    · exact ⟨_, laid, Or.inl rfl⟩
    · exact ⟨_, laid, Or.inr rfl⟩

theorem readResult_eq_some_iff {result : Document} {account : AccountText} :
    readResult result = some (some account) ↔ Tells result account := by
  have written {field : Field} : field.optional readAccount = some (some account) ↔
      ∃ value, field = .given value ∧ value ≠ .null ∧ account.WrittenAs value := by
    simp only [← readAccount_eq_some_iff]
    cases field with
    | given value => cases value <;> simp [Field.optional]
    | absent => simp [Field.optional]
    | beyond => simp [Field.optional]
  simp only [readResult, readValue_eq_some_iff, written, Tells]
  constructor
  · rintro ⟨_, laid, value, rfl, something, writes⟩
    exact ⟨value, something, laid, writes⟩
  · rintro ⟨value, something, laid, writes⟩
    exact ⟨_, laid, value, rfl, something, writes⟩

/-! ## Decoding -/

/-- An account whose owner is looked at and is no key. -/
structure AccountText.HasStrayOwner (account : AccountText) : Prop where
  encoding : account.encoding = "base64"
  owner : ∀ key : Key, account.owner ≠ key.toBase58

theorem decodeAccount_stray {account : AccountText} (stray : account.HasStrayOwner) :
    ∃ text, decodeAccount account = .error (.invalidAddress text) := by
  rw [decodeAccount, if_neg (not_not.mpr stray.encoding)]
  cases parsed : Key.parse account.owner with
  | ok key => exact absurd (Key.parse_eq_ok_iff.mp parsed) (stray.owner key)
  | error reason =>
      obtain ⟨text, rfl⟩ := Key.parse_eq_error parsed
      exact ⟨text, rfl⟩

/-- An account with another owner has a meaning or is malformed. -/
theorem decodeAccount_cases {account : AccountText} (sound : ¬ account.HasStrayOwner) :
    (∃ info, decodeAccount account = .ok info ∧ account.Means info) ∨
      (∃ text, decodeAccount account = .error (.malformedResponse "getAccountInfo" text)) ∧
        ∀ info, ¬ account.Means info := by
  rw [decodeAccount]
  by_cases encoded : account.encoding = "base64"
  · rw [if_neg (not_not.mpr encoded)]
    obtain ⟨key, owner⟩ : ∃ key : Key, account.owner = key.toBase58 := by
      by_contra missing
      exact sound ⟨encoded, not_exists.mp missing⟩
    rw [Key.parse_eq_ok_iff.mpr owner]
    cases decoded : Base64.decode account.payload with
    | ok data =>
        exact Or.inl ⟨_, rfl, encoded, owner, Base64.decode_eq_ok_iff.mp decoded, rfl, rfl⟩
    | error fault =>
        refine Or.inr ⟨⟨_, rfl⟩, fun info means => ?_⟩
        rw [Base64.decode_eq_ok_iff.mpr means.payload] at decoded
        cases decoded
  · rw [if_pos encoded]
    exact Or.inr ⟨⟨_, rfl⟩, fun info means => encoded means.encoding⟩

/-! ## Answers -/

/-- What the result of a request for an account is to come to. -/
inductive Due (client : LedgerClient) (result : Document) :
    Except BridgeError (Option AccountInfo) → Prop
  | unknown (told : TellsNothing result) : Due client result (.ok none)
  | known {account : AccountText} {info : AccountInfo} (told : Tells result account)
      (means : account.Means info) : Due client result (.ok (some info))
  | malformed {account : AccountText} {text : String} (told : Tells result account)
      (senseless : ∀ info, ¬ account.Means info) :
      Due client result (.error (.malformedResponse "getAccountInfo" text))
  | misshapen {text : String} (something : ¬ TellsNothing result)
      (other : ∀ account, ¬ Tells result account) :
      Due client result (.error (.rpc client.endpoint text))

section Answers

variable [JsonLibrary] {reply : RpcReply} {result : Document}

theorem account_of_carries (client : LedgerClient) (carries : reply.Carries (.success result)) :
    client.account reply =
      match readResult result with
      | none => .error (client.failed "unexpected result")
      | some none => .ok none
      | some (some account) => (decodeAccount account).map some := by
  have parsed : client.result client.faulty (readValue (Field.optional readAccount)) reply =
      match readResult result with
      | some value => .ok value
      | none => .error (client.failed "unexpected result") := by
    cases carries with
    | body spelled =>
        simp only [LedgerClient.result, Envelope.parse?_eq_some_iff.mpr spelled, readResult]
        cases readValue (Field.optional readAccount) result <;> rfl
  rw [account, parsed]
  cases readResult result with
  | none => rfl
  | some told => cases told <;> rfl

/-- What is no failure of the connection comes from a result. -/
theorem exists_result_of_account (client : LedgerClient) (reply : RpcReply)
    (useful : ∀ text, client.account reply ≠ .error (.rpc client.endpoint text)) :
    ∃ result, reply.Carries (.success result) := by
  have concludes := result_concludes client client.faulty
    (readValue (Field.optional readAccount)) reply
  rw [account] at useful
  generalize client.result client.faulty _ reply = answer at concludes useful
  cases concludes with
  | value carries _ => exact ⟨_, carries⟩
  | refused _ => exact absurd rfl (useful _)
  | misshapen _ _ => exact absurd rfl (useful _)
  | useless _ => exact absurd rfl (useful _)

theorem account_of_stray {account : AccountText} (client : LedgerClient)
    (carries : reply.Carries (.success result)) (told : Tells result account)
    (stray : account.HasStrayOwner) :
    ∃ text, client.account reply = .error (.invalidAddress text) := by
  obtain ⟨text, failed⟩ := decodeAccount_stray stray
  rw [account_of_carries client carries, readResult_eq_some_iff.mpr told]
  simp only [failed]
  exact ⟨text, rfl⟩

theorem account_due (client : LedgerClient) (carries : reply.Carries (.success result))
    (sound : ∀ account, Tells result account → ¬ account.HasStrayOwner) :
    Due client result (client.account reply) := by
  rw [account_of_carries client carries]
  cases found : readResult result with
  | none =>
      apply Due.misshapen
      · simp [← readResult_eq_none_iff, found]
      · simp [← readResult_eq_some_iff, found]
  | some told =>
      cases told with
      | none => exact .unknown (readResult_eq_none_iff.mp found)
      | some account =>
          have told : Tells result account := readResult_eq_some_iff.mp found
          rcases decodeAccount_cases (sound account told) with
            ⟨info, decoded, means⟩ | ⟨⟨text, decoded⟩, senseless⟩
          · simp only [decoded]
            exact .known told means
          · simp only [decoded]
            exact .malformed told senseless

/-- A reply with a result comes to what it is due, unless it tells of an account whose owner is no
key: that is reported as an address which the caller has got wrong. -/
theorem account_due_iff (client : LedgerClient) (carries : reply.Carries (.success result)) :
    (Due client result (client.account reply) ↔
        ∀ account, Tells result account → ¬ account.HasStrayOwner) ∧
      ∀ account, Tells result account → account.HasStrayOwner →
        ∃ text, client.account reply = .error (.invalidAddress text) := by
  refine ⟨⟨?_, account_due client carries⟩,
    fun _ told stray => account_of_stray client carries told stray⟩
  intro due account told stray
  obtain ⟨text, failed⟩ := account_of_stray client carries told stray
  rw [failed] at due
  cases due

end Answers

/-- The body of a reply about an account that holds the bytes 1, 2 and 3. -/
def accountBody (owner : String) : Bytes := Bytes.ofAscii
  ("\x7b\"jsonrpc\":\"2.0\",\"id\":1,\"result\":\x7b\"context\":\x7b\"slot\":1\x7d,\"value\":\x7b" ++
    "\"data\":[\"AQID\",\"base64\"],\"executable\":false,\"lamports\":2039280," ++
    "\"owner\":\"" ++ owner ++ "\"\x7d\x7d\x7d")

/-- An account of the program whose key is all zeros. -/
theorem account_due_iff_known :
    let client : LedgerClient := ⟨"http://node", "confirmed"⟩
    let reply : RpcReply := .answered 200 (accountBody "11111111111111111111111111111111")
    client.account reply = .ok (some ⟨Key.fill 0, 2039280, [1, 2, 3], false⟩) ∧
      ∃ result, reply.Carries (.success result) ∧ Due client result (client.account reply) := by
  intro client reply
  have answered : client.account reply = .ok (some ⟨Key.fill 0, 2039280, [1, 2, 3], false⟩) := by
    decide +kernel
  obtain ⟨result, carries⟩ := exists_result_of_account client reply (by simp [answered])
  obtain ⟨due, misreported⟩ := account_due_iff client carries
  refine ⟨answered, result, carries, due.mpr fun account told stray => ?_⟩
  obtain ⟨text, failed⟩ := misreported account told stray
  rw [answered] at failed
  cases failed

/-- The owner ends in a zero, which base58 does not have. -/
theorem account_owner_blamed_on_caller :
    let client : LedgerClient := ⟨"http://node", "confirmed"⟩
    let reply : RpcReply := .answered 200 (accountBody "1111111111111111111111111111111110")
    client.account reply = .error (.invalidAddress ("base58 decode failed for " ++
        "1111111111111111111111111111111110: provided string contained invalid character '0' " ++
        "at byte 33")) ∧
      ∃ result, reply.Carries (.success result) ∧ ¬ Due client result (client.account reply) := by
  intro client reply
  have answered : client.account reply = .error (.invalidAddress ("base58 decode failed for " ++
      "1111111111111111111111111111111110: provided string contained invalid character '0' " ++
      "at byte 33")) := by decide +kernel
  obtain ⟨result, carries⟩ := exists_result_of_account client reply (by simp [answered])
  refine ⟨answered, result, carries, ?_⟩
  rw [answered]
  intro due
  cases due

end LedgerClient
end BridgeClient
