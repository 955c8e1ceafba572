import BridgeClient.Invocation.Session
import BridgeClient.Proofs.Invocation.Submission

set_option autoImplicit false

/-!
A session over time. Its context is what was last set, whatever was invoked in between, and every
transaction of an invocation names the target and the accounts of that context in their order. The
header gives a key the roles that the context asks for it, and no others.
-/
namespace BridgeClient

open Packing

namespace CallContext

variable {K : Type} [SigningKey K]

/-- The keys of the accounts of every instruction: the invoker, the data account, the multisig
account if there is one, the auxiliary signers, the extra accounts. -/
def accountKeys (context : CallContext K) (target : ProgramTarget) : List Key :=
  context.primaryKey :: target.dataAccount :: (target.multisig.toList ++
    (context.signers.map AuxiliarySigner.publicKey ++ context.extra.map AccountMeta.key))

theorem map_key_accounts (context : CallContext K) (target : ProgramTarget) :
    (context.accounts target).map AccountMeta.key = context.accountKeys target := by
  simp only [accounts, accountKeys, List.map_cons, List.map_append, List.map_map]
  congr 3
  exact List.map_id _

/-- An account asks for something: that of the invoker, one of the target's, or one that was set. -/
theorem exists_account_iff (context : CallContext K) (target : ProgramTarget)
    (asks : AccountMeta → Prop) :
    (∃ account ∈ context.accounts target, asks account) ↔
      asks (.readOnly context.primaryKey true) ∨ asks (.writable target.dataAccount false) ∨
        (∃ key, target.multisig = some key ∧ asks (.writable key false)) ∨
        (∃ signer ∈ context.signers, asks signer.accountMeta) ∨
        ∃ entry ∈ context.extra, asks entry := by
  simp only [accounts, List.mem_cons, List.mem_append, List.mem_map, Option.mem_toList]
  constructor
  · intro asked
    obtain ⟨account, rfl | rfl | ⟨key, given, rfl⟩ | ⟨signer, among, rfl⟩ | among, asked⟩ := asked
    · exact Or.inl asked
    · exact Or.inr (Or.inl asked)
    · exact Or.inr (Or.inr (Or.inl ⟨key, given, asked⟩))
    · exact Or.inr (Or.inr (Or.inr (Or.inl ⟨signer, among, asked⟩)))
    · exact Or.inr (Or.inr (Or.inr (Or.inr ⟨account, among, asked⟩)))
  · intro asked
    rcases asked with asked | asked | ⟨key, given, asked⟩ | ⟨signer, among, asked⟩ |
      ⟨entry, among, asked⟩
    · exact ⟨_, Or.inl rfl, asked⟩
    · exact ⟨_, Or.inr (Or.inl rfl), asked⟩
    · exact ⟨_, Or.inr (Or.inr (Or.inl ⟨key, given, rfl⟩)), asked⟩
    · exact ⟨_, Or.inr (Or.inr (Or.inr (Or.inl ⟨signer, among, rfl⟩))), asked⟩
    · exact ⟨entry, Or.inr (Or.inr (Or.inr (Or.inr among))), asked⟩

/-- The context has a key sign: the invoker, an auxiliary signer or an extra account so flagged. -/
def HasSign (context : CallContext K) (key : Key) : Prop :=
  key = context.primaryKey ∨
    (∃ signer ∈ context.signers, signer.publicKey = key ∧ signer.isSigner = true) ∨
    ∃ entry ∈ context.extra, entry.key = key ∧ entry.isSigner = true

/-- The context lets a key be written to: the invoker, an account of the target, an auxiliary signer
or an extra account so flagged. -/
def LetsWrite (context : CallContext K) (target : ProgramTarget) (key : Key) : Prop :=
  key = context.primaryKey ∨ key = target.dataAccount ∨ target.multisig = some key ∨
    (∃ signer ∈ context.signers, signer.publicKey = key ∧ signer.isWritable = true) ∨
    ∃ entry ∈ context.extra, entry.key = key ∧ entry.isWritable = true

theorem hasSign_iff (context : CallContext K) (target : ProgramTarget) (key : Key) :
    context.HasSign key ↔ key = context.primaryKey ∨
      ∃ account ∈ context.accounts target, account.key = key ∧ account.isSigner = true := by
  rw [exists_account_iff]
  simp [HasSign, AccountMeta.readOnly, AccountMeta.writable, AuxiliarySigner.accountMeta,
    eq_comm (a := key)]

theorem letsWrite_iff (context : CallContext K) (target : ProgramTarget) (key : Key) :
    context.LetsWrite target key ↔ key = context.primaryKey ∨
      ∃ account ∈ context.accounts target, account.key = key ∧ account.isWritable = true := by
  rw [exists_account_iff]
  simp [LetsWrite, AccountMeta.readOnly, AccountMeta.writable, AuxiliarySigner.accountMeta,
    eq_comm (a := key)]

end CallContext

namespace Executor

variable {K P : Type} [SigningKey K] [Payload P] {target : ProgramTarget} {context : CallContext K}
  {node : Node} {journal : Journal}

/-- A message with instructions of the target on the accounts of the context, and the roles that the
context asks for them. -/
structure Names (target : ProgramTarget) (context : CallContext K) (message : Message) : Prop where
  filled : message.instructions ≠ []
  /-- The program of every instruction is that of the target. -/
  programs : ∀ instruction ∈ message.instructions,
    message.keyAt? instruction.programIndex = some target.program
  /-- The places of every instruction are those of the accounts, in order. -/
  accounts : ∀ instruction ∈ message.instructions,
    instruction.accountIndices.map message.keyAt? = (context.accountKeys target).map some
  /-- The header has exactly those keys sign that the context has sign. -/
  signers : ∀ place key, message.accountKeys[place]? = some key →
    (message.SignsAt place ↔ context.HasSign key)
  /-- The header lets exactly those keys be written to that the context lets be. -/
  writers : ∀ place key, message.accountKeys[place]? = some key →
    (message.WritesAt place ↔ context.LetsWrite target key)

theorem names_of_compile {group : List Instruction} {blockhash : Blockhash} {message : Message}
    (uniform : Uniform target.program (context.accounts target) group) (nonempty : group ≠ [])
    (compiled : Message.compile group context.primaryKey blockhash = .ok message)
    (tells : message.HeaderTells group context.primaryKey) : Names target context message where
  filled := by
    obtain ⟨_, rfl⟩ := Message.compile_eq_ok_iff.mp compiled
    simpa [Message.ofRoster] using nonempty
  programs := by
    intro placed inside
    obtain ⟨instruction, among, program, _⟩ := Message.resolves_of_compile compiled inside
    rw [program, (uniform instruction among).1]
  accounts := by
    intro placed inside
    obtain ⟨instruction, among, _, places, _⟩ := Message.resolves_of_compile compiled inside
    rw [places, (uniform instruction among).2, CallContext.map_key_accounts]
  signers := by
    intro place key found
    rw [(tells place key found).1, mustSign_iff_of_uniform uniform nonempty,
      CallContext.hasSign_iff context target]
  writers := by
    intro place key found
    rw [(tells place key found).2, mayWrite_iff_of_uniform uniform nonempty,
      CallContext.letsWrite_iff]

/-- Bytes of a transaction that names the target and the context. -/
def Named (target : ProgramTarget) (context : CallContext K) (raw : Bytes) : Prop :=
  ∃ transaction : Transaction, transaction.serialize = .ok raw ∧
    Names target context transaction.message

theorem Prepares.named {signed : SignedTransaction} (prepares : Prepares target context signed) :
    Named target context signed.raw := by
  obtain ⟨blockhash, group, uniform, nonempty, prepared⟩ := prepares
  obtain ⟨transaction, written, compiled, countable, small⟩ :=
    exists_transaction_of_prepare prepared
  have room := Message.not_allSign_of_small countable small group context.primaryKey
  have tells := Message.headerTells_of_compile compiled room
  exact ⟨transaction, written, names_of_compile uniform nonempty compiled tells⟩

/-- Whatever a call sends names the target and the context. -/
def SendsNamed (target : ProgramTarget) (context : CallContext K) (journal : Journal)
    (outcome : Outcome CommandResponse) : Prop :=
  ∃ made, outcome.journal.calls = journal.calls ++ made ∧
    ∀ raw, .send raw ∈ made → Named target context raw

theorem sendsNamed_of_prepares {outcome : Outcome CommandResponse}
    (ends : Refuses journal outcome ∨
      ∃ transactions, (∀ signed ∈ transactions, Prepares target context signed) ∧
        Delivers node journal transactions outcome) :
    SendsNamed target context journal outcome := by
  rcases ends with ⟨_, made, calls, unsent⟩ | ⟨transactions, prepares, made, calls, delivered⟩
  · refine ⟨made, calls, ?_⟩
    intro raw inside
    exact absurd inside (unsent raw)
  · refine ⟨.blockhash :: made, calls, ?_⟩
    intro raw inside
    have later : .send raw ∈ made := by simpa using inside
    obtain ⟨signed, among, rfl⟩ := delivered.sent later
    exact (prepares signed among).named

theorem sendsNamed_observe {outcome : Outcome CommandResponse} :
    SendsNamed target context journal (observe target node outcome) ↔
      SendsNamed target context journal outcome := by
  simp only [SendsNamed, observe_calls]

theorem invoke_sendsNamed (target : ProgramTarget) (context : CallContext K) (payload : P)
    (node : Node) (journal : Journal) :
    SendsNamed target context journal (invoke target context payload node journal) := by
  rw [invoke, sendsNamed_observe]
  exact sendsNamed_of_prepares (invokeSingle_prepares target context payload node journal)

theorem invokeBatches_sendsNamed (target : ProgramTarget) (context : CallContext K)
    (payloads : List P) (node : Node) (journal : Journal) :
    SendsNamed target context journal (invokeBatches target context payloads node journal) := by
  rw [invokeBatches, sendsNamed_observe]
  exact sendsNamed_of_prepares (invokePacked_prepares target context payloads node journal)

end Executor

namespace SessionCommand

variable {K P : Type}

/-- The invoker that a command sets. -/
def invoker? : SessionCommand K P → Option K
  | .setInvoker invoker => some invoker
  | _ => none

/-- The auxiliary signers that a command sets; to erase is to set none. -/
def signers? : SessionCommand K P → Option (List (AuxiliarySigner K))
  | .setSigners signers => some signers
  | .eraseSigners => some []
  | _ => none

/-- The extra accounts that a command sets; to erase is to set none. -/
def extra? : SessionCommand K P → Option (List AccountMeta)
  | .setExtra extra => some extra
  | .eraseExtra => some []
  | _ => none

/-- The last value that a history of commands sets. -/
def lastSet {α : Type} (set? : SessionCommand K P → Option α) (initial : α)
    (history : List (SessionCommand K P)) : α :=
  (history.filterMap set?).getLast?.getD initial

theorem lastSet_cons {α : Type} (set? : SessionCommand K P → Option α) (initial : α)
    (command : SessionCommand K P) (rest : List (SessionCommand K P)) :
    lastSet set? initial (command :: rest) = lastSet set? ((set? command).getD initial) rest := by
  unfold lastSet
  rw [List.filterMap_cons]
  cases set? command with
  | none => rfl
  | some value => rw [List.getLast?_cons, Option.getD_some, Option.getD_some]

/-- The context that a history leaves, as last set. -/
def current (context : CallContext K) (history : List (SessionCommand K P)) : CallContext K where
  primary := lastSet invoker? context.primary history
  signers := lastSet signers? context.signers history
  extra := lastSet extra? context.extra history

end SessionCommand

namespace Session

open SessionCommand Executor

variable {K P : Type}

theorem next_eq (session : Session K) (command : SessionCommand K P) :
    session.next command = ⟨session.target, current session.context [command]⟩ := by
  cases command <;> rfl

variable [SigningKey K] [Payload P]

/-- A session and what it has asked of the node, after one more command. -/
def step (node : Node) (state : Session K × Journal) (command : SessionCommand K P) :
    Session K × Journal :=
  (state.1.next command,
    ((state.1.answer? node state.2 command).map Outcome.journal).getD state.2)

/-- A session and what it has asked of the node, after a history of commands. -/
def follow (node : Node) (state : Session K × Journal) (history : List (SessionCommand K P)) :
    Session K × Journal :=
  history.foldl (step node) state

/-- No invocation changes what was set, however it ends. -/
theorem follow_session (node : Node) (state : Session K × Journal)
    (history : List (SessionCommand K P)) :
    (follow node state history).1 = ⟨state.1.target, current state.1.context history⟩ := by
  induction history generalizing state with
  | nil => rfl
  | cons command rest ih =>
      have step_session : (step node state command).1 = state.1.next command := rfl
      rw [follow, List.foldl_cons, ← follow, ih, step_session, next_eq]
      simp only [current, lastSet_cons]
      rfl

/-- A command that invokes the program leaves the session as it is, and sends only transactions that
name its target and its context. -/
theorem sendsNamed_of_answer {session : Session K} {node : Node} {journal : Journal}
    {command : SessionCommand K P} {outcome : Outcome CommandResponse}
    (answer : session.answer? node journal command = some outcome) :
    session.next command = session ∧
      SendsNamed session.target session.context journal outcome := by
  cases command with
  | invoke payload =>
      cases answer
      exact ⟨rfl, invoke_sendsNamed ..⟩
  | invokeBatches payloads =>
      cases answer
      exact ⟨rfl, invokeBatches_sendsNamed ..⟩
  | _ => cases answer

/-- After any history, an invocation leaves the session as it is, and every transaction that it
sends names the target and what was last set: the invoker, the auxiliary signers, the extra
accounts. -/
theorem submissions_name_current (target : ProgramTarget) (invoker : K) (node : Node)
    (journal : Journal) (history : List (SessionCommand K P)) (command : SessionCommand K P)
    (outcome : Outcome CommandResponse) :
    let state := follow node (.new target invoker, journal) history
    let context : CallContext K :=
      ⟨lastSet invoker? invoker history, lastSet signers? [] history, lastSet extra? [] history⟩
    state.1.answer? node state.2 command = some outcome →
      state.1 = ⟨target, context⟩ ∧ state.1.next command = state.1 ∧
        SendsNamed target context state.2 outcome := by
  intro state context answer
  have session : state.1 = ⟨target, context⟩ :=
    follow_session node (.new target invoker, journal) history
  obtain ⟨unchanged, named⟩ := sendsNamed_of_answer answer
  rw [session] at named
  exact ⟨session, unchanged, named⟩

/-- The signers are set before a first invocation, a new invoker and new extra accounts after it,
one of them an oracle as well: the next invocation is sent with these three. -/
theorem submissions_name_current_after_setters :
    let target : ProgramTarget := ⟨Key.fill 10, Key.fill 11, some (Key.fill 12)⟩
    let node : Node :=
      ⟨fun _ => .ok (FixedBytes.fill 32 42), fun _ _ => .ok "taken", fun _ => .zero⟩
    let oracles := [AuxiliarySigner.oracle (⟨Key.fill 2⟩ : Stamp), .oracle ⟨Key.fill 1⟩]
    let extra := [AccountMeta.writable (Key.fill 2) false, .readOnly (Key.fill 5) false]
    let history : List (SessionCommand Stamp PortInstruction) :=
      [.setSigners oracles, .setExtra [.readOnly (Key.fill 7) true],
        .invoke (.attachValue [7]), .setInvoker ⟨Key.fill 3⟩, .eraseExtra, .invokeBatches [],
        .setExtra extra]
    let state := follow node (.new target ⟨Key.fill 1⟩, .empty) history
    let outcome := state.1.invoke (PortInstruction.attachValue [7]) node state.2
    ∃ made raw, outcome.journal.calls = state.2.calls ++ made ∧ .send raw ∈ made ∧
      Named target ⟨⟨Key.fill 3⟩, oracles, extra⟩ raw := by
  intro target node oracles extra history state outcome
  let command : SessionCommand Stamp PortInstruction := .invoke (.attachValue [7])
  have named := submissions_name_current target ⟨Key.fill 1⟩ node .empty history command outcome
  change state.1.answer? node state.2 command = some outcome →
    _ ∧ _ ∧ SendsNamed target ⟨⟨Key.fill 3⟩, oracles, extra⟩ state.2 outcome at named
  have answer : state.1.answer? node state.2 command = some outcome := rfl
  have sends : (outcome.journal.calls.drop state.2.calls.length).any
      (fun call => call ≠ .blockhash) = true := by
    decide +kernel
  -- From here on the run is not to be computed again.
  clear_value state outcome
  obtain ⟨_, _, made, calls, named⟩ := named answer
  rw [calls, List.drop_left] at sends
  obtain ⟨call, inside, sending⟩ := List.any_eq_true.mp sends
  cases call with
  | blockhash => cases sending
  | send raw => exact ⟨made, raw, calls, inside, named raw inside⟩

/-- A signer whose own account entry is writable can be written to, and is neither the invoker, an
account of the target nor an extra account. -/
theorem writable_signer_named :
    let target : ProgramTarget := ⟨Key.fill 10, Key.fill 11, none⟩
    let node : Node :=
      ⟨fun _ => .ok (FixedBytes.fill 32 42), fun _ _ => .ok "taken", fun _ => .zero⟩
    let history : List (SessionCommand Stamp PortInstruction) :=
      [.setSigners [⟨⟨Key.fill 2⟩, true, true⟩]]
    let state := follow node (.new target ⟨Key.fill 1⟩, .empty) history
    let key := Key.fill 2
    ∃ (transaction : Transaction) (raw : Bytes) (place : Nat),
      (state.1.invoke (PortInstruction.attachValue [7]) node state.2).journal.calls =
          state.2.calls ++ [.blockhash, .send raw] ∧
        transaction.serialize = .ok raw ∧
        transaction.message.accountKeys[place]? = some key ∧ transaction.message.WritesAt place ∧
        ¬ (key = state.1.context.primaryKey ∨ key = target.dataAccount ∨
          target.multisig = some key ∨
          ∃ entry ∈ state.1.context.extra, entry.key = key ∧ entry.isWritable = true) := by
  intro target node history state key
  let message : Message :=
    { requiredSignatures := 2, readOnlySigned := 0, readOnlyUnsigned := 1
      accountKeys := [Key.fill 1, Key.fill 2, Key.fill 11, Key.fill 10]
      blockhash := FixedBytes.fill 32 42
      instructions := [⟨3, [0, 2, 1], (PortInstruction.attachValue [7]).encode⟩] }
  let transaction : Transaction :=
    ⟨[SigningKey.sign (⟨Key.fill 1⟩ : Stamp) [], SigningKey.sign (⟨Key.fill 2⟩ : Stamp) []],
      message⟩
  have countable : message.Countable := by
    refine ⟨by decide, by decide, ?_⟩
    intro instruction only
    cases List.mem_singleton.mp only
    exact ⟨by decide, by decide⟩
  have written : transaction.serialize = .ok transaction.layout :=
    Transaction.serialize_eq_ok_iff.mpr ⟨countable, by decide, rfl⟩
  refine ⟨transaction, transaction.layout, 1, ?_, written, rfl, Or.inl (by decide), by decide⟩
  decide +kernel

end Session
end BridgeClient
