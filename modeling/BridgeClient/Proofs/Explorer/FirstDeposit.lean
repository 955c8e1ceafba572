import BridgeClient.Proofs.Await.Undisturbed
import BridgeClient.Proofs.Explorer.Listing
import BridgeClient.Proofs.Explorer.Matching

set_option autoImplicit false

/-!
Waiting for a transfer that an explorer lists. A run delivers the first transfer that the watch waits
for, of the first reply that lists one. Whatever else is listed or answered, before or after it, makes
no difference.
-/
namespace BridgeClient

open LoopSignal PollLoop

/-- What an explorer answers, request after request. -/
abbrev ExplorerReplies := Nat → ExplorerReply

section Waiting

variable [JsonLibrary]

namespace ExplorerReplies

/-- A reply lists a transfer that a watch waits for. -/
def Holds (replies : ExplorerReplies) (watch : DepositWatch) (n : Nat)
    (transfer : TokenTransfer) : Prop :=
  ∃ transfers, (replies n).Lists transfers ∧ transfer ∈ transfers ∧ watch.Matches transfer

/-- A transfer is the first of a reply that a watch waits for. -/
def FirstOf (replies : ExplorerReplies) (watch : DepositWatch) (n : Nat)
    (transfer : TokenTransfer) : Prop :=
  ∃ transfers, (replies n).Lists transfers ∧ watch.FirstOf transfers transfer

/-- Replies with others put in, anywhere, that hold nothing for a watch, and with transfers put into
the lists, anywhere, that the watch does not wait for. A reply has moved to its place. -/
structure Interspersed (watch : DepositWatch) (replies longer : ExplorerReplies)
    (place : Nat → Nat) : Prop where
  rising : StrictMono place
  kept : ∀ n, longer (place n) = replies n ∨ ∃ transfers more, (replies n).Lists transfers ∧
    (longer (place n)).Lists more ∧ watch.Interspersed transfers more
  idle : ∀ m, (∀ n, place n ≠ m) → ∀ transfer, ¬ longer.Holds watch m transfer

/-- The first transfer of a reply is what the search in it finds. -/
theorem firstOf_iff {replies : ExplorerReplies} {watch : DepositWatch} {n : Nat}
    {transfer : TokenTransfer} :
    replies.FirstOf watch n transfer ↔ ∃ transfers, (replies n).transfers = .ok transfers ∧
      findDeposit transfers watch = some transfer := by
  simp only [FirstOf, DepositWatch.findDeposit_eq_some_iff]
  constructor
  · rintro ⟨transfers, lists, first⟩
    exact ⟨transfers, lists.transfers_eq, first⟩
  · rintro ⟨transfers, given, first⟩
    rcases ExplorerReply.lists_of_transfers_eq given with lists | rfl
    · exact ⟨transfers, lists, first⟩
    · obtain ⟨_, inside, _⟩ := DepositWatch.exists_firstOf_iff.mp ⟨transfer, first⟩
      cases inside

/-- A reply has a first transfer that a watch waits for as soon as it lists any. -/
theorem exists_firstOf_iff {replies : ExplorerReplies} {watch : DepositWatch} {n : Nat} :
    (∃ transfer, replies.FirstOf watch n transfer) ↔
      ∃ transfer, replies.Holds watch n transfer := by
  constructor
  · rintro ⟨transfer, transfers, lists, first⟩
    obtain ⟨found, inside, matching⟩ := DepositWatch.exists_firstOf_iff.mp ⟨transfer, first⟩
    exact ⟨found, transfers, lists, inside, matching⟩
  · rintro ⟨transfer, transfers, lists, inside, matching⟩
    obtain ⟨found, first⟩ := DepositWatch.exists_firstOf_iff.mpr ⟨transfer, inside, matching⟩
    exact ⟨found, transfers, lists, first⟩

/-- What was put in does not change which transfer is the first of a reply. -/
theorem Interspersed.firstOf_iff {watch : DepositWatch} {replies longer : ExplorerReplies}
    {place : Nat → Nat} (interspersed : Interspersed watch replies longer place) {n : Nat}
    {transfer : TokenTransfer} :
    longer.FirstOf watch (place n) transfer ↔ replies.FirstOf watch n transfer := by
  rw [ExplorerReplies.firstOf_iff, ExplorerReplies.firstOf_iff]
  rcases interspersed.kept n with same | ⟨transfers, more, lists, listsMore, inserted⟩
  · rw [same]
  · rw [lists.transfers_eq, listsMore.transfers_eq]
    simp [inserted.findDeposit_eq]

end ExplorerReplies

namespace Explorer

variable {explorer : Explorer} {watch : DepositWatch} {replies : ExplorerReplies} {n : Nat}

/-- What an explorer's replies come to. -/
def read (explorer : Explorer) (watch : DepositWatch) (replies : ExplorerReplies) (n : Nat) :
    Except BridgeError (List TokenTransfer) :=
  explorer.lastTransfers watch fun _ => replies n

/-- An explorer's address can be asked. -/
def Valid (explorer : Explorer) : Prop := ∃ url, Url.parse (explorer.apiUrl ++ "/api") = .ok url

theorem Valid.read_eq (valid : explorer.Valid) :
    explorer.read watch replies n = (replies n).transfers := by
  obtain ⟨url, parsed⟩ := valid
  simp [read, lastTransfers, requestUrl, parsed, bind, Except.bind]

/-- A search through the replies picks the first transfer that the watch waits for. -/
theorem Valid.picksAt_iff (valid : explorer.Valid) {transfer : TokenTransfer} :
    (transferMatcher watch).PicksAt () (explorer.read watch replies) n transfer ↔
      replies.FirstOf watch n transfer := by
  rw [ExplorerReplies.firstOf_iff, ← valid.read_eq]
  rfl

theorem Valid.deliversAt_iff (valid : explorer.Valid) {loop : PollLoop}
    {transfer : TokenTransfer} :
    DeliversAt loop (transferMatcher watch) () (explorer.read watch replies) n transfer ↔
      replies.FirstOf watch n transfer ∧ ∀ m < n, ∀ other, ¬ replies.Holds watch m other := by
  simp only [PollLoop.deliversAt_iff, valid.picksAt_iff, ← not_exists,
    ExplorerReplies.exists_firstOf_iff]

/-- Neither what was put in nor the case of letters in the watch changes what is delivered. -/
theorem Valid.deliversAt_interspersed_iff (valid : explorer.Valid) {longer : ExplorerReplies}
    {place : Nat → Nat} (interspersed : replies.Interspersed watch longer place)
    {address asset : String} (sameAddress : Ascii.SameLetters watch.address address)
    (sameAsset : Ascii.SameLetters watch.asset asset) {loop : PollLoop} {m : Nat}
    {transfer : TokenTransfer} :
    DeliversAt loop (transferMatcher { watch with address, asset }) ()
        (explorer.read { watch with address, asset } longer) m transfer ↔
      ∃ n, place n = m ∧
        DeliversAt loop (transferMatcher watch) () (explorer.read watch replies) n transfer := by
  have sameMatcher : transferMatcher { watch with address, asset } = transferMatcher watch := by
    simp only [transferMatcher, DepositWatch.findDeposit_recased sameAddress sameAsset]
  have sameRead : explorer.read { watch with address, asset } longer =
      explorer.read watch longer := by
    funext k
    rw [valid.read_eq, valid.read_eq]
  rw [sameMatcher, sameRead]
  apply deliversAt_iff_of_place interspersed.rising
  · intro n event
    rw [valid.picksAt_iff, valid.picksAt_iff]
    exact interspersed.firstOf_iff
  · intro k unplaced event picks
    obtain ⟨found, holds⟩ :=
      ExplorerReplies.exists_firstOf_iff.mp ⟨event, valid.picksAt_iff.mp picks⟩
    exact interspersed.idle k unplaced found holds

end Explorer

/-- What a wait for a transfer comes to. -/
structure AwaitsTransfer (loop : PollLoop)
    (matcher : Matcher Unit (List TokenTransfer) TokenTransfer) (explorer : Explorer)
    (watch : DepositWatch) (replies : ExplorerReplies) : Prop where
  /-- It delivers the first transfer of the first reply that holds one. -/
  delivers : ∀ n transfer,
    DeliversAt loop matcher () (explorer.read watch replies) n transfer ↔
      replies.FirstOf watch n transfer ∧ ∀ m < n, ∀ other, ¬ replies.Holds watch m other
  /-- It delivers nothing as long as no reply holds one, -/
  quiet : ∀ signals state,
    Undisturbed loop matcher () (explorer.read watch replies) signals state →
      (∀ m < (outcomes signals).length, ∀ transfer, ¬ replies.Holds watch m transfer) →
        state.delivered = []
  /-- and goes on until it delivers. -/
  goesOn : ∀ signals state,
    Undisturbed loop matcher () (explorer.read watch replies) signals state →
      state.delivered = [] → ∃ signal next,
        Undisturbed loop matcher () (explorer.read watch replies) (signals ++ [signal]) next

/-- The addresses of a watch may be written in either case, and replies and transfers that it does not
wait for may come in between: the run delivers the same transfer, when its reply comes. -/
theorem explorerAwaiter_awaits_transfer (explorer : Explorer) (watch : DepositWatch) (now : Nat)
    (valid : explorer.Valid) (timely : watch.Timely now) :
    ∃ loop matcher, explorerAwaiter.start (some watch) now = .polling loop matcher () ∧
      (∀ replies, AwaitsTransfer loop matcher explorer watch replies) ∧
      ∀ address asset, Ascii.SameLetters watch.address address →
        Ascii.SameLetters watch.asset asset →
        ∃ another, explorerAwaiter.start (some { watch with address, asset }) now =
            .polling loop another () ∧
          ∀ replies longer place, ExplorerReplies.Interspersed watch replies longer place →
            ∀ m transfer,
              DeliversAt loop another () (explorer.read { watch with address, asset } longer) m
                  transfer ↔
                ∃ n, place n = m ∧
                  DeliversAt loop matcher () (explorer.read watch replies) n transfer := by
  refine ⟨_, _, Awaiter.start_eq_polling rfl timely, ?_, ?_⟩
  · intro replies
    refine ⟨fun n transfer => valid.deliversAt_iff, ?_, ?_⟩
    · intro signals state undisturbed idle
      rw [List.eq_nil_iff_forall_not_mem]
      intro transfer inside
      obtain ⟨n, count, delivers⟩ := undisturbed.deliversAt inside
      obtain ⟨first, _⟩ := valid.deliversAt_iff.mp delivers
      obtain ⟨found, holds⟩ := ExplorerReplies.exists_firstOf_iff.mp ⟨transfer, first⟩
      exact idle n (by omega) found holds
    · intro signals state undisturbed pending
      exact undisturbed.exists_next pending
  · intro address asset sameAddress sameAsset
    refine ⟨_, Awaiter.start_eq_polling rfl timely, ?_⟩
    intro replies longer place interspersed m transfer
    exact valid.deliversAt_interspersed_iff interspersed sameAddress sameAsset

end Waiting

/-- A failed connection, an error status, a body that is no reply, a note and an empty history come
before a list with a transfer of another amount in front. What a body holds besides is no text in
UTF-8. The second watch is written in other letters, and each of its replies comes one request later.
-/
theorem explorerAwaiter_awaits_transfer_after_failures :
    let explorer := Explorer.new "http://localhost/" "key"
    let watch := (DepositWatch.new "D" "ab" 10).withTimeout 60000
    let recased := { watch with address := "d", asset := "AB" }
    let row (hash value : String) : String := "\x7b\"blockNumber\":\"7\",\"hash\":\"" ++ hash ++
      "\",\"from\":\"c\",\"contractAddress\":\"Ab\",\"to\":\"d\",\"value\":\"" ++ value ++ "\"\x7d"
    let reply (message result : String) : ExplorerReply := .answered 200
      (Bytes.ofAscii "\x7b\"more\":\"" ++ 0xff :: Bytes.ofAscii ("\",\"status\":\"1\",\"message\":\""
        ++ message ++ "\",\"result\":" ++ result ++ "\x7d"))
    let replies : ExplorerReplies := fun n => [
      .unreachable "refused", .answered 503 [], .answered 200 [0x6f], reply "NOTOK" "\"limit\"",
      reply "No transactions found" "\"\"",
      reply "OK" ("[" ++ row "1" "11" ++ "," ++ row "2" "+1_0" ++ "]")].getD n (.unreachable "")
    let later : ExplorerReplies := fun n => if n = 0 then .unreachable "" else replies (n - 1)
    let transfer : TokenTransfer :=
      ⟨"7", "", "2", "", "c", "Ab", "d", "+1_0", "", "", "", ""⟩
    explorer.Valid ∧ watch.Timely 0 ∧
      ∃ loop matcher, explorerAwaiter.start (some watch) 0 = .polling loop matcher () ∧
        DeliversAt loop matcher () (explorer.read watch replies) 5 transfer ∧
        ∃ another, explorerAwaiter.start (some recased) 0 = .polling loop another () ∧
          DeliversAt loop another () (explorer.read recased later) 6 transfer := by
  intro explorer watch recased row reply replies later transfer
  have valid : explorer.Valid := by
    have parsed : (Url.parse (explorer.apiUrl ++ "/api")).toOption.isSome = true := by
      decide +kernel
    cases given : Url.parse (explorer.apiUrl ++ "/api") with
    | error fault =>
        rw [given] at parsed
        cases parsed
    | ok url => exact ⟨url, given⟩
  have timely : watch.Timely 0 := by
    intro timeout timed
    cases timed
    decide
  have first : ∀ n < 6, ∀ other, replies.FirstOf watch n other ↔ n = 5 ∧ other = transfer := by
    intro n below other
    have search : ∀ n < 6, (replies n).transfers.toOption.bind (findDeposit · watch) =
        if n = 5 then some transfer else none := by
      decide +kernel
    have found := search n below
    rw [ExplorerReplies.firstOf_iff]
    cases given : (replies n).transfers with
    | error reason =>
        rw [given] at found
        by_cases last : n = 5
        · simp [last, Except.toOption] at found
        · simp [last]
    | ok transfers =>
        rw [given] at found
        have answer : findDeposit transfers watch = if n = 5 then some transfer else none := found
        by_cases last : n = 5
        · simp [answer, last, eq_comm]
        · simp [answer, last]
  have interspersed : replies.Interspersed watch later Nat.succ := by
    refine ⟨strictMono_nat_of_lt_succ (fun n => Nat.lt_succ_self _), fun n => Or.inl rfl, ?_⟩
    intro m unplaced other holds
    cases m with
    | zero =>
        obtain ⟨transfers, ⟨status, body, json, answered, _⟩, _⟩ := holds
        cases answered
    | succ n => exact unplaced n rfl
  obtain ⟨loop, matcher, started, awaits, unchanged⟩ :=
    explorerAwaiter_awaits_transfer explorer watch 0 valid timely
  obtain ⟨another, startedAgain, same⟩ := unchanged "d" "AB"
    (Ascii.equalIgnoringCase_iff.mp (by decide)) (Ascii.equalIgnoringCase_iff.mp (by decide))
  have delivers : DeliversAt loop matcher () (explorer.read watch replies) 5 transfer := by
    apply ((awaits replies).delivers 5 transfer).mpr
    refine ⟨(first 5 (by decide) transfer).mpr ⟨rfl, rfl⟩, ?_⟩
    intro m below other holds
    obtain ⟨found, isFirst⟩ := ExplorerReplies.exists_firstOf_iff.mpr ⟨other, holds⟩
    have last := ((first m (by omega) found).mp isFirst).1
    omega
  exact ⟨valid, timely, loop, matcher, started, delivers, another, startedAgain,
    (same replies later Nat.succ interspersed 6 transfer).mpr ⟨5, rfl, delivers⟩⟩
end BridgeClient
