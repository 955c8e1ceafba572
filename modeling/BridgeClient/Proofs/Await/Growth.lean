import BridgeClient.Await.LedgerDeposit
import BridgeClient.Proofs.Await.Undisturbed
import BridgeClient.Proofs.Ledger.TokenAccount

set_option autoImplicit false

/-!
Waiting for growth on the ledger. A run delivers at the first look that finds a balance exactly the
watched amount above the last balance that was shown before; looks that show none count for nothing.
-/
namespace BridgeClient

open LoopSignal PollLoop

/-- What a node answers, look after look, when it is asked for an account. -/
abbrev AccountReplies := Nat → Except BridgeError (Option AccountInfo)

namespace AccountReplies

variable {replies : AccountReplies} {n : Nat}

/-- A look shows the balance of a token account: an account is there, it belongs to the token
program, and its data begins with a packed token account. -/
def Shows (replies : AccountReplies) (n : Nat) (balance : UInt64) : Prop :=
  ∃ (info : AccountInfo) (held : TokenAccount) (filler : TokenAccount.Filler) (rest : Bytes),
    replies n = .ok (some info) ∧ info.owner = Programs.token ∧
      info.data = held.pack filler ++ rest ∧ held.amount = balance

/-- The balance that was shown last before a look. -/
def LastShown (replies : AccountReplies) (n : Nat) (balance : UInt64) : Prop :=
  ∃ m < n, replies.Shows m balance ∧ ∀ k, m < k → k < n → ∀ other, ¬ replies.Shows k other

/-- A look shows a balance, an earlier one did, and the account has grown by exactly an amount. -/
def Grows (replies : AccountReplies) (amount n : Nat) (before after : UInt64) : Prop :=
  replies.Shows n after ∧ replies.LastShown n before ∧ before.toNat + amount = after.toNat

/-- What the looks at an account come to. -/
def read (replies : AccountReplies) (account : Key) (n : Nat) : Except BridgeError TokenAccount :=
  readTokenAccount account (replies n)

theorem exists_read_iff (account : Key) {balance : UInt64} :
    (∃ held, replies.read account n = .ok held ∧ held.amount = balance) ↔
      replies.Shows n balance := by
  unfold read Shows
  cases replies n with
  | error reason => simp [readTokenAccount]
  | ok found =>
      cases found with
      | none => simp [readTokenAccount]
      | some info =>
          by_cases owned : info.owner = Programs.token
          · simp [readTokenAccount, owned, TokenAccount.unpack_eq_ok_iff]
          · simp [readTokenAccount, owned]

theorem lastShown_iff (account : Key) {balance : UInt64} :
    replies.LastShown n balance ↔
      (valuesBefore (replies.read account) n).getLast?.map TokenAccount.amount = some balance := by
  have unread : ∀ k, (∀ held, replies.read account k ≠ .ok held) ↔
      ∀ other, ¬ replies.Shows k other := by
    intro k
    simp [← exists_read_iff account]
  simp only [Option.map_eq_some_iff, getLast?_valuesBefore_eq_some_iff, unread]
  constructor
  · rintro ⟨m, below, shown, nearest⟩
    obtain ⟨held, brought, same⟩ := (exists_read_iff account).mpr shown
    exact ⟨held, ⟨m, below, brought, nearest⟩, same⟩
  · rintro ⟨held, ⟨m, below, brought, nearest⟩, same⟩
    exact ⟨m, below, (exists_read_iff account).mp ⟨held, brought, same⟩, nearest⟩

end AccountReplies

theorem LedgerDeposit.toNat_amount {deposit : LedgerDeposit} {grown : Nat}
    (grows : deposit.previous.toNat + grown = deposit.balance.toNat) :
    deposit.previous ≤ deposit.balance ∧ deposit.amount.toNat = grown := by
  have ordered : deposit.previous ≤ deposit.balance := by
    rw [UInt64.le_iff_toNat_le]
    omega
  refine ⟨ordered, ?_⟩
  rw [LedgerDeposit.amount, UInt64.toNat_sub_of_le _ _ ordered]
  omega

namespace BalanceTracker

variable {account : Key} {target : Nat}

@[simp] theorem observe_snd {previous : Option UInt64} {balance : UInt64} :
    (observe account target previous balance).2 = some balance := by
  unfold observe
  split
  · rfl
  · split <;> rfl

/-- A balance is picked if it lies exactly the target above the one before. -/
theorem observe_fst_eq_some_iff {previous : Option UInt64} {balance : UInt64}
    {deposit : LedgerDeposit} :
    (observe account target previous balance).1 = some deposit ↔
      ∃ before, previous = some before ∧ before.toNat + target = balance.toNat ∧
        deposit = ⟨account, before, balance⟩ := by
  cases previous with
  | none => simp [observe]
  | some before =>
      have grown : (decide (before ≤ balance) && decide (balance.toNat - before.toNat = target)) =
          true ↔ before.toNat + target = balance.toNat := by
        rw [Bool.and_eq_true, decide_eq_true_eq, decide_eq_true_eq, UInt64.le_iff_toNat_le]
        omega
      by_cases grows : before.toNat + target = balance.toNat
      · have picked : observe account target (some before) balance =
            (some ⟨account, before, balance⟩, some balance) := by
          simp [observe, grown.mpr grows]
        simp [picked, grows, eq_comm]
      · simp [observe, grown, grows]

/-- The tracker remembers the last balance, whatever came before it. -/
theorem remember_matcher (values : List TokenAccount) :
    (matcher account target).remember none values = values.getLast?.map TokenAccount.amount := by
  rcases List.eq_nil_or_concat values with rfl | ⟨earlier, last, rfl⟩
  · rfl
  · simp [matcher]

/-- The tracker picks growth by its target since the balance shown before. -/
theorem picksAt_iff {replies : AccountReplies} {n : Nat} {deposit : LedgerDeposit} :
    (matcher account target).PicksAt none (replies.read account) n deposit ↔
      ∃ before after, replies.Grows target n before after ∧
        deposit = ⟨account, before, after⟩ := by
  constructor
  · rintro ⟨held, brought, answer⟩
    rw [Matcher.answer, remember_matcher] at answer
    obtain ⟨before, last, grown, same⟩ := observe_fst_eq_some_iff.mp answer
    have shown := (AccountReplies.exists_read_iff account).mp ⟨held, brought, rfl⟩
    have baseline := (AccountReplies.lastShown_iff account).mpr last
    exact ⟨before, held.amount, ⟨shown, baseline, grown⟩, same⟩
  · rintro ⟨before, after, ⟨shown, last, grown⟩, same⟩
    obtain ⟨held, brought, rfl⟩ := (AccountReplies.exists_read_iff account).mpr shown
    refine ⟨held, brought, ?_⟩
    rw [Matcher.answer, remember_matcher]
    apply observe_fst_eq_some_iff.mpr
    exact ⟨before, (AccountReplies.lastShown_iff account).mp last, grown, same⟩

theorem deliversAt_iff {loop : PollLoop} {replies : AccountReplies} {n : Nat}
    {deposit : LedgerDeposit} :
    DeliversAt loop (matcher account target) none (replies.read account) n deposit ↔
      (∃ before after, replies.Grows target n before after ∧ deposit = ⟨account, before, after⟩) ∧
        ∀ m < n, ∀ before after, ¬ replies.Grows target m before after := by
  rw [PollLoop.deliversAt_iff, picksAt_iff]
  apply and_congr_right
  intro _
  constructor
  · intro first m below before after grows
    exact first m below ⟨account, before, after⟩ (picksAt_iff.mpr ⟨before, after, grows, rfl⟩)
  · intro first m below other picks
    obtain ⟨before, after, grows, _⟩ := picksAt_iff.mp picks
    exact first m below before after grows

end BalanceTracker

/-- What a wait for growth of an account by some amount comes to. -/
structure AwaitsGrowth (loop : PollLoop)
    (matcher : Matcher (Option UInt64) TokenAccount LedgerDeposit) (memory : Option UInt64)
    (account : Key) (amount : Nat) (replies : AccountReplies) : Prop where
  /-- It delivers at the first look that shows a balance that amount above the one shown before. -/
  delivers : ∀ n deposit, DeliversAt loop matcher memory (replies.read account) n deposit ↔
    (∃ before after, replies.Grows amount n before after ∧ deposit = ⟨account, before, after⟩) ∧
      ∀ m < n, ∀ before after, ¬ replies.Grows amount m before after
  amount : ∀ n deposit, DeliversAt loop matcher memory (replies.read account) n deposit →
    deposit.previous ≤ deposit.balance ∧ deposit.amount.toNat = amount
  /-- A look that shows no balance neither sets nor resets what the next one is compared with. -/
  baseline : ∀ signals state,
    Undisturbed loop matcher memory (replies.read account) signals state →
      ∀ balance, state.memory = some balance ↔
        replies.LastShown (outcomes signals).length balance
  /-- There are no other deliveries. -/
  only : ∀ signals state, Undisturbed loop matcher memory (replies.read account) signals state →
    ∀ deposit ∈ state.delivered, ∃ n, (outcomes signals).length = n + 1 ∧
      DeliversAt loop matcher memory (replies.read account) n deposit
  /-- Until then it goes on. -/
  goesOn : ∀ signals state, Undisturbed loop matcher memory (replies.read account) signals state →
    state.delivered = [] → ∃ signal next,
      Undisturbed loop matcher memory (replies.read account) (signals ++ [signal]) next

/-- Every wait for a watch begins without a baseline and comes to this, whatever a node answers. An
amount above the largest balance is simply never met. -/
theorem ledgerAwaiter_awaits_growth (watch : DepositWatch) (account : Key) (now : Nat)
    (parsed : Key.parse watch.address = .ok account) (timely : watch.Timely now) :
    ∃ loop matcher, ledgerAwaiter.start (some watch) now = .polling loop matcher none ∧
      ∀ replies, AwaitsGrowth loop matcher none account watch.amount replies := by
  refine ⟨_, _, Awaiter.start_eq_polling (ledgerAwaiter_prepare parsed) timely, ?_⟩
  intro replies
  refine ⟨fun n deposit => BalanceTracker.deliversAt_iff, ?_, ?_, ?_, ?_⟩
  · intro n deposit delivered
    obtain ⟨⟨before, after, grows, rfl⟩, _⟩ := BalanceTracker.deliversAt_iff.mp delivered
    exact LedgerDeposit.toNat_amount grows.2.2
  · intro signals state undisturbed balance
    rw [undisturbed.memory_eq, BalanceTracker.remember_matcher]
    exact (AccountReplies.lastShown_iff account).symm
  · intro signals state undisturbed deposit inside
    exact undisturbed.deliversAt inside
  · intro signals state undisturbed pending
    exact undisturbed.exists_next pending

/-- Failed looks of every kind stand between the balances 20, 3 and 10. The fall to 3 is no match but
sets the baseline, so the growth to 10 is one of 7. -/
theorem ledgerAwaiter_awaits_growth_after_decrease :
    let watch := (DepositWatch.new "11111111111111111111111111111111" "" 7).withTimeout 60000
    let account := Key.fill 0
    let held (balance : UInt8) : Bytes :=
      List.replicate 64 0 ++ balance :: List.replicate 43 0 ++ 1 :: List.replicate 56 0
    let holds (owner : Key) (data : Bytes) : Except BridgeError (Option AccountInfo) :=
      .ok (some ⟨owner, 0, data, false⟩)
    let replies : AccountReplies := fun n => [
      .error .channelClosed, holds Programs.token (held 20), .ok none,
      holds Programs.system (held 27), holds Programs.token [], holds Programs.token (held 3),
      .error .channelClosed, holds Programs.token (held 10)].getD n (.ok none)
    Key.parse watch.address = .ok account ∧ watch.Timely 0 ∧
      ∃ loop matcher, ledgerAwaiter.start (some watch) 0 = .polling loop matcher none ∧
        DeliversAt loop matcher none (replies.read account) 7 ⟨account, 3, 10⟩ := by
  intro watch account held holds replies
  have parsed : Key.parse watch.address = .ok account := by
    show Key.parse "11111111111111111111111111111111" = .ok (Key.fill 0)
    decide +kernel
  have timely : watch.Timely 0 := by
    intro timeout timed
    cases timed
    decide
  have shown : ∀ k < 8, ∀ balance, replies.Shows k balance →
      k = 1 ∧ balance = 20 ∨ k = 5 ∧ balance = 3 ∨ k = 7 ∧ balance = 10 := by
    intro k below balance shows
    obtain ⟨held, read, rfl⟩ := (AccountReplies.exists_read_iff account).mpr shows
    have amounts : ∀ k < 8, (replies.read account k).toOption.map TokenAccount.amount =
        if k = 1 then some 20 else if k = 5 then some 3 else if k = 7 then some 10 else none := by
      decide +kernel
    have amount := amounts k below
    rw [read] at amount
    by_cases first : k = 1
    · rw [if_pos first] at amount
      exact Or.inl ⟨first, Option.some.inj amount⟩
    · by_cases third : k = 5
      · rw [if_neg first, if_pos third] at amount
        exact Or.inr (Or.inl ⟨third, Option.some.inj amount⟩)
      · by_cases last : k = 7
        · rw [if_neg first, if_neg third, if_pos last] at amount
          exact Or.inr (Or.inr ⟨last, Option.some.inj amount⟩)
        · rw [if_neg first, if_neg third, if_neg last] at amount
          cases amount
  obtain ⟨loop, matcher, started, awaits⟩ :=
    ledgerAwaiter_awaits_growth watch account 0 parsed timely
  refine ⟨parsed, timely, loop, matcher, started, ((awaits replies).delivers 7 _).mpr ⟨?_, ?_⟩⟩
  · have third : replies.Shows 5 3 := (AccountReplies.exists_read_iff account).mp ⟨_, rfl, rfl⟩
    have last : replies.Shows 7 10 := (AccountReplies.exists_read_iff account).mp ⟨_, rfl, rfl⟩
    refine ⟨3, 10, ⟨last, ⟨5, by decide, third, ?_⟩, rfl⟩, rfl⟩
    intro k above below other shows
    rcases shown k (by omega) other shows with ⟨same, _⟩ | ⟨same, _⟩ | ⟨same, _⟩ <;> omega
  · rintro m below before after ⟨shows, ⟨k, earlier, known, _⟩, grown⟩
    rcases shown m (by omega) after shows with ⟨rfl, _⟩ | ⟨rfl, rfl⟩ | ⟨rfl, _⟩
    · rcases shown k (by omega) before known with ⟨same, _⟩ | ⟨same, _⟩ | ⟨same, _⟩ <;> omega
    · have fallen : before.toNat + 7 = 3 := grown
      omega
    · omega

end BridgeClient
