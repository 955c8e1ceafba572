import BridgeClient.Proofs.Await.Ending

set_option autoImplicit false

/-!
What a loop still does once its token is cancelled. Of things that are ready at once any may be
taken, so a rest that is over and a retrieval that has ended may each come before the cancellation.
But the next rest begins with the cancellation in sight, and a rest of some length is not over when
it begins: so each comes first at most once.
-/
namespace BridgeClient

variable {S T E : Type}

open LoopSignal

namespace Matcher

theorem remember_append (matcher : Matcher S T E) (memory : S) (earlier later : List T) :
    matcher.remember memory (earlier ++ later) =
      matcher.remember (matcher.remember memory earlier) later :=
  List.foldl_append

end Matcher

namespace LoopSignal

theorem values_append (earlier later : List (Except BridgeError T)) :
    values (earlier ++ later) = values earlier ++ values later :=
  List.filterMap_append

end LoopSignal

namespace LoopPhase

/-- The retrievals that a loop may still start after its token is cancelled: one if it rests, and
the rest began before the cancellation could be seen. -/
def startsLeft : LoopPhase E → Nat
  | .resting false => 1
  | _ => 0

/-- The values that a loop may still offer to its matcher after its token is cancelled. -/
def offersLeft : LoopPhase E → Nat
  | .retrieving => 1
  | .resting false => 1
  | _ => 0

theorem startsLeft_le_one (phase : LoopPhase E) : phase.startsLeft ≤ 1 := by
  unfold startsLeft
  split <;> omega

theorem offersLeft_le_one (phase : LoopPhase E) : phase.offersLeft ≤ 1 := by
  unfold offersLeft
  split <;> omega

end LoopPhase

namespace PollLoop

variable {loop : PollLoop} {matcher : Matcher S T E}

/-- What a loop does in some steps is paid for by what was left to do. -/
structure Spends (loop : PollLoop) (state : LoopState S E) (signals : List (LoopSignal T))
    (last : LoopState S E) (records : List Record) : Prop where
  cancelled : last.cancelled = true
  starts : records.count (.pollStarted loop.name) + last.phase.startsLeft ≤ state.phase.startsLeft
  offers : (values (outcomes signals)).length + last.phase.offersLeft ≤ state.phase.offersLeft

/-- A rest that begins after the cancellation leaves nothing to do. -/
theorem spends_of_rest {state : LoopState S E} (memory : S) {outcome : Except BridgeError T}
    {records : List Record} (retrieving : state.phase = .retrieving)
    (seen : state.cancelled = true) (silent : records.count (.pollStarted loop.name) = 0) :
    Spends loop state [.retrieved outcome] (rest { state with memory }) records := by
  have offered : (values (outcomes [LoopSignal.retrieved outcome])).length ≤ 1 := by
    rw [values, outcomes]
    exact List.length_filterMap_le _ _
  refine ⟨seen, ?_, ?_⟩
  · simp [rest, seen, silent, LoopPhase.startsLeft]
  · simpa [rest, seen, retrieving, LoopPhase.offersLeft] using offered

theorem Steps.spends {state next : LoopState S E} {signal : LoopSignal T} {records : List Record}
    (step : Steps loop matcher state signal next records) (pausing : loop.interval ≠ 0)
    (seen : state.cancelled = true) : Spends loop state [signal] next records := by
  cases step with
  | cancel => exact ⟨rfl, Nat.le_of_eq (Nat.zero_add _), Nat.le_of_eq (Nat.zero_add _)⟩
  | expire => exact ⟨seen, Nat.le_of_eq (Nat.zero_add _), Nat.le_of_eq (Nat.zero_add _)⟩
  | dropReceiver => exact ⟨seen, Nat.le_of_eq (Nat.zero_add _), Nat.le_of_eq (Nat.zero_add _)⟩
  | failed retrieving => exact spends_of_rest state.memory retrieving seen rfl
  | passed retrieving => exact spends_of_rest _ retrieving seen rfl
  | picked retrieving => exact ⟨seen, Nat.zero_le _, by rw [retrieving]; exact Nat.le_refl 1⟩
  | rested resting elapsed =>
      -- The interval rules out a rest that began with the cancellation in sight.
      have unseen := elapsed.resolve_right pausing
      subst unseen
      refine ⟨seen, ?_, ?_⟩
      · rw [resting]
        simp [LoopPhase.startsLeft]
      · rw [resting]
        exact Nat.le_refl 1
  | delivered | refused | noticeCancel | noticeExpiry | abort =>
      exact ⟨seen, Nat.zero_le _, Nat.zero_le _⟩

theorem Spends.trans {state middle last : LoopState S E} {before after : List (LoopSignal T)}
    {first more : List Record} (front : Spends loop state before middle first)
    (back : Spends loop middle after last more) :
    Spends loop state (before ++ after) last (first ++ more) := by
  obtain ⟨_, starts, offers⟩ := front
  obtain ⟨seen, startsLater, offersLater⟩ := back
  refine ⟨seen, ?_, ?_⟩
  · rw [List.count_append]
    omega
  · rw [outcomes_append, values_append, List.length_append]
    omega

theorem spends_of_follow? {state last : LoopState S E} {signals : List (LoopSignal T)}
    {records : List Record} (pausing : loop.interval ≠ 0) (seen : state.cancelled = true)
    (run : loop.follow? matcher state signals = some (last, records)) :
    Spends loop state signals last records := by
  induction signals generalizing state records with
  | nil =>
      cases run
      exact ⟨seen, Nat.le_of_eq (Nat.zero_add _), Nat.le_of_eq (Nat.zero_add _)⟩
  | cons signal rest ih =>
      obtain ⟨next, first, more, step, later, rfl⟩ := follow?_cons_eq_some_iff.mp run
      have spent := step.spends pausing seen
      exact spent.trans (ih spent.cancelled later)

/-- What a loop has done since its token was cancelled. -/
structure WindsDown (loop : PollLoop) (matcher : Matcher S T E) (cancelled : LoopState S E)
    (after : List (LoopSignal T)) (last : LoopState S E) (records : List Record) : Prop where
  /-- At most one further retrieval was started. -/
  started : records.count (.pollStarted loop.name) ≤ 1
  /-- None was, if one was under way, as the first one is when a token is cancelled beforehand. -/
  underway : cancelled.phase = .retrieving → records.count (.pollStarted loop.name) = 0
  /-- At most one further value was retrieved. -/
  retrieved : (values (outcomes after)).length ≤ 1
  /-- Just what was retrieved was offered to the matcher, which is at most one observation on. -/
  offered : last.memory = matcher.remember cancelled.memory (values (outcomes after))
  observed : last.memory = cancelled.memory ∨
    ∃ value, last.memory = (matcher.offer cancelled.memory value).2

/-- A cancelled awaiter that rests between its retrievals starts at most one more of them and offers
at most one more value, however its retrievals end, whatever else happens around it, and whichever
of the things that are ready is taken. -/
theorem cancelled_run_winds_down (loop : PollLoop) (pausing : loop.interval ≠ 0)
    (matcher : Matcher S T E) (memory : S) (before after : List (LoopSignal T))
    (last : LoopState S E) (records : List Record)
    (run : loop.run? matcher memory (before ++ .cancel :: after) = some (last, records)) :
    ∃ cancelled first more,
      loop.run? matcher memory (before ++ [.cancel]) = some (cancelled, first) ∧
        records = first ++ more ∧ WindsDown loop matcher cancelled after last more := by
  have whole := standing_of_run run
  rw [List.append_cons, run?_append_eq_some_iff] at run
  obtain ⟨cancelled, first, more, front, back, rfl⟩ := run
  have stands := standing_of_run front
  have seen : cancelled.cancelled = true := by
    obtain ⟨middle, _, _, _, step, _⟩ := run?_append_eq_some_iff.mp front
    cases step
    rfl
  have spent := spends_of_follow? pausing seen back
  have starts := spent.starts
  have offers := spent.offers
  have few := cancelled.phase.offersLeft_le_one
  have offered : last.memory =
      matcher.remember cancelled.memory (values (outcomes after)) := by
    rw [whole.offered, stands.offered, List.append_cons, outcomes_append, values_append,
      Matcher.remember_append]
  refine ⟨cancelled, first, more, front, rfl, ?_, ?_, by omega, offered, ?_⟩
  · have := cancelled.phase.startsLeft_le_one
    omega
  · intro retrieving
    have nothing : cancelled.phase.startsLeft = 0 := by rw [retrieving]; rfl
    omega
  · rw [offered]
    match values (outcomes after), offers with
    | [], _ => exact Or.inl rfl
    | [value], _ => exact Or.inr ⟨value, rfl⟩
    | _ :: _ :: _, many =>
        simp only [List.length_cons] at many
        omega

/-- The token is cancelled during a rest, and the end of the rest and then the end of the retrieval
both come before the cancellation. This is as much as can be done. -/
theorem cancelled_run_winds_down_late :
    let loop : PollLoop := ⟨"generic", 5000, none⟩
    let matcher : Matcher (List Nat) Nat Nat := ⟨fun seen value => (none, seen ++ [value])⟩
    let before : List (LoopSignal Nat) := [.retrieved (.ok 5)]
    let after : List (LoopSignal Nat) := [.rested, .retrieved (.ok 7), .noticeCancel]
    loop.interval ≠ 0 ∧
      ∃ last records, loop.run? matcher [] (before ++ .cancel :: after) = some (last, records) ∧
        last.memory = [5, 7] ∧
        ∃ cancelled first more,
          loop.run? matcher [] (before ++ [.cancel]) = some (cancelled, first) ∧
            records = first ++ more ∧ WindsDown loop matcher cancelled after last more := by
  intro loop matcher before after
  have pausing : loop.interval ≠ 0 := by decide
  exact ⟨pausing, _, _, rfl, rfl,
    cancelled_run_winds_down loop pausing matcher [] before after _ _ rfl⟩

/-- Rests of no length may go on to come first. -/
example :
    let loop : PollLoop := ⟨"generic", 0, none⟩
    let matcher : Matcher Nat Nat Nat := ⟨fun seen _ => (none, seen + 1)⟩
    let round : List (LoopSignal Nat) := [.rested, .retrieved (.ok 7)]
    (loop.run? matcher 0 (.retrieved (.ok 7) :: .cancel :: (round ++ round))).map
      (fun run => run.1.memory) = some 3 := rfl

end PollLoop
end BridgeClient
