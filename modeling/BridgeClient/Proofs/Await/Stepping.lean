import BridgeClient.Await.Loop

set_option autoImplicit false

/-!
The steps of the poll loop as a relation, one rule for each way a signal can be taken, and what
follows for whole runs: a run is a chain of steps, and what every step keeps holds after the run.
-/
namespace BridgeClient.PollLoop

variable {S T E : Type} {loop : PollLoop} {matcher : Matcher S T E}

/-- A signal, the state it is taken in, the state it leads to and what is counted. -/
inductive Steps (loop : PollLoop) (matcher : Matcher S T E) (state : LoopState S E) :
    LoopSignal T → LoopState S E → List Record → Prop
  | cancel : Steps loop matcher state .cancel { state with cancelled := true } []
  | expire (timed : loop.deadline.isSome = true) :
      Steps loop matcher state .expire { state with expired := true } []
  | dropReceiver : Steps loop matcher state .dropReceiver { state with receiverGone := true } []
  | failed {reason : BridgeError} (retrieving : state.phase = .retrieving) :
      Steps loop matcher state (.retrieved (.error reason)) (rest state)
        [.retrievalFailed loop.name]
  | passed {value : T} {memory : S} (retrieving : state.phase = .retrieving)
      (answer : matcher.offer state.memory value = (none, memory)) :
      Steps loop matcher state (.retrieved (.ok value)) (rest { state with memory }) []
  | picked {value : T} {event : E} {memory : S} (retrieving : state.phase = .retrieving)
      (answer : matcher.offer state.memory value = (some event, memory)) :
      Steps loop matcher state (.retrieved (.ok value))
        { state with phase := .delivering event, memory } []
  | delivered {event : E} (delivering : state.phase = .delivering event)
      (open_ : state.receiverGone = false) :
      Steps loop matcher state .delivered
        { state with phase := .finished (.ok ()), delivered := state.delivered ++ [event] }
        [.depositDelivered loop.name, .awaiterStopped loop.name]
  | refused {event : E} (delivering : state.phase = .delivering event)
      (closed : state.receiverGone = true) :
      Steps loop matcher state .refused { state with phase := .finished (.error .channelClosed) }
        [.awaiterStopped loop.name]
  | rested {stopVisible : Bool} (resting : state.phase = .resting stopVisible)
      (elapsed : stopVisible = false ∨ loop.interval = 0) :
      Steps loop matcher state .rested { state with phase := .retrieving }
        [.pollStarted loop.name]
  | noticeCancel (waiting : interruptible state = true) (seen : state.cancelled = true) :
      Steps loop matcher state .noticeCancel { state with phase := .finished (.error .canceled) }
        [.awaiterStopped loop.name]
  | noticeExpiry (waiting : interruptible state = true) (seen : state.expired = true) :
      Steps loop matcher state .noticeExpiry
        { state with phase := .finished (.error loop.timeoutError) } [.awaiterStopped loop.name]
  | abort (running : isOver state = false) :
      Steps loop matcher state .abort { state with phase := .aborted } [.awaiterStopped loop.name]

theorem steps_of_step? {state next : LoopState S E} {signal : LoopSignal T}
    {records : List Record} (step : loop.step? matcher state signal = some (next, records)) :
    Steps loop matcher state signal next records := by
  cases signal with
  | cancel => cases step; exact .cancel
  | expire =>
      by_cases timed : loop.deadline.isSome = true
      · simp only [step?, timed, ↓reduceIte] at step
        cases step
        exact .expire timed
      · simp [step?, timed] at step
  | dropReceiver => cases step; exact .dropReceiver
  | retrieved outcome =>
      cases retrieving : state.phase with
      | retrieving =>
          simp only [step?, retrieving, Option.some.injEq] at step
          cases outcome with
          | error reason => cases step; exact .failed retrieving
          | ok value =>
              cases answer : matcher.offer state.memory value with
              | mk picked memory =>
                  cases picked with
                  | none =>
                      simp only [absorb, answer] at step
                      cases step
                      exact .passed retrieving answer
                  | some event =>
                      simp only [absorb, answer] at step
                      cases step
                      exact .picked retrieving answer
      | _ => simp [step?, retrieving] at step
  | delivered =>
      cases delivering : state.phase with
      | delivering event =>
          simp only [step?, delivering, finish] at step
          cases gone : state.receiverGone with
          | true => simp [gone] at step
          | false =>
              rw [if_neg (by simp [gone])] at step
              cases step
              exact .delivered delivering gone
      | _ => simp [step?, delivering] at step
  | refused =>
      cases delivering : state.phase with
      | delivering event =>
          simp only [step?, delivering, finish] at step
          cases gone : state.receiverGone with
          | true =>
              rw [if_pos gone] at step
              cases step
              exact .refused delivering gone
          | false => simp [gone] at step
      | _ => simp [step?, delivering] at step
  | rested =>
      cases resting : state.phase with
      | resting stopVisible =>
          by_cases held : stopVisible = true ∧ loop.interval ≠ 0
          · simp [step?, resting, held] at step
          · have elapsed : stopVisible = false ∨ loop.interval = 0 := by
              cases stopVisible with
              | false => exact Or.inl rfl
              | true => exact Or.inr (by simpa using held)
            have unheld : (stopVisible && decide (loop.interval ≠ 0)) = false := by
              simpa using held
            simp only [step?, resting, unheld] at step
            cases step
            exact .rested resting elapsed
      | _ => simp [step?, resting] at step
  | noticeCancel =>
      simp only [step?, finish, Bool.and_eq_true] at step
      by_cases both : interruptible state = true ∧ state.cancelled = true
      · rw [if_pos both] at step
        cases step
        exact .noticeCancel both.1 both.2
      · rw [if_neg both] at step
        cases step
  | noticeExpiry =>
      simp only [step?, finish, Bool.and_eq_true] at step
      by_cases both : interruptible state = true ∧ state.expired = true
      · rw [if_pos both] at step
        cases step
        exact .noticeExpiry both.1 both.2
      · rw [if_neg both] at step
        cases step
  | abort =>
      cases running : isOver state with
      | true => simp [step?, running] at step
      | false =>
          simp only [step?, running] at step
          cases step
          exact .abort running

theorem step?_of_steps {state next : LoopState S E} {signal : LoopSignal T}
    {records : List Record} (step : Steps loop matcher state signal next records) :
    loop.step? matcher state signal = some (next, records) := by
  cases step with
  | cancel => rfl
  | expire timed => simp [step?, timed]
  | dropReceiver => rfl
  | failed retrieving => simp [step?, retrieving, absorb]
  | passed retrieving answer => simp [step?, retrieving, absorb, answer]
  | picked retrieving answer => simp [step?, retrieving, absorb, answer]
  | delivered delivering open_ => simp [step?, delivering, open_, finish]
  | refused delivering closed => simp [step?, delivering, closed, finish]
  | rested resting elapsed => rcases elapsed with rfl | still <;> simp [step?, *]
  | noticeCancel waiting seen => simp [step?, waiting, seen, finish]
  | noticeExpiry waiting seen => simp [step?, waiting, seen, finish]
  | abort running => simp [step?, running]

/-- The relation says all that a step can do, and nothing else. -/
theorem step?_eq_some_iff {state next : LoopState S E} {signal : LoopSignal T}
    {records : List Record} :
    loop.step? matcher state signal = some (next, records) ↔
      Steps loop matcher state signal next records :=
  ⟨steps_of_step?, step?_of_steps⟩

theorem follow?_cons_eq_some_iff {state last : LoopState S E} {signal : LoopSignal T}
    {rest : List (LoopSignal T)} {records : List Record} :
    loop.follow? matcher state (signal :: rest) = some (last, records) ↔
      ∃ next first more, Steps loop matcher state signal next first ∧
        loop.follow? matcher next rest = some (last, more) ∧ records = first ++ more := by
  rw [follow?]
  cases step : loop.step? matcher state signal with
  | none =>
      constructor
      · intro run
        cases run
      · rintro ⟨next, first, more, taken, -⟩
        rw [← step?_eq_some_iff, step] at taken
        cases taken
  | some result =>
      obtain ⟨next, first⟩ := result
      constructor
      · intro run
        obtain ⟨⟨_, more⟩, later, same⟩ := Option.map_eq_some_iff.mp run
        cases same
        exact ⟨next, first, more, steps_of_step? step, later, rfl⟩
      · rintro ⟨other, front, more, taken, later, rfl⟩
        rw [← step?_eq_some_iff, step] at taken
        cases taken
        exact Option.map_eq_some_iff.mpr ⟨(last, more), later, rfl⟩

/-- A run over two lists of signals is a run over the first and, from there, one over the second. -/
theorem follow?_append_eq_some_iff {state last : LoopState S E}
    {before after : List (LoopSignal T)} {records : List Record} :
    loop.follow? matcher state (before ++ after) = some (last, records) ↔
      ∃ middle first more, loop.follow? matcher state before = some (middle, first) ∧
        loop.follow? matcher middle after = some (last, more) ∧ records = first ++ more := by
  induction before generalizing state records with
  | nil =>
      constructor
      · intro run
        exact ⟨state, [], records, rfl, run, rfl⟩
      · rintro ⟨middle, first, more, run, later, rfl⟩
        cases run
        exact later
  | cons signal rest ih =>
      rw [List.cons_append, follow?_cons_eq_some_iff]
      constructor
      · rintro ⟨next, first, more, step, later, rfl⟩
        obtain ⟨middle, second, others, front, back, rfl⟩ := ih.mp later
        refine ⟨middle, first ++ second, others, ?_, back, (List.append_assoc ..).symm⟩
        exact follow?_cons_eq_some_iff.mpr ⟨next, first, second, step, front, rfl⟩
      · rintro ⟨middle, front, others, run, back, rfl⟩
        obtain ⟨next, first, second, step, later, rfl⟩ := follow?_cons_eq_some_iff.mp run
        refine ⟨next, first, second ++ others, step, ?_, List.append_assoc ..⟩
        exact ih.mpr ⟨middle, second, others, later, back, rfl⟩

theorem run?_append_eq_some_iff {memory : S} {before after : List (LoopSignal T)}
    {last : LoopState S E} {records : List Record} :
    loop.run? matcher memory (before ++ after) = some (last, records) ↔
      ∃ middle first more, loop.run? matcher memory before = some (middle, first) ∧
        loop.follow? matcher middle after = some (last, more) ∧ records = first ++ more := by
  simp only [run?, Option.map_eq_some_iff, Prod.exists, Prod.mk.injEq]
  constructor
  · rintro ⟨state, counted, followed, rfl, rfl⟩
    obtain ⟨middle, first, more, front, back, rfl⟩ := follow?_append_eq_some_iff.mp followed
    exact ⟨middle, _, more, ⟨middle, first, front, rfl, rfl⟩, back, (List.append_assoc ..).symm⟩
  · rintro ⟨middle, _, more, ⟨state, first, front, rfl, rfl⟩, back, rfl⟩
    refine ⟨last, first ++ more, ?_, rfl, (List.append_assoc ..).symm⟩
    exact follow?_append_eq_some_iff.mpr ⟨state, first, more, front, back, rfl⟩

/-- What every step keeps, a run keeps. The property may look back at the signals so far. -/
theorem follow?_keeps {holds : List (LoopSignal T) → LoopState S E → Prop}
    (kept : ∀ {past state signal next records}, holds past state →
      Steps loop matcher state signal next records → holds (past ++ [signal]) next)
    {past signals : List (LoopSignal T)} {state last : LoopState S E} {records : List Record}
    (initially : holds past state)
    (run : loop.follow? matcher state signals = some (last, records)) :
    holds (past ++ signals) last := by
  induction signals generalizing past state records with
  | nil =>
      cases run
      simpa using initially
  | cons signal rest ih =>
      obtain ⟨next, first, more, step, later, -⟩ := follow?_cons_eq_some_iff.mp run
      have after := ih (kept initially step) later
      rwa [List.append_assoc, List.singleton_append] at after

/-- A run that is over takes no further step but to learn what happens around it. -/
theorem Steps.of_isOver {state next : LoopState S E} {signal : LoopSignal T}
    {records : List Record} (step : Steps loop matcher state signal next records)
    (stopped : isOver state = true) :
    (signal = .cancel ∨ signal = .expire ∨ signal = .dropReceiver) ∧
      next.phase = state.phase ∧ next.delivered = state.delivered := by
  cases step with
  | cancel => exact ⟨Or.inl rfl, rfl, rfl⟩
  | expire => exact ⟨Or.inr (Or.inl rfl), rfl, rfl⟩
  | dropReceiver => exact ⟨Or.inr (Or.inr rfl), rfl, rfl⟩
  | failed active | passed active | picked active => simp [isOver, active] at stopped
  | delivered active | refused active | rested active => simp [isOver, active] at stopped
  | noticeCancel waiting | noticeExpiry waiting =>
      cases phase : state.phase <;> simp [interruptible, isOver, phase] at waiting stopped
  | abort running => simp [running] at stopped

theorem follow?_of_isOver {state last : LoopState S E} {signals : List (LoopSignal T)}
    {records : List Record} (run : loop.follow? matcher state signals = some (last, records))
    (stopped : isOver state = true) :
    (∀ signal ∈ signals, signal = .cancel ∨ signal = .expire ∨ signal = .dropReceiver) ∧
      last.phase = state.phase ∧ last.delivered = state.delivered := by
  induction signals generalizing state records with
  | nil =>
      cases run
      exact ⟨by simp, rfl, rfl⟩
  | cons signal rest ih =>
      obtain ⟨next, first, more, step, later, -⟩ := follow?_cons_eq_some_iff.mp run
      obtain ⟨around, phase, delivered⟩ := step.of_isOver stopped
      have still : isOver next = true := by
        rw [isOver, phase]
        exact stopped
      obtain ⟨others, lastPhase, lastDelivered⟩ := ih later still
      refine ⟨?_, lastPhase.trans phase, lastDelivered.trans delivered⟩
      intro other inside
      rcases List.mem_cons.mp inside with rfl | inside
      · exact around
      · exact others other inside

end BridgeClient.PollLoop
