import BridgeClient.Await.Awaiter
import BridgeClient.Proofs.Await.Ending
import Mathlib.Data.List.Induction
import Mathlib.Order.Monotone.Basic

set_option autoImplicit false

/-!
Runs that nothing disturbs: no cancellation, no deadline, a receiver that stays. Over retrievals with
given outcomes there is only one such run, it never comes to a halt before it delivers, and it
delivers at the first retrieval whose value the matcher picks.
-/
namespace BridgeClient

variable {S T E : Type}

open LoopSignal

namespace LoopSignal

/-- Whether a signal belongs to the loop's own work. -/
def isOwn : LoopSignal T → Bool
  | .retrieved _ => true
  | .delivered => true
  | .rested => true
  | _ => false

/-- The values that the first `n` of some retrievals bring. -/
def valuesBefore (outcome : Nat → Except BridgeError T) (n : Nat) : List T :=
  values ((List.range n).map outcome)

variable {outcome : Nat → Except BridgeError T} {n : Nat}

theorem valuesBefore_succ_of_ok {value : T} (given : outcome n = .ok value) :
    valuesBefore outcome (n + 1) = valuesBefore outcome n ++ [value] := by
  simp only [valuesBefore, List.range_succ, List.map_append, List.map_cons, List.map_nil, given,
    values_concat_ok]

theorem valuesBefore_succ_of_error {reason : BridgeError} (given : outcome n = .error reason) :
    valuesBefore outcome (n + 1) = valuesBefore outcome n := by
  simp only [valuesBefore, List.range_succ, List.map_append, List.map_cons, List.map_nil, given,
    values_concat_error]

/-- The last value before a retrieval is that of the nearest earlier one that brought a value. -/
theorem getLast?_valuesBefore_eq_some_iff {value : T} :
    (valuesBefore outcome n).getLast? = some value ↔
      ∃ m < n, outcome m = .ok value ∧ ∀ k, m < k → k < n → ∀ other, outcome k ≠ .ok other := by
  induction n with
  | zero => simp [valuesBefore, values]
  | succ n ih =>
      cases given : outcome n with
      | ok latest =>
          rw [valuesBefore_succ_of_ok given, List.getLast?_append, List.getLast?_singleton]
          constructor
          · intro same
            cases same
            refine ⟨n, by omega, given, ?_⟩
            intro k above below
            omega
          · rintro ⟨m, below, brought, nearest⟩
            have same : m = n := by
              by_cases earlier : m < n
              · exact absurd given (nearest n earlier (by omega) latest)
              · omega
            subst same
            rw [given] at brought
            cases brought
            rfl
      | error reason =>
          rw [valuesBefore_succ_of_error given, ih]
          constructor
          · rintro ⟨m, below, brought, nearest⟩
            refine ⟨m, by omega, brought, ?_⟩
            intro k above within other
            by_cases last : k = n
            · simp [last, given]
            · exact nearest k above (by omega) other
          · rintro ⟨m, below, brought, nearest⟩
            have earlier : m < n := by
              by_cases last : m = n
              · rw [last, given] at brought
                cases brought
              · omega
            refine ⟨m, earlier, brought, ?_⟩
            intro k above within
            exact nearest k above (by omega)

end LoopSignal

namespace Matcher

variable {matcher : Matcher S T E} {memory : S} {outcome : Nat → Except BridgeError T}

/-- A retrieval brings a value that the matcher picks when it has been offered those before. -/
def PicksAt (matcher : Matcher S T E) (memory : S) (outcome : Nat → Except BridgeError T)
    (n : Nat) (event : E) : Prop :=
  ∃ value, outcome n = .ok value ∧
    matcher.answer memory (valuesBefore outcome n) value = some event

theorem passes_valuesBefore_iff {n : Nat} :
    matcher.Passes memory (valuesBefore outcome n) ↔
      ∀ m < n, ∀ event, ¬ matcher.PicksAt memory outcome m event := by
  induction n with
  | zero => simpa [valuesBefore, values] using passes_nil
  | succ n ih =>
      rw [Nat.forall_lt_succ_right, ← ih]
      cases given : outcome n with
      | ok value =>
          rw [valuesBefore_succ_of_ok given, passes_concat_iff, Option.eq_none_iff_forall_ne_some]
          simp [PicksAt, given]
      | error reason =>
          rw [valuesBefore_succ_of_error given]
          simp [PicksAt, given]

theorem picksLast_range_iff {n : Nat} {event : E} :
    matcher.PicksLast memory ((List.range (n + 1)).map outcome) event ↔
      matcher.PicksAt memory outcome n event ∧
        ∀ m < n, ∀ other, ¬ matcher.PicksAt memory outcome m other := by
  rw [← passes_valuesBefore_iff, List.range_succ, List.map_append]
  constructor
  · rintro ⟨earlier, value, split, passes, answer⟩
    obtain ⟨same, last⟩ := List.append_inj' split rfl
    subst same
    exact ⟨⟨value, (List.cons.inj last).1, answer⟩, passes⟩
  · rintro ⟨⟨value, given, answer⟩, passes⟩
    exact ⟨_, value, by simp [given], passes, answer⟩

end Matcher

namespace PollLoop

variable {loop : PollLoop} {matcher : Matcher S T E} {memory : S}
  {outcome : Nat → Except BridgeError T}

/-- A run that nothing disturbs, over retrievals that end with the given outcomes. -/
structure Undisturbed (loop : PollLoop) (matcher : Matcher S T E) (memory : S)
    (outcome : Nat → Except BridgeError T) (signals : List (LoopSignal T))
    (state : LoopState S E) : Prop where
  run : ∃ records, loop.run? matcher memory signals = some (state, records)
  own : ∀ signal ∈ signals, signal.isOwn = true
  given : outcomes signals = (List.range (outcomes signals).length).map outcome

/-- Every run that nothing disturbs goes on until it has delivered the event, as the outcome of its
retrieval number `n`, counted from zero. -/
def DeliversAt (loop : PollLoop) (matcher : Matcher S T E) (memory : S)
    (outcome : Nat → Except BridgeError T) (n : Nat) (event : E) : Prop :=
  ∀ signals state, Undisturbed loop matcher memory outcome signals state →
    ∃ more last, Undisturbed loop matcher memory outcome (signals ++ more) last ∧
      (outcomes (signals ++ more)).length = n + 1 ∧
      last.phase = .finished (.ok ()) ∧ last.delivered = [event]

/-- The next signal of the loop's own work, if the retrieval under way ends with a given outcome. -/
def work? (result : Except BridgeError T) : LoopPhase E → Option (LoopSignal T)
  | .retrieving => some (.retrieved result)
  | .delivering _ => some .delivered
  | .resting _ => some .rested
  | _ => none

theorem Steps.work? {state next : LoopState S E} {signal : LoopSignal T} {records : List Record}
    {result : Except BridgeError T} (step : Steps loop matcher state signal next records)
    (own : signal.isOwn = true) (given : ∀ brought, signal = .retrieved brought → brought = result) :
    work? result state.phase = some signal := by
  cases step with
  | failed active | passed active | picked active => rw [active, ← given _ rfl]; rfl
  | delivered active | rested active => rw [active]; rfl
  | _ => cases own

namespace Undisturbed

variable {signals : List (LoopSignal T)} {state : LoopState S E}

theorem init : Undisturbed loop matcher memory outcome [] (begin memory) where
  run := ⟨_, rfl⟩
  own := by simp
  given := rfl

/-- One more signal of the loop's own work. -/
theorem snoc {signal : LoopSignal T} {next : LoopState S E} {records : List Record}
    (undisturbed : Undisturbed loop matcher memory outcome signals state)
    (step : Steps loop matcher state signal next records) (own : signal.isOwn = true)
    (given : ∀ result, signal = .retrieved result → result = outcome (outcomes signals).length) :
    Undisturbed loop matcher memory outcome (signals ++ [signal]) next where
  run := by
    obtain ⟨counted, run⟩ := undisturbed.run
    refine ⟨counted ++ records, run?_append_eq_some_iff.mpr ⟨state, counted, records, run, ?_, rfl⟩⟩
    exact follow?_cons_eq_some_iff.mpr ⟨next, records, [], step, rfl, by simp⟩
  own := by
    intro other inside
    rcases List.mem_append.mp inside with before | last
    · exact undisturbed.own other before
    · cases List.mem_singleton.mp last
      exact own
  given := by
    cases signal with
    | retrieved result =>
        rw [outcomes_concat_retrieved, List.length_append, List.length_singleton, List.range_succ,
          List.map_append, ← undisturbed.given, given result rfl]
        rfl
    | _ => rw [outcomes_concat_of_none rfl]; exact undisturbed.given

/-- The retrieval under way ends with the outcome that is its turn. -/
theorem retrieved {result : Except BridgeError T} {next : LoopState S E} {records : List Record}
    (undisturbed : Undisturbed loop matcher memory outcome signals state)
    (given : outcome (outcomes signals).length = result)
    (step : Steps loop matcher state (.retrieved result) next records) :
    Undisturbed loop matcher memory outcome (signals ++ [.retrieved result]) next := by
  apply undisturbed.snoc step rfl
  intro brought same
  cases same
  exact given.symm

theorem of_append {after : List (LoopSignal T)} {last : LoopState S E}
    (undisturbed : Undisturbed loop matcher memory outcome (signals ++ after) last) :
    ∃ state, Undisturbed loop matcher memory outcome signals state := by
  obtain ⟨⟨_, run⟩, own, given⟩ := undisturbed
  obtain ⟨state, first, _, front, _, _⟩ := run?_append_eq_some_iff.mp run
  refine ⟨state, ⟨first, front⟩, fun signal inside => own signal (List.mem_append_left _ inside), ?_⟩
  have front_given := congrArg (List.take (outcomes signals).length) given
  rw [outcomes_append, List.take_left, ← List.map_take, List.take_range, List.length_append,
    Nat.min_eq_left (Nat.le_add_right ..)] at front_given
  exact front_given

/-- The last signal of such a run is a step from where the signals before it lead. -/
theorem steps_of_concat {signal : LoopSignal T} {last : LoopState S E}
    (undisturbed : Undisturbed loop matcher memory outcome (signals ++ [signal]) last)
    (before : Undisturbed loop matcher memory outcome signals state) :
    ∃ records, Steps loop matcher state signal last records ∧
      work? (outcome (outcomes signals).length) state.phase = some signal := by
  obtain ⟨⟨_, run⟩, own, given⟩ := undisturbed
  obtain ⟨_, front⟩ := before.run
  obtain ⟨middle, first, _, early, late, _⟩ := run?_append_eq_some_iff.mp run
  rw [front] at early
  cases early
  obtain ⟨next, records, _, step, rest, _⟩ := follow?_cons_eq_some_iff.mp late
  cases rest
  refine ⟨records, step, step.work? (own signal (by simp)) ?_⟩
  intro result same
  rw [same, outcomes_concat_retrieved, List.length_append, List.length_singleton, List.range_succ,
    List.map_append] at given
  exact (List.cons.inj (List.append_inj' given rfl).2).1

/-- There is only one such run: of two, one is the beginning of the other. -/
theorem comparable {others : List (LoopSignal T)} {other : LoopState S E}
    (first : Undisturbed loop matcher memory outcome signals state)
    (second : Undisturbed loop matcher memory outcome others other) :
    signals <+: others ∨ others <+: signals := by
  induction signals using List.reverseRecOn generalizing state with
  | nil => exact Or.inl (List.nil_prefix)
  | append_singleton before signal ih =>
      obtain ⟨middle, early⟩ := first.of_append
      rcases ih early with ⟨rest, rfl⟩ | shorter
      · cases rest with
        | nil => exact Or.inr (by simp)
        | cons another rest =>
            rw [List.append_cons] at second
            obtain ⟨later, longer⟩ := second.of_append
            obtain ⟨_, _, one⟩ := first.steps_of_concat early
            obtain ⟨_, _, same⟩ := longer.steps_of_concat early
            rw [one] at same
            cases same
            exact Or.inl ⟨rest, (List.append_cons ..).symm⟩
      · exact Or.inr (shorter.trans (List.prefix_append ..))

/-- Nothing has been noted of the surroundings, so the run retrieves, rests, delivers or has
delivered. -/
theorem phase_cases (undisturbed : Undisturbed loop matcher memory outcome signals state) :
    state.receiverGone = false ∧
      (state.phase = .retrieving ∨ state.phase = .resting false ∨
        (∃ event, state.phase = .delivering event) ∨
        ∃ event, state.phase = .finished (.ok ()) ∧ state.delivered = [event]) := by
  obtain ⟨⟨records, run⟩, own, -⟩ := undisturbed
  have foreign : ∀ {signal : LoopSignal T}, signal.isOwn = false → signal ∉ signals := by
    intro signal other inside
    rw [own signal inside] at other
    cases other
  have stands := standing_of_run run
  constructor
  · cases gone : state.receiverGone with
    | false => rfl
    | true => exact absurd (stands.aware.receiverGone gone) (foreign rfl)
  · have arrives := stands.arrives
    obtain ⟨phase, held, cancelled, expired, gone, delivered⟩ := state
    cases arrives with
    | retrieving => exact Or.inl rfl
    | @resting stopVisible passed stop =>
        cases stopVisible with
        | false => exact Or.inr (Or.inl rfl)
        | true =>
            rcases stop rfl with seen | seen
            · exact absurd seen (foreign rfl)
            · exact absurd seen (foreign rfl)
    | @delivering event => exact Or.inr (Or.inr (Or.inl ⟨event, rfl⟩))
    | @delivered event => exact Or.inr (Or.inr (Or.inr ⟨event, rfl, rfl⟩))
    | canceled seen | timedOut _ seen | closed seen | aborted seen =>
        exact absurd seen (foreign rfl)

/-- Such a run never comes to a halt before it delivers. -/
theorem exists_next (undisturbed : Undisturbed loop matcher memory outcome signals state)
    (pending : state.delivered = []) :
    ∃ signal next, Undisturbed loop matcher memory outcome (signals ++ [signal]) next := by
  obtain ⟨open_, retrieving | resting | ⟨event, delivering⟩ | ⟨event, _, delivered⟩⟩ :=
    undisturbed.phase_cases
  · have step : ∃ next records, Steps loop matcher state
        (.retrieved (outcome (outcomes signals).length)) next records := by
      cases outcome (outcomes signals).length with
      | error reason => exact ⟨_, _, .failed retrieving⟩
      | ok value =>
          cases answer : matcher.offer state.memory value with
          | mk picked memory =>
              cases picked with
              | none => exact ⟨_, _, .passed retrieving answer⟩
              | some event => exact ⟨_, _, .picked retrieving answer⟩
    obtain ⟨next, records, step⟩ := step
    exact ⟨_, next, undisturbed.retrieved rfl step⟩
  · exact ⟨_, _, undisturbed.snoc (.rested resting (Or.inl rfl)) rfl (by simp)⟩
  · exact ⟨_, _, undisturbed.snoc (.delivered delivering open_) rfl (by simp)⟩
  · rw [pending] at delivered
    cases delivered

/-- What such a run has delivered, the matcher picked at its last retrieval. -/
theorem picked (undisturbed : Undisturbed loop matcher memory outcome signals state)
    {event : E} (inside : event ∈ state.delivered) :
    ∃ n, (outcomes signals).length = n + 1 ∧ matcher.PicksAt memory outcome n event ∧
      ∀ m < n, ∀ other, ¬ matcher.PicksAt memory outcome m other := by
  obtain ⟨records, run⟩ := undisturbed.run
  obtain ⟨earlier, value, split, passes, answer⟩ := (standing_of_run run).arrives.picked inside
  have count : (outcomes signals).length = earlier.length + 1 := by simp [split]
  refine ⟨earlier.length, count, ?_⟩
  rw [← Matcher.picksLast_range_iff, ← count, ← undisturbed.given]
  exact ⟨earlier, value, split, passes, answer⟩

/-- The memory of such a run: the matcher was offered what was retrieved so far. -/
theorem memory_eq (undisturbed : Undisturbed loop matcher memory outcome signals state) :
    state.memory = matcher.remember memory (valuesBefore outcome (outcomes signals).length) := by
  obtain ⟨records, run⟩ := undisturbed.run
  rw [valuesBefore, ← undisturbed.given]
  exact (standing_of_run run).offered

/-- A rest of such a run comes to its end. -/
theorem rested {stopVisible : Bool}
    (undisturbed : Undisturbed loop matcher memory outcome signals state)
    (resting : state.phase = .resting stopVisible) :
    Undisturbed loop matcher memory outcome (signals ++ [.rested])
      { state with phase := .retrieving } := by
  have unseen : stopVisible = false := by
    obtain ⟨_, other | same | ⟨_, other⟩ | ⟨_, other, _⟩⟩ := undisturbed.phase_cases
    · rw [resting] at other; cases other
    · rw [resting] at same; cases same; rfl
    · rw [resting] at other; cases other
    · rw [resting] at other; cases other
  exact undisturbed.snoc (.rested resting (Or.inl unseen)) rfl (by simp)

/-- Once such a run has ended it goes no further. -/
theorem eq_nil_of_finished {more : List (LoopSignal T)} {last : LoopState S E}
    (undisturbed : Undisturbed loop matcher memory outcome signals state)
    (longer : Undisturbed loop matcher memory outcome (signals ++ more) last)
    (stopped : isOver state = true) : more = [] := by
  obtain ⟨_, front⟩ := undisturbed.run
  obtain ⟨⟨_, run⟩, own, _⟩ := longer
  obtain ⟨middle, first, _, early, late, _⟩ := run?_append_eq_some_iff.mp run
  rw [front] at early
  cases early
  have around := (follow?_of_isOver late stopped).1
  rw [List.eq_nil_iff_forall_not_mem]
  intro signal inside
  have mine := own signal (List.mem_append_right _ inside)
  rcases around signal inside with rfl | rfl | rfl <;> cases mine

end Undisturbed

/-- While the matcher passes what is retrieved, the run comes to each next retrieval. -/
theorem exists_retrieving (loop : PollLoop) {n : Nat}
    (passes : matcher.Passes memory (valuesBefore outcome n)) :
    ∃ signals state, Undisturbed loop matcher memory outcome signals state ∧
      (outcomes signals).length = n ∧ state.phase = .retrieving := by
  induction n with
  | zero => exact ⟨[], begin memory, .init, rfl, rfl⟩
  | succ n ih =>
      have retrieved_once : ∃ signals state, Undisturbed loop matcher memory outcome signals state ∧
          (outcomes signals).length = n + 1 ∧ ∃ stopVisible, state.phase = .resting stopVisible := by
        cases given : outcome n with
        | error reason =>
            rw [valuesBefore_succ_of_error given] at passes
            obtain ⟨signals, state, undisturbed, rfl, retrieving⟩ := ih passes
            exact ⟨_, _, undisturbed.retrieved given (.failed retrieving), by simp, _, rfl⟩
        | ok value =>
            rw [valuesBefore_succ_of_ok given, Matcher.passes_concat_iff] at passes
            obtain ⟨signals, state, undisturbed, rfl, retrieving⟩ := ih passes.1
            have answer : matcher.offer state.memory value =
                (none, (matcher.offer state.memory value).2) := by
              rw [undisturbed.memory_eq]
              exact Prod.ext passes.2 rfl
            exact ⟨_, _, undisturbed.retrieved given (.passed retrieving answer), by simp, _, rfl⟩
      obtain ⟨signals, state, undisturbed, count, stopVisible, resting⟩ := retrieved_once
      refine ⟨_, _, undisturbed.rested resting, ?_, rfl⟩
      rw [outcomes_concat_of_none rfl, count]

/-- The value that the matcher picks first is delivered. -/
theorem exists_delivered (loop : PollLoop) {n : Nat} {event : E}
    (picks : matcher.PicksAt memory outcome n event)
    (first : ∀ m < n, ∀ other, ¬ matcher.PicksAt memory outcome m other) :
    ∃ signals state, Undisturbed loop matcher memory outcome signals state ∧
      (outcomes signals).length = n + 1 ∧ state.phase = .finished (.ok ()) ∧
      state.delivered = [event] := by
  obtain ⟨signals, state, undisturbed, rfl, retrieving⟩ :=
    exists_retrieving loop (Matcher.passes_valuesBefore_iff.mpr first)
  obtain ⟨value, given, answer⟩ := picks
  have offer : matcher.offer state.memory value =
      (some event, (matcher.offer state.memory value).2) := by
    rw [undisturbed.memory_eq]
    exact Prod.ext answer rfl
  have delivering := undisturbed.retrieved given (.picked retrieving offer)
  have delivered := delivering.snoc (.delivered rfl delivering.phase_cases.1) rfl (by simp)
  have empty : state.delivered = [] := by
    obtain ⟨records, run⟩ := undisturbed.run
    by_contra some
    have ended := (standing_of_run run).arrives.ok_iff.mpr some
    rw [retrieving] at ended
    cases ended
  exact ⟨_, _, delivered, by rw [outcomes_concat_of_none rfl]; simp, rfl, by simp [empty]⟩

/-- An undisturbed run delivers at the first retrieval whose value the matcher picks. -/
theorem deliversAt_iff {n : Nat} {event : E} :
    DeliversAt loop matcher memory outcome n event ↔
      matcher.PicksAt memory outcome n event ∧
        ∀ m < n, ∀ other, ¬ matcher.PicksAt memory outcome m other := by
  constructor
  · intro delivers
    obtain ⟨more, last, undisturbed, count, _, delivered⟩ := delivers [] _ .init
    have inside : event ∈ last.delivered := by simp [delivered]
    obtain ⟨m, same, picks, first⟩ := undisturbed.picked inside
    have equal : m = n := by omega
    subst equal
    exact ⟨picks, first⟩
  · rintro ⟨picks, first⟩ signals state undisturbed
    obtain ⟨whole, last, finished, count, phase, delivered⟩ := exists_delivered loop picks first
    rcases undisturbed.comparable finished with ⟨more, rfl⟩ | ⟨more, rfl⟩
    · exact ⟨more, last, finished, count, phase, delivered⟩
    · have stopped : isOver last = true := by rw [isOver, phase]
      have nothing := finished.eq_nil_of_finished undisturbed stopped
      subst nothing
      refine ⟨[], last, ?_, ?_, phase, delivered⟩
      · simpa using finished
      · simpa using count

/-- What one undisturbed run has delivered, every such run delivers. -/
theorem Undisturbed.deliversAt {signals : List (LoopSignal T)} {state : LoopState S E}
    (undisturbed : Undisturbed loop matcher memory outcome signals state) {event : E}
    (inside : event ∈ state.delivered) :
    ∃ n, (outcomes signals).length = n + 1 ∧ DeliversAt loop matcher memory outcome n event := by
  obtain ⟨n, count, picks⟩ := undisturbed.picked inside
  exact ⟨n, count, deliversAt_iff.mpr picks⟩

/-- Retrievals at which nothing is picked may be put in anywhere, and the memory may be another: the
same event is delivered, at the place that its retrieval has moved to. -/
theorem deliversAt_iff_of_place {U : Type} {other : PollLoop} {another : Matcher U T E} {start : U}
    {outcomes : Nat → Except BridgeError T} {place : Nat → Nat} (rising : StrictMono place)
    (kept : ∀ n event, another.PicksAt start outcomes (place n) event ↔
      matcher.PicksAt memory outcome n event)
    (idle : ∀ m, (∀ n, place n ≠ m) → ∀ event, ¬ another.PicksAt start outcomes m event)
    {m : Nat} {event : E} :
    DeliversAt other another start outcomes m event ↔
      ∃ n, place n = m ∧ DeliversAt loop matcher memory outcome n event := by
  simp only [deliversAt_iff]
  constructor
  · rintro ⟨picks, first⟩
    by_cases placed : ∃ n, place n = m
    · obtain ⟨n, rfl⟩ := placed
      refine ⟨n, rfl, (kept n event).mp picks, ?_⟩
      intro k below other picksOther
      exact first (place k) (rising below) other ((kept k other).mpr picksOther)
    · exact absurd picks (idle m (fun n same => placed ⟨n, same⟩) event)
  · rintro ⟨n, rfl, picks, first⟩
    refine ⟨(kept n event).mpr picks, ?_⟩
    intro k below other picksOther
    by_cases placed : ∃ j, place j = k
    · obtain ⟨j, rfl⟩ := placed
      exact first j (rising.lt_iff_lt.mp below) other ((kept j other).mp picksOther)
    · exact idle k (fun j same => placed ⟨j, same⟩) other picksOther

end PollLoop

/-- The clock has the deadline of a wait that begins now. -/
def DepositWatch.Timely (watch : DepositWatch) (now : Nat) : Prop :=
  ∀ timeout, watch.timeout = some timeout → now + timeout < Instant.limit

namespace Awaiter

variable {awaiter : Awaiter S T E} {watch : DepositWatch} {now : Nat}

/-- The loop of a wait that begins now. -/
def loopAt (awaiter : Awaiter S T E) (watch : DepositWatch) (now : Nat) : PollLoop :=
  ⟨awaiter.name, watch.pollInterval, watch.timeout.map (now + ·)⟩

theorem start_eq_polling {matcher : Matcher S T E} {memory : S}
    (prepared : awaiter.prepare watch = .ok (matcher, memory)) (timely : watch.Timely now) :
    awaiter.start (some watch) now = .polling (awaiter.loopAt watch now) matcher memory := by
  cases timed : watch.timeout with
  | none => simp [start, loopAt, prepared, timed]
  | some timeout =>
      have reached : Instant.after? now timeout = some (now + timeout) := by
        simp [Instant.after?, timely timeout timed]
      simp [start, loopAt, prepared, timed, reached]

theorem start_eq_deadlineOverflow {matcher : Matcher S T E} {memory : S}
    (prepared : awaiter.prepare watch = .ok (matcher, memory)) (late : ¬ watch.Timely now) :
    awaiter.start (some watch) now = .deadlineOverflow := by
  cases timed : watch.timeout with
  | none => simp [DepositWatch.Timely, timed] at late
  | some timeout =>
      have missed : Instant.after? now timeout = none := by
        simpa [DepositWatch.Timely, timed, Instant.after?] using late
      simp [start, prepared, timed, missed]

end Awaiter
end BridgeClient
