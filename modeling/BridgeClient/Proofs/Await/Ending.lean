import BridgeClient.Proofs.Await.Stepping

set_option autoImplicit false

/-!
What one run of the poll loop comes to. The matcher is offered every value that was retrieved, once
and in order; the first one that it picks is the last to be retrieved, and its event is the only one
delivered. A run that ends without delivery names what kept it from delivering, and that has happened.
-/
namespace BridgeClient

variable {S T E : Type}

namespace Matcher

variable {matcher : Matcher S T E} {memory : S}

/-- The memory after values were offered one after the other. -/
def remember (matcher : Matcher S T E) (memory : S) (values : List T) : S :=
  values.foldl (fun memory value => (matcher.offer memory value).2) memory

/-- The answer to a value that is offered after others. -/
def answer (matcher : Matcher S T E) (memory : S) (earlier : List T) (value : T) : Option E :=
  (matcher.offer (matcher.remember memory earlier) value).1

/-- None of some values is picked when they are offered one after the other. -/
def Passes (matcher : Matcher S T E) (memory : S) (values : List T) : Prop :=
  ∀ earlier value later, values = earlier ++ value :: later →
    matcher.answer memory earlier value = none

@[simp] theorem remember_concat (values : List T) (value : T) :
    matcher.remember memory (values ++ [value]) =
      (matcher.offer (matcher.remember memory values) value).2 := by
  simp [remember]

theorem passes_nil : matcher.Passes memory [] := by
  intro earlier value later split
  simp at split

theorem passes_concat_iff {values : List T} {value : T} :
    matcher.Passes memory (values ++ [value]) ↔
      matcher.Passes memory values ∧ matcher.answer memory values value = none := by
  constructor
  · intro passes
    refine ⟨?_, passes values value [] rfl⟩
    intro earlier next later split
    apply passes earlier next (later ++ [value])
    rw [split, List.append_assoc, List.cons_append]
  · rintro ⟨passes, last⟩ earlier next later split
    rcases List.eq_nil_or_concat later with rfl | ⟨middle, final, rfl⟩
    · obtain ⟨same, only⟩ := List.append_inj' split rfl
      cases only
      exact same ▸ last
    · rw [List.concat_eq_append, ← List.cons_append, ← List.append_assoc] at split
      obtain ⟨same, -⟩ := List.append_inj' split rfl
      exact passes earlier next middle same

end Matcher

namespace LoopSignal

/-- The outcome of the retrieval that a signal ends. -/
def outcome? : LoopSignal T → Option (Except BridgeError T)
  | .retrieved outcome => some outcome
  | _ => none

/-- The outcomes that a run was handed, in order. -/
def outcomes (signals : List (LoopSignal T)) : List (Except BridgeError T) :=
  signals.filterMap outcome?

/-- The values among some outcomes. -/
def values (outcomes : List (Except BridgeError T)) : List T :=
  outcomes.filterMap Except.toOption

theorem outcomes_append (before after : List (LoopSignal T)) :
    outcomes (before ++ after) = outcomes before ++ outcomes after :=
  List.filterMap_append

theorem outcomes_concat_of_none {signals : List (LoopSignal T)} {signal : LoopSignal T}
    (other : signal.outcome? = none) : outcomes (signals ++ [signal]) = outcomes signals := by
  simp [outcomes, other]

@[simp] theorem outcomes_concat_retrieved (signals : List (LoopSignal T))
    (outcome : Except BridgeError T) :
    outcomes (signals ++ [.retrieved outcome]) = outcomes signals ++ [outcome] := by
  simp [outcomes, outcome?]

@[simp] theorem values_concat_ok (outcomes : List (Except BridgeError T)) (value : T) :
    values (outcomes ++ [.ok value]) = values outcomes ++ [value] := by
  simp [values, Except.toOption]

@[simp] theorem values_concat_error (outcomes : List (Except BridgeError T))
    (reason : BridgeError) : values (outcomes ++ [.error reason]) = values outcomes := by
  simp [values, Except.toOption]

end LoopSignal

open LoopSignal

/-- The last of some outcomes is the first value that the matcher picks. -/
def Matcher.PicksLast (matcher : Matcher S T E) (memory : S)
    (outcomes : List (Except BridgeError T)) (event : E) : Prop :=
  ∃ earlier value, outcomes = earlier ++ [.ok value] ∧ matcher.Passes memory (values earlier) ∧
    matcher.answer memory (values earlier) value = some event

namespace PollLoop

variable {loop : PollLoop} {matcher : Matcher S T E} {memory : S}

/-- A phase that a run can be in after some signals, and what it has delivered by then. -/
inductive Arrives (loop : PollLoop) (matcher : Matcher S T E) (memory : S)
    (signals : List (LoopSignal T)) : LoopPhase E → List E → Prop
  | retrieving (passed : matcher.Passes memory (values (outcomes signals))) :
      Arrives loop matcher memory signals .retrieving []
  | resting {stopVisible : Bool} (passed : matcher.Passes memory (values (outcomes signals)))
      (stop : stopVisible = true → .cancel ∈ signals ∨ .expire ∈ signals) :
      Arrives loop matcher memory signals (.resting stopVisible) []
  | delivering {event : E} (picked : matcher.PicksLast memory (outcomes signals) event) :
      Arrives loop matcher memory signals (.delivering event) []
  | delivered {event : E} (picked : matcher.PicksLast memory (outcomes signals) event) :
      Arrives loop matcher memory signals (.finished (.ok ())) [event]
  | canceled (seen : .cancel ∈ signals) :
      Arrives loop matcher memory signals (.finished (.error .canceled)) []
  | timedOut (timed : loop.deadline.isSome = true) (seen : .expire ∈ signals) :
      Arrives loop matcher memory signals (.finished (.error loop.timeoutError)) []
  | closed (seen : .dropReceiver ∈ signals) :
      Arrives loop matcher memory signals (.finished (.error .channelClosed)) []
  | aborted (seen : .abort ∈ signals) : Arrives loop matcher memory signals .aborted []

/-- What a run has taken note of has happened. -/
structure Aware (loop : PollLoop) (signals : List (LoopSignal T)) (state : LoopState S E) :
    Prop where
  cancelled : state.cancelled = true → .cancel ∈ signals
  expired : state.expired = true → loop.deadline.isSome = true ∧ .expire ∈ signals
  receiverGone : state.receiverGone = true → .dropReceiver ∈ signals

/-- Where a run stands after some signals. -/
structure Standing (loop : PollLoop) (matcher : Matcher S T E) (memory : S)
    (signals : List (LoopSignal T)) (state : LoopState S E) : Prop where
  aware : Aware loop signals state
  offered : state.memory = matcher.remember memory (values (outcomes signals))
  arrives : Arrives loop matcher memory signals state.phase state.delivered

theorem standing_begin : Standing loop matcher memory [] (begin memory) where
  aware := ⟨by simp [begin], by simp [begin], by simp [begin]⟩
  offered := rfl
  arrives := .retrieving Matcher.passes_nil

theorem Aware.step {past : List (LoopSignal T)} {state next : LoopState S E}
    {signal : LoopSignal T} {records : List Record} (aware : Aware loop past state)
    (step : Steps loop matcher state signal next records) :
    Aware loop (past ++ [signal]) next where
  cancelled := by
    intro seen
    cases step with
    | cancel => simp
    | _ => exact List.mem_append_left _ (aware.cancelled seen)
  expired := by
    intro seen
    cases step with
    | expire timed => simp [timed]
    | _ => exact (aware.expired seen).imp_right (List.mem_append_left _)
  receiverGone := by
    intro seen
    cases step with
    | dropReceiver => simp
    | _ => exact List.mem_append_left _ (aware.receiverGone seen)

/-- A signal that ends no retrieval changes nothing about what was reached before it. -/
theorem Arrives.later {signals : List (LoopSignal T)} {signal : LoopSignal T}
    {phase : LoopPhase E} {delivered : List E}
    (arrives : Arrives loop matcher memory signals phase delivered)
    (other : signal.outcome? = none) :
    Arrives loop matcher memory (signals ++ [signal]) phase delivered := by
  have same : outcomes (signals ++ [signal]) = outcomes signals := outcomes_concat_of_none other
  cases arrives with
  | retrieving passed => exact .retrieving (same ▸ passed)
  | resting passed stop =>
      refine .resting (same ▸ passed) ?_
      intro visible
      exact (stop visible).imp (List.mem_append_left _) (List.mem_append_left _)
  | delivering picked => exact .delivering (same ▸ picked)
  | delivered picked => exact .delivered (same ▸ picked)
  | canceled seen => exact .canceled (List.mem_append_left _ seen)
  | timedOut timed seen => exact .timedOut timed (List.mem_append_left _ seen)
  | closed seen => exact .closed (List.mem_append_left _ seen)
  | aborted seen => exact .aborted (List.mem_append_left _ seen)

theorem Arrives.step {past : List (LoopSignal T)} {state next : LoopState S E}
    {signal : LoopSignal T} {records : List Record}
    (stands : Standing loop matcher memory past state)
    (step : Steps loop matcher state signal next records) :
    Arrives loop matcher memory (past ++ [signal]) next.phase next.delivered := by
  obtain ⟨aware, offered, arrives⟩ := stands
  have visible : (state.cancelled || state.expired) = true →
      .cancel ∈ past ++ [signal] ∨ .expire ∈ past ++ [signal] := by
    intro seen
    rcases (Bool.or_eq_true ..).mp seen with seen | seen
    · exact Or.inl (List.mem_append_left _ (aware.cancelled seen))
    · exact Or.inr (List.mem_append_left _ (aware.expired seen).2)
  obtain ⟨phase, held, cancelled, expired, gone, delivered⟩ := state
  cases step with
  | cancel => exact arrives.later rfl
  | expire timed => exact arrives.later rfl
  | dropReceiver => exact arrives.later rfl
  | failed retrieving =>
      cases retrieving
      cases arrives with
      | retrieving passed =>
          refine .resting ?_ visible
          rwa [outcomes_concat_retrieved, values_concat_error]
  | passed retrieving answer =>
      cases retrieving
      cases arrives with
      | retrieving passed =>
          refine .resting ?_ visible
          rw [outcomes_concat_retrieved, values_concat_ok, Matcher.passes_concat_iff]
          refine ⟨passed, ?_⟩
          rw [Matcher.answer, ← offered, answer]
  | picked retrieving answer =>
      cases retrieving
      cases arrives with
      | retrieving passed =>
          refine .delivering ⟨_, _, outcomes_concat_retrieved .., passed, ?_⟩
          rw [Matcher.answer, ← offered, answer]
  | delivered delivering open_ =>
      cases delivering
      cases arrives with
      | delivering picked => exact (Arrives.delivered picked).later rfl
  | refused delivering closed =>
      cases delivering
      cases arrives with
      | delivering picked => exact .closed (List.mem_append_left _ (aware.receiverGone closed))
  | rested resting elapsed =>
      cases resting
      cases arrives with
      | resting passed stop => exact (Arrives.retrieving passed).later rfl
  | noticeCancel waiting seen =>
      have happened := List.mem_append_left [.noticeCancel] (aware.cancelled seen)
      cases arrives with
      | retrieving | resting => exact .canceled happened
      | _ => cases waiting
  | noticeExpiry waiting seen =>
      obtain ⟨timed, reached⟩ := aware.expired seen
      have happened := List.mem_append_left [.noticeExpiry] reached
      cases arrives with
      | retrieving | resting => exact .timedOut timed happened
      | _ => cases waiting
  | abort running =>
      have happened : .abort ∈ past ++ [.abort] := by simp
      cases arrives with
      | retrieving | resting | delivering => exact .aborted happened
      | _ => cases running

theorem Standing.step {past : List (LoopSignal T)} {state next : LoopState S E}
    {signal : LoopSignal T} {records : List Record}
    (stands : Standing loop matcher memory past state)
    (step : Steps loop matcher state signal next records) :
    Standing loop matcher memory (past ++ [signal]) next where
  aware := stands.aware.step step
  offered := by
    have offered := stands.offered
    cases step with
    | failed => rw [outcomes_concat_retrieved, values_concat_error]; exact offered
    | passed retrieving answer =>
        rw [outcomes_concat_retrieved, values_concat_ok, Matcher.remember_concat, ← offered, answer]
        rfl
    | picked retrieving answer =>
        rw [outcomes_concat_retrieved, values_concat_ok, Matcher.remember_concat, ← offered, answer]
    | _ => rw [outcomes_concat_of_none rfl]; exact offered
  arrives := Arrives.step stands step

theorem standing_of_run {signals : List (LoopSignal T)} {last : LoopState S E}
    {records : List Record} (run : loop.run? matcher memory signals = some (last, records)) :
    Standing loop matcher memory signals last := by
  obtain ⟨⟨_, more⟩, followed, same⟩ := Option.map_eq_some_iff.mp run
  cases same
  exact follow?_keeps (fun stands step => Standing.step stands step) standing_begin followed

namespace Arrives

variable {signals : List (LoopSignal T)} {phase : LoopPhase E} {delivered : List E}

theorem length_delivered (arrives : Arrives loop matcher memory signals phase delivered) :
    delivered.length ≤ 1 := by
  cases arrives <;> simp

theorem ok_iff (arrives : Arrives loop matcher memory signals phase delivered) :
    phase = .finished (.ok ()) ↔ delivered ≠ [] := by
  cases arrives <;> simp

theorem picked {event : E} (arrives : Arrives loop matcher memory signals phase delivered)
    (inside : event ∈ delivered) : matcher.PicksLast memory (outcomes signals) event := by
  cases arrives with
  | delivered picked =>
      cases List.mem_singleton.mp inside
      exact picked
  | _ => cases inside

/-- An error tells of something that has happened, and nothing was delivered. -/
theorem of_error {reason : BridgeError}
    (arrives : Arrives loop matcher memory signals (.finished (.error reason)) delivered) :
    delivered = [] ∧
      (reason = .canceled ∧ .cancel ∈ signals ∨
        reason = loop.timeoutError ∧ loop.deadline.isSome = true ∧ .expire ∈ signals ∨
        reason = .channelClosed ∧ .dropReceiver ∈ signals) := by
  cases arrives with
  | canceled seen => exact ⟨rfl, Or.inl ⟨rfl, seen⟩⟩
  | timedOut timed seen => exact ⟨rfl, Or.inr (Or.inl ⟨rfl, timed, seen⟩)⟩
  | closed seen => exact ⟨rfl, Or.inr (Or.inr ⟨rfl, seen⟩)⟩

end Arrives

/-- What a run has come to after some signals. -/
structure Settles (loop : PollLoop) (matcher : Matcher S T E) (memory : S)
    (signals : List (LoopSignal T)) (last : LoopState S E) : Prop where
  /-- The matcher was offered each value that was retrieved, once and in order, and nothing else. -/
  offered : last.memory = matcher.remember memory (values (outcomes signals))
  once : last.delivered.length ≤ 1
  ok_iff : last.phase = .finished (.ok ()) ↔ last.delivered ≠ []
  /-- What is delivered is the answer to the first value that the matcher picks, and no retrieval
  has ended since. -/
  event : ∀ event ∈ last.delivered, matcher.PicksLast memory (outcomes signals) event
  canceled : last.phase = .finished (.error .canceled) → .cancel ∈ signals ∧ last.delivered = []
  timedOut : ∀ operation, last.phase = .finished (.error (.timeout operation)) →
    loop.deadline.isSome = true ∧ .expire ∈ signals ∧ last.delivered = []
  closed : last.phase = .finished (.error .channelClosed) →
    .dropReceiver ∈ signals ∧ last.delivered = []
  /-- There are no other errors. -/
  errors : ∀ reason, last.phase = .finished (.error reason) →
    reason = .canceled ∨ reason = loop.timeoutError ∨ reason = .channelClosed
  /-- Once a run is over, no retrieval begins or ends, and nothing changes about how it ended. -/
  silent : ∀ before after ended records, signals = before ++ after →
    loop.run? matcher memory before = some (ended, records) → isOver ended = true →
      (∀ outcome, .retrieved outcome ∉ after) ∧ .rested ∉ after ∧
        last.phase = ended.phase ∧ last.delivered = ended.delivered

/-- Whatever is retrieved, however the matcher answers, and whenever the token is cancelled, the
deadline reached, the receiver dropped or the task aborted: rests may be as short as nothing here,
so nothing leans on which of two signals that could come is first. -/
theorem run_settles (loop : PollLoop) (matcher : Matcher S T E) (memory : S)
    (signals : List (LoopSignal T)) (last : LoopState S E) (records : List Record)
    (run : loop.run? matcher memory signals = some (last, records)) :
    Settles loop matcher memory signals last := by
  have stands := standing_of_run run
  have arrives := stands.arrives
  refine ⟨stands.offered, arrives.length_delivered, arrives.ok_iff,
    fun event inside => arrives.picked inside, ?_, ?_, ?_, ?_, ?_⟩
  · intro ended
    obtain ⟨nothing, ⟨_, seen⟩ | ⟨other, _⟩ | ⟨other, _⟩⟩ := (ended ▸ arrives).of_error
    · exact ⟨seen, nothing⟩
    · cases other
    · cases other
  · intro operation ended
    obtain ⟨nothing, ⟨other, _⟩ | ⟨_, timed, seen⟩ | ⟨other, _⟩⟩ := (ended ▸ arrives).of_error
    · cases other
    · exact ⟨timed, seen, nothing⟩
    · cases other
  · intro ended
    obtain ⟨nothing, ⟨other, _⟩ | ⟨other, _⟩ | ⟨_, seen⟩⟩ := (ended ▸ arrives).of_error
    · cases other
    · cases other
    · exact ⟨seen, nothing⟩
  · intro reason ended
    obtain ⟨_, cause⟩ := (ended ▸ arrives).of_error
    exact cause.imp And.left (Or.imp And.left And.left)
  · intro before after ended counted split early stopped
    rw [split, run?_append_eq_some_iff] at run
    obtain ⟨middle, first, more, front, back, _⟩ := run
    rw [early] at front
    cases front
    obtain ⟨around, phase, delivered⟩ := follow?_of_isOver back stopped
    refine ⟨?_, ?_, phase, delivered⟩
    · intro outcome inside
      simpa using around _ inside
    · intro inside
      simpa using around _ inside

/-- A matcher that remembers all it was offered and picks a value that it meets again: it is not
offered the failed retrieval, and what comes while the channel takes the event comes too late. -/
theorem run_settles_value_met_again :
    let loop : PollLoop := ⟨"generic", 5000, some 60000⟩
    let matcher : Matcher (List Nat) Nat Nat :=
      ⟨fun seen value => (if value ∈ seen then some value else none, seen ++ [value])⟩
    let signals : List (LoopSignal Nat) :=
      [.retrieved (.ok 7), .rested, .retrieved (.error .channelClosed), .rested, .expire,
        .retrieved (.ok 7), .cancel, .delivered, .dropReceiver]
    ∃ last records, loop.run? matcher [] signals = some (last, records) ∧
      last.memory = [7, 7] ∧ last.delivered = [7] ∧ Settles loop matcher [] signals last :=
  ⟨_, _, rfl, rfl, rfl, run_settles _ _ _ _ _ _ rfl⟩

end PollLoop
end BridgeClient
