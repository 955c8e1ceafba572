import BridgeClient.Metrics.Basic
import Mathlib.Algebra.BigOperators.Group.List.Basic
import Mathlib.Algebra.Order.Ring.Nat

set_option autoImplicit false

universe u

/-!
Counters and the events that raise them. Recording some events raises a counter by the number of
those events that are its own, and leaves alone what none of them is about.
-/
namespace BridgeClient

namespace FailureReason

theorem label_injective {reason cause : FailureReason} (same : reason.label = cause.label) :
    reason = cause := by
  cases reason <;> cases cause <;> first | rfl | exact absurd same (by decide)

end FailureReason

namespace Family

end Family

namespace Record

/-- A failed transaction of a program, for whatever reason. -/
def isFailureOf (program : String) : Record → Bool
  | transactionFailed name _ => name = program
  | _ => false

/-- A timed transaction of a program. -/
def isTimingOf (program : String) : Record → Bool
  | transactionTimed name _ => name = program
  | _ => false

end Record

/-- A weight that a list has nowhere but at some of its items. -/
theorem sum_map_filter {α : Type u} (items : List α) (among : α → Bool) (weight : α → Nat) :
    (items.map fun item => if among item then weight item else 0).sum =
      ((items.filter among).map weight).sum := by
  induction items with
  | nil => rfl
  | cons item rest ih =>
      rw [List.map_cons, List.sum_cons, ih, List.filter_cons]
      split
      · rw [List.map_cons, List.sum_cons]
      · rw [Nat.zero_add]

theorem sum_map_indicator {α : Type u} (items : List α) (among : α → Bool) :
    (items.map fun item => if among item then 1 else 0).sum = items.countP among := by
  rw [sum_map_filter items among fun _ => 1, List.map_const', List.sum_replicate_nat,
    List.countP_eq_length_filter, Nat.mul_one]

namespace Metrics

variable {measure : Metrics → Nat} {raises : Record → Bool}

theorem recordAll_append (metrics : Metrics) (earlier later : List Record) :
    metrics.recordAll (earlier ++ later) = (metrics.recordAll earlier).recordAll later := by
  rw [recordAll, List.foldl_append]
  rfl

/-- A measure that every event raises by one or leaves alone. -/
def CountsBy (measure : Metrics → Nat) (raises : Record → Bool) : Prop :=
  ∀ metrics event,
    measure (metrics.record event) = measure metrics + if raises event then 1 else 0

theorem CountsBy.recordAll (counts : CountsBy measure raises) (metrics : Metrics)
    (records : List Record) :
    measure (metrics.recordAll records) = measure metrics + records.countP raises := by
  induction records generalizing metrics with
  | nil => rfl
  | cons event rest ih =>
      have first := counts metrics event
      have others := ih (metrics.record event)
      rw [first] at others
      rw [List.countP_cons]
      exact others.trans (by omega)

theorem submitted_countsBy (program : String) :
    CountsBy (fun metrics => metrics.submitted.count [program])
      (· == .transactionSubmitted program) := by
  intro metrics event
  cases event with
  | transactionSubmitted name =>
      simp [record, Family.count_increment, eq_comm (a := program)]
  | _ => simp [record]

theorem batches_countsBy (program : String) :
    CountsBy (fun metrics => metrics.batches.count [program]) (· == .batchStarted program) := by
  intro metrics event
  cases event with
  | batchStarted name => simp [record, Family.count_increment, eq_comm (a := program)]
  | _ => simp [record]

theorem polls_countsBy (awaiter : String) :
    CountsBy (fun metrics => metrics.polls.count [awaiter]) (· == .pollStarted awaiter) := by
  intro metrics event
  cases event with
  | pollStarted name => simp [record, Family.count_increment, eq_comm (a := awaiter)]
  | _ => simp [record]

theorem retrievalErrors_countsBy (awaiter : String) :
    CountsBy (fun metrics => metrics.retrievalErrors.count [awaiter])
      (· == .retrievalFailed awaiter) := by
  intro metrics event
  cases event with
  | retrievalFailed name => simp [record, Family.count_increment, eq_comm (a := awaiter)]
  | _ => simp [record]

theorem deliveries_countsBy (awaiter : String) :
    CountsBy (fun metrics => metrics.deliveries.count [awaiter])
      (· == .depositDelivered awaiter) := by
  intro metrics event
  cases event with
  | depositDelivered name => simp [record, Family.count_increment, eq_comm (a := awaiter)]
  | _ => simp [record]

theorem level_record (metrics : Metrics) (event : Record) (awaiter : String) :
    (metrics.record event).active.level [awaiter] +
        (if event == .awaiterStopped awaiter then 1 else 0 : Nat) =
      metrics.active.level [awaiter] +
        (if event == .awaiterStarted awaiter then 1 else 0 : Nat) := by
  cases event with
  | awaiterStarted name | awaiterStopped name =>
      by_cases same : awaiter = name
      · subst same
        simp [record, Family.level, Family.find?_modify]
      · simp [record, Family.level, Family.find?_modify, same, Ne.symm same]
  | _ => simp [record]

/-- A level goes up with every awaiter that enters its loop and down with every one that leaves. -/
theorem level_recordAll (metrics : Metrics) (records : List Record) (awaiter : String) :
    (metrics.recordAll records).active.level [awaiter] +
        records.countP (· == .awaiterStopped awaiter) =
      metrics.active.level [awaiter] + records.countP (· == .awaiterStarted awaiter) := by
  induction records generalizing metrics with
  | nil => rfl
  | cons event rest ih =>
      have first := level_record metrics event awaiter
      have others := ih (metrics.record event)
      rw [List.countP_cons, List.countP_cons]
      change ((metrics.record event).recordAll rest).active.level [awaiter] + _ = _
      omega

theorem failed_countsBy (program : String) (reason : FailureReason) :
    CountsBy (fun metrics => metrics.failed.count [program, reason.label])
      (· == .transactionFailed program reason) := by
  intro metrics event
  cases event with
  | transactionFailed name cause =>
      have labels_iff : [program, reason.label] = [name, cause.label] ↔
          name = program ∧ cause = reason := by
        constructor
        · intro same
          simp only [List.cons.injEq, and_true] at same
          exact ⟨same.1.symm, (FailureReason.label_injective same.2).symm⟩
        · intro same
          rw [same.1, same.2]
      simp [record, Family.count_increment, labels_iff]
  | _ => simp [record]

/-- A failure is counted once, whatever its reason. -/
theorem failures_countsBy (program : String) :
    CountsBy (fun metrics => metrics.failures program) (Record.isFailureOf program) := by
  intro metrics event
  have each (reason : FailureReason) := failed_countsBy program reason metrics event
  cases event with
  | transactionFailed name cause =>
      simp only [beq_iff_eq, Record.transactionFailed.injEq] at each
      simp only [failures, FailureReason.all, List.foldl_cons, List.foldl_nil, each,
        Record.isFailureOf, decide_eq_true_eq]
      by_cases same : name = program
      · cases cause <;> simp [same] <;> omega
      · simp [same]
  | _ => rfl

theorem timed_countsBy (program : String) :
    CountsBy (fun metrics => metrics.timed program) (Record.isTimingOf program) := by
  intro metrics event
  cases event with
  | transactionTimed name seconds =>
      simp only [timed, record, Family.find?_modify, Record.isTimingOf, decide_eq_true_eq]
      by_cases same : name = program
      · subst same
        cases metrics.latency.find? [name] <;> simp [Histogram.observe, Histogram.empty]
      · have other : ¬ [program] = [name] := by
          simpa using Ne.symm same
        simp [other, same]
  | _ => rfl

end Metrics
end BridgeClient
