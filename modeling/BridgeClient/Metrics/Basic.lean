import BridgeClient.Error
import BridgeClient.Number.Binary64

set_option autoImplicit false

/-! What the client counts about itself: transactions by program, deposit watches by awaiter. -/
namespace BridgeClient

/-- Values by their labels. A label that was never touched has no entry. -/
structure Family (α : Type) where
  entries : List (List String × α)

namespace Family

variable {α : Type}

def empty : Family α := ⟨[]⟩

def find? (family : Family α) (labels : List String) : Option α := family.entries.lookup labels

/-- Changes one value, starting from `initial` if there is none. -/
def change (initial : α) (step : α → α) (labels : List String) :
    List (List String × α) → List (List String × α)
  | [] => [(labels, step initial)]
  | entry :: rest =>
      if entry.1 = labels then (labels, step entry.2) :: rest
      else entry :: change initial step labels rest

def modify (family : Family α) (initial : α) (step : α → α) (labels : List String) : Family α :=
  ⟨change initial step labels family.entries⟩

theorem find?_modify (family : Family α) (initial : α) (step : α → α)
    (labels other : List String) :
    (family.modify initial step labels).find? other =
      if other = labels then some (step ((family.find? labels).getD initial))
      else family.find? other := by
  unfold modify find?
  induction family.entries with
  | nil =>
      by_cases h : other = labels
      · subst h; simp [change]
      · have hne : (other == labels) = false := by simp [h]
        simp [change, List.lookup_cons, hne, h]
  | cons entry rest ih =>
      rcases entry with ⟨name, value⟩
      by_cases he : name = labels
      · subst he
        by_cases h : other = name
        · subst h; simp [change]
        · have hne : (other == name) = false := by simp [h]
          simp [change, List.lookup_cons, hne, h]
      · by_cases h : other = labels
        · subst h
          have hne : (other == name) = false := by
            simp only [beq_eq_false_iff_ne]
            exact fun hc => he hc.symm
          simp only [change, he, if_false, List.lookup_cons, hne]
          simpa using ih
        · by_cases hn : other = name
          · subst hn; simp [change, h]
          · have hne : (other == name) = false := by simp [hn]
            simp only [change, he, if_false, List.lookup_cons, hne]
            simpa [h] using ih

/-- A count; zero where nothing was counted. -/
def count (family : Family Nat) (labels : List String) : Nat := (family.find? labels).getD 0

/-- A level; zero where it never moved. -/
def level (family : Family Int) (labels : List String) : Int := (family.find? labels).getD 0

def increment (family : Family Nat) (labels : List String) : Family Nat :=
  family.modify 0 (· + 1) labels

theorem count_increment (family : Family Nat) (labels other : List String) :
    (family.increment labels).count other =
      family.count other + if other = labels then 1 else 0 := by
  unfold count increment
  rw [find?_modify]
  split
  · rename_i h; subst h; simp
  · simp

end Family

/-- Observed durations: how many fell up to each bound and not up to a smaller one, their sum, and
their number. -/
structure Histogram where
  buckets : List Nat
  sum : Binary64
  count : Nat

namespace Histogram

/-- Upper bounds in seconds: 0.05, 0.1, 0.25, 0.5, 1, 2.5, 5 and 10. -/
def bounds : List Binary64 :=
  [⟨0x3fa999999999999a⟩, ⟨0x3fb999999999999a⟩, ⟨0x3fd0000000000000⟩, ⟨0x3fe0000000000000⟩,
    ⟨0x3ff0000000000000⟩, ⟨0x4004000000000000⟩, ⟨0x4014000000000000⟩, ⟨0x4024000000000000⟩]

def empty : Histogram := ⟨bounds.map fun _ => 0, .zero, 0⟩

/-- Counts a duration in the first bucket whose bound it does not exceed. -/
def place (seconds : Binary64) : List Binary64 → List Nat → List Nat
  | bound :: bounds, bucket :: buckets =>
      if seconds.le bound then (bucket + 1) :: buckets
      else bucket :: place seconds bounds buckets
  | _, buckets => buckets

def observe (histogram : Histogram) (seconds : Binary64) : Histogram :=
  ⟨place seconds bounds histogram.buckets, histogram.sum.add seconds, histogram.count + 1⟩

end Histogram

/-- One event to be counted. -/
inductive Record where
  | transactionSubmitted (program : String)
  | transactionFailed (program : String) (reason : FailureReason)
  | batchStarted (program : String)
  | transactionTimed (program : String) (seconds : Binary64)
  | pollStarted (awaiter : String)
  | retrievalFailed (awaiter : String)
  | depositDelivered (awaiter : String)
  | awaiterStarted (awaiter : String)
  | awaiterStopped (awaiter : String)
  | healthy
  | unhealthy
deriving DecidableEq

structure Metrics where
  submitted : Family Nat
  failed : Family Nat
  batches : Family Nat
  latency : Family Histogram
  polls : Family Nat
  retrievalErrors : Family Nat
  deliveries : Family Nat
  active : Family Int
  healthy : Family Nat
  unhealthy : Family Nat

namespace Metrics

def empty : Metrics :=
  ⟨.empty, .empty, .empty, .empty, .empty, .empty, .empty, .empty, .empty, .empty⟩

def record (metrics : Metrics) : Record → Metrics
  | .transactionSubmitted program =>
      { metrics with submitted := metrics.submitted.increment [program] }
  | .transactionFailed program reason =>
      { metrics with failed := metrics.failed.increment [program, reason.label] }
  | .batchStarted program => { metrics with batches := metrics.batches.increment [program] }
  | .transactionTimed program seconds =>
      { metrics with
        latency := metrics.latency.modify .empty (fun h => h.observe seconds) [program] }
  | .pollStarted awaiter => { metrics with polls := metrics.polls.increment [awaiter] }
  | .retrievalFailed awaiter =>
      { metrics with retrievalErrors := metrics.retrievalErrors.increment [awaiter] }
  | .depositDelivered awaiter =>
      { metrics with deliveries := metrics.deliveries.increment [awaiter] }
  | .awaiterStarted awaiter =>
      { metrics with active := metrics.active.modify 0 (· + 1) [awaiter] }
  | .awaiterStopped awaiter =>
      { metrics with active := metrics.active.modify 0 (· - 1) [awaiter] }
  | .healthy => { metrics with healthy := metrics.healthy.increment [] }
  | .unhealthy => { metrics with unhealthy := metrics.unhealthy.increment [] }

def recordAll (metrics : Metrics) (records : List Record) : Metrics := records.foldl record metrics

/-- Failed transactions of a program, whatever the reason. -/
def failures (metrics : Metrics) (program : String) : Nat :=
  FailureReason.all.foldl
    (fun total reason => total + metrics.failed.count [program, reason.label]) 0

/-- Timed transactions of a program. -/
def timed (metrics : Metrics) (program : String) : Nat :=
  ((metrics.latency.find? [program]).map Histogram.count).getD 0

end Metrics
end BridgeClient
