import BridgeClient.Metrics.Basic
import BridgeClient.Number.Shortest

set_option autoImplicit false

/-!
The metrics page. Families stand by name, each with its help and type, and without those that hold
nothing; samples stand by label values. A histogram shows cumulative buckets, sum and count.
-/
namespace BridgeClient.Metrics

/-- A label value with quotes, backslashes and line ends escaped. -/
def escapeLabel (value : String) : String :=
  String.ofList (value.toList.flatMap fun c =>
    if c = '\\' then ['\\', '\\']
    else if c = '"' then ['\\', '"']
    else if c = '\n' then ['\\', 'n']
    else [c])

/-- Labels in braces; nothing for none. -/
def labelText (labels : List (String × String)) : String :=
  if labels.isEmpty then ""
  else
    "\x7b" ++ ",".intercalate (labels.map fun l => l.1 ++ "=\"" ++ escapeLabel l.2 ++ "\"") ++ "\x7d"

def sample (name : String) (labels : List (String × String)) (value : String) : String :=
  name ++ labelText labels ++ " " ++ value

/-- A family with its text form. -/
structure Section where
  name : String
  help : String
  kind : String
  samples : List String

def Section.lines (s : Section) : List String :=
  if s.samples.isEmpty then []
  else ["# HELP " ++ s.name ++ " " ++ s.help, "# TYPE " ++ s.name ++ " " ++ s.kind] ++ s.samples

/-- Order of label values. -/
def labelsLe : List String → List String → Bool
  | [], _ => true
  | _ :: _, [] => false
  | a :: as, b :: bs => a < b || (a = b && labelsLe as bs)

def sorted {α : Type} (family : Family α) : List (List String × α) :=
  family.entries.mergeSort fun a b => labelsLe a.1 b.1

def counterSection (name help : String) (labelNames : List String) (family : Family Nat) :
    Section :=
  ⟨name, help, "counter", (sorted family).map fun entry =>
    sample name (labelNames.zip entry.1) (Binary64.ofNat entry.2).positional⟩

def gaugeSection (name help : String) (labelNames : List String) (family : Family Int) :
    Section :=
  ⟨name, help, "gauge", (sorted family).map fun entry =>
    sample name (labelNames.zip entry.1)
      ((if entry.2 < 0 then "-" else "") ++ (Binary64.ofNat entry.2.natAbs).positional)⟩

/-- The buckets with everything below them counted in. -/
def cumulative (below : Nat) : List Binary64 → List Nat → List (Binary64 × Nat)
  | bound :: bounds, bucket :: buckets =>
      (bound, below + bucket) :: cumulative (below + bucket) bounds buckets
  | _, _ => []

def histogramSamples (name : String) (labels : List (String × String)) (h : Histogram) :
    List String :=
  let bucket := fun (bound : String) (count : Nat) =>
    sample (name ++ "_bucket") (labels ++ [("le", bound)]) (Binary64.ofNat count).positional
  (cumulative 0 Histogram.bounds h.buckets).map (fun b => bucket b.1.positional b.2)
    ++ [bucket "+Inf" h.count, sample (name ++ "_sum") labels h.sum.positional,
      sample (name ++ "_count") labels (Binary64.ofNat h.count).positional]

def histogramSection (name help : String) (labelNames : List String)
    (family : Family Histogram) : Section :=
  ⟨name, help, "histogram", (sorted family).flatMap fun entry =>
    histogramSamples name (labelNames.zip entry.1) entry.2⟩

/-- The lines of the page. -/
def page (metrics : Metrics) : List String :=
  [counterSection "solanoid_awaiter_deliveries_total" "Total deposits matched and delivered"
      ["awaiter"] metrics.deliveries,
    counterSection "solanoid_awaiter_polls_total" "Total deposit awaiter polls"
      ["awaiter"] metrics.polls,
    counterSection "solanoid_awaiter_retrieval_errors_total" "Total failed deposit retrievals"
      ["awaiter"] metrics.retrievalErrors,
    gaugeSection "solanoid_awaiters_active" "Deposit awaiters currently polling"
      ["awaiter"] metrics.active,
    counterSection "solanoid_health_check_failure_total" "Total failed ledger RPC health checks"
      [] metrics.unhealthy,
    counterSection "solanoid_health_check_success_total"
      "Total successful ledger RPC health checks" [] metrics.healthy,
    counterSection "solanoid_instruction_batches_total"
      "Total multi-instruction transactions packed" ["program"] metrics.batches,
    histogramSection "solanoid_transaction_latency_seconds"
      "Time from blockhash fetch to submission" ["program"] metrics.latency,
    counterSection "solanoid_transactions_failed_total"
      "Total transactions that failed to build, sign or submit" ["program", "reason"]
      metrics.failed,
    counterSection "solanoid_transactions_submitted_total"
      "Total transactions accepted by the ledger node" ["program"] metrics.submitted].flatMap
    Section.lines

end BridgeClient.Metrics
