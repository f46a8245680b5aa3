import MagalixAgent.Scraper.RateTable
import MagalixAgent.Go.Map

namespace MagalixAgent.Scraper

/-! # The closures of `GetMetrics`

`GetMetrics` emits through four closures over shared variables: the metric
slice, the raw-response map and the kubelet's rate table. Every emission site is
a `Call` of one of them, so a cycle is described by the calls it makes, and the
closures give each call its effect on the shared state. -/

/-- One call of `addMetricValue`, `addMetricValueWithTags`, `addMetricValueRate`
or `addRawResponse`, with its arguments. -/
inductive Call
  | addMetricValue (measurementType measurement : String)
      (nodeID applicationID serviceID containerID : UUID) (podName : String)
      (timestamp : Time) (value : Int64)
  | addMetricValueWithTags (measurementType measurement : String)
      (nodeID applicationID serviceID containerID : UUID) (podName : String)
      (timestamp : Time) (value : Int64) (additionalTags : List (String × String))
  | addMetricValueRate (measurementType parentKey entityKey measurement : String)
      (nodeID applicationID serviceID containerID : UUID) (pod : String)
      (timestamp : Time) (value multiplier : Int64)
  | addRawResponse (nodeID : UUID) (data : String)

/-- The variables the closures share: `metrics`, `rawResponses` and
`kubelet.previous`. -/
structure Scrape where
  metrics : List Metrics
  rawResponses : String → Option String
  previous : RateTable

/-- The record `addMetricValue` appends: a zero `timestamp` becomes `tickTime`. -/
def metricValue (tickTime : Time) (measurementType measurement : String)
    (nodeID applicationID serviceID containerID : UUID) (podName : String)
    (timestamp : Time) (value : Int64) : Metrics :=
  { name := measurement, type := measurementType, node := nodeID,
    application := applicationID, service := serviceID, container := containerID,
    podName := podName, timestamp := timestamp.orTickTime tickTime, value := value,
    additionalTags := [] }

/-- The record `addMetricValueWithTags` appends, its timestamp as given. -/
def taggedValue (measurementType measurement : String)
    (nodeID applicationID serviceID containerID : UUID) (podName : String)
    (timestamp : Time) (value : Int64) (additionalTags : List (String × String)) : Metrics :=
  { name := measurement, type := measurementType, node := nodeID,
    application := applicationID, service := serviceID, container := containerID,
    podName := podName, timestamp := timestamp, value := value,
    additionalTags := additionalTags }

namespace Call

/-- What a call does when its closure runs to its end. `addMetricValueRate`
stamps a zero timestamp with `tickTime`, computes the rate against the table,
stores the new sample whatever the outcome, and appends a record only when
`calcRate` succeeded. -/
def run (tickTime : Time) : Call → Scrape → Scrape
  | addMetricValue measurementType measurement nodeID applicationID serviceID containerID
      podName timestamp value, scrape =>
      { scrape with metrics := scrape.metrics ++ [metricValue tickTime measurementType measurement
          nodeID applicationID serviceID containerID podName timestamp value] }
  | addMetricValueWithTags measurementType measurement nodeID applicationID serviceID
      containerID podName timestamp value additionalTags, scrape =>
      { scrape with metrics := scrape.metrics ++ [taggedValue measurementType measurement nodeID
          applicationID serviceID containerID podName timestamp value additionalTags] }
  | addMetricValueRate measurementType parentKey entityKey measurement nodeID applicationID
      serviceID containerID pod timestamp value multiplier, scrape =>
      let timestamp := timestamp.orTickTime tickTime
      let key := getKey measurementType parentKey entityKey measurement
      let rate := calcRate scrape.previous key timestamp value multiplier
      let scrape := { scrape with
        previous := updatePreviousValue scrape.previous key ⟨timestamp, value⟩ }
      match rate with
      | .error _ => scrape
      | .ok rate =>
          { scrape with metrics := scrape.metrics ++ [metricValue tickTime measurementType
              measurement nodeID applicationID serviceID containerID pod timestamp rate] }
  | addRawResponse nodeID data, scrape =>
      { scrape with
        rawResponses := Function.update scrape.rawResponses nodeID.string (some data) }

/-- The rate key an `addMetricValueRate` call reads and writes. -/
def rateKey : Call → Option String
  | addMetricValueRate measurementType parentKey entityKey measurement .. =>
      some (getKey measurementType parentKey entityKey measurement)
  | _ => none

/-- The raw-response key an `addRawResponse` call writes. -/
def rawKey : Call → Option String
  | addRawResponse nodeID _ => some nodeID.string
  | _ => none

/-- The records a call appends, given the table it finds. -/
def emitted (tickTime : Time) (previous : RateTable) : Call → List Metrics
  | addMetricValue measurementType measurement nodeID applicationID serviceID containerID
      podName timestamp value =>
      [metricValue tickTime measurementType measurement nodeID applicationID serviceID
        containerID podName timestamp value]
  | addMetricValueWithTags measurementType measurement nodeID applicationID serviceID
      containerID podName timestamp value additionalTags =>
      [taggedValue measurementType measurement nodeID applicationID serviceID containerID podName
        timestamp value additionalTags]
  | addMetricValueRate measurementType parentKey entityKey measurement nodeID applicationID
      serviceID containerID pod timestamp value multiplier =>
      match calcRate previous (getKey measurementType parentKey entityKey measurement)
          (timestamp.orTickTime tickTime) value multiplier with
      | .error _ => []
      | .ok rate =>
          [metricValue tickTime measurementType measurement nodeID applicationID serviceID
            containerID pod (timestamp.orTickTime tickTime) rate]
  | addRawResponse .. => []

/-- The table after a call. -/
def stored (tickTime : Time) (previous : RateTable) : Call → RateTable
  | addMetricValueRate measurementType parentKey entityKey measurement _ _ _ _ _ timestamp
      value _ =>
      updatePreviousValue previous (getKey measurementType parentKey entityKey measurement)
        ⟨timestamp.orTickTime tickTime, value⟩
  | _ => previous

/-- The raw-response map after a call. -/
def written (rawResponses : String → Option String) : Call → String → Option String
  | addRawResponse nodeID data => Function.update rawResponses nodeID.string (some data)
  | _ => rawResponses

@[simp] theorem run_metrics (tickTime : Time) (call : Call) (scrape : Scrape) :
    (call.run tickTime scrape).metrics =
      scrape.metrics ++ call.emitted tickTime scrape.previous := by
  cases call <;> simp only [run, emitted, List.append_nil]
  split <;> simp only [List.append_nil]

@[simp] theorem run_previous (tickTime : Time) (call : Call) (scrape : Scrape) :
    (call.run tickTime scrape).previous = call.stored tickTime scrape.previous := by
  cases call <;> simp only [run, stored]
  split <;> rfl

@[simp] theorem run_rawResponses (tickTime : Time) (call : Call) (scrape : Scrape) :
    (call.run tickTime scrape).rawResponses = call.written scrape.rawResponses := by
  cases call <;> simp only [run, written]
  split <;> rfl

/-- A record the call can append: its own arguments, the timestamp it stamps,
and, for an absolute, the value it is given. A rate call's value is whatever
`calcRate` returns. -/
def Yields (tickTime : Time) : Call → Metrics → Prop
  | addMetricValue measurementType measurement nodeID applicationID serviceID containerID
      podName timestamp value, record =>
      record = metricValue tickTime measurementType measurement nodeID applicationID serviceID
        containerID podName timestamp value
  | addMetricValueWithTags measurementType measurement nodeID applicationID serviceID
      containerID podName timestamp value additionalTags, record =>
      record = taggedValue measurementType measurement nodeID applicationID serviceID containerID
        podName timestamp value additionalTags
  | addMetricValueRate measurementType _ _ measurement nodeID applicationID serviceID
      containerID pod timestamp _ _, record =>
      ∃ rate, record = metricValue tickTime measurementType measurement nodeID applicationID
        serviceID containerID pod (timestamp.orTickTime tickTime) rate
  | addRawResponse .., _ => False

theorem yields_of_mem_emitted {tickTime : Time} {previous : RateTable} {call : Call}
    {record : Metrics} (member : record ∈ call.emitted tickTime previous) :
    call.Yields tickTime record := by
  cases call <;> simp only [emitted, List.mem_singleton] at member
  case addMetricValueRate =>
    split at member
    · simp at member
    · exact ⟨_, List.mem_singleton.mp member⟩
  all_goals first | exact member | simp at member

end Call

/-- The calls of one sequential stretch of code, run in order. -/
def runCalls (tickTime : Time) (calls : List Call) (scrape : Scrape) : Scrape :=
  calls.foldl (fun scrape call => call.run tickTime scrape) scrape

@[simp] theorem runCalls_nil (tickTime : Time) (scrape : Scrape) :
    runCalls tickTime [] scrape = scrape := rfl

@[simp] theorem runCalls_cons (tickTime : Time) (call : Call) (calls : List Call)
    (scrape : Scrape) :
    runCalls tickTime (call :: calls) scrape = runCalls tickTime calls (call.run tickTime scrape) :=
  rfl

theorem runCalls_append (tickTime : Time) (first second : List Call) (scrape : Scrape) :
    runCalls tickTime (first ++ second) scrape =
      runCalls tickTime second (runCalls tickTime first scrape) :=
  List.foldl_append _ _ _ _

/-- The records a run appends all come from its calls. -/
theorem mem_runCalls_metrics {tickTime : Time} {calls : List Call} {scrape : Scrape}
    {record : Metrics} (member : record ∈ (runCalls tickTime calls scrape).metrics) :
    record ∈ scrape.metrics ∨ ∃ call ∈ calls, call.Yields tickTime record := by
  induction calls generalizing scrape with
  | nil => exact .inl member
  | cons call rest induction =>
      rcases induction member with member | ⟨other, otherMember, yields⟩
      · simp only [Call.run_metrics, List.mem_append] at member
        rcases member with member | member
        · exact .inl member
        · exact .inr ⟨call, List.mem_cons_self _ _, Call.yields_of_mem_emitted member⟩
      · exact .inr ⟨other, List.mem_cons_of_mem _ otherMember, yields⟩

/-- A run keeps the records it finds. -/
theorem metrics_prefix_runCalls (tickTime : Time) (calls : List Call) (scrape : Scrape) :
    scrape.metrics <+: (runCalls tickTime calls scrape).metrics := by
  induction calls generalizing scrape with
  | nil => exact List.prefix_refl _
  | cons call rest induction =>
      exact (List.prefix_append _ _).trans
        (by simpa only [Call.run_metrics] using induction (call.run tickTime scrape))

/-- A record a call appends whatever the table holds is in every run of it. -/
theorem mem_runCalls_of_emitted {tickTime : Time} {calls : List Call} {call : Call}
    (member : call ∈ calls) {record : Metrics}
    (always : ∀ previous, record ∈ call.emitted tickTime previous) (scrape : Scrape) :
    record ∈ (runCalls tickTime calls scrape).metrics := by
  induction calls generalizing scrape with
  | nil => cases member
  | cons head rest induction =>
      rw [runCalls_cons]
      rcases List.mem_cons.mp member with rfl | later
      · refine (metrics_prefix_runCalls _ _ _).mem ?_
        rw [Call.run_metrics]
        exact List.mem_append_right _ (always _)
      · exact induction later _

end MagalixAgent.Scraper
