import MagalixAgent.Scraper.NodeTask

namespace MagalixAgent.Scraper

/-! # One `GetMetrics` cycle

The node tasks run concurrently under `alltogether`. They share the metric
slice, the raw-response map and the rate table, each guarded by its own mutex,
so a task advances by critical sections: `addMetricValue`,
`addMetricValueWithTags` and `addRawResponse` are one section each, and
`addMetricValueRate` is three (`getPreviousValue`, `updatePreviousValue`, then
the append of the rate). A schedule lists which task runs its next section;
after it, `pr.Do()` waits, which the model renders by running every task to its
end. -/

/-- Where a task stands inside a call: before it, after `getPreviousValue` with
the sample it read, or after `updatePreviousValue` with the rate `calcRate`
returned. -/
inductive Phase
  | start
  | read (sample : Option KubeletValue)
  | stored (rate : Except String Int64)

namespace Call

/-- One critical section of a call from `phase`: the shared state after it, and
the phase the call goes on from, or `none` once the call has returned. -/
def step (tickTime : Time) : Call → Phase → Scrape → Scrape × Option Phase
  | addMetricValueRate measurementType parentKey entityKey measurement _ _ _ _ _ _ _ _,
      .start, scrape =>
      (scrape, some (.read (scrape.previous (getKey measurementType parentKey entityKey measurement))))
  | addMetricValueRate measurementType parentKey entityKey measurement _ _ _ _ _ timestamp value
      multiplier, .read sample, scrape =>
      let timestamp := timestamp.orTickTime tickTime
      let key := getKey measurementType parentKey entityKey measurement
      let rate := match sample with
        | none => .error "No previous value"
        | some sample => rateSince sample timestamp value multiplier
      ({ scrape with previous := updatePreviousValue scrape.previous key ⟨timestamp, value⟩ },
        some (.stored rate))
  | addMetricValueRate measurementType _ _ measurement nodeID applicationID serviceID containerID
      pod timestamp _ _, .stored rate, scrape =>
      match rate with
      | .error _ => (scrape, none)
      | .ok rate =>
          ({ scrape with metrics := scrape.metrics ++ [metricValue tickTime measurementType
              measurement nodeID applicationID serviceID containerID pod
              (timestamp.orTickTime tickTime) rate] }, none)
  | call, _, scrape => (call.run tickTime scrape, none)

/-- The number of critical sections of a call. -/
def sections : Call → Nat
  | addMetricValueRate .. => 3
  | _ => 1

end Call

/-- A task between two critical sections: the calls it has still to make, and
where it stands in the first of them. -/
structure Task where
  calls : List Call
  phase : Phase

namespace Task

/-- A task about to make `calls`. -/
def start (calls : List Call) : Task := ⟨calls, .start⟩

/-- The task runs its next critical section; a finished task does nothing. -/
def step (tickTime : Time) (task : Task) (scrape : Scrape) : Task × Scrape :=
  match task.calls with
  | [] => (task, scrape)
  | call :: rest =>
      match call.step tickTime task.phase scrape with
      | (scrape, none) => (⟨rest, .start⟩, scrape)
      | (scrape, some phase) => (⟨call :: rest, phase⟩, scrape)

/-- The task runs `count` critical sections with nobody else running. -/
def run (tickTime : Time) : Nat → Task × Scrape → Task × Scrape
  | 0, state => state
  | count + 1, state => run tickTime count (state.1.step tickTime state.2)

end Task

/-- The critical sections a list of calls takes. -/
def sectionsOf (calls : List Call) : Nat := (calls.map Call.sections).sum

/-- The node tasks, by the position of their node, and the state they share. -/
structure Pool where
  tasks : Nat → Task
  scrape : Scrape

namespace Pool

/-- The node tasks about to make the calls of `programs`, sharing `scrape`. -/
def start (programs : List (List Call)) (scrape : Scrape) : Pool :=
  ⟨fun index => Task.start (programs.getD index []), scrape⟩

/-- Task `index` runs its next critical section. -/
def step (tickTime : Time) (pool : Pool) (index : Nat) : Pool :=
  ⟨Function.update pool.tasks index ((pool.tasks index).step tickTime pool.scrape).1,
    ((pool.tasks index).step tickTime pool.scrape).2⟩

/-- The tasks run their sections in the order of `schedule`. -/
def run (tickTime : Time) (pool : Pool) (schedule : List Nat) : Pool :=
  schedule.foldl (step tickTime) pool

end Pool

/-- The wait of `pr.Do()`: each task in turn runs as many sections as its calls
take. -/
def drain (programs : List (List Call)) : List Nat :=
  (List.range programs.length).flatMap fun index =>
    List.replicate (sectionsOf (programs.getD index [])) index

/-- The fields of `Kubelet` a cycle reads or writes. -/
structure Kubelet where
  previous : RateTable
  optInAnalysisData : Bool

/-- What a cycle reads besides the kubelet: the snapshot, the answers of each
node (by its position in `GetNodes()`), each node task's reading of
`time.Now().UTC()`, the clock reading of `collectGarbage`, the tick time, and the
orders in which `range` visits maps. -/
structure Cycle where
  scanner : Scanner
  responses : Nat → NodeResponse
  clock : Nat → Time
  collectedAt : Time
  tickTime : Time
  order : MapOrder

/-- The calls of each node task. -/
def Cycle.programs (cycle : Cycle) (optInAnalysisData : Bool) : List (List Call) :=
  (List.range cycle.scanner.nodes.length).map fun index =>
    match cycle.scanner.nodes[index]? with
    | none => []
    | some node =>
        (nodeTask cycle.scanner optInAnalysisData cycle.order node (cycle.responses index)
          (cycle.clock index)).1

/-- The calls made before `pr.Do()`: the snapshot's figures, then the requests
and limits of its containers. -/
def Cycle.snapshotCalls (cycle : Cycle) : List Call :=
  clusterCalls cycle.order cycle.scanner ++ requestCalls cycle.scanner

/-- The shared state when the node tasks start. -/
def Cycle.initial (cycle : Cycle) (kubelet : Kubelet) : Scrape :=
  runCalls cycle.tickTime cycle.snapshotCalls
    ⟨[], fun _ => none, collectGarbage cycle.collectedAt kubelet.previous⟩

/-- What `GetMetrics` returns, and the kubelet it leaves. -/
structure Outcome where
  metrics : List Metrics
  rawResponses : Option (String → Option String)
  error : Option String
  kubelet : Kubelet

/-- `GetMetrics`, with the node tasks' critical sections interleaved by
`schedule` before `pr.Do()` runs every task to its end. The node tasks' errors
are logged, and the cycle itself returns no error. -/
def getMetrics (kubelet : Kubelet) (cycle : Cycle) (schedule : List Nat) : Outcome :=
  let programs := cycle.programs kubelet.optInAnalysisData
  let pool := Pool.run cycle.tickTime (Pool.start programs (cycle.initial kubelet))
    (schedule ++ drain programs)
  { metrics := pool.scrape.metrics
    rawResponses := if kubelet.optInAnalysisData then some pool.scrape.rawResponses else none
    error := none
    kubelet := { kubelet with previous := pool.scrape.previous } }

end MagalixAgent.Scraper
