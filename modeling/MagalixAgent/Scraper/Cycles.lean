import MagalixAgent.Scraper.NodeRecords
import MagalixAgent.Scraper.RateRun

namespace MagalixAgent.Scraper

/-! # Runs of cycles

The kubelet keeps its rate table from one `GetMetrics` call to the next. A cycle
acts on the table through its `collectGarbage` call and its `addMetricValueRate`
calls, so a run of cycles is a run of `RateEvent`s: this module reads the events
off each cycle and shows that the table a run of cycles leaves is the one the
events describe. Node tasks that share no key make the schedules irrelevant, so
the table of every run is the expected table of its events. -/

namespace RateEvent

/-- The table after `events`, starting from `previous`. -/
def applyAll (events : List RateEvent) (previous : RateTable) : RateTable :=
  events.foldl (fun previous event => event.apply previous) previous

@[simp] theorem applyAll_nil (previous : RateTable) : applyAll [] previous = previous := rfl

@[simp] theorem applyAll_cons (event : RateEvent) (events : List RateEvent)
    (previous : RateTable) :
    applyAll (event :: events) previous = applyAll events (event.apply previous) :=
  rfl

theorem applyAll_append (events later : List RateEvent) (previous : RateTable) :
    applyAll (events ++ later) previous = applyAll later (applyAll events previous) :=
  List.foldl_append _ _ _ _

theorem runRates_eq_applyAll (events : List RateEvent) :
    runRates events = applyAll events RateTable.empty := rfl

end RateEvent

/-- The rate-table event of a call: an `addMetricValueRate` call observes its
key; no other call touches the table. -/
def Call.rateEvents (tickTime : Time) : Call → List RateEvent
  | .addMetricValueRate measurementType parentKey entityKey measurement _ _ _ _ _ timestamp value
      multiplier =>
      [.observe (getKey measurementType parentKey entityKey measurement) timestamp tickTime value
        multiplier]
  | _ => []

theorem Call.stored_eq_applyAll (tickTime : Time) (call : Call) (previous : RateTable) :
    call.stored tickTime previous = RateEvent.applyAll (call.rateEvents tickTime) previous := by
  cases call <;> rfl

/-- A sequence of calls moves the table as its events do. -/
theorem runCalls_previous (tickTime : Time) (calls : List Call) (scrape : Scrape) :
    (runCalls tickTime calls scrape).previous =
      RateEvent.applyAll (calls.flatMap (Call.rateEvents tickTime)) scrape.previous := by
  induction calls generalizing scrape with
  | nil => rfl
  | cons call rest induction =>
      rw [runCalls_cons, induction, Call.run_previous, List.flatMap_cons,
        RateEvent.applyAll_append, Call.stored_eq_applyAll]

/-- The events of one cycle: the collection at its start, then the observations
of its calls in the order of the sequential run. -/
def Cycle.rateEvents (cycle : Cycle) (optInAnalysisData : Bool) : List RateEvent :=
  .collectGarbage cycle.collectedAt ::
    (cycle.snapshotCalls ++ (cycle.programs optInAnalysisData).flatten).flatMap
      (Call.rateEvents cycle.tickTime)

theorem Cycle.sequential_previous (cycle : Cycle) (kubelet : Kubelet) :
    (cycle.sequential kubelet).previous =
      RateEvent.applyAll (cycle.rateEvents kubelet.optInAnalysisData) kubelet.previous := by
  rw [Cycle.sequential, runCalls_previous, Cycle.initial, runCalls_previous, Cycle.rateEvents,
    RateEvent.applyAll_cons, List.flatMap_append, RateEvent.applyAll_append]
  rfl

/-- Successive `GetMetrics` calls on one kubelet, each with its cycle and the
schedule of its node tasks. -/
def runCycles (kubelet : Kubelet) : List (Cycle × List Nat) → Kubelet
  | [] => kubelet
  | (cycle, schedule) :: later => runCycles (getMetrics kubelet cycle schedule).kubelet later

/-- The events of a run of cycles. -/
def cycleEvents (optInAnalysisData : Bool) (cycles : List (Cycle × List Nat)) :
    List RateEvent :=
  cycles.flatMap fun step => step.1.rateEvents optInAnalysisData

theorem cycleEvents_cons (optInAnalysisData : Bool) (step : Cycle × List Nat)
    (later : List (Cycle × List Nat)) :
    cycleEvents optInAnalysisData (step :: later) =
      step.1.rateEvents optInAnalysisData ++ cycleEvents optInAnalysisData later :=
  List.flatMap_cons _ _ _

/-- Cycles whose node tasks share no key move the table as their events do,
whatever their schedules. -/
theorem runCycles_previous (kubelet : Kubelet) (cycles : List (Cycle × List Nat))
    (separated : ∀ step ∈ cycles, Pool.Separated (step.1.programs kubelet.optInAnalysisData)) :
    (runCycles kubelet cycles).previous =
      RateEvent.applyAll (cycleEvents kubelet.optInAnalysisData cycles) kubelet.previous := by
  induction cycles generalizing kubelet with
  | nil => rfl
  | cons step later induction =>
      obtain ⟨cycle, schedule⟩ := step
      have sameKubelet := (getMetrics_of_separated (separated _ (List.mem_cons_self _ _))
        schedule).2.2
      have keptOptIn : (getMetrics kubelet cycle schedule).kubelet.optInAnalysisData =
          kubelet.optInAnalysisData := by
        rw [sameKubelet]
      rw [runCycles, induction _ fun step member => keptOptIn ▸ separated step
        (List.mem_cons_of_mem _ member), keptOptIn, sameKubelet, cycleEvents_cons,
        RateEvent.applyAll_append, ← Cycle.sequential_previous]

/-- Over every run of `GetMetrics` cycles on a kubelet fresh from `NewKubelet`,
whatever the schedule of each cycle, when each cycle's node tasks share no key:
the table maps each key to its most recent observation (a zero timestamp
replaced by the tick time) if no later collection found it more than an hour
old, and to nothing otherwise. -/
theorem runCycles_rate_table (optInAnalysisData : Bool) (cycles : List (Cycle × List Nat))
    (separated : ∀ step ∈ cycles, Pool.Separated (step.1.programs optInAnalysisData)) :
    (runCycles ⟨RateTable.empty, optInAnalysisData⟩ cycles).previous =
      expectedTable (cycleEvents optInAnalysisData cycles) := by
  rw [runCycles_previous _ _ separated, ← RateEvent.runRates_eq_applyAll,
    runRates_eq_expectedTable]

theorem runCycles_rate_table_traffic :
    (runCycles ⟨RateTable.empty, false⟩
        [(servedCycle trafficResponse, [0]), (servedCycle missingResponse, [])]).previous =
      expectedTable (cycleEvents false
        [(servedCycle trafficResponse, [0]), (servedCycle missingResponse, [])]) :=
  runCycles_rate_table false _ fun step member => by
    simp only [List.mem_cons, List.mem_singleton, List.not_mem_nil, or_false] at member
    rcases member with rfl | rfl <;> exact servedCycle_separated _ false

end MagalixAgent.Scraper
