import MagalixAgent.Scraper.NodeRecords
import MagalixAgent.Scraper.Backoff

namespace MagalixAgent.Scraper

/-! # Node tasks that retry their fetches

A node task fetches `stats/summary` and `metrics/cadvisor` through
`withBackoff`. The closure it retries stores the body `GetBytes` answered, or
`{}` and the empty body for a missing resource, and returns an error for any
other failure. The cycle model of `GetMetrics` gives each endpoint one answer.
Here the fetches run through the model of `withBackoff`, and the node task
makes exactly the calls it makes on the answers of the calls its two loops end
at (`nodeTaskWithBackoff_refines`). Every result about `getMetrics` therefore
holds of the code with its retries (`getMetricsWithBackoff_refines`). -/

/-- `backOff`: the base sleep and the retry limit that `kubeletTimeouts` hands
to `withBackoff`. -/
structure BackOff where
  sleep : Int64
  maxRetries : Int64

/-- What a fetch closure returns to `withBackoff`: no error when it stored a
body. -/
def closureError : Except String β → Option String
  | .ok _ => none
  | .error message => some message

/-- The text of the error `withBackoff` returns once the retries are spent. -/
def maxRetriesExceeded : String := "max retries exceeded"

/-- A fetch retried by `withBackoff`: the call made after `n` calls reads
`answers n` through the closure `fetch`. The result is the body the last call
stored, or the error of `withBackoff`; `none` when the loop goes on past `fuel`
calls. -/
def fetchWithBackoff (backoff : BackOff) (fetch : Except String β → Except String β)
    (answers : Nat → Except String β) (fuel : Nat) : Option (Except String β) :=
  (withBackoff backoff.maxRetries backoff.sleep (fun calls => closureError (fetch (answers calls)))
      fuel).map fun run =>
    match run.error with
    | some _ => .error maxRetriesExceeded
    | none => fetch (answers (run.calls - 1))

/-- What `GetBytes` answers the calls a node task makes to its node: the call to
an endpoint made after `n` calls to it gets the endpoint's `n`-th answer. -/
structure NodeAnswers where
  summary : Nat → Except String SummaryBody
  cadvisor : Nat → Except String CAdvisorBody

/-- The node task as the source runs it, both fetches retried by `withBackoff`:
the calls it makes and the error it returns, or `none` when a fetch loop goes
on past `fuel` calls. -/
def nodeTaskWithBackoff (backoff : BackOff) (scanner : Scanner) (optInAnalysisData : Bool)
    (order : MapOrder) (node : Node) (answers : NodeAnswers) (now : Time) (fuel : Nat) :
    Option (List Call × Option String) :=
  match fetchWithBackoff backoff (summaryFetch node) answers.summary fuel with
  | none => none
  | some (.error message) => some ([], some message)
  | some (.ok body) =>
      let raw := rawResponseCalls optInAnalysisData node body
      match body.decoded with
      | .error _ => some (raw, some "{kubelet} unable to unmarshal summary response")
      | .ok summary =>
          let summaryCalls :=
            nodeCalls node summary ++ summary.pods.flatMap (podCalls scanner order node)
          let throttle := summary.pods.foldl (podThrottle scanner order) GoMap.empty
          (fetchWithBackoff backoff (cadvisorFetch node) answers.cadvisor fuel).map fun fetched =>
            match fetched with
            | .error message => (raw ++ summaryCalls, some message)
            | .ok (.error _) =>
                (raw ++ summaryCalls, some "{kubelet} unable to read cadvisor response")
            | .ok (.ok cadvisor) =>
                (raw ++ summaryCalls ++
                  throttleCalls order node summary (fillThrottle scanner cadvisor throttle) now,
                  none)

/-- What `GetMetrics` returns once the node tasks' calls are fixed: the calls
of the snapshot, then `programs` interleaved by `schedule` and drained by
`pr.Do()`. -/
def runPrograms (kubelet : Kubelet) (cycle : Cycle) (programs : List (List Call))
    (schedule : List Nat) : Outcome :=
  let pool := Pool.run cycle.tickTime (Pool.start programs (cycle.initial kubelet))
    (schedule ++ drain programs)
  { metrics := pool.scrape.metrics
    rawResponses := if kubelet.optInAnalysisData then some pool.scrape.rawResponses else none
    error := none
    kubelet := { kubelet with previous := pool.scrape.previous } }

/-- The calls of each node task with its fetches retried, the node at position
`index` reading `answers index`; `none` when one of them does not return. -/
def Cycle.programsWithBackoff (cycle : Cycle) (backoff : BackOff) (optInAnalysisData : Bool)
    (answers : Nat → NodeAnswers) (fuel : Nat) : Option (List (List Call)) :=
  (List.range cycle.scanner.nodes.length).mapM fun index =>
    match cycle.scanner.nodes[index]? with
    | none => some []
    | some node =>
        (nodeTaskWithBackoff backoff cycle.scanner optInAnalysisData cycle.order node
          (answers index) (cycle.clock index) fuel).map Prod.fst

/-- `GetMetrics` with the node tasks' fetches retried by `withBackoff`. The
node at position `index` reads `answers index`; `cycle.responses` is not read.
`none` when a node task does not return, and `pr.Do()` with it. -/
def getMetricsWithBackoff (backoff : BackOff) (kubelet : Kubelet) (cycle : Cycle)
    (answers : Nat → NodeAnswers) (fuel : Nat) (schedule : List Nat) : Option Outcome :=
  (cycle.programsWithBackoff backoff kubelet.optInAnalysisData answers fuel).map fun programs =>
    runPrograms kubelet cycle programs schedule

/-! ## Where a fetch loop ends -/

/-- The call at which a fetch loop ends, given which calls the closure accepts:
the first accepted one, when it comes within the retry limit, and otherwise the
last call the limit allows. -/
def LastCall (maxRetries : Int64) (accepted : Nat → Prop) (k : Nat) : Prop :=
  k < retryLimit maxRetries ∧ (∀ i < k, ¬ accepted i) ∧
    (accepted k ∨ k + 1 = retryLimit maxRetries)

theorem closureError_eq_none {answer : Except String β} (accepted : closureError answer = none) :
    ∃ body, answer = .ok body := by
  cases answer with
  | ok body => exact ⟨body, rfl⟩
  | error _ => cases accepted

section Fetch

variable {backoff : BackOff} (fetch : Except String β → Except String β)
  (answers : Nat → Except String β) {fuel : Nat}

/-- Unless `maxRetries` is the largest `int`, a fetch loop with enough fuel ends
at its last call, and yields the body that call stored, or `withBackoff`'s error
in place of the closure's. -/
theorem fetchWithBackoff_lastCall (bounded : backoff.maxRetries.toInt < 2 ^ 63 - 1)
    (enough : retryLimit backoff.maxRetries ≤ fuel) :
    ∃ k, LastCall backoff.maxRetries (fun calls => closureError (fetch (answers calls)) = none) k ∧
      fetchWithBackoff backoff fetch answers fuel =
        some ((fetch (answers k)).mapError fun _ => maxRetriesExceeded) := by
  obtain ⟨run, ran, -, ending⟩ := withBackoffFrom_run backoff.sleep
    (fun calls => closureError (fetch (answers calls))) bounded fuel 0 (Nat.succ_pos _) (by omega)
  have loop : withBackoff backoff.maxRetries backoff.sleep
      (fun calls => closureError (fetch (answers calls))) fuel = some run := ran
  rcases ending with ⟨k, -, below, accepted, failing, called, returned⟩ |
    ⟨failing, called, returned⟩
  · refine ⟨k, ⟨below, fun i before => failing i (Nat.zero_le _) before, .inl accepted⟩, ?_⟩
    obtain ⟨body, stored⟩ := closureError_eq_none accepted
    simp only [fetchWithBackoff, loop, Option.map_some', returned, called, Nat.add_sub_cancel,
      stored]
    rfl
  · have last : retryLimit backoff.maxRetries - 1 < retryLimit backoff.maxRetries :=
      Nat.sub_lt (Nat.succ_pos _) Nat.one_pos
    refine ⟨retryLimit backoff.maxRetries - 1, ⟨last, fun i _ => failing i (Nat.zero_le _) (by omega),
      .inr (Nat.sub_add_cancel (Nat.succ_pos _))⟩, ?_⟩
    obtain ⟨error, gaveUp⟩ := Option.ne_none_iff_exists'.mp returned
    cases stored : fetch (answers (retryLimit backoff.maxRetries - 1)) with
    | ok body => exact absurd (by rw [stored]; rfl) (failing _ (Nat.zero_le _) last)
    | error _ => simp only [fetchWithBackoff, loop, Option.map_some', gaveUp]; rfl

end Fetch

/-! ## The node task -/

/-- A response that gives, for each endpoint of `node`, the answer of the call
at which the endpoint's fetch loop ends. -/
def NodeAnswers.LastResponse (answers : NodeAnswers) (maxRetries : Int64) (node : Node)
    (response : NodeResponse) : Prop :=
  (∃ k, LastCall maxRetries
      (fun calls => closureError (summaryFetch node (answers.summary calls)) = none) k ∧
    response.summary = answers.summary k) ∧
  ∃ j, LastCall maxRetries
      (fun calls => closureError (cadvisorFetch node (answers.cadvisor calls)) = none) j ∧
    response.cadvisor = answers.cadvisor j

/-- With retries, a node task makes the calls it makes on the answers of the
calls its two fetch loops end at, and fails exactly when it fails on them; it
reports `withBackoff`'s error where the single-answer task reports the
fetch's. -/
theorem nodeTaskWithBackoff_refines {backoff : BackOff} (scanner : Scanner)
    (optInAnalysisData : Bool) (order : MapOrder) (node : Node) (answers : NodeAnswers) (now : Time)
    (bounded : backoff.maxRetries.toInt < 2 ^ 63 - 1) {fuel : Nat}
    (enough : retryLimit backoff.maxRetries ≤ fuel) :
    ∃ response, answers.LastResponse backoff.maxRetries node response ∧
      ∃ result, nodeTaskWithBackoff backoff scanner optInAnalysisData order node answers now fuel =
          some result ∧
        result.1 = (nodeTask scanner optInAnalysisData order node response now).1 ∧
        (result.2 = none ↔ (nodeTask scanner optInAnalysisData order node response now).2 = none) := by
  obtain ⟨k, lastSummary, summaryFetched⟩ :=
    fetchWithBackoff_lastCall (summaryFetch node) answers.summary bounded enough
  obtain ⟨j, lastCadvisor, cadvisorFetched⟩ :=
    fetchWithBackoff_lastCall (cadvisorFetch node) answers.cadvisor bounded enough
  refine ⟨⟨answers.summary k, answers.cadvisor j⟩, ⟨⟨k, lastSummary, rfl⟩, j, lastCadvisor, rfl⟩, ?_⟩
  unfold nodeTaskWithBackoff nodeTask cadvisorCalls
  rw [summaryFetched]
  cases summaryFetch node (answers.summary k) with
  | error _ => exact ⟨_, rfl, rfl, by simp⟩
  | ok body =>
      dsimp only [Except.mapError]
      cases body.decoded with
      | error _ => exact ⟨_, rfl, rfl, Iff.rfl⟩
      | ok summary =>
          dsimp only
          rw [cadvisorFetched]
          cases cadvisorFetch node (answers.cadvisor j) with
          | error _ => exact ⟨_, rfl, (List.append_nil _).symm, iff_of_false nofun nofun⟩
          | ok cadvisor =>
              cases cadvisor with
              | error _ => exact ⟨_, rfl, (List.append_nil _).symm, Iff.rfl⟩
              | ok _ => exact ⟨_, rfl, rfl, Iff.rfl⟩

/-! ## The cycle -/

theorem getMetrics_eq_runPrograms (kubelet : Kubelet) (cycle : Cycle) (schedule : List Nat) :
    getMetrics kubelet cycle schedule =
      runPrograms kubelet cycle (cycle.programs kubelet.optInAnalysisData) schedule :=
  rfl

theorem mapM_eq_some_map {f : α → Option β} {g : α → β} :
    ∀ {items : List α}, (∀ item ∈ items, f item = some (g item)) →
      items.mapM f = some (items.map g)
  | [], _ => rfl
  | item :: rest, each => by
      simp only [List.mapM_cons, each item (List.mem_cons_self _ _),
        mapM_eq_some_map fun other member => each other (List.mem_cons_of_mem _ member)]
      rfl

/-- The node at each position has a response from the answers of its last
calls on which the single-answer node task makes the calls of the retried one. -/
theorem Cycle.programWithBackoff (cycle : Cycle) {backoff : BackOff} (optInAnalysisData : Bool)
    (answers : Nat → NodeAnswers) (bounded : backoff.maxRetries.toInt < 2 ^ 63 - 1) {fuel : Nat}
    (enough : retryLimit backoff.maxRetries ≤ fuel) (index : Nat) :
    ∃ response : NodeResponse, ∀ node, cycle.scanner.nodes[index]? = some node →
      (answers index).LastResponse backoff.maxRetries node response ∧
      (nodeTaskWithBackoff backoff cycle.scanner optInAnalysisData cycle.order node
          (answers index) (cycle.clock index) fuel).map Prod.fst =
        some (nodeTask cycle.scanner optInAnalysisData cycle.order node response
          (cycle.clock index)).1 := by
  cases cycle.scanner.nodes[index]? with
  | none => exact ⟨⟨(answers index).summary 0, (answers index).cadvisor 0⟩, fun _ absent => by
      cases absent⟩
  | some node =>
      obtain ⟨response, last, result, ran, calls, -⟩ :=
        nodeTaskWithBackoff_refines cycle.scanner optInAnalysisData cycle.order node
          (answers index) (cycle.clock index) bounded enough
      refine ⟨response, fun _ same => ?_⟩
      cases same
      exact ⟨last, by rw [ran, Option.map_some', calls]⟩

/-- With retries that spend at most `maxRetries` calls below the largest `int`,
`GetMetrics` returns, for every schedule of the node tasks, what the cycle model
returns when each endpoint of each node gives the answer of the call its fetch
loop ends at. -/
theorem getMetricsWithBackoff_refines (backoff : BackOff) (kubelet : Kubelet) (cycle : Cycle)
    (answers : Nat → NodeAnswers) (schedule : List Nat)
    (bounded : backoff.maxRetries.toInt < 2 ^ 63 - 1) (fuel : Nat)
    (enough : retryLimit backoff.maxRetries ≤ fuel) :
    ∃ responses : Nat → NodeResponse,
      (∀ index node, cycle.scanner.nodes[index]? = some node →
        (answers index).LastResponse backoff.maxRetries node (responses index)) ∧
      getMetricsWithBackoff backoff kubelet cycle answers fuel schedule =
        some (getMetrics kubelet { cycle with responses } schedule) := by
  choose responses linked using
    cycle.programWithBackoff kubelet.optInAnalysisData answers bounded enough
  refine ⟨responses, fun index node found => (linked index node found).1, ?_⟩
  have programs : cycle.programsWithBackoff backoff kubelet.optInAnalysisData answers fuel =
      some (({ cycle with responses } : Cycle).programs kubelet.optInAnalysisData) := by
    unfold Cycle.programsWithBackoff Cycle.programs
    exact mapM_eq_some_map fun index _ => by
      cases found : cycle.scanner.nodes[index]? with
      | none => rfl
      | some node => exact (linked index node found).2
  rw [getMetricsWithBackoff, programs, Option.map_some', getMetrics_eq_runPrograms]
  rfl

/-- A node whose summary endpoint times out twice before it serves `{}`. -/
def flakyAnswers : NodeAnswers :=
  ⟨fun calls => if calls < 2 then .error "i/o timeout" else .ok SummaryBody.emptyObject,
    fun _ => .ok CAdvisorBody.empty⟩

theorem getMetricsWithBackoff_refines_flaky :
    (3 : Int64).toInt < 2 ^ 63 - 1 ∧ retryLimit 3 ≤ 4 ∧
      ∃ responses : Nat → NodeResponse,
        (∀ index node, (servedCycle missingResponse).scanner.nodes[index]? = some node →
          flakyAnswers.LastResponse 3 node (responses index)) ∧
        getMetricsWithBackoff ⟨300000000, 3⟩ ⟨RateTable.empty, true⟩ (servedCycle missingResponse)
            (fun _ => flakyAnswers) 4 [] =
          some (getMetrics ⟨RateTable.empty, true⟩ { servedCycle missingResponse with responses }
            []) :=
  ⟨by decide, by decide, getMetricsWithBackoff_refines ⟨300000000, 3⟩ ⟨RateTable.empty, true⟩
    (servedCycle missingResponse) (fun _ => flakyAnswers) [] (by decide) 4 (by decide)⟩

end MagalixAgent.Scraper
