import MagalixAgent.Scraper.Scope

namespace MagalixAgent.Scraper

/-! # The records of a node task

Three behaviours of the node task that its tables and maps decide: a summary
the node reports missing reads as `{}`, whose node block is all zero values; the
throttle map is keyed by container identifier, so pods that resolve to the same
container share one entry; and the pod table reads `network/rx` from
`TxBytes`. -/

/-! ## A missing summary -/

theorem recordSample_empty (scanner : Scanner) (name : String) (sample : Option ContainerValue) :
    recordSample scanner name GoMap.empty sample = GoMap.empty := by
  unfold recordSample
  split
  · rfl
  · split <;> rfl

/-- With no store to fill, the cAdvisor loop leaves the throttle map empty. -/
theorem fillThrottle_empty (scanner : Scanner) (cadvisor : CAdvisor) :
    fillThrottle scanner cadvisor GoMap.empty = GoMap.empty := by
  unfold fillThrottle
  exact List.foldl_fixed' (fun metric => List.foldl_fixed' (recordSample_empty scanner metric.1) _) _

/-- A node whose summary endpoint answers that the resource is missing gets,
besides its raw response, the calls of the node block of `{}`, and nothing else:
no pod, container or throttle call. -/
theorem nodeTask_not_found {scanner : Scanner} {optInAnalysisData : Bool} {order : MapOrder}
    {node : Node} {response : NodeResponse} {now : Time} {message : String}
    (missing : response.summary = .error message)
    (notFound : Strings.contains message notFoundMessage = true) :
    (nodeTask scanner optInAnalysisData order node response now).1 =
      rawResponseCalls optInAnalysisData node SummaryBody.emptyObject ++ nodeCalls node {} := by
  have noThrottle : ∀ cadvisor, throttleCalls order node {}
      (fillThrottle scanner cadvisor GoMap.empty) now = [] := fun cadvisor => by
    rw [fillThrottle_empty]
    simp only [throttleCalls, GoMap.empty, MapOrder.arrange_nil, List.flatMap_nil]
  unfold nodeTask cadvisorCalls
  simp only [summaryFetch, missing, notFound, if_true, SummaryBody.emptyObject, List.flatMap_nil,
    List.append_nil, List.foldl_nil]
  split <;> simp only [noThrottle, List.append_nil]

/-- The node block of `{}`: every measurement is zero at the zero time. -/
theorem nodeMeasurements_empty :
    ∀ measurement ∈ nodeMeasurements {}, measurement.time = Time.zero ∧ measurement.value = 0 := by
  decide

/-- Whatever the schedule, a node whose summary is missing contributes the nine
absolutes of the node block of `{}`: each has the value 0 and, its timestamp
being zero, is stamped with the tick time. -/
theorem getMetrics_missing_summary {kubelet : Kubelet} {cycle : Cycle}
    (separated : Pool.Separated (cycle.programs kubelet.optInAnalysisData)) {index : Nat}
    {node : Node} (found : cycle.scanner.nodes[index]? = some node) {message : String}
    (missing : (cycle.responses index).summary = .error message)
    (notFound : Strings.contains message notFoundMessage = true) (schedule : List Nat) :
    ∀ measurement ∈ nodeMeasurements {},
      metricValue cycle.tickTime typeNode measurement.name node.id UUID.Nil UUID.Nil UUID.Nil ""
        Time.zero 0 ∈ (getMetrics kubelet cycle schedule).metrics := by
  intro measurement member
  have task : Call.addMetricValue typeNode measurement.name node.id UUID.Nil UUID.Nil UUID.Nil
      "" measurement.time measurement.value ∈
        (cycle.programs kubelet.optInAnalysisData).getD index [] := by
    rw [Cycle.getD_programs found, nodeTask_not_found missing notFound]
    exact List.mem_append_right _ (List.mem_append_left _ (List.mem_map_of_mem _ member))
  obtain ⟨zeroTime, zeroValue⟩ := nodeMeasurements_empty measurement member
  rw [zeroTime, zeroValue] at task
  exact getMetrics_mem_of_emitted separated schedule task fun _ => List.mem_singleton_self _

/-- The node `node-a` of the cycles below. -/
def exampleNode : Node := ⟨uuidOf 1, "node-a", "m5", "large", ⟨2000, 8000⟩, ⟨1900, 7000⟩⟩

/-- A snapshot of `exampleNode` alone, in which every pod and container belongs
to one application and service: `FindService` and `FindContainer` always hit. -/
def servedSnapshot : Scanner where
  nodes := [exampleNode]
  nodesLastScanTime := ⟨1⟩
  applications := []
  appsLastScanTime := ⟨1⟩
  findService _ _ := some (uuidOf 2, uuidOf 3)
  findContainer _ _ _ := some (uuidOf 2, uuidOf 3, ⟨uuidOf 4, 100, 200, 300, 400⟩)
  findContainerByPodUIDContainerName _ _ := none

/-- Two minutes past the epoch. -/
def twoMinutes : Time := ⟨120000000000⟩

/-- A cycle over `servedSnapshot` whose node answers `response`, at
`twoMinutes`. -/
def servedCycle (response : NodeResponse) : Cycle :=
  ⟨servedSnapshot, fun _ => response, fun _ => twoMinutes, twoMinutes, twoMinutes,
    MapOrder.insertion⟩

theorem servedCycle_separated (response : NodeResponse) (optInAnalysisData : Bool) :
    Pool.Separated ((servedCycle response).programs optInAnalysisData) :=
  Pool.separated_of_length_le_one (by simp [Cycle.length_programs, servedCycle, servedSnapshot])

/-- Both endpoints of the node answer that the resource is missing. -/
def missingResponse : NodeResponse := ⟨.error notFoundMessage, .error notFoundMessage⟩

theorem getMetrics_missing_summary_served :
    metricValue twoMinutes typeNode "cpu/usage" exampleNode.id UUID.Nil UUID.Nil UUID.Nil ""
        Time.zero 0 ∈
      (getMetrics ⟨RateTable.empty, false⟩ (servedCycle missingResponse) [0]).metrics :=
  getMetrics_missing_summary (servedCycle_separated missingResponse false)
    (show (servedCycle missingResponse).scanner.nodes[0]? = some exampleNode from rfl) rfl
    (by decide) [0] _ (List.mem_cons_self _ _)

/-- The rate key of the node's `cpu/usage_rate`. -/
def nodeCpuKey : String := getKey typeNode "" exampleNode.id.string "cpu/usage_rate"

/-- A kubelet whose table holds a real sample of the node's CPU counter, taken a
minute before `twoMinutes`. -/
def sampledKubelet : Kubelet :=
  ⟨updatePreviousValue RateTable.empty nodeCpuKey ⟨⟨60000000000⟩, 500⟩, false⟩

set_option maxRecDepth 20000 in
/-- The missing summary with the node task run alone. -/
theorem missingSummary_sequential :
    metricValue twoMinutes typeNode "cpu/usage" exampleNode.id UUID.Nil UUID.Nil UUID.Nil ""
        twoMinutes 0 ∈ ((servedCycle missingResponse).sequential sampledKubelet).metrics ∧
      metricValue twoMinutes typeNode "cpu/usage_rate" exampleNode.id UUID.Nil UUID.Nil UUID.Nil ""
        twoMinutes 0 ∈ ((servedCycle missingResponse).sequential sampledKubelet).metrics ∧
      sampledKubelet.previous nodeCpuKey = some ⟨⟨60000000000⟩, 500⟩ ∧
      ((servedCycle missingResponse).sequential sampledKubelet).previous nodeCpuKey =
        some ⟨twoMinutes, 0⟩ := by
  decide

/-- Whatever the schedule, a missing summary turns into a zero CPU usage and a
zero CPU rate stamped with the tick time, and the real sample in the table is
replaced by the zero one, with no error. -/
theorem getMetrics_missing_summary_overwrites (schedule : List Nat) :
    (getMetrics sampledKubelet (servedCycle missingResponse) schedule).error = none ∧
      metricValue twoMinutes typeNode "cpu/usage" exampleNode.id UUID.Nil UUID.Nil UUID.Nil ""
          twoMinutes 0 ∈
        (getMetrics sampledKubelet (servedCycle missingResponse) schedule).metrics ∧
      metricValue twoMinutes typeNode "cpu/usage_rate" exampleNode.id UUID.Nil UUID.Nil UUID.Nil ""
          twoMinutes 0 ∈
        (getMetrics sampledKubelet (servedCycle missingResponse) schedule).metrics ∧
      sampledKubelet.previous nodeCpuKey = some ⟨⟨60000000000⟩, 500⟩ ∧
      (getMetrics sampledKubelet (servedCycle missingResponse) schedule).kubelet.previous
        nodeCpuKey = some ⟨twoMinutes, 0⟩ := by
  have separated := servedCycle_separated missingResponse sampledKubelet.optInAnalysisData
  obtain ⟨usage, rate, sampled, stored⟩ := missingSummary_sequential
  rw [getMetrics_mem_iff_of_separated separated, getMetrics_mem_iff_of_separated separated,
    (getMetrics_of_separated separated schedule).2.2]
  exact ⟨rfl, usage, rate, sampled, by dsimp only; exact stored⟩

/-! ## Pods that share a container -/

/-- Two replicas of one service, each with a container named `web`. -/
def sharedSummary : KubeletSummary where
  pods := [{ podRef := ⟨"web-0", "shop"⟩, containers := [{ name := "web" }] },
    { podRef := ⟨"web-1", "shop"⟩, containers := [{ name := "web" }] }]

/-- The node serves `sharedSummary` and an exposition without samples. -/
def sharedResponse : NodeResponse := ⟨.ok ⟨none, .ok sharedSummary⟩, .ok (.ok fun _ => [])⟩

set_option maxRecDepth 20000 in
/-- The two replicas with the node task run alone. -/
theorem sharedContainer_sequential :
    (∀ record ∈ ((servedCycle sharedResponse).sequential ⟨RateTable.empty, false⟩).metrics,
        record.name = "container_cpu_cfs/periods_total" → record.podName ≠ "web-0") ∧
      ∃ record ∈ ((servedCycle sharedResponse).sequential ⟨RateTable.empty, false⟩).metrics,
        record.name = "container_cpu_cfs/periods_total" ∧ record.podName = "web-1" ∧
          record.container = uuidOf 4 := by
  decide

/-- When two pods resolve to the same container, the second pod's stores replace
the first's under the container's identifier: whatever the schedule, the first
pod gets no `container_cpu_cfs/periods_total` record, the second gets it. -/
theorem getMetrics_shared_container_throttle (schedule : List Nat) :
    servedSnapshot.findContainer "shop" "web-0" "web" =
        servedSnapshot.findContainer "shop" "web-1" "web" ∧
      (∀ record ∈
          (getMetrics ⟨RateTable.empty, false⟩ (servedCycle sharedResponse) schedule).metrics,
        record.name = "container_cpu_cfs/periods_total" → record.podName ≠ "web-0") ∧
      ∃ record ∈
          (getMetrics ⟨RateTable.empty, false⟩ (servedCycle sharedResponse) schedule).metrics,
        record.name = "container_cpu_cfs/periods_total" ∧ record.podName = "web-1" ∧
          record.container = uuidOf 4 := by
  simp only [@getMetrics_mem_iff_of_separated ⟨RateTable.empty, false⟩ _
    (servedCycle_separated sharedResponse false) schedule]
  exact ⟨rfl, sharedContainer_sequential⟩

/-! ## The pod table -/

/-- A pod that has sent 7 bytes and received 3. -/
def trafficSummary : KubeletSummary where
  pods := [{ podRef := ⟨"web-0", "shop"⟩
             network := { time := ⟨90000000000⟩, rxBytes := 3, txBytes := 7 } }]

/-- The node serves `trafficSummary` and an exposition without samples. -/
def trafficResponse : NodeResponse := ⟨.ok ⟨none, .ok trafficSummary⟩, .ok (.ok fun _ => [])⟩

set_option maxRecDepth 20000 in
/-- The pod's traffic with the node task run alone. -/
theorem podTraffic_sequential :
    metricValue twoMinutes typePod "network/rx" exampleNode.id (uuidOf 2) (uuidOf 3) UUID.Nil
        "web-0" ⟨90000000000⟩ 7 ∈
        ((servedCycle trafficResponse).sequential ⟨RateTable.empty, false⟩).metrics ∧
      ∀ record ∈ ((servedCycle trafficResponse).sequential ⟨RateTable.empty, false⟩).metrics,
        record.type = typePod → record.name = "network/rx" → record.value ≠ 3 := by
  decide

/-- Whatever the schedule, the pod's `network/rx` record carries the 7 bytes it
sent, and no pod record named `network/rx` carries the 3 bytes it received. -/
theorem getMetrics_pod_rx_reads_tx (schedule : List Nat) :
    metricValue twoMinutes typePod "network/rx" exampleNode.id (uuidOf 2) (uuidOf 3) UUID.Nil
        "web-0" ⟨90000000000⟩ 7 ∈
        (getMetrics ⟨RateTable.empty, false⟩ (servedCycle trafficResponse) schedule).metrics ∧
      ∀ record ∈
          (getMetrics ⟨RateTable.empty, false⟩ (servedCycle trafficResponse) schedule).metrics,
        record.type = typePod → record.name = "network/rx" → record.value ≠ 3 := by
  simp only [@getMetrics_mem_iff_of_separated ⟨RateTable.empty, false⟩ _
    (servedCycle_separated trafficResponse false) schedule]
  exact podTraffic_sequential

/-! ## The measurement tables

The node, pod and container tables pair each measurement name with a field of
the summary. Read by name, `network/rx` is the received bytes, `cpu/usage` the
CPU counter, and so on; every table entry named after a summary measurement
carries that field, except the pod table's `network/rx`. -/

/-- The statistics one scope of the summary reports: the node block all four, a
pod its network, a container its CPU, memory and root file system. -/
structure StatsBlock where
  cpu : CPUStats := {}
  memory : MemoryStats := {}
  fs : FSStats := {}
  network : NetworkStats := {}

def KubeletSummaryNode.block (node : KubeletSummaryNode) : StatsBlock :=
  ⟨node.cpu, node.memory, node.fs, node.network⟩

def KubeletSummaryPod.block (pod : KubeletSummaryPod) : StatsBlock := { network := pod.network }

def KubeletSummaryContainer.block (container : KubeletSummaryContainer) : StatsBlock :=
  { cpu := container.cpu, memory := container.memory,
    fs := { time := container.rootFS.time, usedBytes := container.rootFS.usedBytes } }

/-- The measurement names of the tables that read the summary. -/
def summaryMeasurements : List String :=
  ["cpu/usage", "memory/rss", "filesystem/usage", "filesystem/node_capacity",
    "filesystem/node_allocatable", "network/tx", "network/rx", "network/tx_errors",
    "network/rx_errors"]

/-- The field of a block a measurement name denotes, with the block's
timestamp. -/
def StatsBlock.field (block : StatsBlock) : String → Option (Time × Int64)
  | "cpu/usage" => some (block.cpu.time, block.cpu.usageCoreNanoSeconds)
  | "memory/rss" => some (block.memory.time, block.memory.rssBytes)
  | "filesystem/usage" => some (block.fs.time, block.fs.usedBytes)
  | "filesystem/node_capacity" => some (block.fs.time, block.fs.capacityBytes)
  | "filesystem/node_allocatable" => some (block.fs.time, block.fs.capacityBytes)
  | "network/tx" => some (block.network.time, block.network.txBytes)
  | "network/rx" => some (block.network.time, block.network.rxBytes)
  | "network/tx_errors" => some (block.network.time, block.network.txErrors)
  | "network/rx_errors" => some (block.network.time, block.network.rxErrors)
  | _ => none

theorem nodeMeasurements_field (summary : KubeletSummary) :
    ∀ measurement ∈ nodeMeasurements summary,
      summary.node.block.field measurement.name = some (measurement.time, measurement.value) := by
  intro measurement listed
  simp only [nodeMeasurements, List.mem_cons, List.not_mem_nil, or_false] at listed
  rcases listed with rfl | rfl | rfl | rfl | rfl | rfl | rfl | rfl | rfl <;> rfl

theorem podMeasurements_field (pod : KubeletSummaryPod) :
    ∀ measurement ∈ podMeasurements pod, measurement.name ≠ "network/rx" →
      pod.block.field measurement.name = some (measurement.time, measurement.value) := by
  intro measurement listed named
  simp only [podMeasurements, List.mem_cons, List.not_mem_nil, or_false] at listed
  rcases listed with rfl | rfl | rfl | rfl
  · rfl
  · exact absurd rfl named
  · rfl
  · rfl

theorem containerMeasurements_field (container : KubeletSummaryContainer)
    (identified : ScannerContainer) :
    ∀ measurement ∈ containerMeasurements container identified,
      measurement.name ∈ summaryMeasurements →
        container.block.field measurement.name = some (measurement.time, measurement.value) := by
  intro measurement listed named
  simp only [containerMeasurements, List.mem_cons, List.not_mem_nil, or_false] at listed
  rcases listed with rfl | rfl | rfl | rfl | rfl | rfl | rfl
  any_goals rfl
  -- the request and limit entries are named after no summary measurement
  all_goals exact absurd named (by simp only; decide)

/-- An entry of a table whose names all lie outside `names` lies outside them;
the condition on the table is computed. -/
theorem name_not_mem_of_listed {α : Type} {name : α → String} {names : List String}
    {table : List α} {entry : α} (listed : entry ∈ table)
    (apart : (table.map name).all (· ∉ names)) : name entry ∉ names :=
  of_decide_eq_true (List.all_eq_true.mp apart _ (List.mem_map_of_mem name listed))

theorem nodeRates_unlisted (summary : KubeletSummary) :
    ∀ measurement ∈ nodeRates summary, measurement.name ∉ summaryMeasurements :=
  fun _ listed => name_not_mem_of_listed listed rfl

theorem podRates_unlisted (pod : KubeletSummaryPod) :
    ∀ measurement ∈ podRates pod, measurement.name ∉ summaryMeasurements :=
  fun _ listed => name_not_mem_of_listed listed rfl

theorem throttle_unlisted {name : String} (named : name ∈ throttleMetricRefs.map Prod.fst) :
    name ∉ summaryMeasurements ∧ name ++ "_rate" ∉ summaryMeasurements := by
  simp only [throttleMetricRefs, List.map_cons, List.map_nil, List.mem_cons,
    List.not_mem_nil, or_false] at named
  rcases named with rfl | rfl | rfl <;> decide

/-- The snapshot's records are named after no summary measurement. -/
theorem snapshotCalls_unlisted {cycle : Cycle} {call : Call} {tickTime : Time} {record : Metrics}
    (member : call ∈ cycle.snapshotCalls) (yields : call.Yields tickTime record) :
    record.name ∉ summaryMeasurements := by
  simp only [Cycle.snapshotCalls, clusterCalls, requestCalls, List.mem_append, List.mem_singleton,
    List.mem_map, List.mem_flatMap] at member
  rcases member with ((rfl | ⟨_, _, rfl⟩) | ⟨_, _, _, listed, rfl⟩) |
    ⟨_, _, _, _, _, _, _, listed, rfl⟩ <;> subst yields
  · exact of_decide_eq_true rfl
  · exact of_decide_eq_true rfl
  · exact @name_not_mem_of_listed _ Measurement.name _ _ _ listed rfl
  · exact @name_not_mem_of_listed _ Prod.fst _ _ _ listed rfl

/-- The block of `summary` on `node` that `record` names: the node block for a
node record, the block of a pod of the record's pod name for a pod record, and
that of one of its containers for a pod-container record. -/
def KubeletSummary.Reports (summary : KubeletSummary) (node : Node) (record : Metrics)
    (block : StatsBlock) : Prop :=
  record.node = node.id ∧
    (record.type = typeNode ∧ block = summary.node.block ∨
      ∃ pod ∈ summary.pods, record.podName = pod.podRef.name ∧
        (record.type = typePod ∧ block = pod.block ∨
          record.type = typePodContainer ∧ ∃ container ∈ pod.containers, block = container.block))

/-- A node task's records named after a summary measurement, but the pod's
`network/rx`, carry the field of the summary block they name, and its
timestamp (the tick time if zero). -/
theorem nodeTask_fields {scanner : Scanner} {optInAnalysisData : Bool} {order : MapOrder}
    {node : Node} {response : NodeResponse} {now tickTime : Time} {call : Call} {record : Metrics}
    (member : call ∈ (nodeTask scanner optInAnalysisData order node response now).1)
    (yields : call.Yields tickTime record) (named : record.name ∈ summaryMeasurements)
    (notPodRx : ¬(record.type = typePod ∧ record.name = "network/rx")) :
    ∃ summary, response.decodedSummary = some summary ∧ ∃ block stamp,
      summary.Reports node record block ∧ block.field record.name = some (stamp, record.value) ∧
        record.timestamp = stamp.orTickTime tickTime := by
  rcases mem_nodeTask member with ⟨data, rfl⟩ |
    ⟨summary, found, nodeMember | ⟨pod, podMember, podCall⟩ | ⟨cadvisor, throttleMember⟩⟩
  · exact yields.elim
  · refine ⟨summary, found, ?_⟩
    rcases mem_nodeCalls nodeMember with ⟨measurement, listed, rfl⟩ | ⟨measurement, listed, rfl⟩
    · subst yields
      exact ⟨_, _, ⟨rfl, .inl ⟨rfl, rfl⟩⟩, nodeMeasurements_field summary measurement listed, rfl⟩
    · obtain ⟨_, rfl⟩ := yields
      exact absurd named (nodeRates_unlisted summary measurement listed)
  · refine ⟨summary, found, ?_⟩
    obtain ⟨_, _, _, ⟨measurement, listed, rfl⟩ | ⟨measurement, listed, rfl⟩ |
      ⟨container, containerMember, containerCall⟩⟩ := mem_podCalls podCall
    · subst yields
      exact ⟨_, _, ⟨rfl, .inr ⟨pod, podMember, rfl, .inl ⟨rfl, rfl⟩⟩⟩,
        podMeasurements_field pod measurement listed fun rx => notPodRx ⟨rfl, rx⟩, rfl⟩
    · obtain ⟨_, rfl⟩ := yields
      exact absurd named (podRates_unlisted pod measurement listed)
    · obtain ⟨_, _, identified, _, ⟨measurement, listed, rfl⟩ | rfl⟩ :=
        mem_containerCalls containerCall
      · subst yields
        exact ⟨_, _, ⟨rfl, .inr ⟨pod, podMember, rfl, .inr ⟨rfl, container, containerMember, rfl⟩⟩⟩,
          containerMeasurements_field container identified measurement listed named, rfl⟩
      · obtain ⟨_, rfl⟩ := yields
        exact absurd named (by simp [metricValue, summaryMeasurements])
  · obtain ⟨entry, entryMember, stored, storedMember, made⟩ := mem_throttleCalls throttleMember
    obtain ⟨throttleNamed, -⟩ := (throttleFrom_pods scanner order summary.pods).fillThrottle cadvisor
      entry entryMember stored storedMember
    rcases made with rfl | rfl
    · subst yields
      exact absurd named (throttle_unlisted throttleNamed).1
    · obtain ⟨_, rfl⟩ := yields
      exact absurd named (throttle_unlisted throttleNamed).2

/-- Whatever the schedule, every record of a cycle named after a summary
measurement, but a pod's `network/rx`, carries the field its name denotes in the
block it names of a summary a node task decoded, with that block's timestamp
(the tick time if zero). -/
theorem getMetrics_summary_fields (kubelet : Kubelet) (cycle : Cycle) (schedule : List Nat) :
    ∀ record ∈ (getMetrics kubelet cycle schedule).metrics, record.name ∈ summaryMeasurements →
      ¬(record.type = typePod ∧ record.name = "network/rx") →
      ∃ index node summary, cycle.scanner.nodes[index]? = some node ∧
        (cycle.responses index).decodedSummary = some summary ∧ ∃ block stamp,
          summary.Reports node record block ∧ block.field record.name = some (stamp, record.value) ∧
            record.timestamp = stamp.orTickTime cycle.tickTime := by
  intro record member named notPodRx
  rcases getMetrics_origin kubelet cycle schedule record member with
    ⟨call, snapshotMember, yields⟩ | ⟨index, node, found, call, taskMember, yields⟩
  · exact absurd named (snapshotCalls_unlisted snapshotMember yields)
  · obtain ⟨summary, decoded, fields⟩ := nodeTask_fields taskMember yields named notPodRx
    exact ⟨index, node, summary, found, decoded, fields⟩

set_option maxRecDepth 20000 in
theorem trafficTx_sequential :
    metricValue twoMinutes typePod "network/tx" exampleNode.id (uuidOf 2) (uuidOf 3) UUID.Nil
        "web-0" ⟨90000000000⟩ 7 ∈
      ((servedCycle trafficResponse).sequential ⟨RateTable.empty, false⟩).metrics := by
  decide

theorem getMetrics_summary_fields_traffic :
    metricValue twoMinutes typePod "network/tx" exampleNode.id (uuidOf 2) (uuidOf 3) UUID.Nil
        "web-0" ⟨90000000000⟩ 7 ∈
        (getMetrics ⟨RateTable.empty, false⟩ (servedCycle trafficResponse) [0]).metrics ∧
      ∃ index node summary, (servedCycle trafficResponse).scanner.nodes[index]? = some node ∧
        ((servedCycle trafficResponse).responses index).decodedSummary = some summary ∧
        ∃ block stamp, summary.Reports node (metricValue twoMinutes typePod "network/tx"
            exampleNode.id (uuidOf 2) (uuidOf 3) UUID.Nil "web-0" ⟨90000000000⟩ 7) block ∧
          block.field "network/tx" = some (stamp, 7) ∧
          (⟨90000000000⟩ : Time) = stamp.orTickTime twoMinutes :=
  have member := (getMetrics_mem_iff_of_separated (servedCycle_separated trafficResponse false)
    [0] _).mpr trafficTx_sequential
  ⟨member, getMetrics_summary_fields ⟨RateTable.empty, false⟩ (servedCycle trafficResponse) [0] _
    member (by decide) (by decide)⟩

end MagalixAgent.Scraper
