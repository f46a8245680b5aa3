import MagalixAgent.Scraper.NodeCount

namespace MagalixAgent.Scraper

/-! # Every interleaving of a cycle

`GetMetrics` lets the node tasks run concurrently. When their keys are apart,
which distinct nodes, pods listed by one node only and `:`-free names guarantee,
the schedule makes no difference: every interleaving returns the records, raw
responses and table of the tasks run one after another, and each node
contributes exactly what its own task produces alone. -/

/-- The node tasks of a cycle run one after another from the state they start
from. -/
def Cycle.sequential (cycle : Cycle) (kubelet : Kubelet) : Scrape :=
  runCalls cycle.tickTime (cycle.programs kubelet.optInAnalysisData).flatten (cycle.initial kubelet)

/-- The records task `index` appends when it runs alone from the state the node
tasks start from. -/
def Cycle.taskRecords (cycle : Cycle) (kubelet : Kubelet) (index : Nat) : List Metrics :=
  (Pool.alone cycle.tickTime (cycle.programs kubelet.optInAnalysisData) (cycle.initial kubelet)
    index).metrics.drop (cycle.initial kubelet).metrics.length

theorem Cycle.length_programs (cycle : Cycle) (optInAnalysisData : Bool) :
    (cycle.programs optInAnalysisData).length = cycle.scanner.nodes.length := by
  simp [Cycle.programs]

/-- With no turn taken before `pr.Do()`, the cycle runs its node tasks one after
another. -/
theorem getMetrics_nil (kubelet : Kubelet) (cycle : Cycle) :
    (getMetrics kubelet cycle []).metrics = (cycle.sequential kubelet).metrics ∧
      (getMetrics kubelet cycle []).rawResponses =
        (if kubelet.optInAnalysisData then some (cycle.sequential kubelet).rawResponses else none) ∧
      (getMetrics kubelet cycle []).kubelet =
        { kubelet with previous := (cycle.sequential kubelet).previous } := by
  have sequential := Pool.run_drain cycle.tickTime (cycle.programs kubelet.optInAnalysisData)
    (Pool.start _ (cycle.initial kubelet)) fun _ _ => rfl
  simp only [getMetrics, List.nil_append, sequential, Cycle.sequential]
  exact ⟨rfl, rfl, rfl⟩

/-- Separated node tasks end, for every schedule, as they end one after another. -/
theorem getMetrics_of_separated {kubelet : Kubelet} {cycle : Cycle}
    (separated : Pool.Separated (cycle.programs kubelet.optInAnalysisData)) (schedule : List Nat) :
    let outcome := getMetrics kubelet cycle schedule
    let sequential := cycle.sequential kubelet
    (outcome.metrics : Multiset Metrics) = sequential.metrics ∧
      outcome.rawResponses =
        (if kubelet.optInAnalysisData then some sequential.rawResponses else none) ∧
      outcome.kubelet = { kubelet with previous := sequential.previous } := by
  have same := (Pool.run_drain_settled cycle.tickTime _ (cycle.initial kubelet) separated
    schedule).eq (Pool.run_drain_settled cycle.tickTime _ (cycle.initial kubelet) separated [])
  obtain ⟨nilMetrics, nilRaw, nilKubelet⟩ := getMetrics_nil kubelet cycle
  simp only [getMetrics, List.nil_append] at nilMetrics nilRaw nilKubelet same
  refine ⟨same.1.trans (congrArg _ nilMetrics), ?_, ?_⟩
  · simp only [getMetrics, same.2.2, ← nilRaw]
  · simp only [getMetrics, same.2.1, ← nilKubelet]

/-- Separated node tasks return, for every schedule, the records they return one
after another. -/
theorem getMetrics_mem_iff_of_separated {kubelet : Kubelet} {cycle : Cycle}
    (separated : Pool.Separated (cycle.programs kubelet.optInAnalysisData)) (schedule : List Nat)
    (record : Metrics) :
    record ∈ (getMetrics kubelet cycle schedule).metrics ↔
      record ∈ (cycle.sequential kubelet).metrics := by
  rw [← Multiset.mem_coe, (getMetrics_of_separated separated schedule).1, Multiset.mem_coe]

/-- Separated node tasks append, for every schedule, every record that a call of
theirs appends whatever the table holds. -/
theorem getMetrics_mem_of_emitted {kubelet : Kubelet} {cycle : Cycle}
    (separated : Pool.Separated (cycle.programs kubelet.optInAnalysisData)) (schedule : List Nat)
    {index : Nat} {call : Call}
    (member : call ∈ (cycle.programs kubelet.optInAnalysisData).getD index []) {record : Metrics}
    (always : ∀ previous, record ∈ call.emitted cycle.tickTime previous) :
    record ∈ (getMetrics kubelet cycle schedule).metrics := by
  rw [getMetrics_mem_iff_of_separated separated]
  have inside : index < (cycle.programs kubelet.optInAnalysisData).length := by
    by_contra outside
    rw [List.getD_eq_default _ _ (not_lt.mp outside)] at member
    cases member
  rw [List.getD_eq_getElem _ _ inside] at member
  exact mem_runCalls_of_emitted (List.mem_flatten.mpr ⟨_, List.getElem_mem inside, member⟩) always _

/-- Whatever the schedule, every record of a cycle is one that a call of the
snapshot or of a node task yields. -/
theorem getMetrics_origin (kubelet : Kubelet) (cycle : Cycle) (schedule : List Nat) :
    ∀ record ∈ (getMetrics kubelet cycle schedule).metrics,
      (∃ call ∈ cycle.snapshotCalls, call.Yields cycle.tickTime record) ∨
        ∃ index node, cycle.scanner.nodes[index]? = some node ∧
          ∃ call ∈ (nodeTask cycle.scanner kubelet.optInAnalysisData cycle.order node
            (cycle.responses index) (cycle.clock index)).1, call.Yields cycle.tickTime record := by
  intro record member
  rcases Pool.run_origin cycle.tickTime _ (cycle.initial kubelet) _ record member with
    initial | ⟨index, call, callMember, yields⟩
  · rcases mem_runCalls_metrics initial with absent | found
    · cases absent
    · exact .inl found
  · obtain ⟨node, found, taskMember⟩ := Cycle.mem_programs callMember
    exact .inr ⟨index, node, found, call, taskMember, yields⟩

/-- The records of the snapshot stay, whatever the schedule. -/
theorem getMetrics_snapshot_records (kubelet : Kubelet) (cycle : Cycle) (schedule : List Nat) :
    ∀ record ∈ (cycle.initial kubelet).metrics, record ∈ (getMetrics kubelet cycle schedule).metrics :=
  fun _ member => (Pool.metrics_prefix_run cycle.tickTime
    (Pool.start (cycle.programs kubelet.optInAnalysisData) (cycle.initial kubelet))
    (schedule ++ drain _)).mem member

/-- The records the spec asks for per container of the snapshot, stamped with
the applications' scan time: its CPU and memory requests and limits, under
its application, service and container but no node. -/
def Cycle.requestRecords (cycle : Cycle) : List Metrics :=
  cycle.scanner.applications.flatMap fun application =>
    application.services.flatMap fun service =>
      service.containers.flatMap fun container =>
        [("cpu/request", container.requestsCpu), ("cpu/limit", container.limitsCpu),
          ("memory/request", container.requestsMemory),
          ("memory/limit", container.limitsMemory)].map fun figure =>
          metricValue cycle.tickTime typePodContainer figure.1 UUID.Nil application.id
            service.id container.id "" cycle.scanner.appsLastScanTime figure.2

/-- The records the spec derives from the snapshot alone, stamped with its scan
times: the number of nodes; one record per distinct instance group, tagged
with it and holding the number of nodes in it; the CPU and memory capacity and
allocatable figures of each node; and the requests and limits of each
container. -/
def Cycle.snapshotRecords (cycle : Cycle) : List Metrics :=
  metricValue cycle.tickTime typeCluster "nodes/count" UUID.Nil UUID.Nil UUID.Nil UUID.Nil ""
      cycle.scanner.nodesLastScanTime (Int64.ofInt cycle.scanner.nodes.length) ::
    ((cycle.scanner.nodes.map expectedInstanceGroup).dedup.map fun group =>
      taggedValue typeCluster "nodes/count" UUID.Nil UUID.Nil UUID.Nil UUID.Nil ""
        cycle.scanner.nodesLastScanTime
        (Int64.ofInt ((cycle.scanner.nodes.map expectedInstanceGroup).count group))
        [("instance_group", group)]) ++
    (cycle.scanner.nodes.flatMap fun node =>
      [("cpu/node_capacity", node.capacity.cpu), ("cpu/node_allocatable", node.allocatable.cpu),
        ("memory/node_capacity", node.capacity.memory),
        ("memory/node_allocatable", node.allocatable.memory)].map fun figure =>
        metricValue cycle.tickTime typeNode figure.1 node.id UUID.Nil UUID.Nil UUID.Nil ""
          cycle.scanner.nodesLastScanTime figure.2) ++
    cycle.requestRecords

theorem Cycle.snapshotCalls_absolute (cycle : Cycle) :
    ∀ call ∈ cycle.snapshotCalls, call.rateKey = none := by
  intro call member
  simp only [Cycle.snapshotCalls, clusterCalls, requestCalls, List.mem_append,
    List.mem_singleton, List.mem_map, List.mem_flatMap] at member
  rcases member with ((rfl | ⟨_, _, rfl⟩) | ⟨_, _, _, _, rfl⟩) | ⟨_, _, _, _, _, _, _, _, rfl⟩ <;>
    rfl

/-- The node tasks start from the snapshot's records, in the order `range`
visits the instance groups. -/
theorem Cycle.initial_metrics_perm (cycle : Cycle) (kubelet : Kubelet) :
    (cycle.initial kubelet).metrics.Perm cycle.snapshotRecords := by
  have groups := ((cycle.order.perm _).trans (instanceGroups_perm cycle.scanner.nodes)).map
    fun entry => taggedValue typeCluster "nodes/count" UUID.Nil UUID.Nil UUID.Nil UUID.Nil ""
      cycle.scanner.nodesLastScanTime entry.2 [("instance_group", entry.1)]
  simp only [List.map_map, instanceGroup_eq_expected, Function.comp_def] at groups
  rw [Cycle.initial, runCalls_metrics_of_absolute cycle.snapshotCalls_absolute, List.nil_append]
  simp only [Cycle.snapshotCalls, clusterCalls, requestCalls, nodeCapacities, containerSpecs,
    List.flatMap_append, List.flatMap_map, List.flatMap_assoc, List.flatMap_cons,
    List.flatMap_nil, Call.emitted, List.nil_append, List.singleton_append, List.cons_append,
    List.append_nil, List.map_cons, List.map_nil, List.append_assoc, Cycle.snapshotRecords,
    Cycle.requestRecords, ← List.map_eq_flatMap]
  exact (groups.append_right _).cons _

/-- One task alone never shares a key. -/
theorem Pool.separated_of_length_le_one {programs : List (List Call)}
    (short : programs.length ≤ 1) : Pool.Separated programs := by
  have only : ∀ {index : Nat} {call : Call}, call ∈ programs.getD index [] → index = 0 :=
    fun {index} _ member => by
      by_contra other
      rw [List.getD_eq_default _ _ (by omega)] at member
      cases member
  exact ⟨fun ⟨_, member, _⟩ ⟨_, otherMember, _⟩ => (only member).trans (only otherMember).symm,
    fun ⟨_, member, _⟩ ⟨_, otherMember, _⟩ => (only member).trans (only otherMember).symm⟩

/-- For every interleaving of the node tasks' critical sections, when nodes are
distinct, no pod is listed by two nodes and no namespace or pod name contains
`:`: the cycle returns no error; the same multiset of records, the same raw
responses and the same table as the tasks run one after another; the node
count, group counts, capacities, allocatables, requests and limits of the
snapshot; and, besides those, exactly the records each node's task appends when
it runs alone. -/
theorem getMetrics_interleavings (kubelet : Kubelet) (cycle : Cycle)
    (distinctNodes : (cycle.scanner.nodes.map Node.id).Nodup)
    (podsApart : ∀ index < cycle.scanner.nodes.length, ∀ other < cycle.scanner.nodes.length,
      index ≠ other → ∀ pod ∈ (cycle.responses index).pods,
        ∀ otherPod ∈ (cycle.responses other).pods, pod.podRef ≠ otherPod.podRef)
    (colonFree : ∀ index < cycle.scanner.nodes.length, ∀ pod ∈ (cycle.responses index).pods,
      Strings.NoColon pod.podRef.namespace_ ∧ Strings.NoColon pod.podRef.name)
    (schedule : List Nat) :
    let outcome := getMetrics kubelet cycle schedule
    let sequential := cycle.sequential kubelet
    outcome.error = none ∧
      (outcome.metrics : Multiset Metrics) = sequential.metrics ∧
      outcome.rawResponses =
        (if kubelet.optInAnalysisData then some sequential.rawResponses else none) ∧
      outcome.kubelet = { kubelet with previous := sequential.previous } ∧
      (∀ record ∈ cycle.snapshotRecords, record ∈ outcome.metrics) ∧
      (outcome.metrics : Multiset Metrics) = cycle.snapshotRecords +
        ∑ index ∈ Finset.range cycle.scanner.nodes.length,
          (cycle.taskRecords kubelet index : Multiset Metrics) := by
  have separated := cycle.separated kubelet.optInAnalysisData distinctNodes podsApart colonFree
  have snapshot := cycle.initial_metrics_perm kubelet
  obtain ⟨sameMetrics, sameRaw, sameKubelet⟩ := getMetrics_of_separated separated schedule
  refine ⟨rfl, sameMetrics, sameRaw, sameKubelet, fun record member =>
    getMetrics_snapshot_records kubelet cycle schedule record (snapshot.mem_iff.mpr member), ?_⟩
  rw [← Multiset.coe_eq_coe.mpr snapshot, ← Cycle.length_programs cycle kubelet.optInAnalysisData]
  exact (Pool.run_drain_settled cycle.tickTime _ (cycle.initial kubelet) separated
    schedule).records

/-- An identifier of sixteen equal bytes. -/
def uuidOf (byte : UInt8) : UUID := ⟨List.replicate 16 byte, List.length_replicate _ _⟩

/-- A snapshot of two nodes and of one application whose service has one
container. -/
def twoNodeSnapshot : Scanner where
  nodes := [⟨uuidOf 1, "node-a", "m5", "large", ⟨2000, 8000⟩, ⟨1900, 7000⟩⟩,
    ⟨uuidOf 2, "node-b", "m5", "", ⟨2000, 8000⟩, ⟨1900, 7000⟩⟩]
  nodesLastScanTime := ⟨1⟩
  applications := [⟨uuidOf 3, [⟨uuidOf 4, [⟨uuidOf 5, 100, 200, 300, 400⟩]⟩]⟩]
  appsLastScanTime := ⟨1⟩
  findService _ _ := some (uuidOf 3, uuidOf 4)
  findContainer _ _ _ := some (uuidOf 3, uuidOf 4, ⟨uuidOf 5, 100, 200, 300, 400⟩)
  findContainerByPodUIDContainerName _ _ := none

/-- The answers of a node that serves the pod `name` of namespace `shop`, with
one container, and has no cAdvisor samples. -/
def servingPod (name : String) : NodeResponse :=
  ⟨.ok ⟨none, .ok { pods := [⟨⟨name, "shop"⟩, [{ name := "web" }], {}⟩] }⟩, .ok CAdvisorBody.empty⟩

/-- A cycle over `twoNodeSnapshot` in which each node serves a pod of its own. -/
def twoPodCycle : Cycle :=
  ⟨twoNodeSnapshot, fun index => servingPod (if index = 0 then "web-a" else "web-b"),
    fun _ => ⟨1⟩, ⟨1⟩, ⟨1⟩, MapOrder.insertion⟩

theorem getMetrics_interleavings_two_pods :
    ((twoPodCycle.responses 0).pods.map (·.podRef) = [⟨"web-a", "shop"⟩] ∧
      (twoPodCycle.responses 1).pods.map (·.podRef) = [⟨"web-b", "shop"⟩]) ∧
    (getMetrics ⟨RateTable.empty, false⟩ twoPodCycle [1, 0, 1, 0, 1]).error = none ∧
    ((getMetrics ⟨RateTable.empty, false⟩ twoPodCycle [1, 0, 1, 0, 1]).metrics : Multiset Metrics) =
      (twoPodCycle.sequential ⟨RateTable.empty, false⟩).metrics ∧
    ∀ record ∈ twoPodCycle.snapshotRecords,
      record ∈ (getMetrics ⟨RateTable.empty, false⟩ twoPodCycle [1, 0, 1, 0, 1]).metrics := by
  obtain ⟨none_, same, -, -, kept, -⟩ := getMetrics_interleavings ⟨RateTable.empty, false⟩
    twoPodCycle (by decide) (by decide) (by decide) [1, 0, 1, 0, 1]
  exact ⟨⟨rfl, rfl⟩, none_, same, kept⟩

end MagalixAgent.Scraper
