import MagalixAgent.Scraper.Schedules

namespace MagalixAgent.Scraper

/-! # What every record carries

Two facts about every record a cycle returns, whatever the schedule, read off
the calls that can yield it (`getMetrics_origin`): the identifiers its type
requires, and a non-zero timestamp. The snapshot's per-container request and
limit records carry no node, and the tagged `nodes/count` records keep the
snapshot's scan time even when it is zero. -/

/-! ## Identifiers -/

/-- The identifier scope the spec requires of a record of each type: cluster
records carry no identifier, node records only their node, pod records their
node, application and service, and pod-container records all four. -/
def IdentifierScope (record : Metrics) : Prop :=
  (record.type = typeCluster → record.node = UUID.Nil ∧ record.application = UUID.Nil ∧
    record.service = UUID.Nil ∧ record.container = UUID.Nil) ∧
  (record.type = typeNode → record.node ≠ UUID.Nil ∧ record.application = UUID.Nil ∧
    record.service = UUID.Nil ∧ record.container = UUID.Nil) ∧
  (record.type = typePod → record.node ≠ UUID.Nil ∧ record.application ≠ UUID.Nil ∧
    record.service ≠ UUID.Nil ∧ record.container = UUID.Nil) ∧
  (record.type = typePodContainer → record.node ≠ UUID.Nil ∧ record.application ≠ UUID.Nil ∧
    record.service ≠ UUID.Nil ∧ record.container ≠ UUID.Nil)

/-- A request or limit record of the snapshot's containers: pod-container scope,
its application, service and container, but no node and no pod name. -/
def SnapshotRequest (record : Metrics) : Prop :=
  record.type = typePodContainer ∧ record.node = UUID.Nil ∧ record.podName = "" ∧
    record.application ≠ UUID.Nil ∧ record.service ≠ UUID.Nil ∧ record.container ≠ UUID.Nil

section Identifiers

variable {tickTime : Time} {call : Call} {record : Metrics} {measurement podName : String}
  {timestamp : Time} {value : Int64} {nodeID applicationID serviceID containerID : UUID}

theorem metricValue_scope_node (nodeNonNil : nodeID ≠ UUID.Nil) :
    IdentifierScope (metricValue tickTime typeNode measurement nodeID UUID.Nil UUID.Nil UUID.Nil
      podName timestamp value) := by
  simp [IdentifierScope, metricValue, typeCluster, typeNode, typePod, typePodContainer, nodeNonNil]

theorem metricValue_scope_pod (nodeNonNil : nodeID ≠ UUID.Nil)
    (application : applicationID ≠ UUID.Nil) (service : serviceID ≠ UUID.Nil) :
    IdentifierScope (metricValue tickTime typePod measurement nodeID applicationID serviceID
      UUID.Nil podName timestamp value) := by
  simp [IdentifierScope, metricValue, typeCluster, typeNode, typePod, typePodContainer, nodeNonNil,
    application, service]

theorem metricValue_scope_podContainer (nodeNonNil : nodeID ≠ UUID.Nil)
    (application : applicationID ≠ UUID.Nil) (service : serviceID ≠ UUID.Nil)
    (container : containerID ≠ UUID.Nil) :
    IdentifierScope (metricValue tickTime typePodContainer measurement nodeID applicationID
      serviceID containerID podName timestamp value) := by
  simp [IdentifierScope, metricValue, typeCluster, typeNode, typePod, typePodContainer, nodeNonNil,
    application, service, container]

theorem clusterCalls_scope {order : MapOrder} {scanner : Scanner}
    (nodesNonNil : ∀ node ∈ scanner.nodes, node.id ≠ UUID.Nil)
    (member : call ∈ clusterCalls order scanner) (yields : call.Yields tickTime record) :
    IdentifierScope record := by
  simp only [clusterCalls, List.mem_append, List.mem_singleton, List.mem_map,
    List.mem_flatMap] at member
  rcases member with (rfl | ⟨entry, _, rfl⟩) | ⟨node, nodeMember, measurement, _, rfl⟩ <;>
    subst yields
  · simp [IdentifierScope, metricValue, typeCluster, typeNode, typePod, typePodContainer]
  · simp [IdentifierScope, taggedValue, typeCluster, typeNode, typePod, typePodContainer]
  · exact metricValue_scope_node (nodesNonNil node nodeMember)

/-- The request and limit calls yield the snapshot's request and limit records,
which have the shape of `SnapshotRequest`. -/
theorem requestCalls_scope {cycle : Cycle}
    (appsNonNil : ∀ application ∈ cycle.scanner.applications, application.id ≠ UUID.Nil ∧
      ∀ service ∈ application.services, service.id ≠ UUID.Nil ∧
        ∀ container ∈ service.containers, container.id ≠ UUID.Nil)
    (member : call ∈ requestCalls cycle.scanner) (yields : call.Yields cycle.tickTime record) :
    SnapshotRequest record ∧ record ∈ cycle.requestRecords := by
  simp only [requestCalls, List.mem_flatMap, List.mem_map] at member
  obtain ⟨application, applicationMember, service, serviceMember, container, containerMember,
    entry, listed, rfl⟩ := member
  subst yields
  have ⟨applicationNonNil, services⟩ := appsNonNil application applicationMember
  have ⟨serviceNonNil, containers⟩ := services service serviceMember
  refine ⟨⟨rfl, rfl, rfl, applicationNonNil, serviceNonNil, containers container containerMember⟩,
    ?_⟩
  simp only [Cycle.requestRecords, List.mem_flatMap, List.mem_map]
  exact ⟨application, applicationMember, service, serviceMember, container, containerMember,
    entry, listed, rfl⟩

/-- Every record a node task yields has the scope of its type, when its node and
every hit of `FindService` and `FindContainer` carry non-nil identifiers. -/
theorem nodeTask_scope {scanner : Scanner} {optInAnalysisData : Bool} {order : MapOrder}
    {node : Node} {response : NodeResponse} {now : Time} (nodeNonNil : node.id ≠ UUID.Nil)
    (serviceHits : ∀ namespace_ podName applicationID serviceID,
      scanner.findService namespace_ podName = some (applicationID, serviceID) →
        applicationID ≠ UUID.Nil ∧ serviceID ≠ UUID.Nil)
    (containerHits : ∀ namespace_ podName containerName applicationID serviceID identified,
      scanner.findContainer namespace_ podName containerName =
        some (applicationID, serviceID, identified) →
        applicationID ≠ UUID.Nil ∧ serviceID ≠ UUID.Nil ∧ identified.id ≠ UUID.Nil)
    (member : call ∈ (nodeTask scanner optInAnalysisData order node response now).1)
    (yields : call.Yields tickTime record) : IdentifierScope record := by
  rcases mem_nodeTask member with ⟨data, rfl⟩ |
    ⟨summary, _, nodeMember | ⟨pod, _, podCall⟩ | ⟨cadvisor, throttleMember⟩⟩
  · exact yields.elim
  · rcases mem_nodeCalls nodeMember with ⟨_, _, rfl⟩ | ⟨_, _, rfl⟩
    · subst yields
      exact metricValue_scope_node nodeNonNil
    · obtain ⟨_, rfl⟩ := yields
      exact metricValue_scope_node nodeNonNil
  · obtain ⟨applicationID, serviceID, found, podBranch⟩ := mem_podCalls podCall
    have ⟨application, service⟩ := serviceHits _ _ _ _ found
    rcases podBranch with ⟨_, _, rfl⟩ | ⟨_, _, rfl⟩ | ⟨container, _, containerCall⟩
    · subst yields
      exact metricValue_scope_pod nodeNonNil application service
    · obtain ⟨_, rfl⟩ := yields
      exact metricValue_scope_pod nodeNonNil application service
    · obtain ⟨applicationID, serviceID, identified, found, containerBranch⟩ :=
        mem_containerCalls containerCall
      have ⟨application, service, container⟩ := containerHits _ _ _ _ _ _ found
      rcases containerBranch with ⟨_, _, rfl⟩ | rfl
      · subst yields
        exact metricValue_scope_podContainer nodeNonNil application service container
      · obtain ⟨_, rfl⟩ := yields
        exact metricValue_scope_podContainer nodeNonNil application service container
  · obtain ⟨entry, entryMember, stored, storedMember, made⟩ := mem_throttleCalls throttleMember
    obtain ⟨_, pod, _, container, _, applicationID, serviceID, identified, found, origin⟩ :=
      (throttleFrom_pods scanner order summary.pods).fillThrottle cadvisor entry entryMember
        stored storedMember
    have ids : stored.2.applicationID = applicationID ∧ stored.2.serviceID = serviceID ∧
        stored.2.containerID = identified.id :=
      ⟨congrArg ContainerMetricStore.applicationID origin,
        congrArg ContainerMetricStore.serviceID origin,
        congrArg ContainerMetricStore.containerID origin⟩
    have ⟨application, service, container⟩ : stored.2.applicationID ≠ UUID.Nil ∧
        stored.2.serviceID ≠ UUID.Nil ∧ stored.2.containerID ≠ UUID.Nil := by
      rw [ids.1, ids.2.1, ids.2.2]
      exact containerHits _ _ _ _ _ _ found
    rcases made with rfl | rfl
    · subst yields
      exact metricValue_scope_podContainer nodeNonNil application service container
    · obtain ⟨_, rfl⟩ := yields
      exact metricValue_scope_podContainer nodeNonNil application service container

end Identifiers

/-- Every record a cycle returns, whatever the schedule, has the identifiers its
type requires, except the snapshot's request and limit records, which carry no
node and no pod name: a record outside the scope of its type is one of those.
This holds when every node, application, service and container of the
snapshot, and every hit of `FindService` and `FindContainer`, has non-nil
identifiers. -/
theorem getMetrics_identifier_scope (kubelet : Kubelet) (cycle : Cycle) (schedule : List Nat)
    (nodesNonNil : ∀ node ∈ cycle.scanner.nodes, node.id ≠ UUID.Nil)
    (appsNonNil : ∀ application ∈ cycle.scanner.applications, application.id ≠ UUID.Nil ∧
      ∀ service ∈ application.services, service.id ≠ UUID.Nil ∧
        ∀ container ∈ service.containers, container.id ≠ UUID.Nil)
    (serviceHits : ∀ namespace_ podName applicationID serviceID,
      cycle.scanner.findService namespace_ podName = some (applicationID, serviceID) →
        applicationID ≠ UUID.Nil ∧ serviceID ≠ UUID.Nil)
    (containerHits : ∀ namespace_ podName containerName applicationID serviceID identified,
      cycle.scanner.findContainer namespace_ podName containerName =
        some (applicationID, serviceID, identified) →
        applicationID ≠ UUID.Nil ∧ serviceID ≠ UUID.Nil ∧ identified.id ≠ UUID.Nil) :
    ∀ record ∈ (getMetrics kubelet cycle schedule).metrics,
      IdentifierScope record ∨ SnapshotRequest record ∧ record ∈ cycle.requestRecords := by
  intro record member
  rcases getMetrics_origin kubelet cycle schedule record member with
    ⟨call, snapshotMember, yields⟩ | ⟨index, node, found, call, taskMember, yields⟩
  · rcases List.mem_append.mp snapshotMember with cluster | request
    · exact .inl (clusterCalls_scope nodesNonNil cluster yields)
    · exact .inr (requestCalls_scope appsNonNil request yields)
  · exact .inl (nodeTask_scope (nodesNonNil node (List.getElem?_mem found)) serviceHits
      containerHits taskMember yields)

/-- A snapshot with no node yet and one application with one service and one
container. -/
def requestSnapshot : Scanner where
  nodes := []
  nodesLastScanTime := ⟨1⟩
  applications := [⟨uuidOf 1, [⟨uuidOf 2, [⟨uuidOf 3, 100, 200, 300, 400⟩]⟩]⟩]
  appsLastScanTime := ⟨1⟩
  findService _ _ := none
  findContainer _ _ _ := none
  findContainerByPodUIDContainerName _ _ := none

/-- A cycle over `requestSnapshot`. -/
def requestCycle : Cycle :=
  ⟨requestSnapshot, fun _ => ⟨.error "timeout", .error "timeout"⟩, fun _ => ⟨1⟩, ⟨1⟩, ⟨1⟩,
    MapOrder.insertion⟩

/-- The `cpu/request` record of the container of `requestSnapshot`. -/
def requestRecord : Metrics :=
  metricValue ⟨1⟩ typePodContainer "cpu/request" UUID.Nil (uuidOf 1) (uuidOf 2) (uuidOf 3) "" ⟨1⟩
    100

theorem requestRecord_mem (schedule : List Nat) :
    requestRecord ∈ (getMetrics ⟨RateTable.empty, false⟩ requestCycle schedule).metrics := by
  refine getMetrics_snapshot_records _ _ _ _ ?_
  have member : Call.addMetricValue typePodContainer "cpu/request" UUID.Nil (uuidOf 1) (uuidOf 2)
      (uuidOf 3) "" ⟨1⟩ 100 ∈ requestCycle.snapshotCalls := by
    simp [Cycle.snapshotCalls, requestCalls, requestCycle, requestSnapshot, containerSpecs]
  exact mem_runCalls_of_emitted member (fun _ => List.mem_singleton_self _) _

theorem getMetrics_identifier_scope_requests :
    requestRecord ∈ (getMetrics ⟨RateTable.empty, false⟩ requestCycle [0]).metrics ∧
      (IdentifierScope requestRecord ∨
        SnapshotRequest requestRecord ∧ requestRecord ∈ requestCycle.requestRecords) :=
  ⟨requestRecord_mem [0], getMetrics_identifier_scope ⟨RateTable.empty, false⟩ requestCycle [0]
    (by simp [requestCycle, requestSnapshot]) (by simp [requestCycle, requestSnapshot]; decide)
    (by simp [requestCycle, requestSnapshot]) (by simp [requestCycle, requestSnapshot])
    requestRecord (requestRecord_mem [0])⟩

/-- On `requestCycle` every identifier is non-nil, yet the `cpu/request` record
of its container carries no node, as a record of type `PodContainer` should. -/
theorem getMetrics_request_without_node :
    (∀ node ∈ requestCycle.scanner.nodes, node.id ≠ UUID.Nil) ∧
      (∀ application ∈ requestCycle.scanner.applications, application.id ≠ UUID.Nil ∧
        ∀ service ∈ application.services, service.id ≠ UUID.Nil ∧
          ∀ container ∈ service.containers, container.id ≠ UUID.Nil) ∧
      (∀ namespace_ podName applicationID serviceID,
        requestCycle.scanner.findService namespace_ podName = some (applicationID, serviceID) →
          applicationID ≠ UUID.Nil ∧ serviceID ≠ UUID.Nil) ∧
      (∀ namespace_ podName containerName applicationID serviceID identified,
        requestCycle.scanner.findContainer namespace_ podName containerName =
          some (applicationID, serviceID, identified) →
          applicationID ≠ UUID.Nil ∧ serviceID ≠ UUID.Nil ∧ identified.id ≠ UUID.Nil) ∧
      ∃ record ∈ (getMetrics ⟨RateTable.empty, false⟩ requestCycle []).metrics,
        ¬IdentifierScope record :=
  ⟨by simp [requestCycle, requestSnapshot], by simp [requestCycle, requestSnapshot]; decide,
    by simp [requestCycle, requestSnapshot], by simp [requestCycle, requestSnapshot],
    requestRecord, requestRecord_mem [], fun scope => (scope.2.2.2 rfl).1 rfl⟩

/-! ## Timestamps -/

/-- A call whose closure replaces a zero timestamp by the tick time: every call
but `addMetricValueWithTags`. -/
def Call.Stamped : Call → Prop
  | .addMetricValueWithTags .. => False
  | _ => True

theorem Call.timestamp_ne_zero {tickTime : Time} {call : Call} {record : Metrics}
    (stamped : call.Stamped) (yields : call.Yields tickTime record) (nonzero : tickTime ≠ Time.zero) :
    record.timestamp ≠ Time.zero := by
  cases call with
  | addMetricValue =>
      subst yields
      exact Time.orTickTime_ne_zero nonzero
  | addMetricValueWithTags => exact stamped.elim
  | addMetricValueRate =>
      obtain ⟨rate, rfl⟩ := yields
      exact Time.orTickTime_ne_zero nonzero
  | addRawResponse => exact yields.elim

/-- A node task makes no `addMetricValueWithTags` call. -/
theorem nodeTask_stamped {scanner : Scanner} {optInAnalysisData : Bool} {order : MapOrder}
    {node : Node} {response : NodeResponse} {now : Time} {call : Call}
    (member : call ∈ (nodeTask scanner optInAnalysisData order node response now).1) :
    call.Stamped := by
  rcases mem_nodeTask member with ⟨data, rfl⟩ |
    ⟨summary, _, nodeMember | ⟨pod, _, podCall⟩ | ⟨cadvisor, throttleMember⟩⟩
  · exact trivial
  · rcases mem_nodeCalls nodeMember with ⟨_, _, rfl⟩ | ⟨_, _, rfl⟩ <;> exact trivial
  · obtain ⟨_, _, _, ⟨_, _, rfl⟩ | ⟨_, _, rfl⟩ | ⟨container, _, containerCall⟩⟩ :=
      mem_podCalls podCall
    · exact trivial
    · exact trivial
    · obtain ⟨_, _, _, _, ⟨_, _, rfl⟩ | rfl⟩ := mem_containerCalls containerCall <;> exact trivial
  · obtain ⟨_, _, _, _, rfl | rfl⟩ := mem_throttleCalls throttleMember <;> exact trivial

/-- With a non-zero tick time, every record a cycle returns without additional
tags has a non-zero timestamp, whatever the schedule: only
`addMetricValueWithTags` keeps a zero timestamp, and only the tagged
`nodes/count` records go through it. -/
theorem getMetrics_untagged_timestamp (kubelet : Kubelet) (cycle : Cycle) (schedule : List Nat)
    (nonzero : cycle.tickTime ≠ Time.zero) :
    ∀ record ∈ (getMetrics kubelet cycle schedule).metrics,
      record.additionalTags = [] → record.timestamp ≠ Time.zero := by
  intro record member untagged
  rcases getMetrics_origin kubelet cycle schedule record member with
    ⟨call, snapshotMember, yields⟩ | ⟨_, _, _, call, taskMember, yields⟩
  · rcases List.mem_append.mp snapshotMember with cluster | request
    · simp only [clusterCalls, List.mem_append, List.mem_singleton, List.mem_map,
        List.mem_flatMap] at cluster
      rcases cluster with (rfl | ⟨entry, _, rfl⟩) | ⟨_, _, _, _, rfl⟩
      · exact Call.timestamp_ne_zero (by exact trivial) yields nonzero
      · subst yields
        cases untagged
      · exact Call.timestamp_ne_zero (by exact trivial) yields nonzero
    · simp only [requestCalls, List.mem_flatMap, List.mem_map] at request
      obtain ⟨_, _, _, _, _, _, _, _, rfl⟩ := request
      exact Call.timestamp_ne_zero (by exact trivial) yields nonzero
  · exact Call.timestamp_ne_zero (nodeTask_stamped taskMember) yields nonzero

/-- A snapshot of one node taken before the scanner's first scan: its scan time
is still zero. -/
def unscannedSnapshot : Scanner where
  nodes := [⟨uuidOf 1, "node-a", "m5", "large", ⟨2000, 8000⟩, ⟨1900, 7000⟩⟩]
  nodesLastScanTime := Time.zero
  applications := []
  appsLastScanTime := Time.zero
  findService _ _ := none
  findContainer _ _ _ := none
  findContainerByPodUIDContainerName _ _ := none

/-- A cycle over `unscannedSnapshot` with a non-zero tick time. -/
def unscannedCycle : Cycle :=
  ⟨unscannedSnapshot, fun _ => ⟨.error "timeout", .error "timeout"⟩, fun _ => ⟨1⟩, ⟨1⟩, ⟨1⟩,
    MapOrder.insertion⟩

theorem getMetrics_untagged_timestamp_unscanned :
    metricValue ⟨1⟩ typeCluster "nodes/count" UUID.Nil UUID.Nil UUID.Nil UUID.Nil "" Time.zero 1 ∈
        (getMetrics ⟨RateTable.empty, false⟩ unscannedCycle [0, 0]).metrics ∧
      (metricValue ⟨1⟩ typeCluster "nodes/count" UUID.Nil UUID.Nil UUID.Nil UUID.Nil "" Time.zero
        1).timestamp ≠ Time.zero :=
  have member : metricValue ⟨1⟩ typeCluster "nodes/count" UUID.Nil UUID.Nil UUID.Nil UUID.Nil ""
      Time.zero 1 ∈ (getMetrics ⟨RateTable.empty, false⟩ unscannedCycle [0, 0]).metrics :=
    getMetrics_snapshot_records _ _ _ _ (mem_runCalls_of_emitted (List.mem_cons_self _ _)
      (fun _ => List.mem_singleton_self _) _)
  ⟨member, getMetrics_untagged_timestamp ⟨RateTable.empty, false⟩ unscannedCycle [0, 0]
    (by decide) _ member rfl⟩

/-- With a non-zero tick time, whatever the schedule, the cycle over
`unscannedSnapshot` returns its tagged `nodes/count` record with the zero
timestamp. -/
theorem getMetrics_tagged_zero_timestamp (schedule : List Nat) :
    unscannedCycle.tickTime ≠ Time.zero ∧
      taggedValue typeCluster "nodes/count" UUID.Nil UUID.Nil UUID.Nil UUID.Nil "" Time.zero 1
          [("instance_group", "m5.large")] ∈
        (getMetrics ⟨RateTable.empty, false⟩ unscannedCycle schedule).metrics := by
  refine ⟨by decide, getMetrics_snapshot_records _ _ _ _ ?_⟩
  have member : Call.addMetricValueWithTags typeCluster "nodes/count" UUID.Nil UUID.Nil UUID.Nil
      UUID.Nil "" Time.zero 1 [("instance_group", "m5.large")] ∈ unscannedCycle.snapshotCalls := by
    have counted : ("m5.large", 1) ∈ instanceGroups unscannedSnapshot.nodes := by decide
    exact List.mem_append_left _ (List.mem_append_left _ (List.mem_append_right _
      (List.mem_map_of_mem _ counted)))
  exact mem_runCalls_of_emitted member (fun _ => List.mem_singleton_self _) _

end MagalixAgent.Scraper
