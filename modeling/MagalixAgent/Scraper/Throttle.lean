import MagalixAgent.Scraper.NodeRecords

namespace MagalixAgent.Scraper

/-! # The throttle records

The container loop files three stores under each container's identifier in
`throttleMetrics`, the cAdvisor loop fills them, and the emission loop makes one
absolute and one rate call per store. Keyed by container identifier, the map
holds one entry per container: pods that resolve to one container share an entry,
the last pod's stores replacing the others' (the lost records of the
shared-container cycle in `NodeRecords`), and no counter of a container is
emitted twice. This module states the map's shape, shows that every loop keeps
it, and lifts it to the records of a cycle: whatever the schedule, no two records
carry the same node, container and throttle counter. -/

/-! ## The throttle map -/

/-- The shape the container and cAdvisor loops keep `throttleMetrics` in. -/
structure WellFiled (throttle : ThrottleMetrics) : Prop where
  /-- One entry per container identifier. -/
  keys : (throttle.map Prod.fst).Nodup
  /-- One store per counter name in each entry. -/
  names : ∀ entry ∈ throttle, (entry.2.map Prod.fst).Nodup
  /-- Every store is filed under its container's identifier. -/
  filed : ∀ entry ∈ throttle, ∀ stored ∈ entry.2, stored.2.containerID = entry.1

theorem WellFiled.empty : WellFiled GoMap.empty :=
  ⟨GoMap.nodup_empty, (fun _ absent => by cases absent), fun _ absent => by cases absent⟩

theorem WellFiled.insert {throttle : ThrottleMetrics} (filed : WellFiled throttle) (key : UUID)
    {stores : GoMap String ContainerMetricStore} (names : (stores.map Prod.fst).Nodup)
    (storesFiled : ∀ stored ∈ stores, stored.2.containerID = key) :
    WellFiled (throttle.insert key stores) where
  keys := GoMap.nodup_insert filed.keys key stores
  names entry member := (GoMap.mem_insert member).elim (filed.names entry) fun added => by
    subst added
    exact names
  filed entry member := (GoMap.mem_insert member).elim (filed.filed entry) fun added => by
    subst added
    exact storesFiled

theorem WellFiled.containerThrottle {throttle : ThrottleMetrics} (filed : WellFiled throttle)
    (scanner : Scanner) (pod : KubeletSummaryPod) (container : KubeletSummaryContainer) :
    WellFiled (Scraper.containerThrottle scanner pod throttle container) := by
  unfold Scraper.containerThrottle
  split
  · exact filed
  · refine filed.insert _ ?_ fun stored member => by rw [(mem_throttleStores member).2]; rfl
    unfold throttleStores
    exact GoMap.nodup_insert (GoMap.nodup_insert (GoMap.nodup_insert GoMap.nodup_empty _ _) _ _) _ _

theorem WellFiled.podThrottle {throttle : ThrottleMetrics} (filed : WellFiled throttle)
    (scanner : Scanner) (order : MapOrder) (pod : KubeletSummaryPod) :
    WellFiled (Scraper.podThrottle scanner order throttle pod) := by
  unfold Scraper.podThrottle
  split
  · exact filed
  · exact List.foldlRecOn (motive := WellFiled) _ _ throttle filed
      fun _ kept entry _ => kept.containerThrottle scanner pod entry.2

/-- The pod loop builds a well-filed map. -/
theorem wellFiled_pods (scanner : Scanner) (order : MapOrder) (pods : List KubeletSummaryPod) :
    WellFiled (pods.foldl (podThrottle scanner order) GoMap.empty) :=
  List.foldlRecOn (motive := WellFiled) _ _ _ WellFiled.empty
    fun _ kept pod _ => kept.podThrottle scanner order pod

theorem WellFiled.recordSample {throttle : ThrottleMetrics} (filed : WellFiled throttle)
    (scanner : Scanner) (name : String) (sample : Option ContainerValue) :
    WellFiled (Scraper.recordSample scanner name throttle sample) := by
  unfold Scraper.recordSample
  repeat' split
  all_goals try exact filed
  rename_i _ _ _ _ containerID _ _ stores foundStores _ store foundStore
  have storesMember := GoMap.mem_of_lookup foundStores
  refine filed.insert containerID (GoMap.nodup_insert (filed.names _ storesMember) _ _)
    fun stored member => (GoMap.mem_insert member).elim (filed.filed _ storesMember stored)
      fun added => ?_
  subst added
  exact filed.filed _ storesMember (_, store) (GoMap.mem_of_lookup foundStore)

theorem WellFiled.fillThrottle {throttle : ThrottleMetrics} (filed : WellFiled throttle)
    (scanner : Scanner) (cadvisor : CAdvisor) :
    WellFiled (Scraper.fillThrottle scanner cadvisor throttle) :=
  List.foldlRecOn (motive := WellFiled) _ _ throttle filed
    fun _ kept metric _ => List.foldlRecOn (motive := WellFiled) _ _ _ kept
      fun _ kept sample _ => kept.recordSample scanner metric.1 sample

/-- The container identifiers and counter names the emission loop visits, in
its order. -/
def throttlePairs (order : MapOrder) (throttle : ThrottleMetrics) : List (UUID × String) :=
  (order.arrange throttle).flatMap fun entry =>
    (order.arrange entry.2).map fun stored => (entry.1, stored.1)

/-- A well-filed map holds each counter of each container once. -/
theorem WellFiled.throttlePairs_nodup {throttle : ThrottleMetrics} (filed : WellFiled throttle)
    (order : MapOrder) : (throttlePairs order throttle).Nodup := by
  have arranged : ∀ entry ∈ order.arrange throttle, entry ∈ throttle := fun _ => order.mem_arrange.mp
  rw [throttlePairs, List.nodup_flatMap]
  refine ⟨fun entry member => ?_, ?_⟩
  · have names := (filed.names entry (arranged entry member)).perm
      ((order.perm entry.2).map Prod.fst).symm
    simpa only [List.map_map] using names.map (Prod.mk.inj_left entry.1)
  · have keys := filed.keys.perm ((order.perm throttle).map Prod.fst).symm
    refine (List.pairwise_map.mp keys).imp fun {first second} different => ?_
    simp only [Function.onFun, List.disjoint_left, List.mem_map]
    rintro _ ⟨_, _, rfl⟩ ⟨_, _, same⟩
    exact different (congrArg Prod.fst same).symm

/-! ## Throttle keys -/

/-- The node, container and counter of a record named after a throttle counter. -/
def throttleKeyOf (measurement : String) (nodeID containerID : UUID) :
    Option (UUID × UUID × String) :=
  if measurement ∈ throttleMetricRefs.map Prod.fst then some (nodeID, containerID, measurement)
  else none

def Metrics.throttleKey (record : Metrics) : Option (UUID × UUID × String) :=
  throttleKeyOf record.name record.node record.container

/-- The throttle key of the record a call appends, when it appends one. -/
def Call.throttleKey : Call → Option (UUID × UUID × String)
  | .addMetricValue _ measurement nodeID _ _ containerID _ _ _ =>
      throttleKeyOf measurement nodeID containerID
  | .addMetricValueWithTags _ measurement nodeID _ _ containerID _ _ _ _ =>
      throttleKeyOf measurement nodeID containerID
  | .addMetricValueRate _ _ _ measurement nodeID _ _ containerID _ _ _ _ =>
      throttleKeyOf measurement nodeID containerID
  | .addRawResponse .. => none

theorem throttleKeyOf_unthrottled {measurement : String} {nodeID containerID : UUID}
    (unthrottled : measurement ∉ throttleMetricRefs.map Prod.fst) :
    throttleKeyOf measurement nodeID containerID = none :=
  if_neg unthrottled

theorem throttleKeyOf_node {measurement : String} {nodeID containerID : UUID}
    {key : UUID × UUID × String} (keyed : throttleKeyOf measurement nodeID containerID = some key) :
    key.1 = nodeID := by
  unfold throttleKeyOf at keyed
  split at keyed
  · cases keyed
    rfl
  · cases keyed

theorem throttleRate_unthrottled {name : String} (named : name ∈ throttleMetricRefs.map Prod.fst) :
    name ++ "_rate" ∉ throttleMetricRefs.map Prod.fst := by
  simp only [throttleMetricRefs, List.map_cons, List.map_nil, List.mem_cons,
    List.not_mem_nil, or_false] at named
  rcases named with rfl | rfl | rfl <;> decide

/-- A call appends at most the record its throttle key describes. -/
theorem Call.emitted_throttleKeys (tickTime : Time) (previous : RateTable) (call : Call) :
    List.Sublist ((call.emitted tickTime previous).filterMap Metrics.throttleKey)
      ([call].filterMap Call.throttleKey) := by
  cases call
  case addMetricValueRate =>
    simp only [Call.emitted]
    split
    · exact List.nil_sublist _
    · exact List.Sublist.refl _
  all_goals exact List.Sublist.refl _

/-- The throttle keys of the records a run appends are among those of its
calls, in order. -/
theorem runCalls_throttleKeys (tickTime : Time) (calls : List Call) (scrape : Scrape) :
    List.Sublist ((runCalls tickTime calls scrape).metrics.filterMap Metrics.throttleKey)
      (scrape.metrics.filterMap Metrics.throttleKey ++ calls.filterMap Call.throttleKey) := by
  induction calls generalizing scrape with
  | nil => simp only [runCalls_nil, List.filterMap_nil, List.append_nil, List.Sublist.refl]
  | cons call rest induction =>
      rw [runCalls_cons, ← List.singleton_append, List.filterMap_append, ← List.append_assoc]
      refine (induction _).trans ?_
      rw [Call.run_metrics, List.filterMap_append]
      exact ((List.Sublist.refl _).append (call.emitted_throttleKeys tickTime _)).append
        (List.Sublist.refl _)

/-! ## The calls of a node task -/

/-- The emission loop keys its absolute calls by the pairs of the map, on the
task's node; its rate calls, named `..._rate`, have no key. -/
theorem throttleCalls_throttleKeys {order : MapOrder} {node : Node} {summary : KubeletSummary}
    {throttle : ThrottleMetrics} {now : Time} (filed : WellFiled throttle)
    (named : ∀ entry ∈ throttle, ∀ stored ∈ entry.2, stored.1 ∈ throttleMetricRefs.map Prod.fst) :
    (throttleCalls order node summary throttle now).filterMap Call.throttleKey =
      (throttlePairs order throttle).map fun pair => (node.id, pair) := by
  simp only [throttleCalls, throttlePairs, List.filterMap_flatMap, List.map_flatMap, List.map_map]
  refine List.flatMap_congr fun entry entryMember => ?_
  rw [List.map_eq_flatMap]
  refine List.flatMap_congr fun stored storedMember => ?_
  have inside := order.mem_arrange.mp entryMember
  have storedNamed := named entry inside stored (order.mem_arrange.mp storedMember)
  simp only [List.filterMap_cons, List.filterMap_nil, Call.throttleKey, throttleKeyOf,
    if_pos storedNamed, if_neg (throttleRate_unthrottled storedNamed),
    filed.filed entry inside stored (order.mem_arrange.mp storedMember), Function.comp]

/-- The summary tables name no throttle counter. -/
theorem summaryCalls_throttleKey {scanner : Scanner} {order : MapOrder} {node : Node}
    {summary : KubeletSummary} {call : Call}
    (member : call ∈ nodeCalls node summary ++ summary.pods.flatMap (podCalls scanner order node)) :
    call.throttleKey = none := by
  simp only [List.mem_append, List.mem_flatMap] at member
  rcases member with nodeMember | ⟨pod, -, podCall⟩
  · rcases mem_nodeCalls nodeMember with ⟨_, listed, rfl⟩ | ⟨_, listed, rfl⟩ <;>
      exact throttleKeyOf_unthrottled (name_not_mem_of_listed listed rfl)
  · obtain ⟨_, _, _, ⟨_, listed, rfl⟩ | ⟨_, listed, rfl⟩ | ⟨container, _, containerCall⟩⟩ :=
      mem_podCalls podCall
    · exact throttleKeyOf_unthrottled (name_not_mem_of_listed listed rfl)
    · exact throttleKeyOf_unthrottled (name_not_mem_of_listed listed rfl)
    · obtain ⟨_, _, _, _, ⟨_, listed, rfl⟩ | rfl⟩ := mem_containerCalls containerCall
      · exact throttleKeyOf_unthrottled (name_not_mem_of_listed listed rfl)
      · -- the container's `cpu/usage_rate` call
        exact throttleKeyOf_unthrottled (by decide)

/-- One node task emits each counter of each container at most once, however the
pods of its summary resolve to containers and whatever the range orders. -/
theorem nodeTask_throttleKeys_nodup (scanner : Scanner) (optInAnalysisData : Bool)
    (order : MapOrder) (node : Node) (response : NodeResponse) (now : Time) :
    ((nodeTask scanner optInAnalysisData order node response now).1.filterMap
      Call.throttleKey).Nodup := by
  have raw : ∀ body,
      (rawResponseCalls optInAnalysisData node body).filterMap Call.throttleKey = [] := by
    intro body
    unfold rawResponseCalls
    split <;> rfl
  unfold nodeTask
  split
  · exact List.nodup_nil
  split
  · rw [raw]
    exact List.nodup_nil
  rename_i summary _
  rw [List.filterMap_append, List.filterMap_append, raw,
    List.filterMap_eq_nil_iff.mpr fun _ member => summaryCalls_throttleKey member]
  unfold cadvisorCalls
  split
  · exact List.nodup_nil
  · exact List.nodup_nil
  · rename_i cadvisor _
    have filled := (wellFiled_pods scanner order summary.pods).fillThrottle scanner cadvisor
    rw [List.nil_append, List.nil_append, throttleCalls_throttleKeys filled fun entry member stored
      storedMember => ((throttleFrom_pods scanner order summary.pods).fillThrottle cadvisor entry
        member stored storedMember).1]
    exact (filled.throttlePairs_nodup order).map (Prod.mk.inj_left node.id)

/-- Every throttle key of a node task is on the task's node. -/
theorem nodeTask_throttleKey_node {scanner : Scanner} {optInAnalysisData : Bool}
    {order : MapOrder} {node : Node} {response : NodeResponse} {now : Time} {call : Call}
    {key : UUID × UUID × String}
    (member : call ∈ (nodeTask scanner optInAnalysisData order node response now).1)
    (keyed : call.throttleKey = some key) : key.1 = node.id := by
  rcases mem_nodeTask member with ⟨data, rfl⟩ |
    ⟨summary, -, nodeMember | ⟨pod, -, podCall⟩ | ⟨cadvisor, throttleMember⟩⟩
  · cases keyed
  · rcases mem_nodeCalls nodeMember with ⟨_, _, rfl⟩ | ⟨_, _, rfl⟩ <;>
      exact throttleKeyOf_node keyed
  · obtain ⟨_, _, _, ⟨_, _, rfl⟩ | ⟨_, _, rfl⟩ | ⟨_, _, containerCall⟩⟩ := mem_podCalls podCall
    · exact throttleKeyOf_node keyed
    · exact throttleKeyOf_node keyed
    · obtain ⟨_, _, _, _, ⟨_, _, rfl⟩ | rfl⟩ := mem_containerCalls containerCall <;>
        exact throttleKeyOf_node keyed
  · obtain ⟨_, _, _, _, rfl | rfl⟩ := mem_throttleCalls throttleMember <;>
      exact throttleKeyOf_node keyed

/-! ## The records of a cycle -/

/-- The snapshot's figures name no throttle counter. -/
theorem snapshotCalls_throttleKey {cycle : Cycle} {call : Call}
    (member : call ∈ cycle.snapshotCalls) : call.throttleKey = none := by
  simp only [Cycle.snapshotCalls, clusterCalls, requestCalls, List.mem_append, List.mem_singleton,
    List.mem_map, List.mem_flatMap] at member
  rcases member with ((rfl | ⟨_, _, rfl⟩) | ⟨_, _, _, listed, rfl⟩) |
    ⟨_, _, _, _, _, _, _, listed, rfl⟩
  · exact throttleKeyOf_unthrottled (by decide)
  · exact throttleKeyOf_unthrottled (by decide)
  · exact throttleKeyOf_unthrottled (name_not_mem_of_listed listed rfl)
  · exact throttleKeyOf_unthrottled (name_not_mem_of_listed listed rfl)

/-- The node tasks of a cycle whose nodes have distinct identifiers key their
calls apart. -/
theorem Cycle.programs_throttleKeys_nodup (cycle : Cycle) (optInAnalysisData : Bool)
    (distinctNodes : (cycle.scanner.nodes.map Node.id).Nodup) :
    ((cycle.programs optInAnalysisData).flatten.filterMap Call.throttleKey).Nodup := by
  rw [List.filterMap_flatten, List.nodup_flatten, Cycle.programs, List.map_map]
  refine ⟨?_, ?_⟩
  · simp only [List.mem_map, Function.comp]
    rintro _ ⟨index, -, rfl⟩
    split
    · exact List.nodup_nil
    · exact nodeTask_throttleKeys_nodup _ _ _ _ _ _
  · rw [List.pairwise_map]
    refine (List.nodup_range _).imp fun {index other} different => ?_
    simp only [Function.comp, List.disjoint_left, List.mem_filterMap]
    rintro key ⟨call, member, keyed⟩ ⟨otherCall, otherMember, otherKeyed⟩
    split at member
    · cases member
    split at otherMember
    · cases otherMember
    rename_i node found _ otherNode otherFound
    exact different (index_eq_of_nodup distinctNodes found otherFound
      ((nodeTask_throttleKey_node member keyed).symm.trans
        (nodeTask_throttleKey_node otherMember otherKeyed)))

/-- Run one after another, the node tasks append their throttle records in the
order of their calls, after none of the snapshot's. -/
theorem Cycle.sequential_throttleKeys (cycle : Cycle) (kubelet : Kubelet) :
    List.Sublist ((cycle.sequential kubelet).metrics.filterMap Metrics.throttleKey)
      ((cycle.programs kubelet.optInAnalysisData).flatten.filterMap Call.throttleKey) := by
  have snapshot : (cycle.initial kubelet).metrics.filterMap Metrics.throttleKey = [] := by
    refine List.eq_nil_of_sublist_nil ((runCalls_throttleKeys _ _ _).trans ?_)
    rw [List.filterMap_eq_nil_iff.mpr fun _ member => snapshotCalls_throttleKey member]
    exact List.Sublist.refl _
  simpa only [snapshot, List.nil_append] using runCalls_throttleKeys cycle.tickTime
    (cycle.programs kubelet.optInAnalysisData).flatten (cycle.initial kubelet)

end MagalixAgent.Scraper
