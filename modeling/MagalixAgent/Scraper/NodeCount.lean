import MagalixAgent.Scraper.Keys

namespace MagalixAgent.Scraper

/-! # The node counts of a cycle

Before the node tasks start, a cycle records the number of nodes of the
snapshot, untagged, and then, tagged with its instance group, the number of
nodes in each group, which `instanceGroups` counts in a map. No node task
records anything of the cluster type, so these are all the `nodes/count`
records a cycle returns. -/

/-! ## Counting the instance groups -/

/-- The instance group the spec names a node by: its `InstanceType`, followed by
`.` and its `InstanceSize` when that is non-empty. -/
def expectedInstanceGroup (node : Node) : String :=
  if node.instanceSize = "" then node.instanceType else node.instanceType ++ "." ++ node.instanceSize

/-- The source's test of `InstanceType` keeps the type either way, so its group
is the one the spec names. -/
theorem instanceGroup_eq_expected : instanceGroup = expectedInstanceGroup := by
  funext node
  unfold instanceGroup expectedInstanceGroup
  by_cases typed : node.instanceType = "" <;> by_cases sized : node.instanceSize = "" <;>
    simp [typed, sized]

/-- What the group loop has built after the nodes `seen`: one entry per group
seen, holding how many of those nodes are in it. -/
structure GroupCounts (seen : List Node) (groups : GoMap String Int64) : Prop where
  nodup : (groups.map Prod.fst).Nodup
  lookup : ∀ group, groups.lookup group =
    if group ∈ seen.map instanceGroup then
      some (Int64.ofInt ((seen.map instanceGroup).count group))
    else none

/-- One round of the group loop: the node's group gets an entry `0` if it has
none, and then one more node. -/
def countGroup (groups : GoMap String Int64) (node : Node) : GoMap String Int64 :=
  let groups := if (groups.lookup (instanceGroup node)).isNone then
    groups.insert (instanceGroup node) 0 else groups
  groups.insert (instanceGroup node) ((groups.lookup (instanceGroup node)).getD 0 + 1)

theorem instanceGroups_eq (nodes : List Node) :
    instanceGroups nodes = nodes.foldl countGroup GoMap.empty := rfl

theorem GroupCounts.empty : GroupCounts [] GoMap.empty :=
  ⟨GoMap.nodup_empty, fun _ => rfl⟩

/-- The spec of one round of the group loop: the node's group holds one more
than it held, or `1` if it held nothing; every other group is kept. -/
theorem countGroup_lookup (groups : GoMap String Int64) (node : Node) (group : String) :
    (countGroup groups node).lookup group =
      if group = instanceGroup node then some ((groups.lookup group).getD 0 + 1)
      else groups.lookup group := by
  unfold countGroup
  by_cases same : group = instanceGroup node
  · subst same
    rw [GoMap.lookup_insert, if_pos rfl, if_pos rfl]
    cases found : groups.lookup (instanceGroup node) <;> simp [found, GoMap.lookup_insert]
  · rw [GoMap.lookup_insert, if_neg same, if_neg same]
    split <;> simp [GoMap.lookup_insert, same]

theorem countGroup_nodup {groups : GoMap String Int64} (nodup : (groups.map Prod.fst).Nodup)
    (node : Node) : ((countGroup groups node).map Prod.fst).Nodup := by
  unfold countGroup
  split <;> exact GoMap.nodup_insert (by first | exact GoMap.nodup_insert nodup _ _ | exact nodup) _ _

/-- The body of the group loop counts one more node in its group. -/
theorem GroupCounts.step {seen : List Node} {groups : GoMap String Int64}
    (counts : GroupCounts seen groups) (node : Node) :
    GroupCounts (seen ++ [node]) (countGroup groups node) := by
  refine ⟨countGroup_nodup counts.nodup node, fun group => ?_⟩
  rw [countGroup_lookup, counts.lookup]
  by_cases same : group = instanceGroup node
  · subst same
    by_cases listed : instanceGroup node ∈ seen.map instanceGroup
    · simp [listed, Int64.ofInt_add_one]
    · simp [listed, List.count_eq_zero_of_not_mem listed]
      exact Int64.ofInt_add_one 0
  · simp [same, Ne.symm same]

theorem groupCounts_instanceGroups (nodes : List Node) :
    GroupCounts nodes (instanceGroups nodes) := by
  induction nodes using List.reverseRecOn with
  | nil => exact GroupCounts.empty
  | append_singleton nodes node induction =>
      rw [instanceGroups_eq] at induction ⊢
      rw [List.foldl_append, List.foldl_cons, List.foldl_nil]
      exact induction.step node

/-- `instanceGroups` holds each distinct group of the nodes once, with the
number of nodes in it. -/
theorem instanceGroups_perm (nodes : List Node) :
    (instanceGroups nodes).Perm ((nodes.map instanceGroup).dedup.map fun group =>
      (group, Int64.ofInt ((nodes.map instanceGroup).count group))) := by
  have counts := groupCounts_instanceGroups nodes
  have described : ((nodes.map instanceGroup).dedup.map fun group =>
      (group, Int64.ofInt ((nodes.map instanceGroup).count group))).map Prod.fst =
        (nodes.map instanceGroup).dedup := by
    rw [List.map_map]
    exact List.map_id _
  have nodup : ((nodes.map instanceGroup).dedup.map fun group =>
      (group, Int64.ofInt ((nodes.map instanceGroup).count group))).Nodup := by
    apply List.Nodup.of_map Prod.fst
    rw [described]
    exact List.nodup_dedup _
  refine (List.perm_ext_iff_of_nodup (counts.nodup.of_map _) nodup).mpr fun entry => ?_
  constructor
  · intro member
    have found := GoMap.lookup_of_mem counts.nodup member
    rw [counts.lookup] at found
    by_cases listed : entry.1 ∈ nodes.map instanceGroup
    · rw [if_pos listed, Option.some.injEq] at found
      exact List.mem_map.mpr ⟨entry.1, List.mem_dedup.mpr listed, Prod.ext rfl found⟩
    · rw [if_neg listed] at found
      cases found
  · intro member
    obtain ⟨group, listed, rfl⟩ := List.mem_map.mp member
    exact GoMap.mem_of_lookup (by rw [counts.lookup, if_pos (List.mem_dedup.mp listed)])

/-! ## The records of the cluster type -/

/-- The type a call records its measurement under; a raw response records
none. -/
def Call.measurementType : Call → Option String
  | .addMetricValue measurementType .. => some measurementType
  | .addMetricValueWithTags measurementType .. => some measurementType
  | .addMetricValueRate measurementType .. => some measurementType
  | .addRawResponse .. => none

theorem Call.measurementType_of_yields {tickTime : Time} {call : Call} {record : Metrics}
    (yields : call.Yields tickTime record) : call.measurementType = some record.type := by
  cases call with
  | addMetricValue => subst yields; rfl
  | addMetricValueWithTags => subst yields; rfl
  | addMetricValueRate =>
      obtain ⟨rate, rfl⟩ := yields
      rfl
  | addRawResponse => exact yields.elim

/-- A node task records under the node, pod and container types only. -/
theorem nodeTask_measurementType {scanner : Scanner} {optInAnalysisData : Bool}
    {order : MapOrder} {node : Node} {response : NodeResponse} {now : Time} {call : Call}
    (member : call ∈ (nodeTask scanner optInAnalysisData order node response now).1) :
    call.measurementType ≠ some typeCluster := by
  have nodeType : some typeNode ≠ some typeCluster := by decide
  have podType : some typePod ≠ some typeCluster := by decide
  have containerType : some typePodContainer ≠ some typeCluster := by decide
  rcases mem_nodeTask member with ⟨data, rfl⟩ |
    ⟨summary, _, nodeMember | ⟨pod, _, podCall⟩ | ⟨cadvisor, throttleMember⟩⟩
  · exact nofun
  · rcases mem_nodeCalls nodeMember with ⟨_, _, rfl⟩ | ⟨_, _, rfl⟩ <;> exact nodeType
  · obtain ⟨_, _, _, ⟨_, _, rfl⟩ | ⟨_, _, rfl⟩ | ⟨container, _, containerCall⟩⟩ :=
      mem_podCalls podCall
    · exact podType
    · exact podType
    · obtain ⟨_, _, _, _, ⟨_, _, rfl⟩ | rfl⟩ := mem_containerCalls containerCall <;>
        exact containerType
  · obtain ⟨_, _, _, _, rfl | rfl⟩ := mem_throttleCalls throttleMember <;> exact containerType

/-- A `nodes/count` record of the cluster type, tagged or not. -/
def isNodesCount (record : Metrics) : Bool :=
  record.type == typeCluster && record.name == "nodes/count"

/-- Calls none of whose records passes a filter leave the filtered records as
they are, whatever the table. -/
theorem runCalls_filter {tickTime : Time} (keep : Metrics → Bool) {calls : List Call}
    (dropped : ∀ call ∈ calls, ∀ record, call.Yields tickTime record → keep record = false)
    (scrape : Scrape) :
    (runCalls tickTime calls scrape).metrics.filter keep = scrape.metrics.filter keep := by
  induction calls generalizing scrape with
  | nil => rfl
  | cons call rest induction =>
      have none : (call.emitted tickTime scrape.previous).filter keep = [] :=
        List.filter_eq_nil_iff.mpr fun record emitted => by
          simpa using dropped call (.head _) record (Call.yields_of_mem_emitted emitted)
      rw [runCalls_cons, induction (fun other member => dropped other (.tail _ member)),
        Call.run_metrics, List.filter_append, none, List.append_nil]

/-- The same for a pool of tasks, whatever the interleaving of their sections. -/
theorem Pool.run_filter {tickTime : Time} {programs : List (List Call)} (keep : Metrics → Bool)
    (dropped : ∀ index, ∀ call ∈ programs.getD index [], ∀ record,
      call.Yields tickTime record → keep record = false)
    (schedule : List Nat) :
    ∀ pool : Pool, (∀ index, (pool.tasks index).calls <:+ programs.getD index []) →
      (pool.run tickTime schedule).scrape.metrics.filter keep =
        pool.scrape.metrics.filter keep := by
  induction schedule with
  | nil => exact fun _ _ => rfl
  | cons index rest induction =>
      intro pool suffix
      rw [Pool.run_cons, induction _ (Pool.Origin.step tickTime programs pool.scrape.metrics
        ⟨suffix, fun _ member => .inl member⟩ index).suffix, Pool.step_eq]
      have none : (Task.effect tickTime (pool.tasks index)
          ((pool.tasks index).read pool.scrape.previous)).2.appended.filter keep = [] :=
        List.filter_eq_nil_iff.mpr fun record appended => by
          obtain ⟨call, callMember, yields⟩ := Task.yields_of_mem_effect appended
          simpa using dropped index call ((suffix index).mem callMember) record yields
      simp only [Effect.apply, List.filter_append, none, List.append_nil]

theorem isNodesCount_of_yields {tickTime : Time} {call : Call} {record : Metrics}
    (yields : call.Yields tickTime record) (other : call.measurementType ≠ some typeCluster) :
    isNodesCount record = false := by
  rw [Call.measurementType_of_yields yields] at other
  have different : record.type ≠ typeCluster := fun same => other (congrArg some same)
  simp [isNodesCount, different]

/-- Calls that record no rate find the table as they leave it, so a run of
them appends what each emits against the table it starts with. -/
theorem runCalls_metrics_of_absolute {tickTime : Time} {calls : List Call}
    (absolute : ∀ call ∈ calls, call.rateKey = none) (scrape : Scrape) :
    (runCalls tickTime calls scrape).metrics =
      scrape.metrics ++ calls.flatMap (Call.emitted tickTime scrape.previous) := by
  induction calls generalizing scrape with
  | nil => simp
  | cons call rest induction =>
      have unchanged : call.stored tickTime scrape.previous = scrape.previous := by
        have noRate := absolute call (.head _)
        cases call <;> first | rfl | cases noRate
      rw [runCalls_cons, induction (fun other member => absolute other (.tail _ member)),
        Call.run_metrics, Call.run_previous, unchanged, List.flatMap_cons, List.append_assoc]

/-- The `nodes/count` records of the snapshot's calls: the untagged count of
the nodes, then one tagged count per entry of `instanceGroups`, in the order
`range` visits the map. -/
theorem Cycle.initial_nodesCount (cycle : Cycle) (kubelet : Kubelet) :
    (cycle.initial kubelet).metrics.filter isNodesCount =
      metricValue cycle.tickTime typeCluster "nodes/count" UUID.Nil UUID.Nil UUID.Nil UUID.Nil ""
          cycle.scanner.nodesLastScanTime (Int64.ofInt cycle.scanner.nodes.length) ::
        (cycle.order.arrange (instanceGroups cycle.scanner.nodes)).map fun entry =>
          taggedValue typeCluster "nodes/count" UUID.Nil UUID.Nil UUID.Nil UUID.Nil ""
            cycle.scanner.nodesLastScanTime entry.2 [("instance_group", entry.1)] := by
  have split : cycle.snapshotCalls =
      ([.addMetricValue typeCluster "nodes/count" UUID.Nil UUID.Nil UUID.Nil UUID.Nil ""
          cycle.scanner.nodesLastScanTime (Int64.ofInt cycle.scanner.nodes.length)] ++
        (cycle.order.arrange (instanceGroups cycle.scanner.nodes)).map fun entry =>
          .addMetricValueWithTags typeCluster "nodes/count" UUID.Nil UUID.Nil UUID.Nil UUID.Nil ""
            cycle.scanner.nodesLastScanTime entry.2 [("instance_group", entry.1)]) ++
      ((cycle.scanner.nodes.flatMap fun node =>
          (nodeCapacities node cycle.scanner.nodesLastScanTime).map fun measurement =>
            .addMetricValue typeNode measurement.name node.id UUID.Nil UUID.Nil UUID.Nil ""
              measurement.time measurement.value) ++ requestCalls cycle.scanner) := by
    simp only [Cycle.snapshotCalls, clusterCalls, List.append_assoc]
  have dropped : ∀ call ∈ (cycle.scanner.nodes.flatMap fun node =>
        (nodeCapacities node cycle.scanner.nodesLastScanTime).map fun measurement =>
          Call.addMetricValue typeNode measurement.name node.id UUID.Nil UUID.Nil UUID.Nil ""
            measurement.time measurement.value) ++ requestCalls cycle.scanner,
      ∀ record, call.Yields cycle.tickTime record → isNodesCount record = false := by
    intro call member record yields
    refine isNodesCount_of_yields yields ?_
    simp only [requestCalls, List.mem_append, List.mem_flatMap, List.mem_map] at member
    rcases member with ⟨_, _, _, _, rfl⟩ | ⟨_, _, _, _, _, _, _, _, rfl⟩
    · exact (by decide : some typeNode ≠ some typeCluster)
    · exact (by decide : some typePodContainer ≠ some typeCluster)
  rw [Cycle.initial, split, runCalls_append, runCalls_filter isNodesCount dropped,
    runCalls_metrics_of_absolute fun call member => ?_]
  · simp [List.flatMap_map, Call.emitted, ← List.map_eq_flatMap, isNodesCount, metricValue,
      taggedValue, Function.comp_def]
    rintro _ _ _ _ rfl
    exact ⟨rfl, rfl⟩
  rcases List.mem_append.mp member with single | tagged
  · rw [List.mem_singleton.mp single]
    rfl
  · obtain ⟨_, _, rfl⟩ := List.mem_map.mp tagged
    rfl

/-- Whatever the schedule, the `nodes/count` records of a cycle are one
untagged record holding the number of nodes, then one tagged record per
distinct instance group `InstanceType[.InstanceSize]`, in some order, each
holding the number of nodes in its group. The counts are positive and add up
to the number of nodes. -/
theorem getMetrics_nodes_count (kubelet : Kubelet) (cycle : Cycle) (schedule : List Nat) :
    ∃ groups : List (String × Nat),
      (getMetrics kubelet cycle schedule).metrics.filter isNodesCount =
        metricValue cycle.tickTime typeCluster "nodes/count" UUID.Nil UUID.Nil UUID.Nil UUID.Nil
            "" cycle.scanner.nodesLastScanTime (Int64.ofInt cycle.scanner.nodes.length) ::
          groups.map (fun group => taggedValue typeCluster "nodes/count" UUID.Nil UUID.Nil UUID.Nil
            UUID.Nil "" cycle.scanner.nodesLastScanTime (Int64.ofInt group.2)
            [("instance_group", group.1)]) ∧
      groups.Perm ((cycle.scanner.nodes.map expectedInstanceGroup).dedup.map fun group =>
        (group, (cycle.scanner.nodes.map expectedInstanceGroup).count group)) ∧
      (groups.map Prod.snd).sum = cycle.scanner.nodes.length ∧
      ∀ group ∈ groups, 0 < group.2 := by
  rw [← instanceGroup_eq_expected]
  have counts := groupCounts_instanceGroups cycle.scanner.nodes
  have counted : ∀ entry ∈ cycle.order.arrange (instanceGroups cycle.scanner.nodes),
      entry.2 = Int64.ofInt ((cycle.scanner.nodes.map instanceGroup).count entry.1) := by
    intro entry arranged
    have found := GoMap.lookup_of_mem counts.nodup (cycle.order.mem_arrange.mp arranged)
    rw [counts.lookup] at found
    split at found
    · exact (Option.some.inj found).symm
    · cases found
  have kept : (getMetrics kubelet cycle schedule).metrics.filter isNodesCount =
      (cycle.initial kubelet).metrics.filter isNodesCount :=
    Pool.run_filter isNodesCount (fun _ _ member _ yields =>
        let ⟨_, _, taskMember⟩ := Cycle.mem_programs member
        isNodesCount_of_yields yields (nodeTask_measurementType taskMember))
      _ _ fun _ => List.suffix_refl _
  have listed : ((cycle.order.arrange (instanceGroups cycle.scanner.nodes)).map fun entry =>
      (entry.1, (cycle.scanner.nodes.map instanceGroup).count entry.1)).Perm
        ((cycle.scanner.nodes.map instanceGroup).dedup.map fun group =>
          (group, (cycle.scanner.nodes.map instanceGroup).count group)) := by
    have := ((cycle.order.perm _).trans (instanceGroups_perm cycle.scanner.nodes)).map
      fun entry => (entry.1, (cycle.scanner.nodes.map instanceGroup).count entry.1)
    simpa only [List.map_map, Function.comp_def] using this
  refine ⟨_, ?_, listed, ?_, fun group member => ?_⟩
  · rw [kept, Cycle.initial_nodesCount, List.map_map]
    exact congrArg _ (List.map_congr_left fun entry arranged => by rw [counted entry arranged]; rfl)
  · rw [listed.map Prod.snd |>.sum_eq, List.map_map]
    simpa using List.sum_map_count_dedup_eq_length (cycle.scanner.nodes.map instanceGroup)
  · obtain ⟨name, listedName, rfl⟩ := List.mem_map.mp (listed.mem_iff.mp member)
    exact List.count_pos_iff.mpr (List.mem_dedup.mp listedName)

end MagalixAgent.Scraper
