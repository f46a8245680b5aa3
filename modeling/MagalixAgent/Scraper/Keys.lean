import MagalixAgent.Scraper.TaskCalls
import MagalixAgent.Scraper.Interleaving

namespace MagalixAgent.Scraper

open Strings

/-! # The keys of the node tasks

A rate key reads `<entity>-<measurement>:<place>`, where the place is the node's
identifier, `<namespace>:<pod>` for a pod, or `<namespace>:<pod>:<container>` for
a container. The measurement names contain no `:`, so a key splits at its first
`:`; the entity tells the three scopes apart, and within a scope the place gives
back the node or, when names contain no `:`, the pod. Hence two node tasks share
a key only if they share their node or a listed pod (`TaskKey.disjoint`), and the
tasks of a cycle are separated when nodes are distinct and no pod is listed twice
(`Cycle.separated`). Whatever the type tags, as long as they are distinct and
hold neither `-` nor `:`, the key gives back the whole series it was built
from (`rateSeries_key_injective`). -/

/-! ## Splitting a key -/

theorem getKey_data (entity parentKey entityKey measurement : String) :
    (getKey entity parentKey entityKey measurement).data =
      (entity ++ "-" ++ measurement).data ++
        ':' :: ((if parentKey ≠ "" then parentKey ++ ":" else parentKey) ++ entityKey).data := by
  simp [getKey, String.data_append]

theorem getKey_split {entity other parentKey otherParent entityKey otherKey measurement
      otherMeasurement : String}
    (free : ':' ∉ (entity ++ "-" ++ measurement).data)
    (otherFree : ':' ∉ (other ++ "-" ++ otherMeasurement).data)
    (equal : getKey entity parentKey entityKey measurement =
      getKey other otherParent otherKey otherMeasurement) :
    (entity ++ "-" ++ measurement).data = (other ++ "-" ++ otherMeasurement).data ∧
      ((if parentKey ≠ "" then parentKey ++ ":" else parentKey) ++ entityKey).data =
        ((if otherParent ≠ "" then otherParent ++ ":" else otherParent) ++ otherKey).data := by
  rw [String.ext_iff, getKey_data, getKey_data] at equal
  exact separator_split free otherFree equal

/-- A `-`-free entity is recovered from the head `<entity>-<measurement>` of a
key, and with it the measurement. -/
theorem entity_split {entity other measurement otherMeasurement : String}
    (free : '-' ∉ entity.data) (otherFree : '-' ∉ other.data)
    (equal : (entity ++ "-" ++ measurement).data = (other ++ "-" ++ otherMeasurement).data) :
    entity = other ∧ measurement = otherMeasurement := by
  simp only [String.data_append, List.append_assoc] at equal
  have parts := separator_split free otherFree equal
  exact ⟨String.ext parts.1, String.ext parts.2⟩

theorem noColon_entity {entity measurement : String} (entityFree : NoColon entity)
    (free : NoColon measurement) : ':' ∉ (entity ++ "-" ++ measurement).data := by
  simp only [String.data_append, List.mem_append, not_or]
  exact ⟨⟨entityFree, by decide⟩, free⟩

/-! ## The three scopes -/

theorem nodeKey_ne_podKey (parentKey entityKey measurement otherParent otherKey
    otherMeasurement : String) :
    getKey typeNode parentKey entityKey measurement ≠
      getKey typePod otherParent otherKey otherMeasurement := by
  intro equal
  have heads := congrArg (fun key : String => key.data.head?) equal
  simp [getKey_data, typeNode, typePod, String.data_append] at heads

theorem nodeKey_ne_containerKey (parentKey entityKey measurement otherParent otherKey
    otherMeasurement : String) :
    getKey typeNode parentKey entityKey measurement ≠
      getKey typePodContainer otherParent otherKey otherMeasurement := by
  intro equal
  have heads := congrArg (fun key : String => key.data.head?) equal
  simp [getKey_data, typeNode, typePodContainer, String.data_append] at heads

theorem podKey_ne_containerKey (parentKey entityKey measurement otherParent otherKey
    otherMeasurement : String) :
    getKey typePod parentKey entityKey measurement ≠
      getKey typePodContainer otherParent otherKey otherMeasurement := by
  intro equal
  have starts := congrArg (fun key : String => key.data.take 4) equal
  simp [getKey_data, typePod, typePodContainer, String.data_append] at starts

/-- A node key gives back the node's identifier string. -/
theorem nodeKey_inj {entity entityKey otherKey measurement otherMeasurement : String}
    (entityFree : NoColon entity) (free : NoColon measurement) (otherFree : NoColon otherMeasurement)
    (equal : getKey entity "" entityKey measurement = getKey entity "" otherKey otherMeasurement) :
    entityKey = otherKey := by
  have places := (getKey_split (noColon_entity entityFree free)
    (noColon_entity entityFree otherFree) equal).2
  simpa [String.ext_iff] using places

/-- A pod key with `:`-free names gives back the pod's namespace and name. -/
theorem podKey_inj {entity namespace_ otherNamespace podName otherPod measurement
      otherMeasurement : String}
    (entityFree : NoColon entity) (free : NoColon measurement) (otherFree : NoColon otherMeasurement)
    (namespaceFree : NoColon namespace_) (otherNamespaceFree : NoColon otherNamespace)
    (podFree : NoColon podName) (otherPodFree : NoColon otherPod)
    (equal : getKey entity namespace_ podName measurement =
      getKey entity otherNamespace otherPod otherMeasurement) :
    namespace_ = otherNamespace ∧ podName = otherPod := by
  have places := (getKey_split (noColon_entity entityFree free)
    (noColon_entity entityFree otherFree) equal).2
  by_cases named : namespace_ = "" <;> by_cases otherNamed : otherNamespace = ""
  · subst named otherNamed
    simp at places
    exact ⟨rfl, String.ext places⟩
  · subst named
    simp [otherNamed, String.data_append] at places
    exact absurd places (ne_of_noColon _ _ podFree)
  · subst otherNamed
    simp [named, String.data_append] at places
    exact absurd places.symm (ne_of_noColon _ _ otherPodFree)
  · simp [named, otherNamed, String.data_append] at places
    have parts := separator_split namespaceFree otherNamespaceFree places
    exact ⟨String.ext parts.1, String.ext parts.2⟩

/-- A container key with `:`-free names gives back the pod's namespace and
name, and the container's name. -/
theorem containerKey_inj {entity namespace_ otherNamespace podName otherPod entityKey otherKey
      measurement otherMeasurement : String}
    (entityFree : NoColon entity) (free : NoColon measurement) (otherFree : NoColon otherMeasurement)
    (namespaceFree : NoColon namespace_) (otherNamespaceFree : NoColon otherNamespace)
    (podFree : NoColon podName) (otherPodFree : NoColon otherPod)
    (equal : getKey entity (namespace_ ++ ":" ++ podName) entityKey measurement =
      getKey entity (otherNamespace ++ ":" ++ otherPod) otherKey otherMeasurement) :
    namespace_ = otherNamespace ∧ podName = otherPod ∧ entityKey = otherKey := by
  have places := (getKey_split (noColon_entity entityFree free)
    (noColon_entity entityFree otherFree) equal).2
  have present : ∀ left right : String, (left ++ ":" ++ right ≠ "") = True := fun left right =>
    eq_true fun empty => by simpa [String.ext_iff, String.data_append] using congrArg String.data empty
  simp only [present, if_true, String.data_append, List.append_assoc] at places
  have outer := separator_split namespaceFree otherNamespaceFree (by simpa using places)
  have inner := separator_split podFree otherPodFree (by simpa using outer.2)
  exact ⟨String.ext outer.1, String.ext inner.1, String.ext inner.2⟩

/-! ## The series of the rate table -/

/-- The arguments of an `addMetricValueRate` call of one of the three families
`GetMetrics` makes: a node's measurement under `""` and the node's identifier,
a pod's under its namespace and name, and a container's under
`<namespace>:<pod>` and the container's name. -/
inductive RateSeries where
  | node (nodeId measurement : String)
  | pod (namespace_ podName measurement : String)
  | container (namespace_ podName containerName measurement : String)
deriving DecidableEq, Repr

/-- The type tags the three families are written under. -/
structure RateTags where
  node : String
  pod : String
  podContainer : String

/-- The tags the code writes: `TypeNode`, `TypePod` and `TypePodContainer`. -/
def RateTags.code : RateTags := ⟨typeNode, typePod, typePodContainer⟩

/-- Tags that are pairwise distinct and hold neither `-` nor `:`. -/
def RateTags.Separated (tags : RateTags) : Prop :=
  [tags.node, tags.pod, tags.podContainer].Nodup ∧
    ∀ tag ∈ [tags.node, tags.pod, tags.podContainer], '-' ∉ tag.data ∧ NoColon tag

instance (tags : RateTags) : Decidable tags.Separated :=
  inferInstanceAs (Decidable ([tags.node, tags.pod, tags.podContainer].Nodup ∧
    ∀ tag ∈ [tags.node, tags.pod, tags.podContainer], '-' ∉ tag.data ∧ NoColon tag))

/-- The tag a series is written under. -/
def RateSeries.tag (tags : RateTags) : RateSeries → String
  | .node .. => tags.node
  | .pod .. => tags.pod
  | .container .. => tags.podContainer

/-- The measurement of a series. -/
def RateSeries.measurement : RateSeries → String
  | .node _ measurement => measurement
  | .pod _ _ measurement => measurement
  | .container _ _ _ measurement => measurement

/-- The rate-table key of a series: `getKey` of its call's arguments. -/
def RateSeries.key (tags : RateTags) : RateSeries → String
  | .node nodeId measurement => getKey tags.node "" nodeId measurement
  | .pod namespace_ podName measurement => getKey tags.pod namespace_ podName measurement
  | .container namespace_ podName containerName measurement =>
      getKey tags.podContainer (namespace_ ++ ":" ++ podName) containerName measurement

/-- A series whose measurement, namespace and pod name are `:`-free; a
container's name ends the key and may hold anything. -/
def RateSeries.Observed : RateSeries → Prop
  | .node _ measurement => NoColon measurement
  | .pod namespace_ podName measurement =>
      NoColon namespace_ ∧ NoColon podName ∧ NoColon measurement
  | .container namespace_ podName _ measurement =>
      NoColon namespace_ ∧ NoColon podName ∧ NoColon measurement

theorem RateSeries.key_eq_getKey (tags : RateTags) (series : RateSeries) :
    ∃ parentKey entityKey,
      series.key tags = getKey (series.tag tags) parentKey entityKey series.measurement := by
  cases series <;> exact ⟨_, _, rfl⟩

theorem RateSeries.Observed.noColon_measurement {series : RateSeries} (observed : series.Observed) :
    NoColon series.measurement := by
  cases series with
  | node => exact observed
  | pod => exact observed.2.2
  | container => exact observed.2.2

theorem RateTags.Separated.tag {tags : RateTags} (separated : tags.Separated)
    (series : RateSeries) : '-' ∉ (series.tag tags).data ∧ NoColon (series.tag tags) :=
  separated.2 _ (by cases series <;> simp [RateSeries.tag])

/-- The heads of equal keys agree: the same tag and the same measurement. -/
theorem RateSeries.key_heads {tags : RateTags} (separated : tags.Separated)
    {series other : RateSeries} (observed : series.Observed) (otherObserved : other.Observed)
    (equal : series.key tags = other.key tags) :
    series.tag tags = other.tag tags ∧ series.measurement = other.measurement := by
  obtain ⟨parentKey, entityKey, keyed⟩ := series.key_eq_getKey tags
  obtain ⟨otherParent, otherKey, otherKeyed⟩ := other.key_eq_getKey tags
  rw [keyed, otherKeyed] at equal
  exact entity_split (separated.tag series).1 (separated.tag other).1
    (getKey_split (noColon_entity (separated.tag series).2 observed.noColon_measurement)
      (noColon_entity (separated.tag other).2 otherObserved.noColon_measurement) equal).1

/-- The rate-table key is injective on the series the scraper observes: under
separated tags, two series with `:`-free names and equal keys are the same
series, with the same family, measurement, node, namespace, pod and
container. -/
theorem rateSeries_key_injective {tags : RateTags} (separated : tags.Separated)
    {series other : RateSeries} (observed : series.Observed) (otherObserved : other.Observed)
    (equal : series.key tags = other.key tags) : series = other := by
  obtain ⟨⟨nodePod, nodeContainer⟩, podContainer⟩ :
      (tags.node ≠ tags.pod ∧ tags.node ≠ tags.podContainer) ∧ tags.pod ≠ tags.podContainer := by
    simpa using separated.1
  have tagFree := fun series => (separated.tag series).2
  obtain ⟨sameTag, sameMeasurement⟩ := RateSeries.key_heads separated observed otherObserved equal
  cases series <;> cases other <;> simp only [RateSeries.tag, RateSeries.measurement] at sameTag sameMeasurement
  all_goals first
    | exact absurd sameTag ‹_›
    | exact absurd sameTag.symm ‹_›
    | skip
  case node.node =>
      rw [nodeKey_inj (tagFree (.node "" "")) observed otherObserved equal, sameMeasurement]
  case pod.pod =>
      obtain ⟨sameNamespace, samePod⟩ := podKey_inj (tagFree (.pod "" "" "")) observed.2.2
        otherObserved.2.2 observed.1 otherObserved.1 observed.2.1 otherObserved.2.1 equal
      rw [sameNamespace, samePod, sameMeasurement]
  case container.container =>
      obtain ⟨sameNamespace, samePod, sameContainer⟩ := containerKey_inj
        (tagFree (.container "" "" "" "")) observed.2.2 otherObserved.2.2 observed.1
        otherObserved.1 observed.2.1 otherObserved.2.1 equal
      rw [sameNamespace, samePod, sameContainer, sameMeasurement]

theorem rateSeries_key_injective_code :
    RateSeries.pod "shop" "web-0" "network/tx_rate" = .pod "shop" "web-0" "network/tx_rate" :=
  @rateSeries_key_injective RateTags.code (by decide) (.pod "shop" "web-0" "network/tx_rate")
    (.pod "shop" "web-0" "network/tx_rate") ⟨by decide, by decide, by decide⟩
    ⟨by decide, by decide, by decide⟩ rfl

/-! ## The keys of a node task -/

/-- The rate keys a node task may use: its node's, and those of the pods it
lists, at pod or container scope, each under a `:`-free measurement name. -/
def TaskKey (node : Node) (pods : List KubeletSummaryPod) (key : String) : Prop :=
  (∃ measurement, NoColon measurement ∧ key = getKey typeNode "" node.id.string measurement) ∨
    ∃ pod ∈ pods, ∃ measurement, NoColon measurement ∧
      (key = getKey typePod pod.podRef.namespace_ pod.podRef.name measurement ∨
        ∃ entityKey, key = getKey typePodContainer
          (pod.podRef.namespace_ ++ ":" ++ pod.podRef.name) entityKey measurement)

/-- Two tasks share a key only if they share their node or a listed pod. -/
theorem TaskKey.disjoint {node other : Node} {pods others : List KubeletSummaryPod} {key : String}
    (podsFree : ∀ pod ∈ pods, NoColon pod.podRef.namespace_ ∧ NoColon pod.podRef.name)
    (othersFree : ∀ pod ∈ others, NoColon pod.podRef.namespace_ ∧ NoColon pod.podRef.name)
    (first : TaskKey node pods key) (second : TaskKey other others key) :
    node.id = other.id ∨ ∃ pod ∈ pods, ∃ otherPod ∈ others, pod.podRef = otherPod.podRef := by
  rcases first with ⟨measurement, free, rfl⟩ |
    ⟨pod, member, measurement, free, rfl | ⟨entityKey, rfl⟩⟩ <;>
  rcases second with ⟨otherMeasurement, otherFree, equal⟩ |
    ⟨otherPod, otherMember, otherMeasurement, otherFree, equal | ⟨otherKey, equal⟩⟩
  · exact .inl (UUID.string_injective (nodeKey_inj (by decide) free otherFree equal))
  · exact absurd equal (nodeKey_ne_podKey _ _ _ _ _ _)
  · exact absurd equal (nodeKey_ne_containerKey _ _ _ _ _ _)
  · exact absurd equal.symm (nodeKey_ne_podKey _ _ _ _ _ _)
  · have same := podKey_inj (by decide) free otherFree (podsFree pod member).1 (othersFree otherPod otherMember).1
      (podsFree pod member).2 (othersFree otherPod otherMember).2 equal
    exact .inr ⟨pod, member, otherPod, otherMember, PodReference.ext same.2 same.1⟩
  · exact absurd equal (podKey_ne_containerKey _ _ _ _ _ _)
  · exact absurd equal.symm (nodeKey_ne_containerKey _ _ _ _ _ _)
  · exact absurd equal.symm (podKey_ne_containerKey _ _ _ _ _ _)
  · have same := containerKey_inj (by decide) free otherFree (podsFree pod member).1
      (othersFree otherPod otherMember).1 (podsFree pod member).2 (othersFree otherPod otherMember).2
      equal
    exact .inr ⟨pod, member, otherPod, otherMember, PodReference.ext same.2.1 same.1⟩

/-- Every key a node task may use is the key of an observed series under the
code's tags. -/
theorem TaskKey.series {node : Node} {pods : List KubeletSummaryPod} {key : String}
    (podsFree : ∀ pod ∈ pods, NoColon pod.podRef.namespace_ ∧ NoColon pod.podRef.name)
    (keyed : TaskKey node pods key) :
    ∃ series : RateSeries, series.Observed ∧ key = series.key RateTags.code := by
  rcases keyed with ⟨measurement, free, rfl⟩ |
    ⟨pod, member, measurement, free, rfl | ⟨entityKey, rfl⟩⟩
  · exact ⟨.node node.id.string measurement, free, rfl⟩
  · exact ⟨.pod _ _ measurement, ⟨(podsFree pod member).1, (podsFree pod member).2, free⟩, rfl⟩
  · exact ⟨.container _ _ entityKey measurement,
      ⟨(podsFree pod member).1, (podsFree pod member).2, free⟩, rfl⟩

theorem nodeRates_noColon (summary : KubeletSummary) :
    ∀ measurement ∈ nodeRates summary, NoColon measurement.name := by
  simp [nodeRates, NoColon]

theorem podRates_noColon (pod : KubeletSummaryPod) :
    ∀ measurement ∈ podRates pod, NoColon measurement.name := by
  simp [podRates, NoColon]

theorem throttleRate_noColon {name : String} (named : name ∈ throttleMetricRefs.map Prod.fst) :
    NoColon (name ++ "_rate") := by
  simp only [throttleMetricRefs, List.map_cons, List.map_nil, List.mem_cons,
    List.not_mem_nil, or_false] at named
  rcases named with rfl | rfl | rfl <;> simp [NoColon, String.data_append]

/-- Every rate key of a node task is its node's or that of a pod its summary
lists. -/
theorem nodeTask_rateKey {scanner : Scanner} {optInAnalysisData : Bool} {order : MapOrder}
    {node : Node} {response : NodeResponse} {now : Time} {call : Call}
    (member : call ∈ (nodeTask scanner optInAnalysisData order node response now).1) {key : String}
    (keyed : call.rateKey = some key) : TaskKey node response.pods key := by
  rcases mem_nodeTask member with ⟨data, rfl⟩ |
    ⟨summary, found, nodeMember | ⟨pod, podMember, podCall⟩ | ⟨cadvisor, throttleMember⟩⟩
  · cases keyed
  · rcases mem_nodeCalls nodeMember with ⟨measurement, _, rfl⟩ | ⟨measurement, listed, rfl⟩
    · cases keyed
    · cases keyed
      exact .inl ⟨measurement.name, nodeRates_noColon summary measurement listed, rfl⟩
  all_goals have pods : response.pods = summary.pods := by simp [NodeResponse.pods, found]
  all_goals rw [pods]
  · obtain ⟨_, _, _, ⟨measurement, _, rfl⟩ | ⟨measurement, listed, rfl⟩ |
      ⟨container, _, containerCall⟩⟩ := mem_podCalls podCall
    · cases keyed
    · cases keyed
      exact .inr ⟨pod, podMember, measurement.name, podRates_noColon pod measurement listed, .inl rfl⟩
    · obtain ⟨_, _, _, _, ⟨measurement, _, rfl⟩ | rfl⟩ := mem_containerCalls containerCall
      · cases keyed
      · cases keyed
        exact .inr ⟨pod, podMember, "cpu/usage_rate", by decide, .inr ⟨_, rfl⟩⟩
  · obtain ⟨entry, entryMember, stored, storedMember, rfl | rfl⟩ := mem_throttleCalls throttleMember
    · cases keyed
    · cases keyed
      obtain ⟨named, pod, podMember, container, _, _, _, _, _, made⟩ :=
        (throttleFrom_pods scanner order summary.pods).fillThrottle cadvisor entry entryMember
          stored storedMember
      have namespaceEq := congrArg ContainerMetricStore.namespace_ made
      have podNameEq := congrArg ContainerMetricStore.podName made
      refine .inr ⟨pod, podMember, stored.1 ++ "_rate", throttleRate_noColon named,
        .inr ⟨stored.2.containerName, ?_⟩⟩
      simp only [defaultMetricStore] at namespaceEq podNameEq
      rw [← namespaceEq, ← podNameEq]

/-- The only raw-response key of a node task is its node's. -/
theorem nodeTask_rawKey {scanner : Scanner} {optInAnalysisData : Bool} {order : MapOrder}
    {node : Node} {response : NodeResponse} {now : Time} {call : Call}
    (member : call ∈ (nodeTask scanner optInAnalysisData order node response now).1) {key : String}
    (keyed : call.rawKey = some key) : key = node.id.string := by
  rcases mem_nodeTask member with ⟨data, rfl⟩ |
    ⟨summary, _, nodeMember | ⟨pod, _, podCall⟩ | ⟨cadvisor, throttleMember⟩⟩
  · cases keyed
    rfl
  · rcases mem_nodeCalls nodeMember with ⟨_, _, rfl⟩ | ⟨_, _, rfl⟩ <;> cases keyed
  · obtain ⟨_, _, _, ⟨_, _, rfl⟩ | ⟨_, _, rfl⟩ | ⟨container, _, containerCall⟩⟩ :=
      mem_podCalls podCall
    · cases keyed
    · cases keyed
    · obtain ⟨_, _, _, _, ⟨_, _, rfl⟩ | rfl⟩ := mem_containerCalls containerCall <;> cases keyed
  · obtain ⟨_, _, _, _, rfl | rfl⟩ := mem_throttleCalls throttleMember <;> cases keyed

/-! ## The tasks of a cycle -/

/-- The calls of task `index`: those of the node task of the node at position
`index`. -/
theorem Cycle.mem_programs {cycle : Cycle} {optInAnalysisData : Bool} {index : Nat} {call : Call}
    (member : call ∈ (cycle.programs optInAnalysisData).getD index []) :
    ∃ node, cycle.scanner.nodes[index]? = some node ∧
      call ∈ (nodeTask cycle.scanner optInAnalysisData cycle.order node (cycle.responses index)
        (cycle.clock index)).1 := by
  unfold Cycle.programs at member
  rw [List.getD_eq_getElem?_getD, List.getElem?_map] at member
  by_cases inside : index < cycle.scanner.nodes.length
  · rw [List.getElem?_range inside] at member
    simp only [Option.map_some', Option.getD_some] at member
    split at member
    · cases member
    · exact ⟨_, ‹_›, member⟩
  · rw [List.getElem?_eq_none (by simpa using inside)] at member
    cases member

/-- Task `index` runs the node task of the node at position `index`. -/
theorem Cycle.getD_programs {cycle : Cycle} {optInAnalysisData : Bool} {index : Nat} {node : Node}
    (found : cycle.scanner.nodes[index]? = some node) :
    (cycle.programs optInAnalysisData).getD index [] =
      (nodeTask cycle.scanner optInAnalysisData cycle.order node (cycle.responses index)
        (cycle.clock index)).1 := by
  have inside : index < cycle.scanner.nodes.length := (List.getElem?_eq_some_iff.mp found).1
  unfold Cycle.programs
  rw [List.getD_eq_getElem?_getD, List.getElem?_map, List.getElem?_range inside]
  simp only [Option.map_some', Option.getD_some, found]

theorem index_eq_of_nodup {nodes : List Node} {index other : Nat} {node otherNode : Node}
    (distinct : (nodes.map Node.id).Nodup) (found : nodes[index]? = some node)
    (otherFound : nodes[other]? = some otherNode) (same : node.id = otherNode.id) :
    index = other :=
  List.getElem?_inj (by simpa using (List.getElem?_eq_some_iff.mp found).1) distinct
    (by simp [List.getElem?_map, found, otherFound, same])

/-- The node tasks of a cycle share no key when the nodes' identifiers are
distinct, no pod is listed by two nodes, and no namespace or pod name contains
`:`. -/
theorem Cycle.separated (cycle : Cycle) (optInAnalysisData : Bool)
    (distinctNodes : (cycle.scanner.nodes.map Node.id).Nodup)
    (podsApart : ∀ index < cycle.scanner.nodes.length, ∀ other < cycle.scanner.nodes.length,
      index ≠ other → ∀ pod ∈ (cycle.responses index).pods,
        ∀ otherPod ∈ (cycle.responses other).pods, pod.podRef ≠ otherPod.podRef)
    (colonFree : ∀ index < cycle.scanner.nodes.length, ∀ pod ∈ (cycle.responses index).pods,
      NoColon pod.podRef.namespace_ ∧ NoColon pod.podRef.name) :
    Pool.Separated (cycle.programs optInAnalysisData) where
  owners := by
    rintro key index other ⟨call, member, keyed⟩ ⟨otherCall, otherMember, otherKeyed⟩
    obtain ⟨node, found, taskMember⟩ := Cycle.mem_programs member
    obtain ⟨otherNode, otherFound, otherTaskMember⟩ := Cycle.mem_programs otherMember
    have inside := (List.getElem?_eq_some_iff.mp found).1
    have otherInside := (List.getElem?_eq_some_iff.mp otherFound).1
    rcases (nodeTask_rateKey taskMember keyed).disjoint (colonFree index inside)
        (colonFree other otherInside) (nodeTask_rateKey otherTaskMember otherKeyed) with
      sameNode | ⟨pod, podMember, otherPod, otherPodMember, same⟩
    · exact index_eq_of_nodup distinctNodes found otherFound sameNode
    · by_contra different
      exact podsApart index inside other otherInside different pod podMember otherPod
        otherPodMember same
  writers := by
    rintro key index other ⟨call, member, keyed⟩ ⟨otherCall, otherMember, otherKeyed⟩
    obtain ⟨node, found, taskMember⟩ := Cycle.mem_programs member
    obtain ⟨otherNode, otherFound, otherTaskMember⟩ := Cycle.mem_programs otherMember
    exact index_eq_of_nodup distinctNodes found otherFound (UUID.string_injective
      ((nodeTask_rawKey taskMember keyed).symm.trans (nodeTask_rawKey otherTaskMember otherKeyed)))

end MagalixAgent.Scraper
