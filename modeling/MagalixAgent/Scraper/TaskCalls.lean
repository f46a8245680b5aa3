import MagalixAgent.Scraper.NodeTask

namespace MagalixAgent.Scraper

/-! # What a node task calls

The calls of a node task read back from its definition once, with where each of
their arguments comes from: the raw response, the node block, each pod's calls
and its containers', and the throttle calls, whose stores all come from the
containers the summary lists. Every property of the node task's records is
derived from these inversion lemmas. -/

namespace NodeResponse

/-- The summary a node task decodes from the response, if it gets that far: a
missing resource reads as `{}`. -/
def decodedSummary (response : NodeResponse) : Option KubeletSummary :=
  match response.summary with
  | .ok body =>
      match body.decoded with
      | .ok summary => some summary
      | .error _ => none
  | .error message => if Strings.contains message notFoundMessage then some {} else none

/-- The pods of the decoded summary. -/
def pods (response : NodeResponse) : List KubeletSummaryPod :=
  match response.decodedSummary with
  | some summary => summary.pods
  | none => []

theorem decodedSummary_eq {node : Node} {response : NodeResponse} {body : SummaryBody}
    {summary : KubeletSummary} (fetched : summaryFetch node response.summary = .ok body)
    (decoded : body.decoded = .ok summary) : response.decodedSummary = some summary := by
  unfold summaryFetch at fetched
  unfold decodedSummary
  split at fetched
  · rename_i found
    cases fetched
    simp [found, decoded]
  · rename_i message missing
    split at fetched
    · rename_i notFound
      cases fetched
      cases decoded
      simp [missing, notFound]
    · cases fetched

end NodeResponse

/-! ## The pod loop -/

theorem mem_dedupContainers {containers : List KubeletSummaryContainer}
    {entry : String × KubeletSummaryContainer} (member : entry ∈ dedupContainers containers) :
    entry.2 ∈ containers := by
  unfold dedupContainers at member
  refine List.foldlRecOn (motive := fun podContainers => ∀ entry ∈ podContainers,
      entry.2 ∈ containers) containers _ GoMap.empty (fun _ absent => by cases absent)
    (fun podContainers kept container fresh => ?_) entry member
  have added : ∀ entry ∈ podContainers.insert container.name container, entry.2 ∈ containers :=
    fun entry member => (GoMap.mem_insert member).elim (kept entry) fun added => added ▸ fresh
  intro entry member
  split at member
  · exact added entry member
  · split at member
    · exact added entry member
    · exact kept entry member

theorem mem_nodeCalls {node : Node} {summary : KubeletSummary} {call : Call}
    (member : call ∈ nodeCalls node summary) :
    (∃ measurement ∈ nodeMeasurements summary, call = .addMetricValue typeNode measurement.name
        node.id UUID.Nil UUID.Nil UUID.Nil "" measurement.time measurement.value) ∨
      ∃ measurement ∈ nodeRates summary, call = .addMetricValueRate typeNode "" node.id.string
        measurement.name node.id UUID.Nil UUID.Nil UUID.Nil "" measurement.time measurement.value
        measurement.multiplier := by
  simp only [nodeCalls, List.mem_append, List.mem_map] at member
  rcases member with ⟨measurement, listed, rfl⟩ | ⟨measurement, listed, rfl⟩
  · exact .inl ⟨measurement, listed, rfl⟩
  · exact .inr ⟨measurement, listed, rfl⟩

theorem mem_containerCalls {scanner : Scanner} {node : Node} {pod : KubeletSummaryPod}
    {container : KubeletSummaryContainer} {call : Call}
    (member : call ∈ containerCalls scanner node pod container) :
    ∃ applicationID serviceID identified,
      scanner.findContainer pod.podRef.namespace_ pod.podRef.name container.name =
        some (applicationID, serviceID, identified) ∧
      ((∃ measurement ∈ containerMeasurements container identified,
          call = .addMetricValue typePodContainer measurement.name node.id applicationID serviceID
            identified.id pod.podRef.name measurement.time measurement.value) ∨
        call = .addMetricValueRate typePodContainer (pod.podRef.namespace_ ++ ":" ++ pod.podRef.name)
          container.name "cpu/usage_rate" node.id applicationID serviceID identified.id
          pod.podRef.name container.cpu.time container.cpu.usageCoreNanoSeconds 1000) := by
  unfold containerCalls at member
  split at member
  · cases member
  · rename_i applicationID serviceID identified found
    simp only [List.mem_append, List.mem_map, List.mem_singleton] at member
    refine ⟨applicationID, serviceID, identified, found, ?_⟩
    rcases member with ⟨measurement, listed, rfl⟩ | rfl
    · exact .inl ⟨measurement, listed, rfl⟩
    · exact .inr rfl

theorem mem_podCalls {scanner : Scanner} {order : MapOrder} {node : Node}
    {pod : KubeletSummaryPod} {call : Call} (member : call ∈ podCalls scanner order node pod) :
    ∃ applicationID serviceID,
      scanner.findService pod.podRef.namespace_ pod.podRef.name = some (applicationID, serviceID) ∧
      ((∃ measurement ∈ podMeasurements pod, call = .addMetricValue typePod measurement.name
          node.id applicationID serviceID UUID.Nil pod.podRef.name measurement.time
          measurement.value) ∨
        (∃ measurement ∈ podRates pod, call = .addMetricValueRate typePod pod.podRef.namespace_
          pod.podRef.name measurement.name node.id applicationID serviceID UUID.Nil pod.podRef.name
          measurement.time measurement.value 1000000000) ∨
        ∃ container ∈ pod.containers, call ∈ containerCalls scanner node pod container) := by
  unfold podCalls at member
  split at member
  · cases member
  · rename_i applicationID serviceID found
    simp only [List.mem_append, List.mem_map, List.mem_flatMap] at member
    refine ⟨applicationID, serviceID, found, ?_⟩
    rcases member with (⟨measurement, listed, rfl⟩ | ⟨measurement, listed, rfl⟩) |
      ⟨entry, arranged, containerMember⟩
    · exact .inl ⟨measurement, listed, rfl⟩
    · exact .inr (.inl ⟨measurement, listed, rfl⟩)
    · exact .inr (.inr ⟨entry.2, mem_dedupContainers (order.mem_arrange.mp arranged),
        containerMember⟩)

/-! ## The throttle stores -/

/-- A store the container loop creates for a container of `pod` that
`FindContainer` resolves, with whatever value the cAdvisor loop gave it. -/
def StoreOf (scanner : Scanner) (pod : KubeletSummaryPod) (store : ContainerMetricStore) :
    Prop :=
  ∃ container ∈ pod.containers, ∃ applicationID serviceID identified,
    scanner.findContainer pod.podRef.namespace_ pod.podRef.name container.name =
      some (applicationID, serviceID, identified) ∧
    { store with value := 0 } = defaultMetricStore applicationID serviceID identified
      pod.podRef.namespace_ pod.podRef.name container

/-- Every store of the map is under one of the three counter names and comes
from a pod of `pods`. -/
def ThrottleFrom (scanner : Scanner) (pods : List KubeletSummaryPod)
    (throttle : ThrottleMetrics) : Prop :=
  ∀ entry ∈ throttle, ∀ stored ∈ entry.2,
    stored.1 ∈ throttleMetricRefs.map Prod.fst ∧ ∃ pod ∈ pods, StoreOf scanner pod stored.2

theorem mem_throttleStores {applicationID serviceID : UUID} {identified : ScannerContainer}
    {namespace_ podName : String} {container : KubeletSummaryContainer}
    {stored : String × ContainerMetricStore}
    (member : stored ∈ throttleStores applicationID serviceID identified namespace_ podName
      container) :
    stored.1 ∈ throttleMetricRefs.map Prod.fst ∧
      stored.2 = defaultMetricStore applicationID serviceID identified namespace_ podName
        container := by
  unfold throttleStores at member
  rcases GoMap.mem_insert member with member | rfl
  · rcases GoMap.mem_insert member with member | rfl
    · rcases GoMap.mem_insert member with member | rfl
      · cases member
      · exact ⟨by simp [throttleMetricRefs], rfl⟩
    · exact ⟨by simp [throttleMetricRefs], rfl⟩
  · exact ⟨by simp [throttleMetricRefs], rfl⟩

theorem ThrottleFrom.containerThrottle {scanner : Scanner} {pods : List KubeletSummaryPod}
    {throttle : ThrottleMetrics} (from_ : ThrottleFrom scanner pods throttle)
    {pod : KubeletSummaryPod} (podMember : pod ∈ pods) {container : KubeletSummaryContainer}
    (containerMember : container ∈ pod.containers) :
    ThrottleFrom scanner pods (Scraper.containerThrottle scanner pod throttle container) := by
  unfold Scraper.containerThrottle
  split
  · exact from_
  · rename_i applicationID serviceID identified found
    intro entry member stored storedMember
    rcases GoMap.mem_insert member with old | rfl
    · exact from_ entry old stored storedMember
    · obtain ⟨named, made⟩ := mem_throttleStores storedMember
      refine ⟨named, pod, podMember, container, containerMember, _, _, _, found, ?_⟩
      rw [made]
      rfl

theorem ThrottleFrom.podThrottle {scanner : Scanner} {order : MapOrder}
    {pods : List KubeletSummaryPod} {throttle : ThrottleMetrics}
    (from_ : ThrottleFrom scanner pods throttle) {pod : KubeletSummaryPod} (member : pod ∈ pods) :
    ThrottleFrom scanner pods (Scraper.podThrottle scanner order throttle pod) := by
  unfold Scraper.podThrottle
  split
  · exact from_
  · exact List.foldlRecOn (motive := ThrottleFrom scanner pods) _ _ throttle from_
      fun throttle kept entry arranged => kept.containerThrottle member
        (mem_dedupContainers (order.mem_arrange.mp arranged))

theorem throttleFrom_pods (scanner : Scanner) (order : MapOrder)
    (pods : List KubeletSummaryPod) :
    ThrottleFrom scanner pods (pods.foldl (podThrottle scanner order) GoMap.empty) :=
  List.foldlRecOn (motive := ThrottleFrom scanner pods) _ _ GoMap.empty
    (fun _ absent => by cases absent) fun _ kept _ member => kept.podThrottle member

theorem StoreOf.setValue {scanner : Scanner} {pod : KubeletSummaryPod}
    {store : ContainerMetricStore} (origin : StoreOf scanner pod store) (value : Float) :
    StoreOf scanner pod { store with value := value } :=
  origin

theorem ThrottleFrom.recordSample {scanner : Scanner} {pods : List KubeletSummaryPod}
    {throttle : ThrottleMetrics} (from_ : ThrottleFrom scanner pods throttle) (name : String)
    (sample : Option ContainerValue) :
    ThrottleFrom scanner pods (Scraper.recordSample scanner name throttle sample) := by
  unfold Scraper.recordSample
  repeat' split
  all_goals try exact from_
  rename_i _ _ _ _ containerID _ _ stores foundStores _ store foundStore
  intro entry member stored storedMember
  rcases GoMap.mem_insert member with old | rfl
  · exact from_ entry old stored storedMember
  · have kept := from_ _ (GoMap.mem_of_lookup foundStores)
    rcases GoMap.mem_insert storedMember with old | rfl
    · exact kept stored old
    · obtain ⟨named, pod, podMember, origin⟩ := kept _ (GoMap.mem_of_lookup foundStore)
      exact ⟨named, pod, podMember, origin.setValue _⟩

theorem ThrottleFrom.fillThrottle {scanner : Scanner} {pods : List KubeletSummaryPod}
    {throttle : ThrottleMetrics} (from_ : ThrottleFrom scanner pods throttle)
    (cadvisor : CAdvisor) : ThrottleFrom scanner pods (Scraper.fillThrottle scanner cadvisor throttle) :=
  List.foldlRecOn (motive := ThrottleFrom scanner pods) _ _ throttle from_
    fun _ kept metric _ => List.foldlRecOn (motive := ThrottleFrom scanner pods) _ _ _ kept
      fun _ kept sample _ => kept.recordSample metric.1 sample

theorem mem_throttleCalls {order : MapOrder} {node : Node} {summary : KubeletSummary}
    {throttle : ThrottleMetrics} {now : Time} {call : Call}
    (member : call ∈ throttleCalls order node summary throttle now) :
    ∃ entry ∈ throttle, ∃ stored ∈ entry.2,
      call = .addMetricValue typePodContainer stored.1 node.id stored.2.applicationID
          stored.2.serviceID stored.2.containerID stored.2.podName summary.node.cpu.time
          (Int64.ofFloat stored.2.value) ∨
        call = .addMetricValueRate typePodContainer (stored.2.namespace_ ++ ":" ++ stored.2.podName)
          stored.2.containerName (stored.1 ++ "_rate") node.id stored.2.applicationID
          stored.2.serviceID stored.2.containerID stored.2.podName now
          (Int64.ofFloat (throttleRateValue stored.1 stored.2.value)) 1000000000 := by
  simp only [throttleCalls, List.mem_flatMap, List.mem_cons, List.mem_singleton,
    List.not_mem_nil, or_false] at member
  obtain ⟨entry, entryMember, stored, storedMember, made⟩ := member
  exact ⟨entry, order.mem_arrange.mp entryMember, stored, order.mem_arrange.mp storedMember, made⟩

/-! ## The node task -/

theorem mem_cadvisorCalls {scanner : Scanner} {order : MapOrder} {node : Node}
    {summary : KubeletSummary} {throttle : ThrottleMetrics} {response : NodeResponse} {now : Time}
    {call : Call} (member : call ∈ (cadvisorCalls scanner order node summary throttle response now).1) :
    ∃ cadvisor, call ∈ throttleCalls order node summary (fillThrottle scanner cadvisor throttle) now := by
  unfold cadvisorCalls at member
  split at member
  · cases member
  · cases member
  · exact ⟨_, member⟩

/-- The calls of a node task: its raw response, then, once the summary is
decoded, the node block, each listed pod's calls and the throttle calls. -/
theorem mem_nodeTask {scanner : Scanner} {optInAnalysisData : Bool} {order : MapOrder}
    {node : Node} {response : NodeResponse} {now : Time} {call : Call}
    (member : call ∈ (nodeTask scanner optInAnalysisData order node response now).1) :
    (∃ data, call = .addRawResponse node.id data) ∨
      ∃ summary, response.decodedSummary = some summary ∧
        (call ∈ nodeCalls node summary ∨ (∃ pod ∈ summary.pods, call ∈ podCalls scanner order node pod) ∨
          ∃ cadvisor, call ∈ throttleCalls order node summary
            (fillThrottle scanner cadvisor (summary.pods.foldl (podThrottle scanner order)
              GoMap.empty)) now) := by
  unfold nodeTask at member
  split at member
  · cases member
  · rename_i body fetched
    have raw : call ∈ rawResponseCalls optInAnalysisData node body →
        ∃ data, call = .addRawResponse node.id data := by
      unfold rawResponseCalls
      split
      · exact fun made => ⟨_, List.mem_singleton.mp made⟩
      · exact fun absent => by cases absent
    split at member
    · exact .inl (raw member)
    · rename_i summary decoded
      have found := NodeResponse.decodedSummary_eq fetched decoded
      simp only [List.mem_append, List.mem_flatMap] at member
      rcases member with (rawMember | nodeMember | podMember) | throttleMember
      · exact .inl (raw rawMember)
      · exact .inr ⟨summary, found, .inl nodeMember⟩
      · exact .inr ⟨summary, found, .inr (.inl podMember)⟩
      · exact .inr ⟨summary, found, .inr (.inr (mem_cadvisorCalls throttleMember))⟩

end MagalixAgent.Scraper
