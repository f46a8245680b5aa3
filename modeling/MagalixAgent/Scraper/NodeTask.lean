import MagalixAgent.Scraper.Calls

namespace MagalixAgent.Scraper

/-! # The calls of a cycle

The emission sites of `GetMetrics`, each given by the list of calls it makes:
the cluster and node figures of the snapshot, the per-container requests and
limits emitted after the node tasks are set up, and the node task itself. The
measurement tables are transcribed entry by entry from the source. -/

/-- An entry `{Name, Time, Value}` of a measurement table. -/
structure Measurement where
  name : String
  time : Time
  value : Int64

/-- An entry `{Name, Time, Value, Multiplier}` of a rate table. -/
structure RateMeasurement where
  name : String
  time : Time
  value : Int64
  multiplier : Int64

/-! ## The snapshot's figures -/

/-- The instance group of a node: its type, followed by `.` and its size when it
has one. -/
def instanceGroup (node : Node) : String :=
  let group := if node.instanceType ≠ "" then node.instanceType else ""
  if node.instanceSize ≠ "" then group ++ "." ++ node.instanceSize else group

/-- `instanceGroups`: how many nodes each instance group has. -/
def instanceGroups (nodes : List Node) : GoMap String Int64 :=
  nodes.foldl (fun groups node =>
    let groups := if (groups.lookup (instanceGroup node)).isNone then
      groups.insert (instanceGroup node) 0 else groups
    groups.insert (instanceGroup node) ((groups.lookup (instanceGroup node)).getD 0 + 1))
    GoMap.empty

/-- The table of capacity and allocatable figures of a node. -/
def nodeCapacities (node : Node) (nodesScanTime : Time) : List Measurement :=
  [⟨"cpu/node_capacity", nodesScanTime, node.capacity.cpu⟩,
   ⟨"cpu/node_allocatable", nodesScanTime, node.allocatable.cpu⟩,
   ⟨"memory/node_capacity", nodesScanTime, node.capacity.memory⟩,
   ⟨"memory/node_allocatable", nodesScanTime, node.allocatable.memory⟩]

/-- The calls before the node tasks start: the node count, the count of each
instance group (in the order `range` visits the map), and each node's figures. -/
def clusterCalls (order : MapOrder) (scanner : Scanner) : List Call :=
  [.addMetricValue typeCluster "nodes/count" UUID.Nil UUID.Nil UUID.Nil UUID.Nil ""
      scanner.nodesLastScanTime (Int64.ofInt scanner.nodes.length)] ++
    (order.arrange (instanceGroups scanner.nodes)).map (fun entry =>
      .addMetricValueWithTags typeCluster "nodes/count" UUID.Nil UUID.Nil UUID.Nil UUID.Nil ""
        scanner.nodesLastScanTime entry.2 [("instance_group", entry.1)]) ++
    scanner.nodes.flatMap fun node =>
      (nodeCapacities node scanner.nodesLastScanTime).map fun measurement =>
        .addMetricValue typeNode measurement.name node.id UUID.Nil UUID.Nil UUID.Nil ""
          measurement.time measurement.value

/-- The request and limit table of a snapshot container. -/
def containerSpecs (container : ScannerContainer) : List (String × Int64) :=
  [("cpu/request", container.requestsCpu), ("cpu/limit", container.limitsCpu),
   ("memory/request", container.requestsMemory), ("memory/limit", container.limitsMemory)]

/-- The calls of the loop over the snapshot's applications, services and
containers, stamped with the applications' scan time. -/
def requestCalls (scanner : Scanner) : List Call :=
  scanner.applications.flatMap fun application =>
    application.services.flatMap fun service =>
      service.containers.flatMap fun container =>
        (containerSpecs container).map fun entry =>
          .addMetricValue typePodContainer entry.1 UUID.Nil application.id service.id container.id ""
            scanner.appsLastScanTime entry.2

/-! ## The node task: fetching -/

/-- The text by which the node task recognises a missing resource. -/
def notFoundMessage : String := "the server could not find the requested resource"

/-- The closure `withBackoff` retries for `stats/summary`: a missing resource
reads as `{}`. -/
def summaryFetch (node : Node) : Except String SummaryBody → Except String SummaryBody
  | .ok body => .ok body
  | .error message =>
      if Strings.contains message notFoundMessage then .ok SummaryBody.emptyObject
      else .error ("{kubelet} unable to get summary from node \"" ++ node.name ++ "\"")

/-- The closure `withBackoff` retries for `metrics/cadvisor`: a missing resource
reads as the empty body. -/
def cadvisorFetch (node : Node) : Except String CAdvisorBody → Except String CAdvisorBody
  | .ok body => .ok body
  | .error message =>
      if Strings.contains message notFoundMessage then .ok CAdvisorBody.empty
      else .error ("{kubelet} unable to get cadvisor from node \"" ++ node.name ++ "\"")

/-! ## The node task: the summary -/

/-- The absolute table of the node block. -/
def nodeMeasurements (summary : KubeletSummary) : List Measurement :=
  [⟨"cpu/usage", summary.node.cpu.time, summary.node.cpu.usageCoreNanoSeconds⟩,
   ⟨"memory/rss", summary.node.memory.time, summary.node.memory.rssBytes⟩,
   ⟨"filesystem/usage", summary.node.fs.time, summary.node.fs.usedBytes⟩,
   ⟨"filesystem/node_capacity", summary.node.fs.time, summary.node.fs.capacityBytes⟩,
   ⟨"filesystem/node_allocatable", summary.node.fs.time, summary.node.fs.capacityBytes⟩,
   ⟨"network/tx", summary.node.network.time, summary.node.network.txBytes⟩,
   ⟨"network/rx", summary.node.network.time, summary.node.network.rxBytes⟩,
   ⟨"network/tx_errors", summary.node.network.time, summary.node.network.txErrors⟩,
   ⟨"network/rx_errors", summary.node.network.time, summary.node.network.rxErrors⟩]

/-- The rate table of the node block. -/
def nodeRates (summary : KubeletSummary) : List RateMeasurement :=
  [⟨"cpu/usage_rate", summary.node.cpu.time, summary.node.cpu.usageCoreNanoSeconds, 1000⟩,
   ⟨"network/tx_rate", summary.node.network.time, summary.node.network.txBytes, 1000000000⟩,
   ⟨"network/rx_rate", summary.node.network.time, summary.node.network.rxBytes, 1000000000⟩,
   ⟨"network/tx_errors_rate", summary.node.network.time, summary.node.network.txErrors,
     1000000000⟩,
   ⟨"network/rx_errors_rate", summary.node.network.time, summary.node.network.rxErrors,
     1000000000⟩]

/-- The calls of the node block. -/
def nodeCalls (node : Node) (summary : KubeletSummary) : List Call :=
  (nodeMeasurements summary).map (fun measurement =>
      .addMetricValue typeNode measurement.name node.id UUID.Nil UUID.Nil UUID.Nil ""
        measurement.time measurement.value) ++
    (nodeRates summary).map fun measurement =>
      .addMetricValueRate typeNode "" node.id.string measurement.name node.id UUID.Nil UUID.Nil
        UUID.Nil "" measurement.time measurement.value measurement.multiplier

/-- The absolute table of a pod; `network/rx` reads `TxBytes`, as in the source. -/
def podMeasurements (pod : KubeletSummaryPod) : List Measurement :=
  [⟨"network/tx", pod.network.time, pod.network.txBytes⟩,
   ⟨"network/rx", pod.network.time, pod.network.txBytes⟩,
   ⟨"network/tx_errors", pod.network.time, pod.network.txErrors⟩,
   ⟨"network/rx_errors", pod.network.time, pod.network.rxErrors⟩]

/-- The rate table of a pod, again with `network/rx_rate` read from `TxBytes`. -/
def podRates (pod : KubeletSummaryPod) : List Measurement :=
  [⟨"network/tx_rate", pod.network.time, pod.network.txBytes⟩,
   ⟨"network/rx_rate", pod.network.time, pod.network.txBytes⟩,
   ⟨"network/tx_errors_rate", pod.network.time, pod.network.txErrors⟩,
   ⟨"network/rx_errors_rate", pod.network.time, pod.network.rxErrors⟩]

/-- The absolute table of a container that `FindContainer` identified. -/
def containerMeasurements (container : KubeletSummaryContainer)
    (identified : ScannerContainer) : List Measurement :=
  [⟨"cpu/usage", container.cpu.time, container.cpu.usageCoreNanoSeconds⟩,
   ⟨"memory/rss", container.memory.time, container.memory.rssBytes⟩,
   ⟨"filesystem/usage", container.rootFS.time, container.rootFS.usedBytes⟩,
   ⟨"cpu/request", container.cpu.time, identified.requestsCpu⟩,
   ⟨"cpu/limit", container.cpu.time, identified.limitsCpu⟩,
   ⟨"memory/request", container.memory.time, identified.requestsMemory⟩,
   ⟨"memory/limit", container.memory.time, identified.limitsMemory⟩]

/-- `podContainers`: the containers of a pod by name, a later-started instance
replacing an earlier one. -/
def dedupContainers (containers : List KubeletSummaryContainer) :
    GoMap String KubeletSummaryContainer :=
  containers.foldl (fun podContainers container =>
    match podContainers.lookup container.name with
    | none => podContainers.insert container.name container
    | some found =>
        if found.startTime.nanos < container.startTime.nanos then
          podContainers.insert container.name container
        else podContainers)
    GoMap.empty

/-- The calls for a container of a resolved pod: nothing when `FindContainer`
misses, else its absolutes and its `cpu/usage_rate`. -/
def containerCalls (scanner : Scanner) (node : Node) (pod : KubeletSummaryPod)
    (container : KubeletSummaryContainer) : List Call :=
  match scanner.findContainer pod.podRef.namespace_ pod.podRef.name container.name with
  | none => []
  | some (applicationID, serviceID, identified) =>
      (containerMeasurements container identified).map (fun measurement =>
          .addMetricValue typePodContainer measurement.name node.id applicationID serviceID
            identified.id pod.podRef.name measurement.time measurement.value) ++
        [.addMetricValueRate typePodContainer (pod.podRef.namespace_ ++ ":" ++ pod.podRef.name)
          container.name "cpu/usage_rate" node.id applicationID serviceID identified.id
          pod.podRef.name container.cpu.time container.cpu.usageCoreNanoSeconds 1000]

/-- The calls for a pod: nothing when `FindService` misses, else its network
absolutes and rates and the calls of each deduplicated container, in the order
`range` visits `podContainers`. -/
def podCalls (scanner : Scanner) (order : MapOrder) (node : Node) (pod : KubeletSummaryPod) :
    List Call :=
  match scanner.findService pod.podRef.namespace_ pod.podRef.name with
  | none => []
  | some (applicationID, serviceID) =>
      (podMeasurements pod).map (fun measurement =>
          .addMetricValue typePod measurement.name node.id applicationID serviceID UUID.Nil
            pod.podRef.name measurement.time measurement.value) ++
        (podRates pod).map (fun measurement =>
          .addMetricValueRate typePod pod.podRef.namespace_ pod.podRef.name measurement.name
            node.id applicationID serviceID UUID.Nil pod.podRef.name measurement.time
            measurement.value 1000000000) ++
        (order.arrange (dedupContainers pod.containers)).flatMap fun entry =>
          containerCalls scanner node pod entry.2

/-! ## The node task: throttling -/

/-- `containerMetricStore`. -/
structure ContainerMetricStore where
  applicationID : UUID
  serviceID : UUID
  containerID : UUID
  namespace_ : String
  podName : String
  containerName : String
  timestamp : Time
  value : Float

/-- `defaultMetricStore`. -/
def defaultMetricStore (applicationID serviceID : UUID) (identified : ScannerContainer)
    (namespace_ podName : String) (container : KubeletSummaryContainer) :
    ContainerMetricStore :=
  ⟨applicationID, serviceID, identified.id, namespace_, podName, container.name,
    container.cpu.time, 0⟩

/-- `throttleMetrics`, keyed by container identifier and then by metric name. -/
abbrev ThrottleMetrics := GoMap UUID (GoMap String ContainerMetricStore)

/-- The three zero-valued stores the container loop puts under
`throttleMetrics[identifiedContainer.ID]`. -/
def throttleStores (applicationID serviceID : UUID) (identified : ScannerContainer)
    (namespace_ podName : String) (container : KubeletSummaryContainer) :
    GoMap String ContainerMetricStore :=
  let store := defaultMetricStore applicationID serviceID identified namespace_ podName container
  ((GoMap.empty.insert "container_cpu_cfs/periods_total" store).insert
    "container_cpu_cfs_throttled/seconds_total" store).insert
    "container_cpu_cfs_throttled/periods_total" store

/-- The writes of the container loop to `throttleMetrics` for one container. The
loop's calls and these writes do not read each other, so the model keeps them
apart. -/
def containerThrottle (scanner : Scanner) (pod : KubeletSummaryPod)
    (throttle : ThrottleMetrics) (container : KubeletSummaryContainer) : ThrottleMetrics :=
  match scanner.findContainer pod.podRef.namespace_ pod.podRef.name container.name with
  | none => throttle
  | some (applicationID, serviceID, identified) =>
      throttle.insert identified.id
        (throttleStores applicationID serviceID identified pod.podRef.namespace_ pod.podRef.name
          container)

/-- The writes of the pod loop to `throttleMetrics` for one pod. -/
def podThrottle (scanner : Scanner) (order : MapOrder) (throttle : ThrottleMetrics)
    (pod : KubeletSummaryPod) : ThrottleMetrics :=
  match scanner.findService pod.podRef.namespace_ pod.podRef.name with
  | none => throttle
  | some _ =>
      (order.arrange (dedupContainers pod.containers)).foldl
        (fun throttle entry => containerThrottle scanner pod throttle entry.2) throttle

/-- The families `{Name, Ref}` of the cAdvisor loop. -/
def throttleMetricRefs : List (String × String) :=
  [("container_cpu_cfs/periods_total", "container_cpu_cfs_periods_total"),
   ("container_cpu_cfs_throttled/periods_total", "container_cpu_cfs_throttled_periods_total"),
   ("container_cpu_cfs_throttled/seconds_total", "container_cpu_cfs_throttled_seconds_total")]

/-- One sample of the cAdvisor loop: its value goes into the store of its
container, found through `FindContainerByPodUIDContainerName`, if the summary
created one. -/
def recordSample (scanner : Scanner) (name : String) (throttle : ThrottleMetrics) :
    Option ContainerValue → ThrottleMetrics
  | none => throttle
  | some sample =>
      match scanner.findContainerByPodUIDContainerName sample.podUID sample.containerName with
      | none => throttle
      | some (_, _, containerID) =>
          match throttle.lookup containerID with
          | none => throttle
          | some stores =>
              match stores.lookup name with
              | none => throttle
              | some store =>
                  throttle.insert containerID (stores.insert name { store with value := sample.value })

/-- The cAdvisor loop over the three families and their samples. -/
def fillThrottle (scanner : Scanner) (cadvisor : CAdvisor) (throttle : ThrottleMetrics) :
    ThrottleMetrics :=
  throttleMetricRefs.foldl (fun throttle metric =>
    (cadvisor metric.2).foldl (recordSample scanner metric.1) throttle) throttle

/-- The value the throttle rate is computed from: seconds become milliseconds. -/
def throttleRateValue (metricName : String) (value : Float) : Float :=
  if Strings.contains metricName "seconds" then value * 1000 else value

/-- The calls of the emission loop over `throttleMetrics`. -/
def throttleCalls (order : MapOrder) (node : Node) (summary : KubeletSummary)
    (throttle : ThrottleMetrics) (now : Time) : List Call :=
  (order.arrange throttle).flatMap fun entry =>
    (order.arrange entry.2).flatMap fun stored =>
      [.addMetricValue typePodContainer stored.1 node.id stored.2.applicationID
          stored.2.serviceID stored.2.containerID stored.2.podName summary.node.cpu.time
          (Int64.ofFloat stored.2.value),
       .addMetricValueRate typePodContainer (stored.2.namespace_ ++ ":" ++ stored.2.podName)
          stored.2.containerName (stored.1 ++ "_rate") node.id stored.2.applicationID
          stored.2.serviceID stored.2.containerID stored.2.podName now
          (Int64.ofFloat (throttleRateValue stored.1 stored.2.value)) 1000000000]

/-! ## The node task -/

/-- The rest of a node task once the container loop has filled `throttle`: fetch
and decode the exposition, then the throttle calls; or the error that ends the
task before them. `now` is the task's reading of `time.Now().UTC()`. -/
def cadvisorCalls (scanner : Scanner) (order : MapOrder) (node : Node) (summary : KubeletSummary)
    (throttle : ThrottleMetrics) (response : NodeResponse) (now : Time) :
    List Call × Option String :=
  match cadvisorFetch node response.cadvisor with
  | .error message => ([], some message)
  | .ok (.error _) => ([], some "{kubelet} unable to read cadvisor response")
  | .ok (.ok cadvisor) =>
      (throttleCalls order node summary (fillThrottle scanner cadvisor throttle) now, none)

/-- The `addRawResponse` call of a task that opted in to analysis data, made when
the summary decodes to a non-nil value. -/
def rawResponseCalls (optInAnalysisData : Bool) (node : Node) (body : SummaryBody) : List Call :=
  match optInAnalysisData, body.raw with
  | true, some data => [.addRawResponse node.id data]
  | _, _ => []

/-- The calls one node task makes, in order, and the error it returns. `now` is
its reading of `time.Now().UTC()`. -/
def nodeTask (scanner : Scanner) (optInAnalysisData : Bool) (order : MapOrder) (node : Node)
    (response : NodeResponse) (now : Time) : List Call × Option String :=
  match summaryFetch node response.summary with
  | .error message => ([], some message)
  | .ok body =>
      let raw := rawResponseCalls optInAnalysisData node body
      match body.decoded with
      | .error _ => (raw, some "{kubelet} unable to unmarshal summary response")
      | .ok summary =>
          let summaryCalls :=
            nodeCalls node summary ++ summary.pods.flatMap (podCalls scanner order node)
          let throttle := summary.pods.foldl (podThrottle scanner order) GoMap.empty
          let cadvisor := cadvisorCalls scanner order node summary throttle response now
          (raw ++ summaryCalls ++ cadvisor.1, cadvisor.2)

end MagalixAgent.Scraper
