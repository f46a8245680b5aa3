import MagalixAgent.Go.UUID
import MagalixAgent.Go.Strings

namespace MagalixAgent.Scraper

/-! # Data of `metrics/kubelet.go`

The records `GetMetrics` emits, the snapshot interface of the scanner it reads,
and the two documents a node serves. JSON decoding is not modelled: a body is
given by what the node task's `json.Unmarshal` calls make of it, and a field
that a document leaves out decodes to Go's zero value, which is the default of
each structure below. -/

/-- Modelled from the spec: `TypeCluster`, declared outside `kubelet.go`; the
wire protocol of §6 names the type `cluster`. -/
def typeCluster : String := "cluster"

/-- Modelled from the spec: `TypeNode` (§6: `node`). -/
def typeNode : String := "node"

/-- Modelled from the spec: `TypePod` (§6: `pod`). -/
def typePod : String := "pod"

/-- Modelled from the spec: `TypePodContainer` (§6: `pod_container`). -/
def typePodContainer : String := "pod_container"

/-- `Metrics`: one measurement of the batch `GetMetrics` returns. -/
structure Metrics where
  name : String
  type : String
  node : UUID
  application : UUID
  service : UUID
  container : UUID
  podName : String
  timestamp : Time
  value : Int64
  additionalTags : List (String × String)
deriving DecidableEq, Repr

/-- `KubeletValue`: the sample a rate key last stored. -/
structure KubeletValue where
  timestamp : Time
  value : Int64
deriving DecidableEq, Repr

/-! ## The scanner's snapshot -/

/-- The `Capacity` and `Allocatable` blocks of a `kuber.Node`. -/
structure NodeResources where
  cpu : Int64
  memory : Int64
deriving DecidableEq, Repr

/-- `kuber.Node`. -/
structure Node where
  id : UUID
  name : String
  instanceType : String
  instanceSize : String
  capacity : NodeResources
  allocatable : NodeResources
deriving DecidableEq, Repr

/-- `scanner.Container` with the quantities the metrics read of it:
`Requests.Cpu().MilliValue()`, `Limits.Cpu().MilliValue()`,
`Requests.Memory().Value()` and `Limits.Memory().Value()`. -/
structure ScannerContainer where
  id : UUID
  requestsCpu : Int64
  limitsCpu : Int64
  requestsMemory : Int64
  limitsMemory : Int64
deriving DecidableEq, Repr

/-- `scanner.Service`. -/
structure Service where
  id : UUID
  containers : List ScannerContainer
deriving DecidableEq, Repr

/-- `scanner.Application`. -/
structure Application where
  id : UUID
  services : List Service
deriving DecidableEq, Repr

/-- The snapshot a `*scanner.Scanner` serves during one `GetMetrics` call. The
scanner is not part of `kubelet.go`: its lookups are arbitrary functions. -/
structure Scanner where
  nodes : List Node
  nodesLastScanTime : Time
  applications : List Application
  appsLastScanTime : Time
  findService : String → String → Option (UUID × UUID)
  findContainer : String → String → String → Option (UUID × UUID × ScannerContainer)
  findContainerByPodUIDContainerName : String → String → Option (UUID × UUID × UUID)

/-! ## The `stats/summary` document -/

structure CPUStats where
  time : Time := Time.zero
  usageCoreNanoSeconds : Int64 := 0
deriving DecidableEq, Repr

structure MemoryStats where
  time : Time := Time.zero
  rssBytes : Int64 := 0
deriving DecidableEq, Repr

structure FSStats where
  time : Time := Time.zero
  usedBytes : Int64 := 0
  capacityBytes : Int64 := 0
deriving DecidableEq, Repr

structure RootFSStats where
  time : Time := Time.zero
  usedBytes : Int64 := 0
deriving DecidableEq, Repr

structure NetworkStats where
  time : Time := Time.zero
  rxBytes : Int64 := 0
  rxErrors : Int64 := 0
  txBytes : Int64 := 0
  txErrors : Int64 := 0
deriving DecidableEq, Repr

/-- `KubeletSummaryContainer`. -/
structure KubeletSummaryContainer where
  name : String := ""
  startTime : Time := Time.zero
  cpu : CPUStats := {}
  memory : MemoryStats := {}
  rootFS : RootFSStats := {}
deriving DecidableEq, Repr

@[ext] structure PodReference where
  name : String := ""
  namespace_ : String := ""
deriving DecidableEq, Repr

/-- An element of `KubeletSummary.Pods`. -/
structure KubeletSummaryPod where
  podRef : PodReference := {}
  containers : List KubeletSummaryContainer := []
  network : NetworkStats := {}
deriving DecidableEq, Repr

/-- `KubeletSummary.Node`. -/
structure KubeletSummaryNode where
  cpu : CPUStats := {}
  memory : MemoryStats := {}
  fs : FSStats := {}
  network : NetworkStats := {}
deriving DecidableEq, Repr

/-- `KubeletSummary`. -/
structure KubeletSummary where
  node : KubeletSummaryNode := {}
  pods : List KubeletSummaryPod := []
deriving DecidableEq, Repr

/-- A `stats/summary` body as the node task's two `json.Unmarshal` calls read
it: the generic JSON value it decodes to (`none` when `summaryInterface` stays
nil), and its decoding into `KubeletSummary`. -/
structure SummaryBody where
  raw : Option String
  decoded : Except String KubeletSummary

/-- `[]byte("{}")`, the body that stands in for a missing summary. -/
def SummaryBody.emptyObject : SummaryBody := ⟨some "{}", .ok {}⟩

/-! ## The `metrics/cadvisor` document -/

/-- A sample as `getCAdvisorContainerValue` reads it: the pod UID and container
name of its labels and its value. -/
structure ContainerValue where
  podUID : String
  containerName : String
  value : Float

/-- A decoded exposition: for each metric family, its samples; a sample that
`getCAdvisorContainerValue` rejects is `none`. -/
def CAdvisor := String → List (Option ContainerValue)

/-- A `metrics/cadvisor` body as `decodeCAdvisorResponse` reads it. -/
def CAdvisorBody := Except String CAdvisor

/-- Modelled from the spec: `decodeCAdvisorResponse` (not in `kubelet.go`)
applied to the empty body `[]byte{}` that stands in for a missing exposition;
§4.3 makes the exposition 404-tolerant like the summary, so it yields no
samples and no error. -/
def CAdvisorBody.empty : CAdvisorBody := .ok fun _ => []

/-- What `kubeletClient.GetBytes` answered for a node's two endpoints on the
last attempt `withBackoff` made: a body, or the error message of the call. -/
structure NodeResponse where
  summary : Except String SummaryBody
  cadvisor : Except String CAdvisorBody

end MagalixAgent.Scraper
