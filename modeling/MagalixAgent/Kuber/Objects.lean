import MagalixAgent.Go.Basic

namespace MagalixAgent.Kuber

/-! # Platform objects

The Kubernetes API objects that `kuber/kube.go` lists, reduced to the fields it
reads or passes on. A workload's pod template is a `PodSpec`; the containers of
a pod spec carry the environment variables and arguments that `maskPodSpec`
rewrites. Each list call answers with an error, a nil list, or its items. -/

/-- `kv1.EnvVar`. -/
structure EnvVar where
  name : String
  value : String
deriving DecidableEq, Repr

/-- `kv1.Container`. -/
structure Container where
  name : String
  image : String
  command : List String
  args : List String
  env : List EnvVar
deriving DecidableEq, Repr

/-- `kv1.PodSpec`. -/
structure PodSpec where
  containers : List Container
  initContainers : List Container
deriving DecidableEq, Repr

/-- `kmeta.OwnerReference`. -/
structure OwnerReference where
  kind : String
  name : String
deriving DecidableEq, Repr

/-- `kmeta.ObjectMeta`. -/
structure ObjectMeta where
  name : String
  namespace_ : String
  annotations : List (String × String)
  ownerReferences : List OwnerReference
deriving DecidableEq, Repr

/-- A ReplicationController, a Deployment or a ReplicaSet: the three kinds whose
`Spec.Replicas`, `Spec.Template.Spec` and `Status.{Replicas, ReadyReplicas,
AvailableReplicas}` the agent reads. -/
structure Controller where
  meta : ObjectMeta
  replicas : Option Int
  podSpec : PodSpec
  statusReplicas : Int
  readyReplicas : Int
  availableReplicas : Int
deriving DecidableEq, Repr

/-- `kbeta2.StatefulSet`, as listed by `GetStatefulSets`. -/
structure StatefulSet where
  meta : ObjectMeta
  replicas : Option Int
  podSpec : PodSpec
  statusReplicas : Int
  readyReplicas : Int
  currentReplicas : Int
deriving DecidableEq, Repr

/-- `kbeta2.DaemonSet`. -/
structure DaemonSet where
  meta : ObjectMeta
  podSpec : PodSpec
  desiredNumberScheduled : Int
  currentNumberScheduled : Int
  numberReady : Int
  numberAvailable : Int
deriving DecidableEq, Repr

/-- `kbeta1.CronJob`: `Spec.JobTemplate.Spec.Template.Spec` and the number of
entries of `Status.Active`. -/
structure CronJob where
  meta : ObjectMeta
  podSpec : PodSpec
  active : Nat
deriving DecidableEq, Repr

/-- `kv1.Pod`. -/
structure Pod where
  meta : ObjectMeta
  spec : PodSpec
deriving DecidableEq, Repr

/-- `kv1.LimitRange`, passed on unread. -/
structure LimitRange where
  meta : ObjectMeta
deriving DecidableEq, Repr

/-- `v1.StatefulSetUpdateStrategy`: its `Type` and, for a rolling update, the
optional `RollingUpdate.Partition`. -/
structure UpdateStrategy where
  type : String
  rollingUpdate : Option (Option Int)
deriving DecidableEq, Repr

/-- `v1.StatefulSet`, as fetched by `GetStatefulSet`. -/
structure StatefulSetV1 where
  meta : ObjectMeta
  replicas : Option Int
  podSpec : PodSpec
  updateStrategy : UpdateStrategy
deriving DecidableEq, Repr

/-- What one list call of the platform client returns: an error, a nil list, or
the list's items. -/
abbrev ListResponse (α : Type) := Except String (Option (List α))

/-- The answers of the platform API to the calls `kube.go` makes. -/
structure PlatformAPI where
  pods : ListResponse Pod
  replicationControllers : ListResponse Controller
  deployments : ListResponse Controller
  statefulSets : ListResponse StatefulSet
  daemonSets : ListResponse DaemonSet
  replicaSets : ListResponse Controller
  cronJobs : ListResponse CronJob
  limitRanges : ListResponse LimitRange
  statefulSet : String → String → Except String (Option StatefulSetV1)

end MagalixAgent.Kuber
