import MagalixAgent.Kuber.Mask
import MagalixAgent.Go.Map
import MagalixAgent.Go.Regexp

namespace MagalixAgent.Kuber

open Regexp

/-! # Listing the cluster's resources

`GetResources` starts eight tasks in an `errgroup.Group`. Each lists one kind;
on a list it records the list under its kind's key in `rawResources` and
appends a `Resource` for each item it keeps to `resources`, both under one
mutex. The pod and limit range tasks also assign `pods` and `limitRanges`,
which no other task writes. A schedule is the order in which the tasks run
their critical sections; `group.Wait` returns the first error a task returned.

Whatever the schedule, `resources` holds one Resource per listed object the
tasks keep and nothing else (`getResources_resources`), and `rawResources` has
exactly the keys of the kinds whose list call answered a list. -/

/-- `proto.ReplicasStatus`. -/
structure ReplicasStatus where
  desired : Option Int
  current : Option Int
  ready : Option Int
  available : Option Int
deriving DecidableEq, Repr

/-- `Resource`; its `PodRegexp` is kept as the pattern given to
`regexp.MustCompile`, whose compilation `Kuber.PodNames` studies. -/
structure Resource where
  namespace_ : String
  name : String
  kind : String
  annotations : List (String × String)
  replicasStatus : ReplicasStatus
  containers : List Container
  podRegexp : String
deriving DecidableEq, Repr

/-- A value of `rawResources`: the list a list call returned. -/
inductive RawList where
  | controllers (items : List Controller)
  | pods (items : List Pod)
  | deployments (items : List Controller)
  | statefulSets (items : List StatefulSet)
  | daemonSets (items : List DaemonSet)
  | replicaSets (items : List Controller)
  | cronJobs (items : List CronJob)
  | limitRanges (items : List LimitRange)
deriving DecidableEq, Repr

/-! ## The resources of each kind -/

/-- `fmt.Sprintf("^%s-[^-]+$", regexp.QuoteMeta(name))`: the pods of a
ReplicationController, a DaemonSet or a ReplicaSet. -/
def singleSegmentPattern (name : String) : String := "^" ++ quoteMeta name ++ "-[^-]+$"

/-- `fmt.Sprintf("^%s-[^-]+-[^-]+$", regexp.QuoteMeta(name))`: the pods of a
Deployment or a CronJob. -/
def doubleSegmentPattern (name : String) : String := "^" ++ quoteMeta name ++ "-[^-]+-[^-]+$"

/-- `fmt.Sprintf("^%s-([0-9]+)$", regexp.QuoteMeta(name))`: the pods of a
StatefulSet. -/
def ordinalPattern (name : String) : String := "^" ++ quoteMeta name ++ "-([0-9]+)$"

/-- `fmt.Sprintf("^%s$", regexp.QuoteMeta(name))`: an orphan pod itself. -/
def exactPattern (name : String) : String := "^" ++ quoteMeta name ++ "$"

/-- `newInt32Pointer(val)`. -/
def newInt32Pointer (value : Int) : Option Int := some value

/-- Go's `int32(n)`: `n` modulo `2^32`, read in two's complement. -/
def toInt32 (value : Int) : Int := (value + 2 ^ 31) % 2 ^ 32 - 2 ^ 31

/-- The Resource of a ReplicationController, a Deployment or a ReplicaSet. -/
def controllerResource (kind : String) (podPattern : String → String)
    (controller : Controller) : Resource where
  namespace_ := controller.meta.namespace_
  name := controller.meta.name
  kind := kind
  annotations := controller.meta.annotations
  replicasStatus :=
    { desired := controller.replicas
      current := newInt32Pointer controller.statusReplicas
      ready := newInt32Pointer controller.readyReplicas
      available := newInt32Pointer controller.availableReplicas }
  containers := controller.podSpec.containers
  podRegexp := podPattern controller.meta.name

/-- The Resource of a pod without owner references: a synthetic service of one
replica. -/
def orphanPodResource (pod : Pod) : Resource where
  namespace_ := pod.meta.namespace_
  name := pod.meta.name
  kind := "OrphanPod"
  annotations := pod.meta.annotations
  replicasStatus :=
    { desired := newInt32Pointer 1
      current := newInt32Pointer 1
      ready := newInt32Pointer 1
      available := newInt32Pointer 1 }
  containers := pod.spec.containers
  podRegexp := exactPattern pod.meta.name

/-- The Resource of a StatefulSet: `Available` is its `CurrentReplicas`. -/
def statefulSetResource (set : StatefulSet) : Resource where
  namespace_ := set.meta.namespace_
  name := set.meta.name
  kind := "StatefulSet"
  annotations := set.meta.annotations
  replicasStatus :=
    { desired := set.replicas
      current := newInt32Pointer set.statusReplicas
      ready := newInt32Pointer set.readyReplicas
      available := newInt32Pointer set.currentReplicas }
  containers := set.podSpec.containers
  podRegexp := ordinalPattern set.meta.name

/-- The Resource of a DaemonSet, counted in scheduled pods. -/
def daemonSetResource (daemon : DaemonSet) : Resource where
  namespace_ := daemon.meta.namespace_
  name := daemon.meta.name
  kind := "DaemonSet"
  annotations := daemon.meta.annotations
  replicasStatus :=
    { desired := newInt32Pointer daemon.desiredNumberScheduled
      current := newInt32Pointer daemon.currentNumberScheduled
      ready := newInt32Pointer daemon.numberReady
      available := newInt32Pointer daemon.numberAvailable }
  containers := daemon.podSpec.containers
  podRegexp := singleSegmentPattern daemon.meta.name

/-- The Resource of a CronJob: only `Current`, the number of active jobs. -/
def cronJobResource (cronJob : CronJob) : Resource where
  namespace_ := cronJob.meta.namespace_
  name := cronJob.meta.name
  kind := "CronJob"
  annotations := cronJob.meta.annotations
  replicasStatus :=
    { desired := none
      current := newInt32Pointer (toInt32 cronJob.active)
      ready := none
      available := none }
  containers := cronJob.podSpec.containers
  podRegexp := doubleSegmentPattern cronJob.meta.name

/-! ## The tasks -/

/-- The named results of `GetResources`, which its tasks write, and the first
error a task returned. -/
structure ResourcesState where
  pods : List Pod
  limitRanges : List LimitRange
  resources : List Resource
  rawResources : GoMap String RawList
  err : Option String

/-- The results before any task runs: `rawResources = map[string]interface{}{}`. -/
def ResourcesState.initial : ResourcesState := ⟨[], [], [], GoMap.empty, none⟩

/-- What one task of `GetResources` is made of: its list call, the text its
error is wrapped in, how its list is stored in `rawResources`, the named result
it assigns outside the mutex, and the Resource, if any, it appends for an
item. -/
structure TaskBody where
  item : Type
  response : ListResponse item
  failure : String
  raw : List item → RawList
  assign : List item → ResourcesState → ResourcesState
  toResource : item → Option Resource

/-- A task of `GetResources` run to its end: on an error `errgroup` keeps the
first one; on a list, the task assigns its result, then under the mutex stores
the list under `key` and appends a Resource per item it keeps. -/
def listTask (body : TaskBody) (key : String) (state : ResourcesState) : ResourcesState :=
  match body.response with
  | .error _ => { state with err := state.err.or (some body.failure) }
  | .ok none => state
  | .ok (some items) =>
      let state := body.assign items state
      { state with
        rawResources := state.rawResources.insert key (body.raw items)
        resources := state.resources ++ items.filterMap body.toResource }

/-- The eight tasks of `GetResources`. -/
inductive ResourceTask where
  | replicationControllers
  | pods
  | deployments
  | statefulSets
  | daemonSets
  | replicaSets
  | cronJobs
  | limitRanges
deriving DecidableEq, Repr

/-- The tasks in the order the source starts them. -/
def ResourceTask.all : List ResourceTask :=
  [.replicationControllers, .pods, .deployments, .statefulSets, .daemonSets, .replicaSets,
    .cronJobs, .limitRanges]

/-- The key of `rawResources` each task stores its list under. -/
def ResourceTask.key : ResourceTask → String
  | .replicationControllers => "controllers"
  | .pods => "pods"
  | .deployments => "deployments"
  | .statefulSets => "statefulSets"
  | .daemonSets => "daemonSets"
  | .replicaSets => "replicaSets"
  | .cronJobs => "cronJobs"
  | .limitRanges => "limitRanges"

/-- The body of each task, as the source writes it. -/
def ResourceTask.body (api : PlatformAPI) : ResourceTask → TaskBody
  | .replicationControllers =>
      ⟨Controller, getReplicationControllers api, "unable to get replication controllers",
        .controllers, fun _ state => state,
        fun controller => some (controllerResource "ReplicationController" singleSegmentPattern
          controller)⟩
  | .pods =>
      ⟨Pod, getPods api, "unable to get pods", .pods, fun pods state => { state with pods },
        fun pod => if pod.meta.ownerReferences.length > 0 then none
          else some (orphanPodResource pod)⟩
  | .deployments =>
      ⟨Controller, getDeployments api, "unable to get deployments", .deployments,
        fun _ state => state,
        fun deployment => some (controllerResource "Deployment" doubleSegmentPattern deployment)⟩
  | .statefulSets =>
      ⟨StatefulSet, getStatefulSets api, "unable to get statefulSets", .statefulSets,
        fun _ state => state, fun set => some (statefulSetResource set)⟩
  | .daemonSets =>
      ⟨DaemonSet, getDaemonSets api, "unable to get daemonSets", .daemonSets,
        fun _ state => state, fun daemon => some (daemonSetResource daemon)⟩
  | .replicaSets =>
      ⟨Controller, getReplicaSets api, "unable to get replicasets", .replicaSets,
        fun _ state => state,
        fun replicaSet => if replicaSet.meta.ownerReferences.length > 0 then none
          else some (controllerResource "ReplicaSet" singleSegmentPattern replicaSet)⟩
  | .cronJobs =>
      ⟨CronJob, getCronJobs api, "unable to get cron jobs", .cronJobs, fun _ state => state,
        fun cronJob => some (cronJobResource cronJob)⟩
  | .limitRanges =>
      ⟨LimitRange, getLimitRanges api, "unable to get limitRanges", .limitRanges,
        fun limitRanges state => { state with limitRanges }, fun _ => none⟩

/-- One task of `GetResources`. -/
def ResourceTask.run (api : PlatformAPI) (state : ResourcesState) (task : ResourceTask) :
    ResourcesState :=
  listTask (task.body api) task.key state

/-- `GetResources`, its tasks' critical sections run in the order `schedule`. -/
def getResources (api : PlatformAPI) (schedule : List ResourceTask) : ResourcesState :=
  schedule.foldl (ResourceTask.run api) ResourcesState.initial

/-! ## One task

A task touches only its own results: it appends its Resources to whatever
`resources` holds, and writes only its own key of `rawResources`. -/

/-- The items of a list answer; an error or a nil list has none. -/
def listItems : ListResponse α → List α
  | .ok (some items) => items
  | _ => []

/-- What a task appends to `resources`. -/
def TaskBody.resources (body : TaskBody) : List Resource :=
  (listItems body.response).filterMap body.toResource

/-- What a task stores in `rawResources`: its list, when the call answered one. -/
def TaskBody.rawEntry (body : TaskBody) : Option RawList :=
  match body.response with
  | .ok (some items) => some (body.raw items)
  | _ => none

/-- A body whose assignment outside the mutex leaves `resources` and
`rawResources` alone. -/
def TaskBody.Framed (body : TaskBody) : Prop :=
  ∀ items state, (body.assign items state).resources = state.resources ∧
    (body.assign items state).rawResources = state.rawResources

theorem ResourceTask.body_framed (api : PlatformAPI) (task : ResourceTask) :
    (task.body api).Framed := by
  cases task <;> exact fun _ _ => ⟨rfl, rfl⟩

theorem TaskBody.rawEntry_ne_none_iff (body : TaskBody) :
    body.rawEntry ≠ none ↔ ∃ items, body.response = .ok (some items) := by
  unfold TaskBody.rawEntry
  split <;> simp_all

section Task

variable {body : TaskBody} (framed : body.Framed) (key : String) (state : ResourcesState)

include framed

theorem listTask_resources :
    (listTask body key state).resources = state.resources ++ body.resources := by
  unfold listTask TaskBody.resources
  split
  next _ answered => simp [listItems, answered]
  next answered => simp [listItems, answered]
  next items answered => simp [listItems, answered, (framed items state).1]

theorem listTask_lookup (other : String) :
    (listTask body key state).rawResources.lookup other =
      if other = key then body.rawEntry.or (state.rawResources.lookup other)
      else state.rawResources.lookup other := by
  unfold listTask TaskBody.rawEntry
  split
  next _ answered => split_ifs with same <;> simp [answered, same]
  next answered => split_ifs with same <;> simp [answered, same]
  next items answered => simp [answered, GoMap.lookup_insert, (framed items state).2]

end Task

/-! ## Every schedule -/

theorem ResourceTask.key_injective : Function.Injective ResourceTask.key := by
  intro task other same
  cases task <;> cases other <;> first | rfl | exact absurd same (by decide)

theorem ResourceTask.mem_all (task : ResourceTask) : task ∈ ResourceTask.all := by
  cases task <;> decide

theorem ResourceTask.nodup_all : ResourceTask.all.Nodup := by decide

/-- The run lemma for `resources`: the tasks append in the order they run. -/
theorem foldl_run_resources (api : PlatformAPI) (schedule : List ResourceTask)
    (state : ResourcesState) :
    (schedule.foldl (ResourceTask.run api) state).resources =
      state.resources ++ schedule.flatMap fun task => (task.body api).resources := by
  induction schedule generalizing state with
  | nil => simp
  | cons task rest induction =>
      rw [List.foldl_cons, induction, ResourceTask.run,
        listTask_resources (task.body_framed api), List.flatMap_cons, List.append_assoc]

/-- The run lemma for `rawResources`: each key holds the list of the one task
that writes it, if that task has run and listed. -/
theorem getResources_lookup (api : PlatformAPI) {schedule : List ResourceTask}
    (distinct : schedule.Nodup) (key : String) :
    (getResources api schedule).rawResources.lookup key =
      (schedule.find? (·.key = key)).bind fun task => (task.body api).rawEntry := by
  unfold getResources
  induction schedule using List.reverseRecOn with
  | nil => rfl
  | append_singleton done task induction =>
      rw [List.nodup_append] at distinct
      have notDone : task ∉ done := fun member =>
        distinct.2.2 member (List.mem_singleton_self task)
      rw [List.foldl_append, List.foldl_cons, List.foldl_nil, ResourceTask.run,
        listTask_lookup (task.body_framed api), induction distinct.1, List.find?_append]
      by_cases same : key = task.key
      · subst same
        have absent : done.find? (·.key = task.key) = none :=
          List.find?_eq_none.mpr fun other member equal =>
            notDone (ResourceTask.key_injective (of_decide_eq_true equal) ▸ member)
        simp [absent]
      · have skipped : [task].find? (·.key = key) = none := by
          simp [Ne.symm same]
        simp [same, skipped]

/-! ## What `GetResources` returns -/

/-- A Resource as the spec describes one: its kind, the object's namespace, name
and annotations, its replica counts, its containers and the pattern of its
pods' names. -/
def specResource (kind : String) (meta : ObjectMeta) (desired current ready available : Option Int)
    (containers : List Container) (podRegexp : String) : Resource :=
  ⟨meta.namespace_, meta.name, kind, meta.annotations, ⟨desired, current, ready, available⟩,
    containers, podRegexp⟩

/-- The Resources the spec asks for, with the counts of each kind: one per
ReplicationController, with its containers masked, one per Deployment,
StatefulSet, DaemonSet and CronJob the platform lists, and one per ReplicaSet
and per Pod without owner references. -/
def expectedResources (api : PlatformAPI) : List Resource :=
  (listItems api.replicationControllers).map (fun controller =>
      specResource "ReplicationController" controller.meta controller.replicas
        (some controller.statusReplicas) (some controller.readyReplicas)
        (some controller.availableReplicas) (maskContainers controller.podSpec.containers)
        (singleSegmentPattern controller.meta.name)) ++
    ((listItems api.pods).filter fun pod => pod.meta.ownerReferences.isEmpty).map (fun pod =>
      specResource "OrphanPod" pod.meta (some 1) (some 1) (some 1) (some 1) pod.spec.containers
        (exactPattern pod.meta.name)) ++
    (listItems api.deployments).map (fun deployment =>
      specResource "Deployment" deployment.meta deployment.replicas
        (some deployment.statusReplicas) (some deployment.readyReplicas)
        (some deployment.availableReplicas) deployment.podSpec.containers
        (doubleSegmentPattern deployment.meta.name)) ++
    (listItems api.statefulSets).map (fun set =>
      specResource "StatefulSet" set.meta set.replicas (some set.statusReplicas)
        (some set.readyReplicas) (some set.currentReplicas) set.podSpec.containers
        (ordinalPattern set.meta.name)) ++
    (listItems api.daemonSets).map (fun daemon =>
      specResource "DaemonSet" daemon.meta (some daemon.desiredNumberScheduled)
        (some daemon.currentNumberScheduled) (some daemon.numberReady)
        (some daemon.numberAvailable) daemon.podSpec.containers
        (singleSegmentPattern daemon.meta.name)) ++
    ((listItems api.replicaSets).filter fun set => set.meta.ownerReferences.isEmpty).map (fun set =>
      specResource "ReplicaSet" set.meta set.replicas (some set.statusReplicas)
        (some set.readyReplicas) (some set.availableReplicas) set.podSpec.containers
        (singleSegmentPattern set.meta.name)) ++
    (listItems api.cronJobs).map (fun cronJob =>
      specResource "CronJob" cronJob.meta none (some (toInt32 cronJob.active)) none none
        cronJob.podSpec.containers (doubleSegmentPattern cronJob.meta.name))

/-- Whether a list call answered a list rather than an error or nil. -/
def answeredList : ListResponse α → Bool
  | .ok (some _) => true
  | _ => false

/-- Whether the platform answered the list call of a task's kind with a list. -/
def ResourceTask.answered (api : PlatformAPI) : ResourceTask → Bool
  | .replicationControllers => answeredList api.replicationControllers
  | .pods => answeredList api.pods
  | .deployments => answeredList api.deployments
  | .statefulSets => answeredList api.statefulSets
  | .daemonSets => answeredList api.daemonSets
  | .replicaSets => answeredList api.replicaSets
  | .cronJobs => answeredList api.cronJobs
  | .limitRanges => answeredList api.limitRanges

theorem listItems_getMaskedList (failure : String) (podSpec : α → PodSpec)
    (setPodSpec : α → PodSpec → α) (response : ListResponse α) :
    listItems (getMaskedList failure podSpec setPodSpec response) = listItems response := by
  rcases response with _ | _ | items <;> simp [getMaskedList, listItems, rangeByValue_eq]

theorem listItems_getReplicationControllers (api : PlatformAPI) :
    listItems (getReplicationControllers api) = (listItems api.replicationControllers).map
      fun controller => { controller with podSpec := maskPodSpec controller.podSpec } := by
  unfold getReplicationControllers
  split <;> simp_all [listItems, rangeThroughPointer_eq]

theorem listItems_getPods (api : PlatformAPI) : listItems (getPods api) = listItems api.pods := by
  unfold getPods
  split <;> simp_all [listItems]

theorem exists_ok_some_iff_answeredList (response : ListResponse α) :
    (∃ items, response = .ok (some items)) ↔ answeredList response := by
  rcases response with _ | _ | items <;> simp [answeredList]

/-- Each getter answers a list exactly when the platform did. -/
theorem ResourceTask.answeredList_response (api : PlatformAPI) (task : ResourceTask) :
    answeredList (task.body api).response = task.answered api := by
  cases task <;>
    simp only [ResourceTask.body, ResourceTask.answered, getReplicationControllers, getPods,
      getDeployments, getStatefulSets, getDaemonSets, getReplicaSets, getCronJobs,
      getLimitRanges, getMaskedList] <;>
    split <;> simp_all [answeredList]

/-- The loop that skips owned items keeps the others, in order. -/
theorem filterMap_unless (items : List α) (owned : α → Prop) [DecidablePred owned]
    (build : α → Resource) :
    items.filterMap (fun item => if owned item then none else some (build item)) =
      (items.filter fun item => !decide (owned item)).map build := by
  induction items with
  | nil => rfl
  | cons item rest induction => by_cases skip : owned item <;> simp [skip, induction]

theorem filterMap_some_eq_map (items : List α) (build : α → Resource) :
    items.filterMap (fun item => some (build item)) = items.map build :=
  congrFun (List.filterMap_eq_map build) items

theorem not_length_pos_eq_isEmpty (references : List OwnerReference) :
    (!decide (0 < references.length)) = references.isEmpty := by
  cases references <;> simp

/-- A task stores its list exactly when the platform answered its kind's list
call with a list. -/
theorem ResourceTask.rawEntry_ne_none_iff (api : PlatformAPI) (task : ResourceTask) :
    (task.body api).rawEntry ≠ none ↔ task.answered api := by
  rw [TaskBody.rawEntry_ne_none_iff, exists_ok_some_iff_answeredList,
    ResourceTask.answeredList_response]

/-- Together the tasks append the Resources the spec asks for. -/
theorem flatMap_all_resources (api : PlatformAPI) :
    ResourceTask.all.flatMap (fun task => (task.body api).resources) = expectedResources api := by
  simp [ResourceTask.all, ResourceTask.body, TaskBody.resources, listItems_getMaskedList,
    listItems_getReplicationControllers, listItems_getPods, filterMap_unless,
    filterMap_some_eq_map, not_length_pos_eq_isEmpty, expectedResources, Function.comp_def,
    getDeployments, getStatefulSets, getDaemonSets, getReplicaSets, getCronJobs, specResource,
    controllerResource, orphanPodResource, statefulSetResource, daemonSetResource,
    cronJobResource, newInt32Pointer, maskPodSpec]

/-- Under every schedule of its eight tasks, `GetResources` returns one Resource
per object the spec names, with the fields of its kind, and nothing else; and
`rawResources` has exactly the keys of the kinds whose list call answered a
list. -/
theorem getResources_resources (api : PlatformAPI) {schedule : List ResourceTask}
    (interleaving : schedule.Perm ResourceTask.all) :
    (getResources api schedule).resources.Perm (expectedResources api) ∧
      ∀ key, (getResources api schedule).rawResources.lookup key ≠ none ↔
        ∃ task : ResourceTask, task.key = key ∧ task.answered api := by
  refine ⟨?_, fun key => ?_⟩
  · rw [getResources, foldl_run_resources, ← flatMap_all_resources]
    exact interleaving.flatMap_right _
  · rw [getResources_lookup api (interleaving.nodup_iff.mpr ResourceTask.nodup_all)]
    constructor
    · intro present
      cases found : schedule.find? (·.key = key) with
      | none => simp [found] at present
      | some task =>
          rw [found, Option.some_bind] at present
          have keyed := List.find?_some found
          exact ⟨task, of_decide_eq_true keyed,
            (ResourceTask.rawEntry_ne_none_iff api task).mp present⟩
    · rintro ⟨task, rfl, answered⟩
      have member : task ∈ schedule := interleaving.mem_iff.mpr (ResourceTask.mem_all task)
      cases found : schedule.find? (·.key = task.key) with
      | none => exact absurd (List.find?_eq_none.mp found task member) (by simp)
      | some other =>
          have keyed := List.find?_some found
          rw [Option.some_bind, ResourceTask.key_injective (of_decide_eq_true keyed)]
          exact (ResourceTask.rawEntry_ne_none_iff api task).mpr answered

/-- A platform that lists one ReplicationController, one pod it owns and one
orphan pod, whose deployment list call fails and whose other lists are nil or
empty. -/
def listedPlatform : PlatformAPI where
  pods := .ok (some
    [⟨⟨"web-7x2k9", "shop", [], [⟨"ReplicationController", "web"⟩]⟩, ⟨[], []⟩⟩,
      ⟨⟨"debug", "shop", [], []⟩, ⟨[], []⟩⟩])
  replicationControllers := .ok (some [⟨⟨"web", "shop", [], []⟩, some 1, ⟨[], []⟩, 1, 1, 1⟩])
  deployments := .error "forbidden"
  statefulSets := .ok none
  daemonSets := .ok none
  replicaSets := .ok (some [])
  cronJobs := .ok none
  limitRanges := .ok (some [])
  statefulSet := fun _ _ => .ok none

example : ((getResources listedPlatform ResourceTask.all).resources.map fun resource =>
    (resource.kind, resource.name)) = [("ReplicationController", "web"), ("OrphanPod", "debug")] :=
  rfl

example : ((getResources { listedPlatform with replicationControllers := .ok (some
    [⟨⟨"web", "shop", [], []⟩, some 1, ⟨[⟨"web", "nginx", [], [], [⟨"PASSWORD", "hunter2"⟩]⟩], []⟩,
      1, 1, 1⟩]) } ResourceTask.all).resources.map fun resource =>
    resource.containers.map (·.env)) = [[[⟨"PASSWORD", maskedValue⟩]], []] :=
  rfl

theorem getResources_resources_listed :
    (getResources listedPlatform ResourceTask.all.reverse).resources.Perm
        (expectedResources listedPlatform) ∧
      ∀ key, (getResources listedPlatform ResourceTask.all.reverse).rawResources.lookup key ≠ none ↔
        ∃ task : ResourceTask, task.key = key ∧ task.answered listedPlatform :=
  getResources_resources listedPlatform (List.reverse_perm _)

/-! ## The other results

`pods` and `limitRanges` are assigned outside the mutex, but each by its own
task only, so no schedule changes them; `group.Wait` returns the error of the
first task to fail. -/

/-- Whether a task's list call failed. -/
def TaskBody.failed (body : TaskBody) : Bool :=
  match body.response with
  | .error _ => true
  | _ => false

theorem listItems_getLimitRanges (api : PlatformAPI) :
    listItems (getLimitRanges api) = listItems api.limitRanges := by
  unfold getLimitRanges
  split <;> simp_all [listItems]

/-- The run lemma of a field that a task other than `writer` never writes. -/
theorem foldl_run_untouched {β : Type} (api : PlatformAPI) (field : ResourcesState → β)
    (writer : ResourceTask)
    (untouched : ∀ task, task ≠ writer → ∀ state, field (task.run api state) = field state)
    {tasks : List ResourceTask} (absent : writer ∉ tasks) (state : ResourcesState) :
    field (tasks.foldl (ResourceTask.run api) state) = field state := by
  induction tasks generalizing state with
  | nil => rfl
  | cons task rest induction =>
      rw [List.foldl_cons, induction (fun member => absent (List.mem_cons_of_mem _ member)),
        untouched task fun same => absent (same ▸ List.mem_cons_self _ _)]

/-- A field that only `writer` writes, from what it held before, holds under
every schedule what `writer` alone writes. -/
theorem getResources_field {β : Type} (api : PlatformAPI) (field : ResourcesState → β)
    (writer : ResourceTask)
    (untouched : ∀ task, task ≠ writer → ∀ state, field (task.run api state) = field state)
    (determined : ∀ state, field state = field ResourcesState.initial →
      field (writer.run api state) = field (writer.run api ResourcesState.initial))
    {schedule : List ResourceTask} (interleaving : schedule.Perm ResourceTask.all) :
    field (getResources api schedule) = field (writer.run api ResourcesState.initial) := by
  obtain ⟨before, after, split⟩ :=
    List.append_of_mem (interleaving.mem_iff.mpr (ResourceTask.mem_all writer))
  have distinct := interleaving.nodup_iff.mpr ResourceTask.nodup_all
  rw [split, List.nodup_append, List.nodup_cons] at distinct
  have notBefore : writer ∉ before := fun member =>
    distinct.2.2 member (List.mem_cons_self _ _)
  rw [getResources, split, List.foldl_append, List.foldl_cons,
    foldl_run_untouched api field writer untouched distinct.2.1.1,
    determined _ (foldl_run_untouched api field writer untouched notBefore _)]

section Unguarded

variable {body : TaskBody} (key : String) (state : ResourcesState)

theorem listTask_pods (keeps : ∀ items state, (body.assign items state).pods = state.pods) :
    (listTask body key state).pods = state.pods := by
  unfold listTask
  split <;> simp [keeps]

theorem listTask_limitRanges
    (keeps : ∀ items state, (body.assign items state).limitRanges = state.limitRanges) :
    (listTask body key state).limitRanges = state.limitRanges := by
  unfold listTask
  split <;> simp [keeps]

theorem listTask_err (keeps : ∀ items state, (body.assign items state).err = state.err) :
    (listTask body key state).err =
      state.err.or (if body.failed then some body.failure else none) := by
  unfold listTask TaskBody.failed
  split
  next _ answered => simp [answered]
  next answered => simp [answered]
  next items answered => simp [answered, keeps]

end Unguarded

/-- The run lemma of the error: the first failure keeps its text. -/
theorem foldl_run_err (api : PlatformAPI) (tasks : List ResourceTask) (state : ResourcesState) :
    (tasks.foldl (ResourceTask.run api) state).err =
      state.err.or ((tasks.find? fun task => (task.body api).failed).map fun task =>
        (task.body api).failure) := by
  induction tasks generalizing state with
  | nil => simp
  | cons task rest induction =>
      have keeps : ∀ items state, ((task.body api).assign items state).err = state.err := by
        cases task <;> exact fun _ _ => rfl
      rw [List.foldl_cons, induction, ResourceTask.run, listTask_err _ _ keeps, Option.or_assoc,
        List.find?_cons]
      split <;> simp_all

/-- Under every schedule, `pods` and `limitRanges` hold the listed items, and the
error is that of the first task in the schedule whose list call failed. -/
theorem getResources_named_results (api : PlatformAPI) {schedule : List ResourceTask}
    (interleaving : schedule.Perm ResourceTask.all) :
    (getResources api schedule).pods = listItems api.pods ∧
      (getResources api schedule).limitRanges = listItems api.limitRanges ∧
      (getResources api schedule).err =
        (schedule.find? fun task => (task.body api).failed).map fun task =>
          (task.body api).failure := by
  refine ⟨?_, ?_, by rw [getResources, foldl_run_err]; rfl⟩
  · rw [getResources_field api ResourcesState.pods .pods
      (fun task other _ => listTask_pods _ _ (by cases task <;> first
        | exact absurd rfl other | exact fun _ _ => rfl))
      (fun _ same => by
        simp only [ResourceTask.run, listTask, ResourceTask.body]
        split <;> simp [same]) interleaving, ← listItems_getPods]
    simp only [ResourceTask.run, listTask, ResourceTask.body]
    split <;> simp_all [listItems, ResourcesState.initial]
  · rw [getResources_field api ResourcesState.limitRanges .limitRanges
      (fun task other _ => listTask_limitRanges _ _ (by cases task <;> first
        | exact absurd rfl other | exact fun _ _ => rfl))
      (fun _ same => by
        simp only [ResourceTask.run, listTask, ResourceTask.body]
        split <;> simp [same]) interleaving, ← listItems_getLimitRanges]
    simp only [ResourceTask.run, listTask, ResourceTask.body]
    split <;> simp_all [listItems, ResourcesState.initial]

example : (getResources listedPlatform ResourceTask.all).err =
    some "unable to get deployments" :=
  rfl

theorem getResources_named_results_listed :
    (getResources listedPlatform ResourceTask.all.reverse).pods = listItems listedPlatform.pods ∧
      (getResources listedPlatform ResourceTask.all.reverse).limitRanges =
        listItems listedPlatform.limitRanges ∧
      (getResources listedPlatform ResourceTask.all.reverse).err =
        (ResourceTask.all.reverse.find? fun task => (task.body listedPlatform).failed).map
          fun task => (task.body listedPlatform).failure :=
  getResources_named_results listedPlatform (List.reverse_perm _)

end MagalixAgent.Kuber
