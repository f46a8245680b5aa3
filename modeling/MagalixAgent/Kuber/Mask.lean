import MagalixAgent.Kuber.Objects

namespace MagalixAgent.Kuber

/-! # Masking secrets in pod specs

`maskPodSpec` replaces every non-empty environment value and every argument of a
pod spec by `**MASKED**`. The list getters call it inside
`for _, item := range list.Items`, on `&item.Spec.Template.Spec`, where Go copies
each element into `item`. A core/v1 ReplicationController holds its template by
pointer, so the copy shares it with the element and `GetReplicationControllers`
returns masked items. The apps/v1beta2 and batch/v1beta1 kinds hold it by value:
the masked copy is dropped and `GetDeployments`, `GetStatefulSets`,
`GetDaemonSets`, `GetReplicaSets` and `GetCronJobs` return their lists as the
API gave them. `GetStatefulSet` masks through the pointer it returns. -/

/-- `maskedValue`. -/
def maskedValue : String := "**MASKED**"

/-- `maskEnvVars`. -/
def maskEnvVars (env : List EnvVar) : List EnvVar :=
  env.map fun envVar => if envVar.value ≠ "" then { envVar with value := maskedValue } else envVar

/-- `maskArgs`: `make([]string, len(args))` filled with `maskedValue`. -/
def maskArgs (args : List String) : List String := List.replicate args.length maskedValue

/-- `maskContainers`. -/
def maskContainers (containers : List Container) : List Container :=
  containers.map fun container =>
    { container with env := maskEnvVars container.env, args := maskArgs container.args }

/-- `maskPodSpec`, which writes through its pointer argument. -/
def maskPodSpec (podSpec : PodSpec) : PodSpec :=
  { podSpec with
    containers := maskContainers podSpec.containers
    initContainers := maskContainers podSpec.initContainers }

/-! ## What masking guarantees -/

/-- A container whose environment values are empty or masked and whose
arguments are all masked. -/
def Container.Masked (container : Container) : Prop :=
  (∀ envVar ∈ container.env, envVar.value = "" ∨ envVar.value = maskedValue) ∧
    ∀ arg ∈ container.args, arg = maskedValue

/-- A pod spec all of whose containers and init containers are masked. -/
def PodSpec.Masked (podSpec : PodSpec) : Prop :=
  ∀ container ∈ podSpec.containers ++ podSpec.initContainers, container.Masked

/-- Two environment variables that differ at most in a non-empty `Value`. -/
def EnvVar.SecretEquivalent (left right : EnvVar) : Prop :=
  left.name = right.name ∧ (left.value = right.value ∨ left.value ≠ "" ∧ right.value ≠ "")

/-- Two containers that differ at most in non-empty environment values and in
the contents, not the number, of their arguments. -/
def Container.SecretEquivalent (left right : Container) : Prop :=
  { left with env := right.env, args := right.args } = right ∧
    left.args.length = right.args.length ∧
    List.Forall₂ EnvVar.SecretEquivalent left.env right.env

/-- Two pod specs whose containers and init containers pair up secret-equivalently. -/
def PodSpec.SecretEquivalent (left right : PodSpec) : Prop :=
  List.Forall₂ Container.SecretEquivalent left.containers right.containers ∧
    List.Forall₂ Container.SecretEquivalent left.initContainers right.initContainers

instance (left right : EnvVar) : Decidable (left.SecretEquivalent right) :=
  inferInstanceAs (Decidable (left.name = right.name ∧
    (left.value = right.value ∨ left.value ≠ "" ∧ right.value ≠ "")))

instance (left right : Container) : Decidable (left.SecretEquivalent right) :=
  inferInstanceAs (Decidable ({ left with env := right.env, args := right.args } = right ∧
    left.args.length = right.args.length ∧
    List.Forall₂ EnvVar.SecretEquivalent left.env right.env))

instance (left right : PodSpec) : Decidable (left.SecretEquivalent right) :=
  inferInstanceAs (Decidable
    (List.Forall₂ Container.SecretEquivalent left.containers right.containers ∧
      List.Forall₂ Container.SecretEquivalent left.initContainers right.initContainers))

theorem maskContainers_masked (containers : List Container) :
    ∀ container ∈ maskContainers containers, container.Masked := by
  simp only [maskContainers, List.mem_map]
  rintro _ ⟨container, -, rfl⟩
  refine ⟨?_, fun arg member => List.eq_of_mem_replicate member⟩
  simp only [maskEnvVars, List.mem_map]
  rintro _ ⟨envVar, -, rfl⟩
  by_cases empty : envVar.value = "" <;> simp [empty]

theorem maskPodSpec_masked (podSpec : PodSpec) : (maskPodSpec podSpec).Masked := by
  intro container member
  rcases List.mem_append.mp member with member | member
  · exact maskContainers_masked _ container member
  · exact maskContainers_masked _ container member

theorem maskEnvVars_congr {left right : List EnvVar}
    (related : List.Forall₂ EnvVar.SecretEquivalent left right) :
    maskEnvVars left = maskEnvVars right := by
  induction related with
  | nil => rfl
  | @cons leftHead rightHead _ _ head _ induction =>
      obtain ⟨sameName, sameValue | ⟨leftSet, rightSet⟩⟩ := head
      · simp [maskEnvVars, sameName, sameValue] at induction ⊢
        cases leftHead
        cases rightHead
        simp_all
      · simp only [maskEnvVars, List.map_cons, List.cons.injEq] at induction ⊢
        refine ⟨?_, induction⟩
        simp only [ne_eq, leftSet, not_false_eq_true, ↓reduceIte, rightSet]
        cases leftHead
        cases rightHead
        simp_all

theorem maskContainers_congr {left right : List Container}
    (related : List.Forall₂ Container.SecretEquivalent left right) :
    maskContainers left = maskContainers right := by
  induction related with
  | nil => rfl
  | @cons leftHead rightHead _ _ head _ induction =>
      obtain ⟨others, sameCount, env⟩ := head
      simp only [maskContainers, List.map_cons, List.cons.injEq] at induction ⊢
      refine ⟨?_, induction⟩
      rw [maskEnvVars_congr env, maskArgs, maskArgs, sameCount, ← others]

/-- Masking forgets exactly the secrets: secret-equivalent specs mask to the same
spec. -/
theorem maskPodSpec_congr {left right : PodSpec} (related : left.SecretEquivalent right) :
    maskPodSpec left = maskPodSpec right := by
  simp only [maskPodSpec, maskContainers_congr related.1, maskContainers_congr related.2]

/-! ## Ranging over a slice by value -/

/-- The variables of `for _, item := range items { body(&item) }`: the ranged
slice and the loop variable `item`. -/
structure RangeLoop (α : Type) where
  items : List α
  item : Option α

/-- One iteration: `item` receives a copy of element `index`, and `body` updates
`item` through its address. -/
def RangeLoop.iterate (body : α → α) (loop : RangeLoop α) (index : Nat) : RangeLoop α :=
  { loop with item := loop.items[index]?.map body }

/-- The slice after `for _, item := range items { body(&item) }`. -/
def rangeByValue (body : α → α) (items : List α) : List α :=
  ((List.range items.length).foldl (RangeLoop.iterate body) ⟨items, none⟩).items

theorem foldl_iterate_items (body : α → α) (indices : List Nat) (loop : RangeLoop α) :
    (indices.foldl (RangeLoop.iterate body) loop).items = loop.items := by
  induction indices generalizing loop with
  | nil => rfl
  | cons index rest induction => exact induction _

/-- The loop writes only its variable: the slice comes out as it went in. -/
theorem rangeByValue_eq (body : α → α) (items : List α) : rangeByValue body items = items :=
  foldl_iterate_items body _ _

/-- One iteration when `body` writes behind a pointer that the copy `item`
shares with element `index`: the write reaches the element too. -/
def RangeLoop.iterateShared (body : α → α) (loop : RangeLoop α) (index : Nat) : RangeLoop α :=
  { items := loop.items.modify body index, item := loop.items[index]?.map body }

/-- The slice after `for _, item := range items { body(&item.Ptr.Field) }` when
`Ptr` is a pointer. -/
def rangeThroughPointer (body : α → α) (items : List α) : List α :=
  ((List.range items.length).foldl (RangeLoop.iterateShared body) ⟨items, none⟩).items

/-- After the first `count` iterations, the elements before `count` have been
rewritten and the others not yet. -/
theorem getElem?_foldl_iterateShared (body : α → α) (items : List α) (count position : Nat) :
    ((List.range count).foldl (RangeLoop.iterateShared body) ⟨items, none⟩).items[position]? =
      if position < count then items[position]?.map body else items[position]? := by
  induction count with
  | zero => simp
  | succ count induction =>
      rw [List.range_succ, List.foldl_append, List.foldl_cons, List.foldl_nil,
        RangeLoop.iterateShared, List.getElem?_modify, induction]
      by_cases same : count = position
      · subst same
        simp
      · have earlier : position < count + 1 ↔ position < count := by omega
        simp [same, earlier]

/-- Each element is rewritten once, through the pointer its copy shares. -/
theorem rangeThroughPointer_eq (body : α → α) (items : List α) :
    rangeThroughPointer body items = items.map body := by
  refine List.ext_getElem? fun position => ?_
  rw [rangeThroughPointer, getElem?_foldl_iterateShared, List.getElem?_map]
  split
  · rfl
  · rw [List.getElem?_eq_none (by omega), Option.map_none']

/-! ## The getters -/

/-- The body shared by `GetDeployments`, `GetStatefulSets`, `GetDaemonSets`,
`GetReplicaSets` and `GetCronJobs`, whose items hold their pod template by
value: list, then `maskPodSpec` on each loop copy of an item. -/
def getMaskedList (failure : String) (podSpec : α → PodSpec) (setPodSpec : α → PodSpec → α)
    (response : ListResponse α) : ListResponse α :=
  match response with
  | .error _ => .error failure
  | .ok none => .ok none
  | .ok (some items) =>
      .ok (some (rangeByValue (fun item => setPodSpec item (maskPodSpec (podSpec item))) items))

/-- `GetReplicationControllers`: `Spec.Template` is a `*PodTemplateSpec`, so
`maskPodSpec(&item.Spec.Template.Spec)` masks the template the listed element
points to. -/
def getReplicationControllers (api : PlatformAPI) : ListResponse Controller :=
  match api.replicationControllers with
  | .error _ => .error "unable to retrieve replication controllers from all namespaces"
  | .ok none => .ok none
  | .ok (some items) =>
      .ok (some (rangeThroughPointer
        (fun item => { item with podSpec := maskPodSpec item.podSpec }) items))

/-- `GetDeployments`. -/
def getDeployments (api : PlatformAPI) : ListResponse Controller :=
  getMaskedList "unable to retrieve deployments from all namespaces"
    Controller.podSpec (fun item podSpec => { item with podSpec := podSpec }) api.deployments

/-- `GetStatefulSets`. -/
def getStatefulSets (api : PlatformAPI) : ListResponse StatefulSet :=
  getMaskedList "unable to retrieve stateful sets from all namespaces"
    StatefulSet.podSpec (fun item podSpec => { item with podSpec := podSpec }) api.statefulSets

/-- `GetDaemonSets`. -/
def getDaemonSets (api : PlatformAPI) : ListResponse DaemonSet :=
  getMaskedList "unable to retrieve daemon sets from all namespaces"
    DaemonSet.podSpec (fun item podSpec => { item with podSpec := podSpec }) api.daemonSets

/-- `GetReplicaSets`. -/
def getReplicaSets (api : PlatformAPI) : ListResponse Controller :=
  getMaskedList "unable to retrieve replica sets from all namespaces"
    Controller.podSpec (fun item podSpec => { item with podSpec := podSpec }) api.replicaSets

/-- `GetCronJobs`. -/
def getCronJobs (api : PlatformAPI) : ListResponse CronJob :=
  getMaskedList "unable to retrieve cron jobs from all namespaces"
    CronJob.podSpec (fun item podSpec => { item with podSpec := podSpec }) api.cronJobs

/-- `GetPods`: the list call alone, with no masking. -/
def getPods (api : PlatformAPI) : ListResponse Pod :=
  match api.pods with
  | .error _ => .error "unable to retrieve pods from all namespaces"
  | .ok pods => .ok pods

/-- `GetLimitRanges`. -/
def getLimitRanges (api : PlatformAPI) : ListResponse LimitRange :=
  match api.limitRanges with
  | .error _ => .error "unable to retrieve list of limitRanges from all namespaces"
  | .ok limitRanges => .ok limitRanges

/-- `GetStatefulSet`: the fetched object is masked through its pointer. -/
def getStatefulSet (api : PlatformAPI) (namespace_ name : String) :
    Except String (Option StatefulSetV1) :=
  match api.statefulSet namespace_ name with
  | .error _ => .error ("unable to retrieve statefulset " ++ namespace_ ++ "/" ++ name)
  | .ok none => .ok none
  | .ok (some statefulSet) =>
      .ok (some { statefulSet with podSpec := maskPodSpec statefulSet.podSpec })

/-- Every pod spec `GetReplicationControllers` returns is masked. -/
theorem getReplicationControllers_masked {api : PlatformAPI} {items : List Controller}
    (listed : getReplicationControllers api = .ok (some items)) :
    ∀ controller ∈ items, controller.podSpec.Masked := by
  unfold getReplicationControllers at listed
  split at listed <;> simp only [Except.ok.injEq, Option.some.injEq, reduceCtorEq] at listed
  rw [← listed, rangeThroughPointer_eq]
  intro controller listedController
  obtain ⟨_, _, rfl⟩ := List.mem_map.mp listedController
  exact maskPodSpec_masked _

/-- The getters whose items hold their template by value return every list
exactly as the platform answered it. -/
theorem getMaskedList_ok (failure : String) (podSpec : α → PodSpec)
    (setPodSpec : α → PodSpec → α) (items : Option (List α)) :
    getMaskedList failure podSpec setPodSpec (.ok items) = .ok items := by
  cases items <;> simp [getMaskedList, rangeByValue_eq]

/-! ## Platform states that differ only in secrets -/

/-- Two objects of one kind that are equal but for secret-equivalent pod specs. -/
def ObjectSecretEquivalent (podSpec : α → PodSpec) (setPodSpec : α → PodSpec → α)
    (left right : α) : Prop :=
  setPodSpec left (podSpec right) = right ∧ (podSpec left).SecretEquivalent (podSpec right)

/-- Two answers of one call that agree but for a secret-equivalent result. -/
def FetchSecretEquivalent (related : α → α → Prop) :
    Except String (Option α) → Except String (Option α) → Prop
  | .error left, .error right => left = right
  | .ok none, .ok none => True
  | .ok (some left), .ok (some right) => related left right
  | _, _ => False

/-- Two answers of one list call that agree but for secret-equivalent items. -/
def ResponseSecretEquivalent (related : α → α → Prop) : ListResponse α → ListResponse α → Prop :=
  FetchSecretEquivalent (List.Forall₂ related)

/-- Two platform states that differ only in non-empty environment values and in
the contents of the arguments of the containers and init containers of their
pod specs. -/
def PlatformAPI.SecretEquivalent (left right : PlatformAPI) : Prop :=
  ResponseSecretEquivalent (ObjectSecretEquivalent Pod.spec fun item spec => { item with spec })
      left.pods right.pods ∧
    ResponseSecretEquivalent
      (ObjectSecretEquivalent Controller.podSpec fun item podSpec => { item with podSpec })
      left.replicationControllers right.replicationControllers ∧
    ResponseSecretEquivalent
      (ObjectSecretEquivalent Controller.podSpec fun item podSpec => { item with podSpec })
      left.deployments right.deployments ∧
    ResponseSecretEquivalent
      (ObjectSecretEquivalent StatefulSet.podSpec fun item podSpec => { item with podSpec })
      left.statefulSets right.statefulSets ∧
    ResponseSecretEquivalent
      (ObjectSecretEquivalent DaemonSet.podSpec fun item podSpec => { item with podSpec })
      left.daemonSets right.daemonSets ∧
    ResponseSecretEquivalent
      (ObjectSecretEquivalent Controller.podSpec fun item podSpec => { item with podSpec })
      left.replicaSets right.replicaSets ∧
    ResponseSecretEquivalent
      (ObjectSecretEquivalent CronJob.podSpec fun item podSpec => { item with podSpec })
      left.cronJobs right.cronJobs ∧
    left.limitRanges = right.limitRanges ∧
    ∀ namespace_ name, FetchSecretEquivalent
      (ObjectSecretEquivalent StatefulSetV1.podSpec fun item podSpec => { item with podSpec })
      (left.statefulSet namespace_ name) (right.statefulSet namespace_ name)

/-- `GetStatefulSet` hides the secrets: platform states that differ only in
secrets give the same answer. -/
theorem getStatefulSet_secret_equivalent {left right : PlatformAPI}
    (related : left.SecretEquivalent right) (namespace_ name : String) :
    getStatefulSet left namespace_ name = getStatefulSet right namespace_ name := by
  have fetched := related.2.2.2.2.2.2.2.2 namespace_ name
  unfold getStatefulSet
  generalize left.statefulSet namespace_ name = leftAnswer at fetched ⊢
  generalize right.statefulSet namespace_ name = rightAnswer at fetched ⊢
  rcases leftAnswer with _ | _ | leftSet <;> rcases rightAnswer with _ | _ | rightSet <;>
    simp only [FetchSecretEquivalent] at fetched ⊢
  obtain ⟨others, podSpecs⟩ := fetched
  rw [maskPodSpec_congr podSpecs, ← others]

/-- Masking a controller forgets exactly its secrets. -/
theorem maskController_congr {left right : Controller}
    (related : ObjectSecretEquivalent Controller.podSpec
      (fun item podSpec => { item with podSpec }) left right) :
    { left with podSpec := maskPodSpec left.podSpec } =
      { right with podSpec := maskPodSpec right.podSpec } := by
  obtain ⟨others, podSpecs⟩ := related
  rw [maskPodSpec_congr podSpecs, ← others]

/-- Unlike the getters built on `getMaskedList`, `GetReplicationControllers`
hides the secrets: platform states that differ only in secrets give the same
answer, and every pod spec in it is masked. -/
theorem getReplicationControllers_secret_equivalent {left right : PlatformAPI}
    (related : left.SecretEquivalent right) :
    getReplicationControllers left = getReplicationControllers right ∧
      ∀ items, getReplicationControllers left = .ok (some items) →
        ∀ controller ∈ items, controller.podSpec.Masked := by
  refine ⟨?_, fun _ => getReplicationControllers_masked⟩
  have listed := related.2.1
  unfold getReplicationControllers
  generalize left.replicationControllers = leftAnswer at listed ⊢
  generalize right.replicationControllers = rightAnswer at listed ⊢
  rcases leftAnswer with _ | _ | leftItems <;> rcases rightAnswer with _ | _ | rightItems <;>
    simp only [ResponseSecretEquivalent, FetchSecretEquivalent] at listed ⊢
  simp only [rangeThroughPointer_eq, Except.ok.injEq, Option.some.injEq]
  induction listed with
  | nil => rfl
  | cons head _ tail => rw [List.map_cons, List.map_cons, maskController_congr head, tail]

/-- A platform whose one replication controller has a container whose
`PASSWORD` variable holds `secret`. -/
def replicationControllerWithSecret (secret : String) : PlatformAPI where
  pods := .ok none
  replicationControllers := .ok (some [⟨⟨"web", "default", [], []⟩, some 1,
    ⟨[⟨"web", "nginx", [], ["--token", secret], [⟨"PASSWORD", secret⟩]⟩], []⟩, 1, 1, 1⟩])
  deployments := .ok none
  statefulSets := .ok none
  daemonSets := .ok none
  replicaSets := .ok none
  cronJobs := .ok none
  limitRanges := .ok none
  statefulSet := fun _ _ => .ok none

theorem getReplicationControllers_same_for_secrets :
    getReplicationControllers (replicationControllerWithSecret "hunter2") =
        getReplicationControllers (replicationControllerWithSecret "swordfish") ∧
      ∀ items, getReplicationControllers (replicationControllerWithSecret "hunter2") =
          .ok (some items) → ∀ controller ∈ items, controller.podSpec.Masked :=
  getReplicationControllers_secret_equivalent
    ⟨trivial, .cons ⟨rfl, by decide⟩ .nil, trivial, trivial, trivial, trivial, trivial, rfl,
      fun _ _ => trivial⟩

/-- A platform whose one stateful set has a container whose `PASSWORD` variable
holds `secret`. -/
def statefulSetWithSecret (secret : String) : PlatformAPI where
  pods := .ok none
  replicationControllers := .ok none
  deployments := .ok none
  statefulSets := .ok none
  daemonSets := .ok none
  replicaSets := .ok none
  cronJobs := .ok none
  limitRanges := .ok none
  statefulSet := fun _ _ => .ok (some ⟨⟨"db", "default", [], []⟩, some 1,
    ⟨[⟨"db", "postgres", [], ["--token", secret], [⟨"PASSWORD", secret⟩]⟩], []⟩,
    ⟨"RollingUpdate", none⟩⟩)

theorem getStatefulSet_same_for_secrets :
    getStatefulSet (statefulSetWithSecret "hunter2") "default" "db" =
      getStatefulSet (statefulSetWithSecret "swordfish") "default" "db" :=
  @getStatefulSet_secret_equivalent (statefulSetWithSecret "hunter2")
    (statefulSetWithSecret "swordfish")
    ⟨trivial, trivial, trivial, trivial, trivial, trivial, trivial, rfl,
      fun _ _ => ⟨rfl, .cons ⟨rfl, by decide⟩ .nil, .nil⟩⟩ "default" "db"

/-- A platform whose one object is a deployment with a container whose
`PASSWORD` variable holds `secret`. -/
def deploymentWithSecret (secret : String) : PlatformAPI where
  pods := .ok none
  replicationControllers := .ok none
  deployments := .ok (some [⟨⟨"web", "default", [], []⟩, some 1,
    ⟨[⟨"web", "nginx", [], ["--token", secret], [⟨"PASSWORD", secret⟩]⟩], []⟩, 1, 1, 1⟩])
  statefulSets := .ok none
  daemonSets := .ok none
  replicaSets := .ok none
  cronJobs := .ok none
  limitRanges := .ok none
  statefulSet := fun _ _ => .ok none

/-- Two platform states that differ only in a secret make `GetDeployments`
return different lists. -/
theorem getDeployments_reveals_secret :
    (deploymentWithSecret "hunter2").SecretEquivalent (deploymentWithSecret "swordfish") ∧
      getDeployments (deploymentWithSecret "hunter2") ≠
        getDeployments (deploymentWithSecret "swordfish") := by
  refine ⟨⟨trivial, trivial, .cons ⟨rfl, by decide⟩ .nil, trivial, trivial, trivial, trivial, rfl,
    fun _ _ => trivial⟩, ?_⟩
  simp [getDeployments, deploymentWithSecret, getMaskedList_ok]

end MagalixAgent.Kuber
