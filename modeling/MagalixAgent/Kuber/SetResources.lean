import MagalixAgent.Kuber.Mask
import MagalixAgent.Go.Json
import MagalixAgent.Go.Strings

namespace MagalixAgent.Kuber

/-! # Setting the resources of a service

`SetResources` changes the replicas and the container resources of a workload
with one strategic-merge patch. It rejects a request that changes nothing,
refuses a StatefulSet whose rolling update would not reach every pod, rejects a
container that sets no quantity, and otherwise sends a body that holds only the
fields the request sets. -/

/-- `RequestLimit`: cpu in millicores and memory in MiB, each optional. -/
structure RequestLimit where
  cpu : Option Int64
  memory : Option Int64
deriving DecidableEq

/-- `ContainerResourcesRequirements`. -/
structure ContainerResourcesRequirements where
  name : String
  requests : RequestLimit
  limits : RequestLimit
deriving DecidableEq

/-- `TotalResources`: the replicas (an `*int`) and the containers to change. -/
structure TotalResources where
  replicas : Option Int64
  containers : List ContainerResourcesRequirements
deriving DecidableEq

/-- The errors `SetResources` returns. -/
inductive SetResourcesError where
  /-- "invalid resources passed, nothing to change" -/
  | nothingToChange
  /-- "unable to get sts definition", wrapping the error of `GetStatefulSet` -/
  | stsDefinition (cause : String)
  /-- "sts replicas ... > 1 and Spec.UpdateStrategy.RollingUpdate.Partition not equal 0" -/
  | partitionNotZero
  /-- "sts replicas ... > 1 and Spec.UpdateStrategy not equal 'RollingUpdate'" -/
  | notRollingUpdate
  /-- "invalid resources for container: " followed by the container's name -/
  | invalidContainer (name : String)
  /-- the error the PATCH request answered -/
  | patch (cause : String)
deriving DecidableEq

/-- `v1.RollingUpdateStatefulSetStrategyType`. -/
def rollingUpdateStatefulSetStrategyType : String := "RollingUpdate"

/-! ## The StatefulSet guard -/

/-- How the StatefulSet check of `SetResources` ends. -/
inductive StatefulSetCheck where
  | pass
  | reject (skipped : Bool) (error : SetResourcesError)
  /-- `GetStatefulSet` answered neither an object nor an error, and the check
  dereferences the nil pointer. -/
  | nilDereference
deriving DecidableEq

/-- The test of a fetched StatefulSet: more than one replica needs a rolling
update whose partition, when there is one, is `0`. -/
def statefulSetGuard (statefulSet : StatefulSetV1) : StatefulSetCheck :=
  match statefulSet.replicas with
  | some replicas =>
      if 1 < replicas then
        if statefulSet.updateStrategy.type = rollingUpdateStatefulSetStrategyType then
          match statefulSet.updateStrategy.rollingUpdate with
          | some (some partition) => if partition ≠ 0 then .reject true .partitionNotZero else .pass
          | _ => .pass
        else .reject true .notRollingUpdate
      else .pass
  | none => .pass

/-- The check `SetResources` makes before it builds the patch. -/
def statefulSetCheck (api : PlatformAPI) (kind name namespace_ : String) : StatefulSetCheck :=
  if Strings.toLower kind = "statefulset" then
    match getStatefulSet api namespace_ name with
    | .error cause => .reject false (.stsDefinition cause)
    | .ok none => .nilDereference
    | .ok (some statefulSet) => statefulSetGuard statefulSet
  else .pass

/-- A fetched StatefulSet that a patch may change: at most one replica, or a
rolling update whose partition, if it has one, is `0`. -/
def StatefulSetV1.AdmitsPatch (statefulSet : StatefulSetV1) : Prop :=
  (∀ replicas ∈ statefulSet.replicas, replicas ≤ 1) ∨
    (statefulSet.updateStrategy.type = rollingUpdateStatefulSetStrategyType ∧
      (statefulSet.updateStrategy.rollingUpdate = none ∨
        statefulSet.updateStrategy.rollingUpdate = some none ∨
        statefulSet.updateStrategy.rollingUpdate = some (some 0)))

/-- The guard passes exactly the StatefulSets that admit a patch, and rejects
the others as skipped, with one of its two errors. -/
theorem statefulSetGuard_cases (statefulSet : StatefulSetV1) :
    (statefulSet.AdmitsPatch ∧ statefulSetGuard statefulSet = .pass) ∨
      (¬ statefulSet.AdmitsPatch ∧ ∃ error, statefulSetGuard statefulSet = .reject true error ∧
        (error = .partitionNotZero ∨ error = .notRollingUpdate)) := by
  rcases statefulSet with ⟨meta, _ | replicas, podSpec, type, rollingUpdate⟩
  · simp [statefulSetGuard, StatefulSetV1.AdmitsPatch]
  · unfold statefulSetGuard StatefulSetV1.AdmitsPatch
    by_cases many : 1 < replicas
    · by_cases rolling : type = rollingUpdateStatefulSetStrategyType
      · rcases rollingUpdate with _ | _ | partition
        · simp [many, rolling]
        · simp [many, rolling]
        · by_cases zero : partition = 0 <;> simp [many, rolling, zero]
      · simp [many, rolling]
    · simp [many, not_lt.mp many]

/-- What the StatefulSet check can end with. -/
theorem statefulSetCheck_cases (api : PlatformAPI) (kind name namespace_ : String) :
    (Strings.toLower kind ≠ "statefulset" ∧ statefulSetCheck api kind name namespace_ = .pass) ∨
      (Strings.toLower kind = "statefulset" ∧ ∃ cause,
        getStatefulSet api namespace_ name = .error cause ∧
        statefulSetCheck api kind name namespace_ = .reject false (.stsDefinition cause)) ∨
      (Strings.toLower kind = "statefulset" ∧ getStatefulSet api namespace_ name = .ok none ∧
        statefulSetCheck api kind name namespace_ = .nilDereference) ∨
      (Strings.toLower kind = "statefulset" ∧ ∃ statefulSet,
        getStatefulSet api namespace_ name = .ok (some statefulSet) ∧
        statefulSetCheck api kind name namespace_ = statefulSetGuard statefulSet) := by
  unfold statefulSetCheck
  by_cases sts : Strings.toLower kind = "statefulset"
  · rw [if_pos sts]
    rcases getStatefulSet api namespace_ name with cause | _ | statefulSet <;> simp [sts]
  · simp [sts]

/-- With an answer to the fetch, the check passes exactly when a StatefulSet
admits the patch; otherwise it rejects, as skipped exactly when the fetched
object refuses the patch. -/
theorem statefulSetCheck_outcome {api : PlatformAPI} {kind name namespace_ : String}
    (answered : Strings.toLower kind = "statefulset" →
      getStatefulSet api namespace_ name ≠ .ok none) :
    (statefulSetCheck api kind name namespace_ = .pass ∧
      (Strings.toLower kind = "statefulset" → ∃ statefulSet,
        getStatefulSet api namespace_ name = .ok (some statefulSet) ∧ statefulSet.AdmitsPatch)) ∨
    (∃ skipped error, statefulSetCheck api kind name namespace_ = .reject skipped error ∧
      ¬ (Strings.toLower kind = "statefulset" → ∃ statefulSet,
        getStatefulSet api namespace_ name = .ok (some statefulSet) ∧ statefulSet.AdmitsPatch) ∧
      (skipped ↔ Strings.toLower kind = "statefulset" ∧ ∃ statefulSet,
        getStatefulSet api namespace_ name = .ok (some statefulSet) ∧ ¬ statefulSet.AdmitsPatch) ∧
      (skipped → error = .partitionNotZero ∨ error = .notRollingUpdate)) := by
  rcases statefulSetCheck_cases api kind name namespace_ with
    ⟨other, pass⟩ | ⟨sts, cause, failed, rejected⟩ | ⟨sts, nilFetch, -⟩ |
      ⟨sts, statefulSet, fetched, guarded⟩
  · exact .inl ⟨pass, fun sts => absurd sts other⟩
  · exact .inr ⟨false, _, rejected, by simp [sts, failed]⟩
  · exact absurd nilFetch (answered sts)
  · rcases statefulSetGuard_cases statefulSet with ⟨admits, pass⟩ | ⟨refuses, error, rejected, which⟩
    · exact .inl ⟨guarded.trans pass, fun _ => ⟨statefulSet, fetched, admits⟩⟩
    · exact .inr ⟨true, error, guarded.trans rejected, by simp [sts, fetched, refuses],
        by simp [sts, fetched, refuses], fun _ => which⟩

/-! ## The patch body -/

/-- `milliCore`. -/
def milliCore : Float := 1000

/-- `fmt.Sprintf("%dMi", memory)`. -/
def memoryQuantity (memory : Int64) : JsonValue := .string (toString memory.toInt ++ "Mi")

/-- `float64(cpu) / milliCore`. -/
def cpuQuantity (cpu : Int64) : JsonValue := .float (Float.ofInt cpu.toInt / milliCore)

/-- One of the four blocks of the container loop: a set quantity is stored under
`field` in the map of its `group`, which is created the first time the group
gets a field. -/
def setQuantity (group field : String) (quantity : Option JsonValue)
    (resources : GoMap String (GoMap String JsonValue)) : GoMap String (GoMap String JsonValue) :=
  match quantity with
  | none => resources
  | some value =>
      let resources := if (resources.lookup group).isSome then resources
        else resources.insert group GoMap.empty
      resources.insert group (((resources.lookup group).getD GoMap.empty).insert field value)

/-- The `resources` map of one container. -/
def containerResources (container : ContainerResourcesRequirements) :
    GoMap String (GoMap String JsonValue) :=
  GoMap.empty
    |> setQuantity "limits" "memory" (container.limits.memory.map memoryQuantity)
    |> setQuantity "limits" "cpu" (container.limits.cpu.map cpuQuantity)
    |> setQuantity "requests" "memory" (container.requests.memory.map memoryQuantity)
    |> setQuantity "requests" "cpu" (container.requests.cpu.map cpuQuantity)

/-- One round of the container loop: the container's entry, or the error for a
container that sets no quantity. -/
def containerSpec (container : ContainerResourcesRequirements) :
    Except SetResourcesError JsonValue :=
  let resources := containerResources container
  if resources.length = 0 then .error (.invalidContainer container.name)
  else .ok (.object [("name", .string container.name),
    ("resources", .object (resources.map fun group => (group.1, .object group.2)))])

/-- The container loop, which returns at the first invalid container. -/
def containerSpecs : List ContainerResourcesRequirements → Except SetResourcesError (List JsonValue)
  | [] => .ok []
  | container :: containers =>
      match containerSpec container with
      | .error error => .error error
      | .ok spec => (containerSpecs containers).map (spec :: ·)

/-- The body: the kind, and a spec with the template's containers when there
are any and the replicas when they are set and positive. -/
def patchBody (kind : String) (totalResources : TotalResources) (specs : List JsonValue) :
    JsonValue :=
  let spec : GoMap String JsonValue := GoMap.empty
  let spec := if specs.length > 0 then
      spec.insert "template" (.object [("spec", .object [("containers", .array specs)])])
    else spec
  let spec := match totalResources.replicas with
    | some replicas => if 0 < replicas then spec.insert "replicas" (.int replicas) else spec
    | none => spec
  .object [("kind", .string kind), ("spec", .object spec)]

/-- The container sets at least one of its four quantities. -/
def ContainerResourcesRequirements.SetsQuantity (container : ContainerResourcesRequirements) :
    Prop :=
  container.limits.memory ≠ none ∨ container.limits.cpu ≠ none ∨
    container.requests.memory ≠ none ∨ container.requests.cpu ≠ none

/-- The quantities a group sets, as a patch writes them: memory as `"<n>Mi"`,
cpu as `float64(n) / 1000` cores. -/
def RequestLimit.quantities (requestLimit : RequestLimit) : List (String × JsonValue) :=
  (requestLimit.memory.map fun memory =>
      ("memory", JsonValue.string (toString memory.toInt ++ "Mi"))).toList ++
    (requestLimit.cpu.map fun cpu => ("cpu", JsonValue.float (Float.ofInt cpu.toInt / 1000))).toList

/-- The entry of a container in a patch: its name, and the `limits` and the
`requests` groups that set a quantity. -/
def ContainerResourcesRequirements.patchEntry (container : ContainerResourcesRequirements) :
    JsonValue :=
  .object [("name", .string container.name), ("resources", .object
    ([("limits", container.limits), ("requests", container.requests)].filterMap fun group =>
      if group.2.quantities.isEmpty then none else some (group.1, .object group.2.quantities)))]

/-- The spec a patch sets: the template's containers, in order, when there are
any, and the replicas when they are set and positive. -/
def TotalResources.patchSpec (totalResources : TotalResources) : List (String × JsonValue) :=
  (if totalResources.containers.isEmpty then [] else
    [("template", .object [("spec", .object [("containers",
      .array (totalResources.containers.map ContainerResourcesRequirements.patchEntry))])])]) ++
  ((totalResources.replicas.filter fun replicas => 0 < replicas).map fun replicas =>
    ("replicas", JsonValue.int replicas)).toList

theorem setQuantity_eq_nil (group field : String) (quantity : Option JsonValue)
    (resources : GoMap String (GoMap String JsonValue)) :
    setQuantity group field quantity resources = [] ↔ quantity = none ∧ resources = [] := by
  cases quantity <;> simp [setQuantity, GoMap.insert_ne_nil]

@[simp] theorem setQuantity_none (group field : String)
    (resources : GoMap String (GoMap String JsonValue)) :
    setQuantity group field none resources = resources := rfl

theorem setQuantity_of_absent {group field : String} {resources : GoMap String (GoMap String JsonValue)}
    (absent : resources.lookup group = none) (value : JsonValue) :
    setQuantity group field (some value) resources = resources ++ [(group, [(field, value)])] := by
  simp only [setQuantity, absent, Option.isSome_none, Bool.false_eq_true, if_false,
    GoMap.insert_of_lookup_eq_none absent, GoMap.lookup_append_last absent, Option.getD_some]
  exact GoMap.insert_last absent _ _

theorem setQuantity_of_last {group field : String} {resources : GoMap String (GoMap String JsonValue)}
    (absent : resources.lookup group = none) (fields : GoMap String JsonValue) (value : JsonValue) :
    setQuantity group field (some value) (resources ++ [(group, fields)]) =
      resources ++ [(group, fields.insert field value)] := by
  simp only [setQuantity, GoMap.lookup_append_last absent, Option.isSome_some, if_true,
    Option.getD_some]
  exact GoMap.insert_last absent _ _

/-- The two blocks of one group append the group with its quantities, if it
has any, to a map that does not hold it yet. -/
theorem setQuantity_group {group : String} {resources : GoMap String (GoMap String JsonValue)}
    (absent : resources.lookup group = none) (requestLimit : RequestLimit) :
    setQuantity group "cpu" (requestLimit.cpu.map cpuQuantity)
        (setQuantity group "memory" (requestLimit.memory.map memoryQuantity) resources) =
      if requestLimit.quantities.isEmpty then resources
      else resources ++ [(group, requestLimit.quantities)] := by
  rcases requestLimit with ⟨_ | cpu, _ | memory⟩
  · rfl
  · simp [setQuantity_of_absent absent, RequestLimit.quantities, memoryQuantity]
  · simp [setQuantity_of_absent absent, RequestLimit.quantities, cpuQuantity, milliCore]
  · simp only [Option.map_some', setQuantity_of_absent absent, setQuantity_of_last absent]
    rfl

theorem containerResources_eq (container : ContainerResourcesRequirements) :
    containerResources container =
      (if container.limits.quantities.isEmpty then [] else [("limits", container.limits.quantities)]) ++
      (if container.requests.quantities.isEmpty then []
        else [("requests", container.requests.quantities)]) := by
  have limits := @setQuantity_group "limits" GoMap.empty rfl container.limits
  unfold containerResources
  simp only [limits]
  rw [setQuantity_group (by split <;> rfl)]
  split <;> split <;> rfl

theorem containerResources_eq_nil (container : ContainerResourcesRequirements) :
    containerResources container = [] ↔ ¬ container.SetsQuantity := by
  simp only [containerResources, setQuantity_eq_nil, ContainerResourcesRequirements.SetsQuantity,
    Option.map_eq_none', GoMap.empty, and_true]
  tauto

/-- A container that sets a quantity gets the entry the patch format describes. -/
theorem containerSpec_of_sets {container : ContainerResourcesRequirements}
    (sets : container.SetsQuantity) : containerSpec container = .ok container.patchEntry := by
  have present : (containerResources container).length ≠ 0 :=
    fun empty => (containerResources_eq_nil container).mp (List.length_eq_zero.mp empty) sets
  simp only [containerSpec]
  rw [if_neg present, containerResources_eq]
  simp only [ContainerResourcesRequirements.patchEntry]
  split <;> split <;> simp [*]

theorem containerSpec_of_not_sets {container : ContainerResourcesRequirements}
    (unset : ¬ container.SetsQuantity) :
    containerSpec container = .error (.invalidContainer container.name) := by
  simp [containerSpec, (containerResources_eq_nil container).mpr unset]

theorem containerSpecs_of_sets {containers : List ContainerResourcesRequirements}
    (sets : ∀ container ∈ containers, container.SetsQuantity) :
    containerSpecs containers = .ok (containers.map ContainerResourcesRequirements.patchEntry) := by
  induction containers with
  | nil => rfl
  | cons container containers induction =>
      rw [List.forall_mem_cons] at sets
      simp only [containerSpecs, containerSpec_of_sets sets.1, induction sets.2]
      rfl

/-- The loop fails as soon as one container sets no quantity. -/
theorem containerSpecs_of_not_sets {containers : List ContainerResourcesRequirements}
    (unset : ¬ ∀ container ∈ containers, container.SetsQuantity) :
    ∃ error, containerSpecs containers = .error error := by
  induction containers with
  | nil => simp at unset
  | cons container containers induction =>
      rw [List.forall_mem_cons, not_and_or] at unset
      by_cases sets : container.SetsQuantity
      · obtain ⟨error, failed⟩ := induction (unset.resolve_left (not_not.mpr sets))
        exact ⟨error, by simp only [containerSpecs, containerSpec_of_sets sets, failed]; rfl⟩
      · exact ⟨.invalidContainer container.name,
          by simp only [containerSpecs, containerSpec_of_not_sets sets]⟩

theorem containerSpecs_eq_of_ok {containers : List ContainerResourcesRequirements}
    {specs : List JsonValue} (loop : containerSpecs containers = .ok specs) :
    specs = containers.map ContainerResourcesRequirements.patchEntry := by
  by_cases sets : ∀ container ∈ containers, container.SetsQuantity
  · rw [containerSpecs_of_sets sets, Except.ok.injEq] at loop
    exact loop.symm
  · obtain ⟨error, failed⟩ := containerSpecs_of_not_sets sets
    rw [failed] at loop
    cases loop

theorem patchBody_eq (kind : String) (totalResources : TotalResources) :
    patchBody kind totalResources
        (totalResources.containers.map ContainerResourcesRequirements.patchEntry) =
      .object [("kind", .string kind), ("spec", .object totalResources.patchSpec)] := by
  rcases totalResources with ⟨_ | replicas, _ | ⟨container, containers⟩⟩
  · rfl
  · simp [patchBody, TotalResources.patchSpec, GoMap.empty]
  · by_cases positive : 0 < replicas.toInt <;>
      simp [patchBody, TotalResources.patchSpec, GoMap.empty, Option.filter, positive]
  · by_cases positive : 0 < replicas.toInt
    · simp [patchBody, TotalResources.patchSpec, GoMap.empty, Option.filter, positive]
      rfl
    · simp [patchBody, TotalResources.patchSpec, GoMap.empty, Option.filter, positive]

/-! ## `SetResources` -/

/-- The PATCH request: resource `kind + "s"`, the namespace, the name, the body. -/
structure PatchRequest where
  resource : String
  namespace_ : String
  name : String
  body : JsonValue

/-- What `SetResources` does: the patch it sends, if any, and what it returns. -/
structure SetResourcesResult where
  patch : Option PatchRequest
  skipped : Bool
  error : Option SetResourcesError

/-- `SetResources`; the platform answers a PATCH with an error text or with
success. It has no result where the StatefulSet check dereferences nil. -/
def setResources (api : PlatformAPI) (patchAnswer : PatchRequest → Option String)
    (kind name namespace_ : String) (totalResources : TotalResources) :
    Option SetResourcesResult :=
  if totalResources.containers.length = 0 ∧ totalResources.replicas = none then
    some ⟨none, false, some .nothingToChange⟩
  else
    match statefulSetCheck api kind name namespace_ with
    | .nilDereference => none
    | .reject skipped error => some ⟨none, skipped, some error⟩
    | .pass =>
        match containerSpecs totalResources.containers with
        | .error error => some ⟨none, false, some error⟩
        | .ok specs =>
            let request : PatchRequest :=
              ⟨kind ++ "s", namespace_, name, patchBody kind totalResources specs⟩
            some ⟨some request, false, (patchAnswer request).map .patch⟩

/-- A request changes something unless it has neither containers nor replicas. -/
theorem TotalResources.changes_iff (totalResources : TotalResources) :
    ¬ (totalResources.containers.length = 0 ∧ totalResources.replicas = none) ↔
      totalResources.containers ≠ [] ∨ totalResources.replicas ≠ none := by
  rw [List.length_eq_zero]
  tauto

/-- `SetResources` sends a patch exactly when the request changes something,
every container sets a quantity and, for a StatefulSet, the fetched object
admits the patch. Every path without a patch returns an error, and `skipped`
reports exactly the guard's two rejections. The platform answers the fetch of
a StatefulSet with an object or with an error. -/
theorem setResources_patch_iff (api : PlatformAPI) (patchAnswer : PatchRequest → Option String)
    (kind name namespace_ : String) (totalResources : TotalResources)
    (answered : Strings.toLower kind = "statefulset" →
      getStatefulSet api namespace_ name ≠ .ok none) :
    ∃ result, setResources api patchAnswer kind name namespace_ totalResources = some result ∧
      (result.patch.isSome ↔
        (totalResources.containers ≠ [] ∨ totalResources.replicas ≠ none) ∧
        (∀ container ∈ totalResources.containers, container.SetsQuantity) ∧
        (Strings.toLower kind = "statefulset" → ∃ statefulSet,
          getStatefulSet api namespace_ name = .ok (some statefulSet) ∧ statefulSet.AdmitsPatch)) ∧
      (result.patch = none → result.error ≠ none) ∧
      (result.skipped ↔
        (totalResources.containers ≠ [] ∨ totalResources.replicas ≠ none) ∧
        Strings.toLower kind = "statefulset" ∧ ∃ statefulSet,
          getStatefulSet api namespace_ name = .ok (some statefulSet) ∧ ¬ statefulSet.AdmitsPatch) ∧
      (result.skipped →
        result.error = some .partitionNotZero ∨ result.error = some .notRollingUpdate) := by
  unfold setResources
  by_cases nothing : totalResources.containers.length = 0 ∧ totalResources.replicas = none
  · rw [if_pos nothing]
    exact ⟨_, rfl, by simp [List.length_eq_zero.mp nothing.1, nothing.2]⟩
  rw [if_neg nothing]
  have requested := (TotalResources.changes_iff totalResources).mp nothing
  rcases statefulSetCheck_outcome answered with
    ⟨pass, admitted⟩ | ⟨skipped, error, rejected, unadmitted, refused, which⟩
  · have unrefused : ¬ (Strings.toLower kind = "statefulset" ∧ ∃ statefulSet,
        getStatefulSet api namespace_ name = .ok (some statefulSet) ∧
          ¬ statefulSet.AdmitsPatch) := by
      rintro ⟨sts, refusedSet, fetched, refuses⟩
      obtain ⟨admittedSet, fetchedAdmitted, admits⟩ := admitted sts
      rw [fetched, Except.ok.injEq, Option.some.injEq] at fetchedAdmitted
      exact refuses (fetchedAdmitted ▸ admits)
    rw [pass]
    by_cases sets : ∀ container ∈ totalResources.containers, container.SetsQuantity
    · rw [containerSpecs_of_sets sets]
      exact ⟨_, rfl, iff_of_true rfl ⟨requested, sets, admitted⟩, nofun,
        iff_of_false Bool.false_ne_true fun ⟨_, refusedSet⟩ => unrefused refusedSet, nofun⟩
    · obtain ⟨error, failed⟩ := containerSpecs_of_not_sets sets
      rw [failed]
      exact ⟨_, rfl, iff_of_false Bool.false_ne_true fun ⟨_, allSet, _⟩ => sets allSet, nofun,
        iff_of_false Bool.false_ne_true fun ⟨_, refusedSet⟩ => unrefused refusedSet, nofun⟩
  · rw [rejected]
    exact ⟨_, rfl, iff_of_false Bool.false_ne_true fun ⟨_, _, admitted⟩ => unadmitted admitted,
      nofun, refused.trans (and_iff_right requested).symm,
      fun skippedTrue => (which skippedTrue).imp (congrArg some) (congrArg some)⟩

theorem setResources_patch_iff_statefulSet :
    ∃ result, setResources (statefulSetWithSecret "hunter2") (fun _ => none) "StatefulSet" "db"
        "default" ⟨some 3, []⟩ = some result ∧
      (result.patch.isSome ↔
        (([] : List ContainerResourcesRequirements) ≠ [] ∨ (some 3 : Option Int64) ≠ none) ∧
        (∀ container ∈ ([] : List ContainerResourcesRequirements), container.SetsQuantity) ∧
        (Strings.toLower "StatefulSet" = "statefulset" → ∃ statefulSet,
          getStatefulSet (statefulSetWithSecret "hunter2") "default" "db" = .ok (some statefulSet) ∧
            statefulSet.AdmitsPatch)) ∧
      (result.patch = none → result.error ≠ none) ∧
      (result.skipped ↔
        (([] : List ContainerResourcesRequirements) ≠ [] ∨ (some 3 : Option Int64) ≠ none) ∧
        Strings.toLower "StatefulSet" = "statefulset" ∧ ∃ statefulSet,
          getStatefulSet (statefulSetWithSecret "hunter2") "default" "db" = .ok (some statefulSet) ∧
            ¬ statefulSet.AdmitsPatch) ∧
      (result.skipped →
        result.error = some .partitionNotZero ∨ result.error = some .notRollingUpdate) :=
  setResources_patch_iff (statefulSetWithSecret "hunter2") (fun _ => none) "StatefulSet" "db"
    "default" ⟨some 3, []⟩ (fun _ => by simp [getStatefulSet, statefulSetWithSecret])

/-- Every patch `SetResources` sends goes to the resource `kind + "s"` of the
object, with the body the patch format describes. -/
theorem setResources_patch_body {api : PlatformAPI} {patchAnswer : PatchRequest → Option String}
    {kind name namespace_ : String} {totalResources : TotalResources}
    {result : SetResourcesResult} {request : PatchRequest}
    (ran : setResources api patchAnswer kind name namespace_ totalResources = some result)
    (sent : result.patch = some request) :
    request = ⟨kind ++ "s", namespace_, name,
      .object [("kind", .string kind), ("spec", .object totalResources.patchSpec)]⟩ := by
  unfold setResources at ran
  split at ran
  · cases ran
    cases sent
  · split at ran
    · cases ran
    · cases ran
      cases sent
    · split at ran
      · cases ran
        cases sent
      · rename_i loop
        cases ran
        cases sent
        rw [containerSpecs_eq_of_ok loop, patchBody_eq]

theorem setResources_patch_body_deployment :
    ∃ result request, setResources (deploymentWithSecret "hunter2") (fun _ => none) "Deployment"
        "web" "default" ⟨some 3, [⟨"web", ⟨some 250, none⟩, ⟨none, some 512⟩⟩]⟩ = some result ∧
      result.patch = some request ∧
      request = ⟨"Deployment" ++ "s", "default", "web", .object [("kind", .string "Deployment"),
        ("spec", .object (TotalResources.patchSpec
          ⟨some 3, [⟨"web", ⟨some 250, none⟩, ⟨none, some 512⟩⟩]⟩))]⟩ :=
  ⟨_, _, rfl, rfl, @setResources_patch_body (deploymentWithSecret "hunter2") (fun _ => none)
    "Deployment" "web" "default" ⟨some 3, [⟨"web", ⟨some 250, none⟩, ⟨none, some 512⟩⟩]⟩ _ _
    rfl rfl⟩

end MagalixAgent.Kuber
