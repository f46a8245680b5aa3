import MagalixAgent.Scraper.NodeRecords

namespace MagalixAgent.Scraper

/-! # The containers of a pod

cAdvisor may report a restarted container twice, so the pod loop first keeps
one instance per container name, `podContainers`, replacing an instance by a
later-listed one only when that one started strictly later. Every name of the
pod then makes its calls once, from the instance kept for it. -/

/-- `kept` is the instance of its name the dedup loop should keep: it is listed
in `containers`, every instance of its name listed before it started strictly
earlier, and every one listed after it started no later. -/
def LatestStarted (containers : List KubeletSummaryContainer) (kept : KubeletSummaryContainer) :
    Prop :=
  ∃ before after, containers = before ++ kept :: after ∧
    (∀ other ∈ before, other.name = kept.name →
      other.startTime.nanos < kept.startTime.nanos) ∧
    (∀ other ∈ after, other.name = kept.name → other.startTime.nanos ≤ kept.startTime.nanos)

namespace LatestStarted

/-- The instance kept started no earlier than any instance of its name. -/
theorem le {containers : List KubeletSummaryContainer} {kept : KubeletSummaryContainer}
    (latest : LatestStarted containers kept) :
    ∀ other ∈ containers, other.name = kept.name →
      other.startTime.nanos ≤ kept.startTime.nanos := by
  obtain ⟨before, after, rfl, earlier, later⟩ := latest
  intro other member sameName
  rcases List.mem_append.mp member with old | rest
  · exact le_of_lt (earlier other old sameName)
  · rcases List.mem_cons.mp rest with rfl | listedAfter
    · exact le_refl _
    · exact later other listedAfter sameName

/-- A container listed later keeps the instance when it did not start later. -/
theorem append {containers : List KubeletSummaryContainer} {kept : KubeletSummaryContainer}
    (latest : LatestStarted containers kept) (container : KubeletSummaryContainer)
    (notLater : container.name = kept.name →
      container.startTime.nanos ≤ kept.startTime.nanos) :
    LatestStarted (containers ++ [container]) kept := by
  obtain ⟨before, after, rfl, earlier, later⟩ := latest
  refine ⟨before, after ++ [container], by simp, earlier, fun other member => ?_⟩
  rcases List.mem_append.mp member with old | added
  · exact later other old
  · exact (List.mem_singleton.mp added) ▸ notLater

/-- A container that started later than every instance of its name listed
before it is the one to keep. -/
theorem last {containers : List KubeletSummaryContainer} {container : KubeletSummaryContainer}
    (later : ∀ other ∈ containers, other.name = container.name →
      other.startTime.nanos < container.startTime.nanos) :
    LatestStarted (containers ++ [container]) container :=
  ⟨containers, [], rfl, later, fun _ absent => absurd absent (List.not_mem_nil _)⟩

end LatestStarted

/-- What the dedup loop has built after the containers `seen`: one entry per
name seen, each holding the instance to keep of its name. -/
structure DedupInvariant (seen : List KubeletSummaryContainer)
    (podContainers : GoMap String KubeletSummaryContainer) : Prop where
  nodup : (podContainers.map Prod.fst).Nodup
  lookup_eq_none : ∀ name, podContainers.lookup name = none ↔ ∀ other ∈ seen, other.name ≠ name
  lookup_eq_some : ∀ name kept, podContainers.lookup name = some kept →
    kept.name = name ∧ LatestStarted seen kept

namespace DedupInvariant

variable {seen : List KubeletSummaryContainer} {podContainers : GoMap String KubeletSummaryContainer}
  {container : KubeletSummaryContainer}

theorem empty : DedupInvariant [] GoMap.empty :=
  ⟨GoMap.nodup_empty, fun _ => by simp [GoMap.lookup, GoMap.empty], fun _ _ found => by cases found⟩

/-- The two branches of the loop body that store the container. -/
theorem insert (invariant : DedupInvariant seen podContainers)
    (later : ∀ other ∈ seen, other.name = container.name →
      other.startTime.nanos < container.startTime.nanos) :
    DedupInvariant (seen ++ [container]) (podContainers.insert container.name container) where
  nodup := GoMap.nodup_insert invariant.nodup _ _
  lookup_eq_none name := by
    rw [GoMap.lookup_insert]
    by_cases same : name = container.name
    · rw [if_pos same]
      exact iff_of_false nofun fun absent =>
        absent container (List.mem_append_right _ (List.mem_singleton_self _)) same.symm
    · simp only [same, if_false, invariant.lookup_eq_none, List.mem_append, List.mem_singleton]
      exact ⟨fun absent other member => member.elim (absent other) (fun added => added ▸ Ne.symm same),
        fun absent other member => absent other (.inl member)⟩
  lookup_eq_some name kept found := by
    rw [GoMap.lookup_insert] at found
    by_cases same : name = container.name
    · rw [if_pos same, Option.some.injEq] at found
      exact ⟨found ▸ same.symm, found ▸ LatestStarted.last later⟩
    · rw [if_neg same] at found
      obtain ⟨named, latest⟩ := invariant.lookup_eq_some name kept found
      exact ⟨named, latest.append container fun sameName => absurd (sameName.trans named) (Ne.symm same)⟩

/-- The branch of the loop body that keeps the instance found. -/
theorem keep (invariant : DedupInvariant seen podContainers) {found : KubeletSummaryContainer}
    (present : podContainers.lookup container.name = some found)
    (notLater : container.startTime.nanos ≤ found.startTime.nanos) :
    DedupInvariant (seen ++ [container]) podContainers where
  nodup := invariant.nodup
  lookup_eq_none name := by
    rw [invariant.lookup_eq_none]
    by_cases same : name = container.name
    · have seenName := (invariant.lookup_eq_none name).not.mp (same ▸ present ▸ nofun)
      simp only [same, List.mem_append, List.mem_singleton] at seenName ⊢
      exact iff_of_false seenName fun absent => absent container (.inr rfl) rfl
    · simp only [List.mem_append, List.mem_singleton]
      exact ⟨fun absent other member => member.elim (absent other) (fun added => added ▸ Ne.symm same),
        fun absent other member => absent other (.inl member)⟩
  lookup_eq_some name kept lookedUp := by
    obtain ⟨named, latest⟩ := invariant.lookup_eq_some name kept lookedUp
    refine ⟨named, latest.append container fun sameName => ?_⟩
    rw [sameName, named] at present
    have same : kept = found := Option.some.inj (lookedUp.symm.trans present)
    exact same ▸ notLater

end DedupInvariant

/-- The dedup loop keeps, for every name it has seen, the instance to keep. -/
theorem dedupInvariant_dedupContainers (containers : List KubeletSummaryContainer) :
    DedupInvariant containers (dedupContainers containers) := by
  induction containers using List.reverseRecOn with
  | nil => exact DedupInvariant.empty
  | append_singleton containers container induction =>
      unfold dedupContainers at induction ⊢
      rw [List.foldl_append, List.foldl_cons, List.foldl_nil]
      split
      · rename_i absent
        exact induction.insert fun other member sameName =>
          absurd sameName ((induction.lookup_eq_none _).mp absent other member)
      · rename_i found present
        split
        · rename_i later
          exact induction.insert fun other member sameName =>
            lt_of_le_of_lt (((induction.lookup_eq_some _ _ present).2.le other member)
              (sameName.trans (induction.lookup_eq_some _ _ present).1.symm)) later
        · rename_i notLater
          exact induction.keep present (not_lt.mp notLater)

/-- The dedup loop keeps one entry per name of the pod, each the instance to
keep of its name. -/
theorem dedupContainers_entries (containers : List KubeletSummaryContainer) :
    ∀ entry ∈ dedupContainers containers,
      entry.2.name = entry.1 ∧ LatestStarted containers entry.2 := fun _ member =>
  have invariant := dedupInvariant_dedupContainers containers
  invariant.lookup_eq_some _ _ (GoMap.lookup_of_mem invariant.nodup member)

/-- For a pod that `FindService` resolves, the pod loop keeps one container per
name, the latest started and, among those that started together, the first
listed; the pod then makes the calls it makes for itself, followed by the
calls of each kept container once. A kept container makes no call exactly
when `FindContainer` misses it. -/
theorem podCalls_latest_containers (scanner : Scanner) (order : MapOrder) (node : Node)
    (pod : KubeletSummaryPod)
    (resolved : scanner.findService pod.podRef.namespace_ pod.podRef.name ≠ none) :
    ∃ kept : List KubeletSummaryContainer,
      (kept.map KubeletSummaryContainer.name).Nodup ∧
      (∀ name, name ∈ kept.map KubeletSummaryContainer.name ↔
        ∃ container ∈ pod.containers, container.name = name) ∧
      (∀ container ∈ kept, LatestStarted pod.containers container) ∧
      podCalls scanner order node pod =
        podCalls scanner order node { pod with containers := [] } ++
          kept.flatMap (containerCalls scanner node pod) ∧
      (∀ container ∈ kept, containerCalls scanner node pod container = [] ↔
        scanner.findContainer pod.podRef.namespace_ pod.podRef.name container.name = none) := by
  have invariant := dedupInvariant_dedupContainers pod.containers
  have entries := dedupContainers_entries pod.containers
  have keys : (order.arrange (dedupContainers pod.containers)).map
      (KubeletSummaryContainer.name ∘ Prod.snd) =
        (order.arrange (dedupContainers pod.containers)).map Prod.fst :=
    List.map_congr_left fun entry arranged => (entries entry (order.mem_arrange.mp arranged)).1
  refine ⟨(order.arrange (dedupContainers pod.containers)).map Prod.snd, ?_, fun name => ?_,
    fun container member => ?_, ?_, fun container _ => ?_⟩
  · rw [List.map_map, keys]
    exact ((order.perm _).map Prod.fst).nodup_iff.mpr invariant.nodup
  · rw [List.map_map, keys, ((order.perm _).map Prod.fst).mem_iff, ← GoMap.lookup_eq_none.not_left,
      invariant.lookup_eq_none]
    simp
  · obtain ⟨entry, arranged, rfl⟩ := List.mem_map.mp member
    exact (entries entry (order.mem_arrange.mp arranged)).2
  · obtain ⟨ids, found⟩ := Option.ne_none_iff_exists'.mp resolved
    have noContainers : dedupContainers ([] : List KubeletSummaryContainer) = [] := rfl
    simp [podCalls, found, noContainers, List.flatMap_map, podMeasurements, podRates]
  · unfold containerCalls
    split <;> simp [*]

/-- A pod whose container `web` was restarted: cAdvisor lists the old instance,
started at `1`, and the new one, started at `2`. -/
def restartedPod : KubeletSummaryPod :=
  { podRef := ⟨"web-0", "shop"⟩,
    containers := [{ name := "web", startTime := ⟨1⟩ }, { name := "web", startTime := ⟨2⟩ }] }

theorem podCalls_latest_containers_restarted :
    ∃ kept : List KubeletSummaryContainer,
      (kept.map KubeletSummaryContainer.name).Nodup ∧
      (∀ name, name ∈ kept.map KubeletSummaryContainer.name ↔
        ∃ container ∈ restartedPod.containers, container.name = name) ∧
      (∀ container ∈ kept, LatestStarted restartedPod.containers container) ∧
      podCalls servedSnapshot MapOrder.insertion exampleNode restartedPod =
        podCalls servedSnapshot MapOrder.insertion exampleNode
            { restartedPod with containers := [] } ++
          kept.flatMap (containerCalls servedSnapshot exampleNode restartedPod) ∧
      (∀ container ∈ kept, containerCalls servedSnapshot exampleNode restartedPod container = [] ↔
        servedSnapshot.findContainer restartedPod.podRef.namespace_ restartedPod.podRef.name
          container.name = none) :=
  podCalls_latest_containers servedSnapshot MapOrder.insertion exampleNode restartedPod
    (by simp [servedSnapshot])

/-- `servedSnapshot` with a `FindContainer` that misses every container. -/
def unmatchedSnapshot : Scanner := { servedSnapshot with findContainer := fun _ _ _ => none }

/-- The pod resolves, yet its container name `web` makes no call at all: the
pod makes the calls it would make with no containers. -/
theorem podCalls_unmatched_container :
    unmatchedSnapshot.findService restartedPod.podRef.namespace_ restartedPod.podRef.name =
        some (uuidOf 2, uuidOf 3) ∧
      podCalls unmatchedSnapshot MapOrder.insertion exampleNode restartedPod =
        podCalls unmatchedSnapshot MapOrder.insertion exampleNode
          { restartedPod with containers := [] } :=
  ⟨rfl, rfl⟩

end MagalixAgent.Scraper
