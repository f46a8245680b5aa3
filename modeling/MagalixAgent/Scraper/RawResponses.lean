import MagalixAgent.Scraper.NodeRecords

namespace MagalixAgent.Scraper

/-! # The raw responses

With `optInAnalysisData`, each node task hands the raw summary it fetched to
`addRawResponse`, under the node's identifier, and `GetMetrics` returns the map
(`nil` without the opt-in). This module shows what the map holds after any
interleaving of node tasks that share no key: the raw summary of each node whose
summary fetch succeeded with a raw body, and nothing else. -/

/-! ## Runs of calls -/

theorem Call.written_of_rawKey_ne {call : Call} {key : String} (other : call.rawKey ≠ some key)
    (rawResponses : String → Option String) : call.written rawResponses key = rawResponses key := by
  cases call
  case addRawResponse nodeID data =>
    exact Function.update_noteq (fun same => other (congrArg some same.symm)) _ _
  all_goals rfl

/-- A run that does not write `key` leaves it as it was. -/
theorem runCalls_rawResponses_unwritten {tickTime : Time} {key : String} {calls : List Call}
    (unwritten : ∀ call ∈ calls, call.rawKey ≠ some key) (scrape : Scrape) :
    (runCalls tickTime calls scrape).rawResponses key = scrape.rawResponses key := by
  induction calls generalizing scrape with
  | nil => rfl
  | cons call rest induction =>
      rw [runCalls_cons, induction fun other member => unwritten other (List.mem_cons_of_mem _ member),
        Call.run_rawResponses, Call.written_of_rawKey_ne (unwritten call (List.mem_cons_self _ _))]

/-- A run that writes `key`, always with `data`, leaves `data` there. -/
theorem runCalls_rawResponses_written {tickTime : Time} {key data : String} {calls : List Call}
    (writes : ∀ call ∈ calls, call.rawKey = some key →
      ∀ rawResponses, call.written rawResponses key = some data)
    (written : ∃ call ∈ calls, call.rawKey = some key) (scrape : Scrape) :
    (runCalls tickTime calls scrape).rawResponses key = some data := by
  induction calls generalizing scrape with
  | nil => obtain ⟨_, absent, _⟩ := written; cases absent
  | cons call rest induction =>
      have restWrites := fun other member => writes other (List.mem_cons_of_mem call member)
      rw [runCalls_cons]
      by_cases later : ∃ other ∈ rest, other.rawKey = some key
      · exact induction restWrites later _
      · obtain ⟨writer, member, keyed⟩ := written
        have first : writer = call := by
          rcases List.mem_cons.mp member with same | inRest
          · exact same
          · exact absurd ⟨writer, inRest, keyed⟩ later
        subst first
        push_neg at later
        rw [runCalls_rawResponses_unwritten later, Call.run_rawResponses,
          writes writer (List.mem_cons_self _ _) keyed]

/-! ## The node task -/

theorem summaryCalls_rawKey {scanner : Scanner} {order : MapOrder} {node : Node}
    {summary : KubeletSummary} {call : Call}
    (member : call ∈ nodeCalls node summary ++ summary.pods.flatMap (podCalls scanner order node)) :
    call.rawKey = none := by
  simp only [List.mem_append, List.mem_flatMap] at member
  rcases member with nodeMember | ⟨pod, -, podCall⟩
  · rcases mem_nodeCalls nodeMember with ⟨_, _, rfl⟩ | ⟨_, _, rfl⟩ <;> rfl
  · obtain ⟨_, _, _, ⟨_, _, rfl⟩ | ⟨_, _, rfl⟩ | ⟨container, _, containerCall⟩⟩ :=
      mem_podCalls podCall
    · rfl
    · rfl
    · obtain ⟨_, _, _, _, ⟨_, _, rfl⟩ | rfl⟩ := mem_containerCalls containerCall <;> rfl

/-- The only raw response a node task writes is its node's fetched raw summary,
when the agent opted in. -/
theorem nodeTask_rawWrite {scanner : Scanner} {optInAnalysisData : Bool} {order : MapOrder}
    {node : Node} {response : NodeResponse} {now : Time} {call : Call} {key : String}
    (member : call ∈ (nodeTask scanner optInAnalysisData order node response now).1)
    (keyed : call.rawKey = some key) :
    optInAnalysisData = true ∧ ∃ body data, summaryFetch node response.summary = .ok body ∧
      body.raw = some data ∧ call = .addRawResponse node.id data := by
  unfold nodeTask at member
  split at member
  · cases member
  rename_i body fetched
  have raw : call ∈ rawResponseCalls optInAnalysisData node body → optInAnalysisData = true ∧
      ∃ body data, summaryFetch node response.summary = .ok body ∧ body.raw = some data ∧
        call = .addRawResponse node.id data := by
    unfold rawResponseCalls
    split
    · rename_i data found
      exact fun made => ⟨rfl, body, data, fetched, found, List.mem_singleton.mp made⟩
    · exact fun absent => by cases absent
  split at member
  · exact raw member
  simp only [List.mem_append] at member
  rcases member with (rawMember | summaryMember) | cadvisorMember
  · exact raw rawMember
  · rw [summaryCalls_rawKey (List.mem_append.mpr summaryMember)] at keyed
    cases keyed
  · obtain ⟨_, throttleMember⟩ := mem_cadvisorCalls cadvisorMember
    obtain ⟨_, _, _, _, rfl | rfl⟩ := mem_throttleCalls throttleMember <;> cases keyed

theorem mem_nodeTask_rawResponse {scanner : Scanner} {order : MapOrder} {node : Node}
    {response : NodeResponse} {now : Time} {body : SummaryBody} {data : String}
    (fetched : summaryFetch node response.summary = .ok body) (raw : body.raw = some data) :
    .addRawResponse node.id data ∈ (nodeTask scanner true order node response now).1 := by
  unfold nodeTask
  split
  · rename_i failed
    rw [fetched] at failed
    cases failed
  · rename_i fetchedAgain
    rw [fetched] at fetchedAgain
    cases fetchedAgain
    have first : .addRawResponse node.id data ∈ rawResponseCalls true node body := by
      simp [rawResponseCalls, raw]
    split
    · exact first
    · exact List.mem_append_left _ (List.mem_append_left _ first)

/-! ## The map a cycle returns -/

/-- The snapshot writes no raw response. -/
theorem Cycle.initial_rawResponses (cycle : Cycle) (kubelet : Kubelet) (key : String) :
    (cycle.initial kubelet).rawResponses key = none := by
  refine runCalls_rawResponses_unwritten (fun call member => ?_) _
  simp only [Cycle.snapshotCalls, clusterCalls, requestCalls, List.mem_append, List.mem_singleton,
    List.mem_map, List.mem_flatMap] at member
  rcases member with ((rfl | ⟨_, _, rfl⟩) | ⟨_, _, _, _, rfl⟩) | ⟨_, _, _, _, _, _, _, _, rfl⟩ <;>
    exact fun absurdKey => by cases absurdKey

/-- With the opt-in, the task of a node whose fetch returned a raw summary writes
its node's key. -/
theorem Cycle.writes_rawResponse {cycle : Cycle} {optInAnalysisData : Bool} {index : Nat}
    {node : Node} {body : SummaryBody} {data : String} (optedIn : optInAnalysisData = true)
    (found : cycle.scanner.nodes[index]? = some node)
    (fetched : summaryFetch node (cycle.responses index).summary = .ok body)
    (raw : body.raw = some data) :
    Pool.Writes (cycle.programs optInAnalysisData) index node.id.string := by
  refine ⟨.addRawResponse node.id data, ?_, rfl⟩
  rw [Cycle.getD_programs found, optedIn]
  exact mem_nodeTask_rawResponse fetched raw

/-- A task that writes a key is that of a node with this identifier, whose fetch
returned a raw summary, with the opt-in. -/
theorem Cycle.writer {cycle : Cycle} {optInAnalysisData : Bool} {index : Nat} {key : String}
    (writes : Pool.Writes (cycle.programs optInAnalysisData) index key) :
    optInAnalysisData = true ∧ ∃ node body data, cycle.scanner.nodes[index]? = some node ∧
      node.id.string = key ∧ summaryFetch node (cycle.responses index).summary = .ok body ∧
        body.raw = some data := by
  obtain ⟨call, member, keyed⟩ := writes
  obtain ⟨node, found, taskMember⟩ := Cycle.mem_programs member
  obtain ⟨optedIn, body, data, fetched, raw, rfl⟩ := nodeTask_rawWrite taskMember keyed
  cases keyed
  exact ⟨optedIn, node, body, data, found, rfl, fetched, raw⟩

/-- Run alone, the task of such a node leaves the raw summary under its node's
key. -/
theorem Cycle.alone_rawResponses {cycle : Cycle} {kubelet : Kubelet} {index : Nat} {node : Node}
    {body : SummaryBody} {data : String} (optedIn : kubelet.optInAnalysisData = true)
    (found : cycle.scanner.nodes[index]? = some node)
    (fetched : summaryFetch node (cycle.responses index).summary = .ok body)
    (raw : body.raw = some data) :
    (Pool.alone cycle.tickTime (cycle.programs kubelet.optInAnalysisData) (cycle.initial kubelet)
      index).rawResponses node.id.string = some data := by
  obtain ⟨call, member, keyed⟩ := Cycle.writes_rawResponse optedIn found fetched raw
  refine runCalls_rawResponses_written (fun other otherMember otherKeyed rawResponses => ?_)
    ⟨call, member, keyed⟩ _
  obtain ⟨otherNode, otherFound, otherTaskMember⟩ := Cycle.mem_programs otherMember
  cases found.symm.trans otherFound
  obtain ⟨-, otherBody, otherData, otherFetched, otherRaw, rfl⟩ :=
    nodeTask_rawWrite otherTaskMember otherKeyed
  cases fetched.symm.trans otherFetched
  cases raw.symm.trans otherRaw
  exact Function.update_same _ _ _

/-- Whatever the schedule, when the node tasks share no key: `GetMetrics` returns
raw responses only with `optInAnalysisData`, and then a key holds `data` exactly
when it is the identifier of a node whose summary fetch returned a body with the
raw summary `data`. -/
theorem getMetrics_raw_responses (kubelet : Kubelet) (cycle : Cycle) (schedule : List Nat)
    (separated : Pool.Separated (cycle.programs kubelet.optInAnalysisData)) (key data : String) :
    (∃ rawResponses, (getMetrics kubelet cycle schedule).rawResponses = some rawResponses ∧
        rawResponses key = some data) ↔
      kubelet.optInAnalysisData = true ∧ ∃ index node body,
        cycle.scanner.nodes[index]? = some node ∧ node.id.string = key ∧
          summaryFetch node (cycle.responses index).summary = .ok body ∧ body.raw = some data := by
  have settled := Pool.run_drain_settled cycle.tickTime _ (cycle.initial kubelet) separated schedule
  by_cases optedIn : kubelet.optInAnalysisData = true
  swap
  · simp only [getMetrics]
    rw [if_neg optedIn]
    exact ⟨fun ⟨_, absent, _⟩ => (by cases absent), fun ⟨optIn, _⟩ => absurd optIn optedIn⟩
  simp only [getMetrics]
  rw [if_pos optedIn, and_iff_right optedIn]
  simp only [Option.some.injEq, exists_eq_left']
  by_cases written : ∃ index, Pool.Writes (cycle.programs kubelet.optInAnalysisData) index key
  · obtain ⟨index, writes⟩ := written
    obtain ⟨-, node, body, stored, found, rfl, fetched, raw⟩ := Cycle.writer writes
    rw [settled.written index _ writes, Cycle.alone_rawResponses optedIn found fetched raw]
    constructor
    · rintro ⟨⟩
      exact ⟨index, node, body, found, rfl, fetched, raw⟩
    · rintro ⟨other, otherNode, otherBody, otherFound, sameKey, otherFetched, otherRaw⟩
      -- a second node with this identifier would be a second writer of the key
      have otherWrites := Cycle.writes_rawResponse optedIn otherFound otherFetched otherRaw
      rw [sameKey] at otherWrites
      cases separated.writers otherWrites writes
      cases found.symm.trans otherFound
      cases fetched.symm.trans otherFetched
      exact raw.symm.trans otherRaw
  · push_neg at written
    rw [settled.unwritten key written, Cycle.initial_rawResponses]
    simp only [reduceCtorEq, false_iff, not_exists, not_and]
    rintro index node body found rfl fetched raw
    exact written index (Cycle.writes_rawResponse optedIn found fetched raw)

theorem getMetrics_raw_responses_missing :
    ∃ rawResponses, (getMetrics ⟨RateTable.empty, true⟩ (servedCycle missingResponse) [0]).rawResponses =
      some rawResponses ∧ rawResponses exampleNode.id.string = some "{}" :=
  (getMetrics_raw_responses ⟨RateTable.empty, true⟩ (servedCycle missingResponse) [0]
    (servedCycle_separated missingResponse true) _ _).mpr
    ⟨rfl, 0, exampleNode, SummaryBody.emptyObject, rfl, rfl, rfl, rfl⟩

end MagalixAgent.Scraper
