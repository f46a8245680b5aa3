import MagalixAgent.Scraper.GetMetrics

namespace MagalixAgent.Scraper

/-! # Interleaved node tasks

A critical section changes the shared state in one of three ways: it appends
records, it stores a sample under a rate key, or it writes a body under a
raw-response key; and it reads the table only at its own call's key. This module
states that once (`Call.step_eq`), and derives from it what every interleaving
of the node tasks does:

* whatever the schedule, every record comes from the calls the tasks were given
  (`Pool.run_origin`), and records once appended stay (`Pool.metrics_prefix_run`);
* when no two tasks share a rate key or a raw-response key (`Separated`), each task
  in an interleaving is exactly its run alone after as many sections as it has
  taken (`Follows`), so after `pr.Do()` the shared state is the same for every
  schedule (`Pool.run_drain_settled`). -/

/-- What one critical section does to the shared state: the records it appends,
the sample it stores under a rate key, and the body it writes under a
raw-response key. -/
structure Effect where
  appended : List Metrics
  stored : Option (String × KubeletValue)
  written : Option (String × String)

namespace Effect

/-- The section that changes nothing. -/
def none : Effect := ⟨[], Option.none, Option.none⟩

/-- The shared state after the section. -/
def apply (effect : Effect) (scrape : Scrape) : Scrape where
  metrics := scrape.metrics ++ effect.appended
  rawResponses :=
    match effect.written with
    | Option.none => scrape.rawResponses
    | some (key, data) => Function.update scrape.rawResponses key (some data)
  previous :=
    match effect.stored with
    | Option.none => scrape.previous
    | some (key, sample) => updatePreviousValue scrape.previous key sample

@[simp] theorem apply_none (scrape : Scrape) : none.apply scrape = scrape := by
  simp [none, apply]

@[simp] theorem apply_metrics (effect : Effect) (scrape : Scrape) :
    (effect.apply scrape).metrics = scrape.metrics ++ effect.appended := rfl

/-- A key the section does not store under keeps its sample. -/
theorem apply_previous_of_ne {effect : Effect} {key : String}
    (other : ∀ sample, effect.stored ≠ some (key, sample)) (scrape : Scrape) :
    (effect.apply scrape).previous key = scrape.previous key := by
  rcases effect with ⟨_, _ | ⟨stored, sample⟩, _⟩
  · rfl
  · have different : key ≠ stored := by
      rintro rfl
      exact other sample rfl
    exact updatePreviousValue_other _ _ different

/-- Two states that agree at a key still agree there after the section. -/
theorem apply_previous_congr (effect : Effect) {left right : Scrape} {key : String}
    (same : left.previous key = right.previous key) :
    (effect.apply left).previous key = (effect.apply right).previous key := by
  rcases effect with ⟨_, _ | ⟨stored, sample⟩, _⟩
  · exact same
  · by_cases here : key = stored
    · subst here
      simp [apply]
    · simp only [apply]
      rw [updatePreviousValue_other _ _ here, updatePreviousValue_other _ _ here, same]

theorem apply_rawResponses_of_ne {effect : Effect} {key : String}
    (other : ∀ data, effect.written ≠ some (key, data)) (scrape : Scrape) :
    (effect.apply scrape).rawResponses key = scrape.rawResponses key := by
  rcases effect with ⟨_, _, _ | ⟨written, data⟩⟩
  · rfl
  · have different : key ≠ written := by
      rintro rfl
      exact other data rfl
    exact Function.update_noteq different _ _

theorem apply_rawResponses_congr (effect : Effect) {left right : Scrape} {key : String}
    (same : left.rawResponses key = right.rawResponses key) :
    (effect.apply left).rawResponses key = (effect.apply right).rawResponses key := by
  rcases effect with ⟨_, _, _ | ⟨written, data⟩⟩
  · exact same
  · by_cases here : key = written
    · subst here
      simp [apply]
    · simp only [apply]
      rw [Function.update_noteq here, Function.update_noteq here, same]

end Effect

/-! ## One section -/

namespace Call

/-- The sample the table holds at the call's rate key. -/
def read (call : Call) (previous : RateTable) : Option KubeletValue :=
  match call.rateKey with
  | some key => previous key
  | Option.none => Option.none

/-- A critical section of a call from `phase`, told the sample the table holds at
the call's key: its effect, and the phase the call goes on from. Only the first
section of `addMetricValueRate` uses the sample. -/
def effect (tickTime : Time) : Call → Phase → Option KubeletValue → Effect × Option Phase
  | addMetricValueRate .., .start, sample => (Effect.none, some (.read sample))
  | addMetricValueRate measurementType parentKey entityKey measurement _ _ _ _ _ timestamp value
      multiplier, .read sample, _ =>
      (⟨[], some (getKey measurementType parentKey entityKey measurement,
          ⟨timestamp.orTickTime tickTime, value⟩), Option.none⟩,
        some (.stored (match sample with
          | Option.none => .error "No previous value"
          | some sample => rateSince sample (timestamp.orTickTime tickTime) value multiplier)))
  | addMetricValueRate measurementType _ _ measurement nodeID applicationID serviceID containerID
      pod timestamp _ _, .stored rate, _ =>
      (⟨match rate with
          | .error _ => []
          | .ok rate => [metricValue tickTime measurementType measurement nodeID applicationID
              serviceID containerID pod (timestamp.orTickTime tickTime) rate],
        Option.none, Option.none⟩, Option.none)
  | addMetricValue measurementType measurement nodeID applicationID serviceID containerID
      podName timestamp value, _, _ =>
      (⟨[metricValue tickTime measurementType measurement nodeID applicationID serviceID
          containerID podName timestamp value], Option.none, Option.none⟩, Option.none)
  | addMetricValueWithTags measurementType measurement nodeID applicationID serviceID
      containerID podName timestamp value additionalTags, _, _ =>
      (⟨[taggedValue measurementType measurement nodeID applicationID serviceID containerID
          podName timestamp value additionalTags], Option.none, Option.none⟩, Option.none)
  | addRawResponse nodeID data, _, _ =>
      (⟨[], Option.none, some (nodeID.string, data)⟩, Option.none)

/-- A section is its effect, given what the table holds at the call's key. -/
theorem step_eq (tickTime : Time) (call : Call) (phase : Phase) (scrape : Scrape) :
    call.step tickTime phase scrape =
      ((call.effect tickTime phase (call.read scrape.previous)).1.apply scrape,
        (call.effect tickTime phase (call.read scrape.previous)).2) := by
  cases call <;> cases phase <;> simp [step, effect, read, rateKey, Effect.apply, Effect.none, run]
  -- the rate call's outcome, a match on the sample it read
  all_goals split <;> simp

theorem effect_stored {tickTime : Time} {call : Call} {phase : Phase}
    {sample : Option KubeletValue} {key : String} {stored : KubeletValue}
    (storing : (call.effect tickTime phase sample).1.stored = some (key, stored)) :
    call.rateKey = some key := by
  cases call <;> cases phase <;> simp_all [effect, rateKey, Effect.none]

theorem effect_written {tickTime : Time} {call : Call} {phase : Phase}
    {sample : Option KubeletValue} {key data : String}
    (writing : (call.effect tickTime phase sample).1.written = some (key, data)) :
    call.rawKey = some key := by
  cases call <;> cases phase <;> simp_all [effect, rawKey, Effect.none]

theorem yields_of_mem_effect {tickTime : Time} {call : Call} {phase : Phase}
    {sample : Option KubeletValue} {record : Metrics}
    (member : record ∈ (call.effect tickTime phase sample).1.appended) :
    call.Yields tickTime record := by
  cases call <;> cases phase <;> simp [effect, Effect.none] at member <;> simp only [Yields, member]
  case addMetricValueRate.stored rate =>
    cases rate <;> simp only [List.not_mem_nil, List.mem_singleton] at member
    exact ⟨_, member⟩

end Call
/-! ## One task -/

@[simp] theorem sectionsOf_nil : sectionsOf [] = 0 := rfl

@[simp] theorem sectionsOf_cons (call : Call) (calls : List Call) :
    sectionsOf (call :: calls) = call.sections + sectionsOf calls := rfl

namespace Task

/-- The sample the table holds at the key of the task's next call. -/
def read (task : Task) (previous : RateTable) : Option KubeletValue :=
  match task.calls with
  | [] => Option.none
  | call :: _ => call.read previous

/-- The task's next section, told what the table holds at its call's key: the
task after it, and its effect. -/
def effect (tickTime : Time) (task : Task) (sample : Option KubeletValue) : Task × Effect :=
  match task.calls with
  | [] => (task, Effect.none)
  | call :: rest =>
      match call.effect tickTime task.phase sample with
      | (effect, Option.none) => (⟨rest, .start⟩, effect)
      | (effect, some phase) => (⟨call :: rest, phase⟩, effect)

theorem step_eq (tickTime : Time) (task : Task) (scrape : Scrape) :
    task.step tickTime scrape =
      ((task.effect tickTime (task.read scrape.previous)).1,
        (task.effect tickTime (task.read scrape.previous)).2.apply scrape) := by
  rcases task with ⟨_ | ⟨call, rest⟩, phase⟩
  · simp [step, effect]
  · simp only [step, effect, read, Call.step_eq]
    rcases call.effect tickTime phase (call.read scrape.previous) with ⟨_, _ | _⟩ <;> rfl

/-- The effect of a task's section is that of its next call. -/
theorem effect_snd (tickTime : Time) (task : Task) (sample : Option KubeletValue) :
    (task.effect tickTime sample).2 =
      match task.calls with
      | [] => Effect.none
      | call :: _ => (call.effect tickTime task.phase sample).1 := by
  rcases task with ⟨_ | ⟨call, rest⟩, phase⟩
  · rfl
  · simp only [effect]
    rcases call.effect tickTime phase sample with ⟨_, _ | _⟩ <;> rfl

theorem effect_calls (tickTime : Time) (task : Task) (sample : Option KubeletValue) :
    (task.effect tickTime sample).1.calls <:+ task.calls := by
  rcases task with ⟨_ | ⟨call, rest⟩, phase⟩
  · exact List.suffix_refl _
  · simp only [effect]
    rcases call.effect tickTime phase sample with ⟨_, _ | _⟩
    · exact List.suffix_cons _ _
    · exact List.suffix_refl _

theorem effect_stored {tickTime : Time} {task : Task} {sample : Option KubeletValue}
    {key : String} {stored : KubeletValue}
    (storing : (task.effect tickTime sample).2.stored = some (key, stored)) :
    ∃ call ∈ task.calls, call.rateKey = some key := by
  rw [effect_snd] at storing
  rcases task with ⟨_ | ⟨call, rest⟩, phase⟩
  · cases storing
  · exact ⟨call, List.mem_cons_self _ _, Call.effect_stored storing⟩

theorem effect_written {tickTime : Time} {task : Task} {sample : Option KubeletValue}
    {key data : String} (writing : (task.effect tickTime sample).2.written = some (key, data)) :
    ∃ call ∈ task.calls, call.rawKey = some key := by
  rw [effect_snd] at writing
  rcases task with ⟨_ | ⟨call, rest⟩, phase⟩
  · cases writing
  · exact ⟨call, List.mem_cons_self _ _, Call.effect_written writing⟩

theorem yields_of_mem_effect {tickTime : Time} {task : Task} {sample : Option KubeletValue}
    {record : Metrics} (member : record ∈ (task.effect tickTime sample).2.appended) :
    ∃ call ∈ task.calls, call.Yields tickTime record := by
  rw [effect_snd] at member
  rcases task with ⟨_ | ⟨call, rest⟩, phase⟩
  · cases member
  · exact ⟨call, List.mem_cons_self _ _, Call.yields_of_mem_effect member⟩

/-- A task reads the table only at the keys of its calls. -/
theorem read_congr (task : Task) {left right : RateTable}
    (same : ∀ call ∈ task.calls, ∀ key, call.rateKey = some key → left key = right key) :
    task.read left = task.read right := by
  rcases task with ⟨_ | ⟨call, rest⟩, phase⟩
  · rfl
  · show call.read left = call.read right
    unfold Call.read
    split
    · exact same call (List.mem_cons_self _ _) _ ‹_›
    · rfl

theorem run_add (tickTime : Time) (first second : Nat) (state : Task × Scrape) :
    run tickTime (first + second) state = run tickTime second (run tickTime first state) := by
  induction first generalizing state with
  | zero => rw [Nat.zero_add]; rfl
  | succ count induction =>
      rw [Nat.succ_add]
      exact induction _

theorem run_succ (tickTime : Time) (count : Nat) (state : Task × Scrape) :
    run tickTime (count + 1) state =
      (run tickTime count state).1.step tickTime (run tickTime count state).2 :=
  run_add tickTime count 1 state

/-- A call run section by section with nobody else running is the call run at
once. -/
theorem run_call (tickTime : Time) (call : Call) (rest : List Call) (scrape : Scrape) :
    run tickTime call.sections (⟨call :: rest, .start⟩, scrape) =
      (⟨rest, .start⟩, call.run tickTime scrape) := by
  cases call <;> simp [run, step, Call.sections, Call.step, Call.run, calcRate_eq]
  case addMetricValueRate measurementType parentKey entityKey measurement _ _ _ _ _ timestamp value
      multiplier =>
    cases scrape.previous (getKey measurementType parentKey entityKey measurement) with
    | none => rfl
    | some sample =>
        simp only
        cases rateSince sample (timestamp.orTickTime tickTime) value multiplier <;> rfl


/-- A task alone runs its calls one after another in as many sections as they
take. -/
theorem run_sectionsOf (tickTime : Time) (calls : List Call) (scrape : Scrape) :
    run tickTime (sectionsOf calls) (⟨calls, .start⟩, scrape) =
      (⟨[], .start⟩, runCalls tickTime calls scrape) := by
  induction calls generalizing scrape with
  | nil => rfl
  | cons call rest induction => rw [sectionsOf_cons, run_add, run_call, induction]; rfl

/-- A finished task stays finished. -/
theorem run_done (tickTime : Time) (count : Nat) (scrape : Scrape) :
    run tickTime count (⟨[], .start⟩, scrape) = (⟨[], .start⟩, scrape) := by
  induction count with
  | zero => rfl
  | succ count induction => exact induction

theorem run_of_le (tickTime : Time) {calls : List Call} {count : Nat}
    (enough : sectionsOf calls ≤ count) (scrape : Scrape) :
    run tickTime count (start calls, scrape) = (⟨[], .start⟩, runCalls tickTime calls scrape) := by
  obtain ⟨extra, rfl⟩ := Nat.exists_eq_add_of_le enough
  rw [run_add, start, run_sectionsOf, run_done]

end Task

/-! ## Any schedule -/

namespace Pool

theorem run_cons (tickTime : Time) (pool : Pool) (index : Nat) (schedule : List Nat) :
    pool.run tickTime (index :: schedule) = (pool.step tickTime index).run tickTime schedule := rfl

theorem run_append (tickTime : Time) (pool : Pool) (first second : List Nat) :
    pool.run tickTime (first ++ second) = (pool.run tickTime first).run tickTime second :=
  List.foldl_append _ _ _ _

/-- A step is the effect of task `index`'s next section, given what the table
holds at its call's key. -/
theorem step_eq (tickTime : Time) (pool : Pool) (index : Nat) :
    pool.step tickTime index =
      let task := pool.tasks index
      let next := task.effect tickTime (task.read pool.scrape.previous)
      ⟨Function.update pool.tasks index next.1, next.2.apply pool.scrape⟩ := by
  simp only [step, Task.step_eq]

/-- Records once appended stay. -/
theorem metrics_prefix_run (tickTime : Time) (pool : Pool) (schedule : List Nat) :
    pool.scrape.metrics <+: (pool.run tickTime schedule).scrape.metrics := by
  induction schedule generalizing pool with
  | nil => exact List.prefix_refl _
  | cons index rest induction =>
      rw [run_cons]
      refine List.IsPrefix.trans ?_ (induction _)
      rw [step_eq]
      exact List.prefix_append _ _

section Origin

variable (tickTime : Time) (programs : List (List Call)) (initial : List Metrics)

/-- Each task has a suffix of its program left, and every record was there at
the start or is one a call of some program yields. -/
structure Origin (pool : Pool) : Prop where
  suffix : ∀ index, (pool.tasks index).calls <:+ programs.getD index []
  records : ∀ record ∈ pool.scrape.metrics,
    record ∈ initial ∨ ∃ index, ∃ call ∈ programs.getD index [], call.Yields tickTime record

theorem Origin.step {pool : Pool} (origin : Origin tickTime programs initial pool)
    (index : Nat) : Origin tickTime programs initial (pool.step tickTime index) := by
  rw [step_eq]
  constructor
  · intro other
    by_cases here : other = index
    · subst here
      simpa using (Task.effect_calls _ _ _).trans (origin.suffix other)
    · simpa [Function.update_noteq here] using origin.suffix other
  · intro record member
    rcases List.mem_append.mp member with old | new
    · exact origin.records record old
    · obtain ⟨call, callMember, yields⟩ := Task.yields_of_mem_effect new
      exact .inr ⟨index, call, (origin.suffix index).mem callMember, yields⟩

theorem Origin.run {pool : Pool} (origin : Origin tickTime programs initial pool)
    (schedule : List Nat) : Origin tickTime programs initial (pool.run tickTime schedule) := by
  induction schedule generalizing pool with
  | nil => exact origin
  | cons index rest induction => exact induction (origin.step tickTime programs initial index)

end Origin

/-- Whatever the schedule, every record was there at the start or is one that a
call of some task's program yields. -/
theorem run_origin (tickTime : Time) (programs : List (List Call)) (initial : Scrape)
    (schedule : List Nat) :
    ∀ record ∈ ((start programs initial).run tickTime schedule).scrape.metrics,
      record ∈ initial.metrics ∨ ∃ index, ∃ call ∈ programs.getD index [], call.Yields tickTime record :=
  (Origin.run tickTime programs initial.metrics
    ⟨fun _ => List.suffix_refl _, fun _ member => .inl member⟩ schedule).records

/-! ## One task after another -/

theorem run_replicate (tickTime : Time) (pool : Pool) (index count : Nat) :
    pool.run tickTime (List.replicate count index) =
      ⟨Function.update pool.tasks index (Task.run tickTime count (pool.tasks index, pool.scrape)).1,
        (Task.run tickTime count (pool.tasks index, pool.scrape)).2⟩ := by
  induction count generalizing pool with
  | zero => simp [Pool.run, Task.run]
  | succ count induction =>
      rw [List.replicate_succ, run_cons, induction]
      simp [step, Task.run]

/-- A task no turn is given to stays as it is. -/
theorem run_tasks_of_not_mem (tickTime : Time) (pool : Pool) {schedule : List Nat} {index : Nat}
    (absent : index ∉ schedule) : (pool.run tickTime schedule).tasks index = pool.tasks index := by
  induction schedule generalizing pool with
  | nil => rfl
  | cons turn rest induction =>
      rw [run_cons, induction _ fun member => absent (List.mem_cons_of_mem _ member)]
      exact Function.update_noteq (fun same => absent (by rw [same]; exact List.mem_cons_self _ _))
        _ _

theorem drain_append_single (programs : List (List Call)) (calls : List Call) :
    drain (programs ++ [calls]) =
      drain programs ++ List.replicate (sectionsOf calls) programs.length := by
  unfold drain
  rw [List.length_append, List.length_singleton, List.range_succ, List.flatMap_append,
    List.flatMap_singleton, List.getD_append_right _ _ _ _ le_rfl, Nat.sub_self]
  congr 1
  exact List.flatMap_congr fun index inside => by
    rw [List.getD_append _ _ _ _ (List.mem_range.mp inside)]

theorem mem_drain {programs : List (List Call)} {index : Nat} (member : index ∈ drain programs) :
    index < programs.length := by
  simp only [drain, List.mem_flatMap, List.mem_range, List.mem_replicate] at member
  obtain ⟨other, inside, _, rfl⟩ := member
  exact inside

/-- `pr.Do()` with no turn taken before it runs the tasks one after another. -/
theorem run_drain (tickTime : Time) (programs : List (List Call)) (pool : Pool)
    (fresh : ∀ index < programs.length, pool.tasks index = Task.start (programs.getD index [])) :
    (pool.run tickTime (drain programs)).scrape = runCalls tickTime programs.flatten pool.scrape := by
  induction programs using List.reverseRecOn generalizing pool with
  | nil => rfl
  | append_singleton programs calls induction =>
      have earlier : ∀ index < programs.length,
          pool.tasks index = Task.start (programs.getD index []) := fun index inside => by
        rw [fresh index (by simp; omega), List.getD_append _ _ _ _ inside]
      have last : (pool.run tickTime (drain programs)).tasks programs.length = Task.start calls := by
        rw [run_tasks_of_not_mem _ _ fun member => (mem_drain member).false, fresh _ (by simp)]
        simp
      rw [drain_append_single, run_append, run_replicate, last, List.flatten_append,
        List.flatten_singleton, runCalls_append, ← induction pool earlier]
      exact congrArg Prod.snd (Task.run_sectionsOf tickTime calls _)

/-! ## Separated tasks -/

section Separation

variable (tickTime : Time) (programs : List (List Call)) (initial : Scrape)

/-- Task `index` reads and writes the rate key `key`. -/
def Owns (index : Nat) (key : String) : Prop :=
  ∃ call ∈ programs.getD index [], call.rateKey = some key

/-- Task `index` writes the raw-response key `key`. -/
def Writes (index : Nat) (key : String) : Prop :=
  ∃ call ∈ programs.getD index [], call.rawKey = some key

/-- No two tasks share a rate key or a raw-response key. -/
structure Separated : Prop where
  owners : ∀ {key : String} {index other : Nat},
    Owns programs index key → Owns programs other key → index = other
  writers : ∀ {key : String} {index other : Nat},
    Writes programs index key → Writes programs other key → index = other

/-- Task `index` alone from `initial`, after `count` sections. -/
def solo (index count : Nat) : Task × Scrape :=
  Task.run tickTime count (Task.start (programs.getD index []), initial)

/-- The records task `index` appends in its first `count` sections alone. -/
def soloRecords (index count : Nat) : List Metrics :=
  (solo tickTime programs initial index count).2.metrics.drop initial.metrics.length

/-- Task `index` run alone from `initial` to its end. -/
def alone (index : Nat) : Scrape :=
  runCalls tickTime (programs.getD index []) initial

theorem solo_succ (index count : Nat) :
    solo tickTime programs initial index (count + 1) =
      (solo tickTime programs initial index count).1.step tickTime
        (solo tickTime programs initial index count).2 :=
  Task.run_succ _ _ _

theorem solo_calls (index count : Nat) :
    (solo tickTime programs initial index count).1.calls <:+ programs.getD index [] := by
  induction count with
  | zero => exact List.suffix_refl _
  | succ count induction =>
      rw [solo_succ, Task.step_eq]
      exact (Task.effect_calls _ _ _).trans induction

theorem solo_metrics (index count : Nat) :
    (solo tickTime programs initial index count).2.metrics =
      initial.metrics ++ soloRecords tickTime programs initial index count := by
  have grown : initial.metrics <+: (solo tickTime programs initial index count).2.metrics := by
    induction count with
    | zero => exact List.prefix_refl _
    | succ count induction =>
        rw [solo_succ, Task.step_eq, Effect.apply_metrics]
        exact induction.trans (List.prefix_append _ _)
  exact (List.prefix_iff_eq_append.mp grown).symm

/-- A section alone appends its effect's records to the task's. -/
theorem soloRecords_succ (index count : Nat) :
    let task := (solo tickTime programs initial index count).1
    soloRecords tickTime programs initial index (count + 1) =
      soloRecords tickTime programs initial index count ++
        (task.effect tickTime (task.read (solo tickTime programs initial index count).2.previous)).2.appended := by
  have next := solo_metrics tickTime programs initial index (count + 1)
  rw [solo_succ, Task.step_eq, Effect.apply_metrics, solo_metrics, List.append_assoc] at next
  exact (List.append_cancel_left next).symm

theorem solo_of_le {index count : Nat} (enough : sectionsOf (programs.getD index []) ≤ count) :
    solo tickTime programs initial index count = (⟨[], .start⟩, alone tickTime programs initial index) :=
  Task.run_of_le tickTime enough initial

/-- In an interleaving, each task is its run alone after as many sections as it
has taken; each key a task owns holds what its run alone stored there, every
other key what it held at the start; and the shared slice holds the initial
records and every task's records. -/
structure Follows (progress : Nat → Nat) (pool : Pool) : Prop where
  tasks : ∀ index, pool.tasks index = (solo tickTime programs initial index (progress index)).1
  owned : ∀ index key, Owns programs index key →
    pool.scrape.previous key = (solo tickTime programs initial index (progress index)).2.previous key
  unowned : ∀ key, (∀ index, ¬Owns programs index key) →
    pool.scrape.previous key = initial.previous key
  written : ∀ index key, Writes programs index key →
    pool.scrape.rawResponses key =
      (solo tickTime programs initial index (progress index)).2.rawResponses key
  unwritten : ∀ key, (∀ index, ¬Writes programs index key) →
    pool.scrape.rawResponses key = initial.rawResponses key
  records : (pool.scrape.metrics : Multiset Metrics) = initial.metrics +
    ∑ index ∈ Finset.range programs.length,
      (soloRecords tickTime programs initial index (progress index) : Multiset Metrics)

theorem Follows.start : Follows tickTime programs initial (fun _ => 0) (start programs initial) where
  tasks _ := rfl
  owned _ _ _ := rfl
  unowned _ _ := rfl
  written _ _ _ := rfl
  unwritten _ _ := rfl
  records := by simp [soloRecords, solo, Task.run, Pool.start]

/-- A section that appends records belongs to a task with a program. -/
theorem appended_of_range (index count : Nat) :
    let task := (solo tickTime programs initial index count).1
    (task.effect tickTime (task.read (solo tickTime programs initial index count).2.previous)).2.appended = [] ∨
      index ∈ Finset.range programs.length := by
  intro task
  by_cases empty : (task.effect tickTime
      (task.read (solo tickTime programs initial index count).2.previous)).2.appended = []
  · exact .inl empty
  · obtain ⟨record, member⟩ := List.exists_mem_of_ne_nil _ empty
    obtain ⟨call, callMember, -⟩ := Task.yields_of_mem_effect member
    have inProgram := (solo_calls tickTime programs initial index count).mem callMember
    refine .inr (Finset.mem_range.mpr (not_le.mp fun outside => ?_))
    rw [List.getD_eq_default _ _ outside] at inProgram
    cases inProgram

/-- One section of task `index` adds the records it appends to that task's share
of the sum. -/
theorem sum_soloRecords_update (progress : Nat → Nat) (index : Nat) :
    let task := (solo tickTime programs initial index (progress index)).1
    ∑ other ∈ Finset.range programs.length, (soloRecords tickTime programs initial other
        (Function.update progress index (progress index + 1) other) : Multiset Metrics) =
      ∑ other ∈ Finset.range programs.length,
          (soloRecords tickTime programs initial other (progress other) : Multiset Metrics) +
        ((task.effect tickTime
          (task.read (solo tickTime programs initial index (progress index)).2.previous)).2.appended :
            Multiset Metrics) := by
  intro task
  have split : ∀ other, (soloRecords tickTime programs initial other
      (Function.update progress index (progress index + 1) other) : Multiset Metrics) =
      soloRecords tickTime programs initial other (progress other) +
        if other = index then ((task.effect tickTime (task.read
          (solo tickTime programs initial index (progress index)).2.previous)).2.appended :
            Multiset Metrics) else 0 := by
    intro other
    by_cases here : other = index
    · subst here
      simp [soloRecords_succ, task]
    · simp [Function.update_noteq here, here]
  rw [Finset.sum_congr rfl fun other _ => split other, Finset.sum_add_distrib, Finset.sum_ite_eq']
  rcases appended_of_range tickTime programs initial index (progress index) with empty | inRange
  · simp [task, empty]
  · rw [if_pos inRange]

variable {tickTime programs initial} in
/-- One section of task `index` advances its progress by one. -/
theorem Follows.step (separated : Separated programs) {progress : Nat → Nat} {pool : Pool}
    (follows : Follows tickTime programs initial progress pool) (index : Nat) :
    Follows tickTime programs initial (Function.update progress index (progress index + 1))
      (pool.step tickTime index) := by
  set alone := solo tickTime programs initial index (progress index)
  set next := alone.1.effect tickTime (alone.1.read alone.2.previous) with nextEq
  have taskEq : pool.tasks index = alone.1 := follows.tasks index
  have sameRead : alone.1.read pool.scrape.previous = alone.1.read alone.2.previous :=
    Task.read_congr _ fun call member key keyed =>
      follows.owned index key ⟨call, (solo_calls tickTime programs initial index _).mem member, keyed⟩
  have soloNext : solo tickTime programs initial index (progress index + 1) =
      (next.1, next.2.apply alone.2) := by
    rw [solo_succ, Task.step_eq]
  have poolNext : pool.step tickTime index =
      ⟨Function.update pool.tasks index next.1, next.2.apply pool.scrape⟩ := by
    rw [step_eq]
    simp only [taskEq, sameRead, nextEq]
  have storedOwned : ∀ key sample, next.2.stored = some (key, sample) → Owns programs index key :=
    fun _ _ storing =>
      let ⟨call, member, keyed⟩ := Task.effect_stored storing
      ⟨call, (solo_calls tickTime programs initial index _).mem member, keyed⟩
  have writtenOwned : ∀ key data, next.2.written = some (key, data) → Writes programs index key :=
    fun _ _ writing =>
      let ⟨call, member, keyed⟩ := Task.effect_written writing
      ⟨call, (solo_calls tickTime programs initial index _).mem member, keyed⟩
  rw [poolNext]
  constructor
  · intro other
    by_cases here : other = index
    · subst here
      simp [soloNext]
    · simp [Function.update_noteq here, follows.tasks other]
  · intro other key owns
    by_cases here : other = index
    · subst here
      simpa [soloNext] using Effect.apply_previous_congr next.2 (follows.owned other key owns)
    · rw [Function.update_noteq here, Effect.apply_previous_of_ne, follows.owned other key owns]
      exact fun sample storing => here (separated.owners owns (storedOwned key sample storing))
  · intro key unowned
    rw [Effect.apply_previous_of_ne, follows.unowned key unowned]
    exact fun sample storing => unowned index (storedOwned key sample storing)
  · intro other key writes
    by_cases here : other = index
    · subst here
      simpa [soloNext] using Effect.apply_rawResponses_congr next.2 (follows.written other key writes)
    · rw [Function.update_noteq here, Effect.apply_rawResponses_of_ne, follows.written other key writes]
      exact fun data writing => here (separated.writers writes (writtenOwned key data writing))
  · intro key unwritten
    rw [Effect.apply_rawResponses_of_ne, follows.unwritten key unwritten]
    exact fun data writing => unwritten index (writtenOwned key data writing)
  · rw [Effect.apply_metrics, ← Multiset.coe_add, follows.records, sum_soloRecords_update,
      add_assoc]

variable {tickTime programs initial} in
/-- Along a schedule, each task advances by the number of its turns. -/
theorem Follows.run (separated : Separated programs) {progress : Nat → Nat} {pool : Pool}
    (follows : Follows tickTime programs initial progress pool) (schedule : List Nat) :
    Follows tickTime programs initial (fun index => progress index + schedule.count index)
      (pool.run tickTime schedule) := by
  induction schedule generalizing progress pool with
  | nil => exact follows
  | cons turn rest induction =>
      have advanced : (fun index => Function.update progress turn (progress turn + 1) index +
          rest.count index) = fun index => progress index + (turn :: rest).count index := by
        funext index
        by_cases here : index = turn
        · subst here
          simp only [Function.update_same, List.count_cons_self]
          omega
        · simp [Function.update_noteq here, List.count_cons, Ne.symm here]
      rw [run_cons, ← advanced]
      exact induction (follows.step separated turn)

/-- After every task has run to its end: each task's records and keys are those
of its run alone, and every other key is as it was at the start. -/
structure Settled (scrape : Scrape) : Prop where
  records : (scrape.metrics : Multiset Metrics) = initial.metrics +
    ∑ index ∈ Finset.range programs.length,
      ((alone tickTime programs initial index).metrics.drop initial.metrics.length :
        Multiset Metrics)
  owned : ∀ index key, Owns programs index key →
    scrape.previous key = (alone tickTime programs initial index).previous key
  unowned : ∀ key, (∀ index, ¬Owns programs index key) → scrape.previous key = initial.previous key
  written : ∀ index key, Writes programs index key →
    scrape.rawResponses key = (alone tickTime programs initial index).rawResponses key
  unwritten : ∀ key, (∀ index, ¬Writes programs index key) →
    scrape.rawResponses key = initial.rawResponses key

variable {tickTime programs initial} in
theorem Follows.settled {progress : Nat → Nat} {pool : Pool}
    (follows : Follows tickTime programs initial progress pool)
    (finished : ∀ index, sectionsOf (programs.getD index []) ≤ progress index) :
    Settled tickTime programs initial pool.scrape where
  records := by
    simp only [follows.records, soloRecords, solo_of_le tickTime programs initial (finished _)]
  owned index key owns := by
    rw [follows.owned index key owns, solo_of_le tickTime programs initial (finished index)]
  unowned := follows.unowned
  written index key writes := by
    rw [follows.written index key writes, solo_of_le tickTime programs initial (finished index)]
  unwritten := follows.unwritten

/-- The wait of `pr.Do()` gives every task at least as many turns as its calls
take. -/
theorem sectionsOf_le_count_drain (index : Nat) :
    sectionsOf (programs.getD index []) ≤ (drain programs).count index := by
  by_cases inside : index < programs.length
  · rw [List.le_count_iff_replicate_sublist, drain, List.flatMap_def]
    exact List.sublist_flatten_of_mem
      (List.mem_map.mpr ⟨index, List.mem_range.mpr inside, rfl⟩)
  · rw [List.getD_eq_default _ _ (not_lt.mp inside)]
    exact Nat.zero_le _

/-- Whatever the tasks did before `pr.Do()`, once it returns the shared state is
settled. -/
theorem run_drain_settled (separated : Separated programs) (schedule : List Nat) :
    Settled tickTime programs initial
      ((start programs initial).run tickTime (schedule ++ drain programs)).scrape :=
  ((Follows.start tickTime programs initial).run separated _).settled fun index => by
    rw [List.count_append, Nat.zero_add]
    exact (sectionsOf_le_count_drain programs index).trans (Nat.le_add_left _ _)

variable {tickTime programs initial} in
/-- Settled states agree: the same records, the same table, the same raw
responses. -/
theorem Settled.eq {left right : Scrape} (settledLeft : Settled tickTime programs initial left)
    (settledRight : Settled tickTime programs initial right) :
    (left.metrics : Multiset Metrics) = right.metrics ∧ left.previous = right.previous ∧
      left.rawResponses = right.rawResponses := by
  refine ⟨settledLeft.records.trans settledRight.records.symm, funext fun key => ?_,
    funext fun key => ?_⟩
  · by_cases owned : ∃ index, Owns programs index key
    · obtain ⟨index, owns⟩ := owned
      rw [settledLeft.owned index key owns, settledRight.owned index key owns]
    · push_neg at owned
      rw [settledLeft.unowned key owned, settledRight.unowned key owned]
  · by_cases written : ∃ index, Writes programs index key
    · obtain ⟨index, writes⟩ := written
      rw [settledLeft.written index key writes, settledRight.written index key writes]
    · push_neg at written
      rw [settledLeft.unwritten key written, settledRight.unwritten key written]

end Separation

end Pool

end MagalixAgent.Scraper
