import MagalixAgent.Scraper.RateTable

namespace MagalixAgent.Scraper

/-! # Runs of the rate table

Over the life of the process the rate table sees two kinds of step: a garbage
collection at the start of each cycle, and the `addMetricValueRate` calls of the
cycles. This module follows the table over every run from the empty map and
compares it with a description of the run alone: the table holds, for each key,
its most recent observation if no collection since then found it more than an
hour old; and an observation emits a rate exactly when that entry exists and
lies more than a second (in `int64` nanoseconds) in the past. -/

/-- A step of the rate table: `collectGarbage` at clock reading `now`, or one
`addMetricValueRate` call, whose zero `timestamp` becomes `tickTime`. -/
inductive RateEvent
  | collectGarbage (now : Time)
  | observe (key : String) (timestamp tickTime : Time) (value multiplier : Int64)
  deriving DecidableEq

namespace RateEvent

/-- The table after the event. -/
def apply : RateEvent → RateTable → RateTable
  | collectGarbage now, previous => Scraper.collectGarbage now previous
  | observe key timestamp tickTime value _, previous =>
      updatePreviousValue previous key ⟨timestamp.orTickTime tickTime, value⟩

/-- The timestamp and value of the rate record the event emits, if any. -/
def emits : RateEvent → RateTable → Option (Time × Int64)
  | collectGarbage _, _ => none
  | observe key timestamp tickTime value multiplier, previous =>
      match calcRate previous key (timestamp.orTickTime tickTime) value multiplier with
      | .ok rate => some (timestamp.orTickTime tickTime, rate)
      | .error _ => none

/-- The sample an observation of `key` stores. -/
def observation (key : String) : RateEvent → Option KubeletValue
  | observe observed timestamp tickTime value _ =>
      if observed = key then some ⟨timestamp.orTickTime tickTime, value⟩ else none
  | collectGarbage _ => none

/-- Whether the event is a collection that finds a sample stored at `timestamp`
more than an hour old. -/
def evicts (timestamp : Time) : RateEvent → Bool
  | collectGarbage now => decide (Time.hour < now.nanos - timestamp.nanos)
  | observe .. => false

end RateEvent

/-- The table after a run from the empty map of `NewKubelet`. -/
def runRates (events : List RateEvent) : RateTable :=
  events.foldl (fun previous event => event.apply previous) RateTable.empty

/-! ## What a run implies -/

/-- The most recent observation of `key` in a run, with the events after it. -/
def latestObservation (key : String) : List RateEvent → Option (KubeletValue × List RateEvent)
  | [] => none
  | event :: later =>
      match latestObservation key later with
      | some found => some found
      | none => (event.observation key).map fun sample => (sample, later)

/-- No collection among `later` found a sample stored at `timestamp` more than
an hour old. -/
def Survives (timestamp : Time) (later : List RateEvent) : Prop :=
  ∀ event ∈ later, event.evicts timestamp = false

instance (timestamp : Time) (later : List RateEvent) : Decidable (Survives timestamp later) :=
  inferInstanceAs (Decidable (∀ event ∈ later, event.evicts timestamp = false))

/-- The table a run should leave: each key's most recent observation, if it
survived every later collection. -/
def expectedTable (events : List RateEvent) : RateTable := fun key =>
  match latestObservation key events with
  | some (sample, later) => if Survives sample.timestamp later then some sample else none
  | none => none

@[simp] theorem runRates_append_single (events : List RateEvent) (event : RateEvent) :
    runRates (events ++ [event]) = event.apply (runRates events) := by
  simp [runRates, List.foldl_append]

theorem latestObservation_append_observed {key : String} {event : RateEvent}
    {sample : KubeletValue} (observed : event.observation key = some sample)
    (events : List RateEvent) : latestObservation key (events ++ [event]) = some (sample, []) := by
  induction events with
  | nil => simp [latestObservation, observed]
  | cons head rest induction => simp [latestObservation, induction]

theorem latestObservation_append_other {key : String} {event : RateEvent}
    (other : event.observation key = none) (events : List RateEvent) :
    latestObservation key (events ++ [event]) =
      (latestObservation key events).map fun found => (found.1, found.2 ++ [event]) := by
  induction events with
  | nil => simp [latestObservation, other]
  | cons head rest induction =>
      rw [List.cons_append]
      simp only [latestObservation, induction]
      cases latestObservation key rest with
      | some found => rfl
      | none => cases head.observation key <;> rfl

theorem survives_append_single {timestamp : Time} {later : List RateEvent} {event : RateEvent} :
    Survives timestamp (later ++ [event]) ↔
      Survives timestamp later ∧ event.evicts timestamp = false := by
  simp [Survives, or_imp, forall_and]

/-- One event moves the expected table as the code moves the table. -/
theorem expectedTable_append_single (events : List RateEvent) (event : RateEvent) :
    expectedTable (events ++ [event]) = event.apply (expectedTable events) := by
  funext key
  cases event with
  | collectGarbage now =>
      have other : (RateEvent.collectGarbage now).observation key = none := rfl
      simp only [expectedTable, latestObservation_append_other other, RateEvent.apply,
        collectGarbage_apply]
      cases latestObservation key events with
      | none => rfl
      | some found =>
          by_cases kept : Survives found.1.timestamp found.2 <;>
            by_cases old : Time.hour < now.nanos - found.1.timestamp.nanos <;>
            simp [kept, old, survives_append_single, RateEvent.evicts]
  | observe observed timestamp tickTime value multiplier =>
      by_cases same : observed = key
      · subst same
        simp [expectedTable, latestObservation_append_observed, RateEvent.observation,
          RateEvent.apply, Survives]
      · have different : key ≠ observed := fun equal => same equal.symm
        have other : (RateEvent.observe observed timestamp tickTime value multiplier).observation
            key = none := by simp [RateEvent.observation, same]
        simp only [expectedTable, latestObservation_append_other other, RateEvent.apply,
          updatePreviousValue_other _ _ different]
        cases latestObservation key events with
        | none => rfl
        | some found => simp [survives_append_single, RateEvent.evicts]

/-- The table of every run is the expected one. -/
theorem runRates_eq_expectedTable (events : List RateEvent) :
    runRates events = expectedTable events := by
  induction events using List.reverseRecOn with
  | nil => rfl
  | append_singleton events event induction =>
      rw [runRates_append_single, expectedTable_append_single, induction]

/-- The rate an observation emits, read off the run: there is one exactly when
the key has a most recent earlier observation that no later collection evicted
and that lies more than a second back in `int64` nanoseconds; it is computed
against that observation and stamped with the observed time. The table itself
holds each key's most recent surviving observation. -/
theorem rateTable_follows_observations (events : List RateEvent) (key : String)
    (timestamp tickTime : Time) (value multiplier : Int64) :
    (RateEvent.observe key timestamp tickTime value multiplier).emits (runRates events) =
        (match latestObservation key events with
        | some (sample, later) =>
            if Survives sample.timestamp later ∧ Time.second <
                wrapInt64 ((timestamp.orTickTime tickTime).nanos - sample.timestamp.nanos) then
              some (timestamp.orTickTime tickTime,
                multiplier * (value - baseline sample.value value) /
                  ((timestamp.orTickTime tickTime).unixNano - sample.timestamp.unixNano))
            else none
        | none => none) ∧
      runRates events = expectedTable events := by
  refine ⟨?_, runRates_eq_expectedTable events⟩
  rw [runRates_eq_expectedTable]
  simp only [RateEvent.emits, calcRate_eq, expectedTable]
  cases latestObservation key events with
  | none => rfl
  | some found =>
      by_cases kept : Survives found.1.timestamp found.2
      · rcases le_or_lt (wrapInt64 ((timestamp.orTickTime tickTime).nanos -
            found.1.timestamp.nanos)) Time.second with short | long
        · simp [kept, short, not_lt.mpr short, rateSince_eq]
        · simp [kept, long, not_le.mpr long, rateSince_eq]
      · simp [kept]

/-- Two runs on which the table does not follow exact time differences or the
newest sample. In the first, the observations lie `2 ^ 63` ns apart, their
`int64` difference wraps negative, and no rate is emitted. In the second, an
out-of-order observation overwrites a newer sample, a collection evicts it, and
the key maps to nothing although the newer sample survives every later
collection. -/
theorem runRates_wrapped_gap_and_evicted_overwrite :
    (latestObservation "k" [.observe "k" ⟨0⟩ ⟨1⟩ 0 1] = some (⟨⟨0⟩, 0⟩, []) ∧
      Time.second < (2 ^ 63 : Int) - 0 ∧
      (RateEvent.observe "k" ⟨2 ^ 63⟩ ⟨1⟩ 5 1).emits
        (runRates [.observe "k" ⟨0⟩ ⟨1⟩ 0 1]) = none) ∧
    (Survives ⟨36000000000000⟩ [.observe "k" ⟨3600000000000⟩ ⟨1⟩ 0 1,
        .collectGarbage ⟨37800000000000⟩] ∧
      runRates [.observe "k" ⟨36000000000000⟩ ⟨1⟩ 0 1,
        .observe "k" ⟨3600000000000⟩ ⟨1⟩ 0 1, .collectGarbage ⟨37800000000000⟩] "k" = none) := by
  decide

theorem latestObservation_observed_then_other (before middle : List RateEvent) (key : String)
    {event : RateEvent} {sample : KubeletValue} (observed : event.observation key = some sample)
    (untouched : ∀ other ∈ middle, other.observation key = none) :
    latestObservation key (before ++ event :: middle) = some (sample, middle) := by
  induction middle using List.reverseRecOn with
  | nil => exact latestObservation_append_observed observed before
  | append_singleton middle last induction =>
      have lastOther := untouched last (by simp)
      rw [← List.cons_append, ← List.append_assoc, latestObservation_append_other lastOther,
        induction fun other member => untouched other (by simp [member])]
      rfl

/-- Whatever the timestamps, the entry of `key` follows its observations: after
an observation it holds that observation's timestamp (zero replaced by
`tickTime`) until a collection removes it, and the next observation replaces it
by its own, earlier or not. -/
theorem storedTimestamp_follows_observations (before middle : List RateEvent) (key : String)
    (firstTime firstTick secondTime secondTick : Time) (firstValue secondValue multiplier : Int64)
    (untouched : ∀ event ∈ middle, event.observation key = none)
    (kept : runRates (before ++ .observe key firstTime firstTick firstValue multiplier :: middle)
      key ≠ none) :
    (runRates (before ++ .observe key firstTime firstTick firstValue multiplier :: middle)
        key).map KubeletValue.timestamp = some (firstTime.orTickTime firstTick) ∧
      (runRates (before ++ .observe key firstTime firstTick firstValue multiplier :: middle ++
        [.observe key secondTime secondTick secondValue multiplier]) key).map
          KubeletValue.timestamp = some (secondTime.orTickTime secondTick) := by
  have latest := latestObservation_observed_then_other before middle key
    (by simp [RateEvent.observation] :
      (RateEvent.observe key firstTime firstTick firstValue multiplier).observation key =
        some ⟨firstTime.orTickTime firstTick, firstValue⟩) untouched
  refine ⟨?_, by rw [runRates_append_single]; simp [RateEvent.apply]⟩
  rw [runRates_eq_expectedTable] at kept ⊢
  simp only [expectedTable, latest] at kept ⊢
  by_cases survives : Survives (firstTime.orTickTime firstTick) middle
  · simp [survives]
  · simp [survives] at kept

/-- A collection that keeps the 100 s sample, then an observation at 50 s. -/
theorem storedTimestamp_after_kept_collection :
    (runRates [.observe "k" ⟨100000000000⟩ ⟨1⟩ 0 1, .collectGarbage ⟨1000000000000⟩]
        "k").map KubeletValue.timestamp = some (Time.orTickTime ⟨100000000000⟩ ⟨1⟩) ∧
      (runRates [.observe "k" ⟨100000000000⟩ ⟨1⟩ 0 1, .collectGarbage ⟨1000000000000⟩,
        .observe "k" ⟨50000000000⟩ ⟨1⟩ 0 1] "k").map KubeletValue.timestamp =
          some (Time.orTickTime ⟨50000000000⟩ ⟨1⟩) :=
  storedTimestamp_follows_observations [] [.collectGarbage ⟨1000000000000⟩] "k" ⟨100000000000⟩
    ⟨1⟩ ⟨50000000000⟩ ⟨1⟩ 0 0 1 (by decide) (by decide)

/-- An observation older than the stored sample replaces it: the stored
timestamps of a key go from 100 s to 50 s. -/
theorem storedTimestamp_decreases :
    (runRates [.observe "k" ⟨100000000000⟩ ⟨1⟩ 0 1] "k").map KubeletValue.timestamp =
        some ⟨100000000000⟩ ∧
      (runRates [.observe "k" ⟨100000000000⟩ ⟨1⟩ 0 1, .observe "k" ⟨50000000000⟩ ⟨1⟩ 0 1]
        "k").map KubeletValue.timestamp = some ⟨50000000000⟩ := by
  decide

end MagalixAgent.Scraper
