import MagalixAgent.Go.Basic

namespace MagalixAgent.Scraper

/-! # Retrying with backoff

`withBackoff` calls `fn` until it returns no error. After a failed call it
gives up once the try counter exceeds `maxRetry`, and otherwise sleeps for the
base sleep times a multiplier that runs from one to ten and starts over. What
`fn` returns is any sequence of outcomes: the call made after `n` calls returns
`outcome n`, `none` for a nil error. -/

/-- The error `withBackoff` returns, "max retries exceeded": the try it stopped
at, `maxRetry`, and the last error of `fn` as the reason. -/
structure RetriesExceeded where
  retry : Int64
  maxRetry : Int64
  reason : String

/-- A run of `withBackoff`: how many times it called `fn`, what it slept
between the calls, and the error it returned, if any. -/
structure BackoffRun where
  calls : Nat
  waits : List Int64
  error : Option RetriesExceeded

/-- `kubelet.timeouts.backoff.sleep * time.Duration((try-1)%10+1)`. -/
def backoffTimeout (sleep retry : Int64) : Int64 := sleep * ((retry - 1) % 10 + 1)

/-- The loop of `withBackoff` for at most `fuel` more calls, after `calls` calls
with the counter at `retry`; `none` when the fuel runs out first. -/
def withBackoffFrom (maxRetry sleep : Int64) (outcome : Nat → Option String) :
    Nat → Int64 → Nat → Option BackoffRun
  | 0, _, _ => none
  | fuel + 1, retry, calls =>
      let retry := retry + 1
      match outcome calls with
      | none => some ⟨calls + 1, [], none⟩
      | some error =>
          if maxRetry < retry then some ⟨calls + 1, [], some ⟨retry, maxRetry, error⟩⟩
          else (withBackoffFrom maxRetry sleep outcome fuel retry (calls + 1)).map fun run =>
            { run with waits := backoffTimeout sleep retry :: run.waits }

/-- `withBackoff`, with `fuel` calls at most: the counter starts at `0`. -/
def withBackoff (maxRetry sleep : Int64) (outcome : Nat → Option String) (fuel : Nat) :
    Option BackoffRun :=
  withBackoffFrom maxRetry sleep outcome fuel 0 0

/-- The number of calls after which the loop gives up: `max(maxRetry, 0) + 1`. -/
def retryLimit (maxRetry : Int64) : Nat := (max maxRetry.toInt 0).toNat + 1

/-! ## One step of the loop -/

section Step

variable {maxRetry sleep : Int64} {outcome : Nat → Option String} {fuel calls : Nat}

/-- While the counter equals the number of calls, the sleep after the call that
follows `calls` calls is `sleep` times `calls % 10 + 1`. -/
theorem backoffTimeout_ofInt (small : calls + 1 < 2 ^ 63) :
    backoffTimeout sleep (Int64.ofInt (calls + 1)) =
      Int64.ofInt (sleep.toInt * (calls % 10 + 1 : Nat)) := by
  have counter : wrapInt64 (calls + 1) = calls + 1 := wrapInt64_of_bounds (by omega) (by omega)
  have previous : wrapInt64 (calls + 1 - 1) = calls := by
    rw [Int.add_sub_cancel]
    exact wrapInt64_of_bounds (by omega) (by omega)
  have remainder : wrapInt64 (Int.tmod calls 10) = (calls % 10 : Nat) := by
    rw [Int.tmod_eq_emod (by omega) (by norm_num)]
    push_cast
    exact wrapInt64_of_bounds (by omega) (by omega)
  have multiplier : wrapInt64 ((calls % 10 : Nat) + 1) = (calls % 10 + 1 : Nat) := by
    push_cast
    exact wrapInt64_of_bounds (by omega) (by omega)
  apply Int64.ext
  simp only [backoffTimeout, Int64.toInt_mul, Int64.toInt_add, Int64.toInt_mod, Int64.toInt_sub,
    Int64.toInt_ofInt, Int64.toInt_ofNat_of_lt (by norm_num : 1 < 2 ^ 63),
    Int64.toInt_ofNat_of_lt (by norm_num : 10 < 2 ^ 63), Nat.cast_one, Nat.cast_ofNat, counter, previous,
    remainder, multiplier]

theorem withBackoffFrom_success (succeeded : outcome calls = none) :
    withBackoffFrom maxRetry sleep outcome (fuel + 1) (Int64.ofInt calls) calls =
      some ⟨calls + 1, [], none⟩ := by
  simp [withBackoffFrom, succeeded]

theorem withBackoffFrom_exceeded {error : String} (failed : outcome calls = some error)
    (small : calls + 1 < 2 ^ 63) (exceeded : maxRetry.toInt < calls + 1) :
    withBackoffFrom maxRetry sleep outcome (fuel + 1) (Int64.ofInt calls) calls =
      some ⟨calls + 1, [], some ⟨Int64.ofInt (calls + 1), maxRetry, error⟩⟩ := by
  have counter : wrapInt64 (calls + 1) = calls + 1 := wrapInt64_of_bounds (by omega) (by omega)
  simp [withBackoffFrom, failed, Int64.ofInt_add_one, counter, exceeded]

theorem withBackoffFrom_retry {error : String} (failed : outcome calls = some error)
    (small : calls + 1 < 2 ^ 63) (within : calls + 1 ≤ maxRetry.toInt) :
    withBackoffFrom maxRetry sleep outcome (fuel + 1) (Int64.ofInt calls) calls =
      (withBackoffFrom maxRetry sleep outcome fuel (Int64.ofInt (calls + 1)) (calls + 1)).map
        fun run => { run with waits := Int64.ofInt (sleep.toInt * (calls % 10 + 1 : Nat)) ::
          run.waits } := by
  have counter : wrapInt64 (calls + 1) = calls + 1 := wrapInt64_of_bounds (by omega) (by omega)
  simp [withBackoffFrom, failed, Int64.ofInt_add_one, counter, not_lt.mpr within,
    backoffTimeout_ofInt small]

end Step

theorem retryLimit_cast (maxRetry : Int64) :
    (retryLimit maxRetry : Int) = max maxRetry.toInt 0 + 1 := by
  simp [retryLimit]

/-! ## The whole loop -/

/-- From the state after `calls` failed calls, below the limit, the loop calls
`fn` until the first success or the limit, whichever comes first, and sleeps
after every call but the last. -/
theorem withBackoffFrom_run {maxRetry : Int64} (sleep : Int64) (outcome : Nat → Option String)
    (bounded : maxRetry.toInt < 2 ^ 63 - 1) :
    ∀ fuel calls, calls < retryLimit maxRetry → retryLimit maxRetry ≤ calls + fuel →
      ∃ run, withBackoffFrom maxRetry sleep outcome fuel (Int64.ofInt calls) calls = some run ∧
        run.waits = (List.range' calls (run.calls - 1 - calls)).map
          (fun i => Int64.ofInt (sleep.toInt * (i % 10 + 1 : Nat))) ∧
        ((∃ k, calls ≤ k ∧ k < retryLimit maxRetry ∧ outcome k = none ∧
            (∀ i, calls ≤ i → i < k → outcome i ≠ none) ∧ run.calls = k + 1 ∧ run.error = none) ∨
          ((∀ i, calls ≤ i → i < retryLimit maxRetry → outcome i ≠ none) ∧
            run.calls = retryLimit maxRetry ∧ run.error ≠ none)) := by
  have limit := retryLimit_cast maxRetry
  intro fuel
  induction fuel with
  | zero => intro calls below enough; omega
  | succ fuel induction =>
      intro calls below enough
      have small : calls + 1 < 2 ^ 63 := by omega
      cases failed : outcome calls with
      | none =>
          exact ⟨_, withBackoffFrom_success failed, by simp,
            .inl ⟨calls, le_rfl, below, failed, fun _ after before => absurd before (not_lt.mpr after),
              rfl, rfl⟩⟩
      | some error =>
          by_cases exceeded : maxRetry.toInt < calls + 1
          · have last : calls + 1 = retryLimit maxRetry := by omega
            refine ⟨_, withBackoffFrom_exceeded failed small exceeded, by simp,
              .inr ⟨fun i after before => ?_, last, nofun⟩⟩
            rw [show i = calls by omega, failed]
            exact nofun
          · obtain ⟨run, ran, waits, ending⟩ := induction (calls + 1) (by omega) (by omega)
            have later : calls + 2 ≤ run.calls := by
              rcases ending with ⟨k, after, -, -, -, called, -⟩ | ⟨-, called, -⟩ <;> omega
            have extend : ∀ bound, (∀ i, calls + 1 ≤ i → i < bound → outcome i ≠ none) →
                ∀ i, calls ≤ i → i < bound → outcome i ≠ none := fun bound failing i early before => by
              rcases Nat.lt_or_ge i (calls + 1) with first | rest
              · rw [show i = calls by omega, failed]
                exact nofun
              · exact failing i rest before
            push_cast at ran
            rw [withBackoffFrom_retry failed small (by omega), ran]
            refine ⟨_, rfl, ?_, ?_⟩
            · rw [show run.calls - 1 - calls = run.calls - 1 - (calls + 1) + 1 by omega,
                List.range'_succ, List.map_cons, ← waits]
            · rcases ending with ⟨k, after, below, succeeded, failing, called, returned⟩ |
                ⟨failing, called, returned⟩
              · exact .inl ⟨k, by omega, below, succeeded, extend k failing, called, returned⟩
              · exact .inr ⟨extend _ failing, called, returned⟩

/-- A sleep of a multiple from one to ten of a base sleep that is not negative
and whose tenfold fits in an `int64` lies between the base and its tenfold. -/
theorem wait_bounds {sleep : Int64} (nonnegative : 0 ≤ sleep.toInt)
    (fits : 10 * sleep.toInt < 2 ^ 63) (i : Nat) :
    sleep.toInt ≤ (Int64.ofInt (sleep.toInt * (i % 10 + 1 : Nat))).toInt ∧
      (Int64.ofInt (sleep.toInt * (i % 10 + 1 : Nat))).toInt ≤ 10 * sleep.toInt := by
  have lower : sleep.toInt ≤ sleep.toInt * (i % 10 + 1 : Nat) :=
    le_mul_of_one_le_right nonnegative (by omega)
  have upper : sleep.toInt * (i % 10 + 1 : Nat) ≤ 10 * sleep.toInt := by
    rw [mul_comm]
    exact mul_le_mul_of_nonneg_right (by omega) nonnegative
  rw [Int64.toInt_ofInt, wrapInt64_of_bounds (by omega) (by omega)]
  exact ⟨lower, upper⟩

/-- Unless `maxRetry` is the largest `int`, `withBackoff` returns within
`max(maxRetry, 0) + 1` calls: at the first success, with no error, if one comes
that early, and otherwise after exactly that many calls, with an error. After
the `i`-th call but the last it sleeps `sleep * ((i - 1) % 10 + 1)`, wrapped to
an `int64`, which lies between `sleep` and `10 * sleep` when the base is not
negative and its tenfold fits in an `int64`. -/
theorem withBackoff_calls (maxRetry sleep : Int64) (outcome : Nat → Option String)
    (bounded : maxRetry.toInt < 2 ^ 63 - 1) (fuel : Nat) (enough : retryLimit maxRetry ≤ fuel) :
    ∃ run, withBackoff maxRetry sleep outcome fuel = some run ∧
      ((∃ k < retryLimit maxRetry, outcome k = none ∧ (∀ i < k, outcome i ≠ none) ∧
          run.calls = k + 1 ∧ run.error = none) ∨
        ((∀ i < retryLimit maxRetry, outcome i ≠ none) ∧ run.calls = retryLimit maxRetry ∧
          run.error ≠ none)) ∧
      run.waits = (List.range (run.calls - 1)).map
        (fun i => Int64.ofInt (sleep.toInt * (i % 10 + 1 : Nat))) ∧
      (0 ≤ sleep.toInt → 10 * sleep.toInt < 2 ^ 63 →
        ∀ wait ∈ run.waits, sleep.toInt ≤ wait.toInt ∧ wait.toInt ≤ 10 * sleep.toInt) := by
  obtain ⟨run, ran, waits, ending⟩ := withBackoffFrom_run sleep outcome bounded fuel 0
    (Nat.succ_pos _) (by omega)
  rw [Nat.sub_zero, ← List.range_eq_range'] at waits
  refine ⟨run, ran, ?_, waits, fun nonnegative fits wait member => ?_⟩
  · rcases ending with ⟨k, -, below, succeeded, failing, called, returned⟩ |
      ⟨failing, called, returned⟩
    · exact .inl ⟨k, below, succeeded, fun i before => failing i (Nat.zero_le _) before, called,
        returned⟩
    · exact .inr ⟨fun i before => failing i (Nat.zero_le _) before, called, returned⟩
  · rw [waits] at member
    obtain ⟨i, -, rfl⟩ := List.mem_map.mp member
    exact wait_bounds nonnegative fits i

theorem withBackoff_calls_three_retries :
    (3 : Int64).toInt < 2 ^ 63 - 1 ∧ retryLimit 3 ≤ 4 ∧
      ∃ run, withBackoff 3 300000000 (fun n => if n < 2 then some "timeout" else none) 4 =
          some run ∧
        ((∃ k < retryLimit 3, (if k < 2 then some "timeout" else none) = none ∧
            (∀ i < k, (if i < 2 then some "timeout" else none) ≠ none) ∧
            run.calls = k + 1 ∧ run.error = none) ∨
          ((∀ i < retryLimit 3, (if i < 2 then some "timeout" else none) ≠ none) ∧
            run.calls = retryLimit 3 ∧ run.error ≠ none)) ∧
        run.waits = (List.range (run.calls - 1)).map
          (fun i => Int64.ofInt ((300000000 : Int64).toInt * (i % 10 + 1 : Nat))) ∧
        (0 ≤ (300000000 : Int64).toInt → 10 * (300000000 : Int64).toInt < 2 ^ 63 →
          ∀ wait ∈ run.waits, (300000000 : Int64).toInt ≤ wait.toInt ∧
            wait.toInt ≤ 10 * (300000000 : Int64).toInt) :=
  ⟨by decide, by decide, withBackoff_calls 3 300000000
    (fun n => if n < 2 then some "timeout" else none) (by decide) 4 (by decide)⟩

/-- When `maxRetry` is the largest `int` the counter never exceeds it, so a `fn`
that always fails keeps the loop going beyond any number of calls. -/
theorem withBackoffFrom_forever {maxRetry : Int64} (largest : maxRetry.toInt = 2 ^ 63 - 1)
    (sleep retry : Int64) (calls fuel : Nat) :
    withBackoffFrom maxRetry sleep (fun _ => some "timeout") fuel retry calls = none := by
  induction fuel generalizing retry calls with
  | zero => rfl
  | succ fuel induction =>
      have never : ¬ maxRetry < retry + 1 := by
        rw [Int64.lt_iff, largest, not_lt]
        exact Int.le_sub_one_of_lt (retry + 1).upper
      simp only [withBackoffFrom, never, if_false, induction, Option.map_none']

/-- With `maxRetry` the largest `int` and a `fn` that always fails, no number
of calls ends the loop; and a base sleep of `2 ^ 62` nanoseconds wraps the
second sleep to a negative duration. -/
theorem withBackoff_endless_and_negative_sleep :
    (∀ fuel, withBackoff (Int64.ofInt (2 ^ 63 - 1)) 300000000 (fun _ => some "timeout") fuel =
      none) ∧
    (withBackoff 2 (Int64.ofInt (2 ^ 62)) (fun _ => some "timeout") 3).map BackoffRun.waits =
      some [Int64.ofInt (2 ^ 62), Int64.ofInt (-2 ^ 63)] :=
  ⟨fun fuel => withBackoffFrom_forever
    (by rw [Int64.toInt_ofInt]; exact wrapInt64_of_bounds (by norm_num) (by norm_num)) _ _ _ fuel,
    by decide⟩

end MagalixAgent.Scraper
